import RepoSurvey.Proofs.Settings.Checks
import RepoSurvey.Proofs.Settings.Loading
import RepoSurvey.Value.Record

/-!
# Failures of loading that are not reported

Nearly everything that is wrong with a document is reported as a failure of configuration. Two things are not: a layer
whose patterns or allowed layers cannot be taken from the table, and weights that cannot be added up.

* `DeclaredLayer.Unreported`: what is wrong with the table of such a layer, and the fault that comes of it.
* `LoadedConfig.set_unreported`: one setting more fails without a report exactly for these.
* `Document.Unreported`, `LoadedConfig.ofDocument_unreported`: the first such setting of a document.
* `LoadedConfig.load_reported_iff`: loading fails without a report exactly for such a setting, and with a failure of
  configuration for everything else that is wrong.
-/

namespace RepoSurvey

/-! ### Plain data -/

namespace Record

theorem asValues_eq_map (items : List Record) : asValues items = items.map asValue := by
  induction items with
  | nil => rfl
  | cons r rest ih => rw [asValues, ih, List.map_cons]

theorem asEntries_eq_map (entries : List (String × Record)) :
    asEntries entries = entries.map fun e => (.text e.1, e.2.asValue) := by
  induction entries with
  | nil => rfl
  | cons e rest ih => rw [asEntries, ih, List.map_cons]

end Record

namespace Value

variable {v : Value}

/-- The value is plain data, as a parsed document holds it. -/
def IsPlain (v : Value) : Prop := ∃ r : Record, v = r.asValue

/-- The value has no items. -/
def isSingle : Value → Bool
  | text _ | bytes _ | list _ | tuple _ | set _ _ | mapping _ => false
  | _ => true

/-- The value is an array or a table. -/
def isCompound : Value → Bool
  | list _ | mapping _ => true
  | _ => false

theorem IsPlain.list {items : List Value} (h : (list items).IsPlain) : ∀ v ∈ items, v.IsPlain := by
  obtain ⟨r, hr⟩ := h
  cases r with
  | list rs =>
    rw [Record.asValue, list.injEq, Record.asValues_eq_map] at hr
    intro v hv
    rw [hr] at hv
    obtain ⟨r, -, rfl⟩ := List.mem_map.mp hv
    exact ⟨r, rfl⟩
  | _ => cases hr

theorem IsPlain.mapping {entries : List (Value × Value)} (h : (mapping entries).IsPlain) :
    ∀ e ∈ entries, (∃ key, e.1 = text key) ∧ e.2.IsPlain := by
  obtain ⟨r, hr⟩ := h
  cases r with
  | mapping rs =>
    rw [Record.asValue, mapping.injEq, Record.asEntries_eq_map] at hr
    intro e he
    rw [hr] at he
    obtain ⟨⟨key, r⟩, -, rfl⟩ := List.mem_map.mp he
    exact ⟨⟨key, rfl⟩, r, rfl⟩
  | _ => cases hr

/-- Among plain values, it is arrays and tables that are kept out of sets. -/
theorem IsPlain.unhashable?_eq (h : v.IsPlain) : v.unhashable? = if v.isCompound then some v.kind else Option.none := by
  obtain ⟨r, rfl⟩ := h
  cases r <;> rfl

theorem IsPlain.unhashable?_eq_none (h : v.IsPlain) : v.unhashable? = Option.none ↔ v.isCompound = false := by
  rw [h.unhashable?_eq]
  cases v.isCompound <;> simp

theorem IsPlain.unhashable?_eq_some (h : v.IsPlain) {kind : Kind} :
    v.unhashable? = some kind ↔ v.isCompound = true ∧ kind = v.kind := by
  rw [h.unhashable?_eq]
  cases v.isCompound <;> simp [eq_comm]

end Value

/-! ### Layers -/

namespace DeclaredLayer

open Value (IsPlain)

variable {v : Value} {entries : List (Value × Value)} {fault : LoadFault}

theorem items_eq_error : items v = .error fault ↔ v.isSingle = true ∧ fault = .notIterable v.kind := by
  cases v with
  | text _ | bytes _ | list _ | tuple _ | set _ _ | mapping _ => exact ⟨nofun, fun h => absurd h.1 Bool.false_ne_true⟩
  | _ => exact ⟨fun h => ⟨rfl, (Except.error.inj h).symm⟩, fun h => congrArg Except.error h.2.symm⟩

theorem exists_items : (∃ vs, items v = .ok vs) ↔ v.isSingle = false := by
  cases hv : items v with
  | error fault =>
    rw [(items_eq_error.mp hv).1]
    exact ⟨fun ⟨_, h⟩ => absurd h nofun, nofun⟩
  | ok vs =>
    refine iff_of_true ⟨vs, rfl⟩ (Bool.eq_false_of_not_eq_true fun hsingle => ?_)
    rw [items_eq_error.mpr ⟨hsingle, rfl⟩] at hv
    cases hv

/-- One of the items of an array is an array or a table itself, and so cannot be put into a set; the fault names the
kind of the first such item. -/
def Nests (v : Value) (fault : LoadFault) : Prop :=
  ∃ before item after, v = .list (before ++ item :: after) ∧ (∀ x ∈ before, x.isCompound = false) ∧
    item.isCompound = true ∧ fault = .unhashable item.kind

theorem not_nests (h : ∀ vs, v ≠ .list vs) : ¬ Nests v fault := fun ⟨_, _, _, hv, _⟩ => h _ hv

theorem nests_list {vs : List Value} (hvs : ∀ x ∈ vs, x.IsPlain) :
    Nests (.list vs) fault ↔ ∃ kind, vs.findSome? Value.unhashable? = some kind ∧ fault = .unhashable kind := by
  constructor
  · rintro ⟨before, item, after, hsplit, hbefore, hitem, rfl⟩
    obtain rfl := Value.list.inj hsplit
    refine ⟨_, List.findSome?_eq_some_iff.mpr ⟨before, item, after, rfl, ?_, fun x hx => ?_⟩, rfl⟩
    · exact (hvs item (List.mem_append_right _ List.mem_cons_self)).unhashable?_eq_some.mpr ⟨hitem, rfl⟩
    · exact (hvs x (List.mem_append_left _ hx)).unhashable?_eq_none.mpr (hbefore x hx)
  · rintro ⟨kind, hkind, rfl⟩
    obtain ⟨before, item, after, rfl, hitem, hbefore⟩ := List.findSome?_eq_some_iff.mp hkind
    have hplain := hvs item (List.mem_append_right _ List.mem_cons_self)
    obtain ⟨hcompound, rfl⟩ := hplain.unhashable?_eq_some.mp hitem
    exact ⟨before, item, after, rfl,
      fun x hx => (hvs x (List.mem_append_left _ hx)).unhashable?_eq_none.mp (hbefore x hx), hcompound, rfl⟩

/-- Texts can be put into a set. -/
theorem findSome?_unhashable?_texts {vs : List Value} (h : ∀ x ∈ vs, ∃ s, x = .text s) :
    vs.findSome? Value.unhashable? = none := by
  refine List.findSome?_eq_none_iff.mpr fun x hx => ?_
  obtain ⟨s, rfl⟩ := h x hx
  rfl

/-- A set cannot be made of a value without items, nor of an array in which arrays or tables are nested. -/
theorem itemSet_eq_error (hv : v.IsPlain ∨ v = .tuple []) :
    itemSet v = .error fault ↔ (v.isSingle = true ∧ fault = .notIterable v.kind) ∨ Nests v fault := by
  have hopened : itemSet v = .error fault ↔ items v = .error fault ∨
      ∃ vs, items v = .ok vs ∧ ∃ kind, vs.findSome? Value.unhashable? = some kind ∧ fault = .unhashable kind := by
    rw [itemSet, bind_eq_error]
    refine or_congr_right (exists_congr fun vs => and_congr_right fun _ => ?_)
    split
    · next kind hkind => exact ⟨fun h => ⟨kind, hkind, (Except.error.inj h).symm⟩,
        fun ⟨_, hkind', h⟩ => by rw [h, ← Option.some.inj (hkind.symm.trans hkind')]⟩
    · next hnone => exact ⟨nofun, fun ⟨_, hkind, _⟩ => absurd (hnone.symm.trans hkind) nofun⟩
  rw [hopened, items_eq_error]
  refine or_congr_right ?_
  -- What is gone through without being an array yields texts, or nothing at all.
  have htexts : ∀ {vs}, items v = .ok vs → (∀ x ∈ vs, ∃ s, x = .text s) → (∀ own, v ≠ .list own) →
      ((∃ vs, items v = .ok vs ∧ ∃ kind, vs.findSome? Value.unhashable? = some kind ∧ fault = .unhashable kind) ↔
        Nests v fault) := by
    intro vs hitems hvs hlist
    refine iff_of_false ?_ (not_nests hlist)
    rintro ⟨vs', hitems', kind, hkind, -⟩
    obtain rfl := Except.ok.inj (hitems.symm.trans hitems')
    rw [findSome?_unhashable?_texts hvs] at hkind
    cases hkind
  rcases hv with hplain | rfl
  · cases v with
    | list vs =>
      rw [nests_list hplain.list]
      exact ⟨fun ⟨_, hvs, h⟩ => Except.ok.inj hvs ▸ h, fun h => ⟨vs, rfl, h⟩⟩
    | text s =>
      refine htexts rfl (fun x hx => ?_) nofun
      obtain ⟨c, -, rfl⟩ := List.mem_map.mp hx
      exact ⟨_, rfl⟩
    | mapping entries =>
      refine htexts rfl (fun x hx => ?_) nofun
      obtain ⟨e, he, rfl⟩ := List.mem_map.mp hx
      exact (hplain.mapping e he).1
    | tuple _ | bytes _ | set _ _ =>
      obtain ⟨r, hr⟩ := hplain
      cases r <;> cases hr
    | _ => exact iff_of_false (fun ⟨_, h, _⟩ => absurd h nofun) (not_nests nofun)
  · exact htexts rfl (fun x hx => absurd hx List.not_mem_nil) nofun

/-- What a table has under a name, or else no items. -/
def collection (entries : List (Value × Value)) (name : String) : Value := (Value.get? entries name).getD (.tuple [])

/-- What is wrong with the table of a layer without being reported: its patterns or its allowed layers have no items,
or one of the allowed layers is an array or a table. The patterns are taken first. -/
inductive Unreported (entries : List (Value × Value)) : LoadFault → Prop
  | patterns (h : (collection entries "patterns").isSingle = true) :
    Unreported entries (.notIterable (collection entries "patterns").kind)
  | allowed (hpatterns : (collection entries "patterns").isSingle = false)
    (h : (collection entries "allowed_dependencies").isSingle = true) :
    Unreported entries (.notIterable (collection entries "allowed_dependencies").kind)
  | nested {fault : LoadFault} (hpatterns : (collection entries "patterns").isSingle = false)
    (h : Nests (collection entries "allowed_dependencies") fault) : Unreported entries fault

theorem isPlain_collection (h : ∀ e ∈ entries, e.2.IsPlain) (name : String) :
    (collection entries name).IsPlain ∨ collection entries name = .tuple [] := by
  rw [collection]
  cases hfound : Value.get? entries name with
  | none => exact .inr rfl
  | some v =>
    obtain ⟨e, he, rfl⟩ := Option.map_eq_some_iff.mp hfound
    exact .inl (h e (List.mem_of_find?_eq_some he))

theorem ofValue_mapping {name : Value} (hname : Value.get? entries "name" = some name) :
    ofValue (.mapping entries) = (do
      let patterns ← items (collection entries "patterns")
      let allowed ← itemSet (collection entries "allowed_dependencies")
      return ⟨name.asText, patterns, allowed⟩) := by
  rw [ofValue, hname]
  rfl

theorem mapping_unreported {name : Value} (hplain : ∀ e ∈ entries, e.2.IsPlain)
    (hname : Value.get? entries "name" = some name) :
    ofValue (.mapping entries) = .error fault ↔ Unreported entries fault := by
  rw [ofValue_mapping hname, bind_eq_error]
  simp only [bind_pure_eq_error, itemSet_eq_error (isPlain_collection hplain _), items_eq_error]
  constructor
  · rintro (⟨h, rfl⟩ | ⟨vs, hvs, ⟨h, rfl⟩ | h⟩)
    · exact .patterns h
    · exact .allowed (exists_items.mp ⟨vs, hvs⟩) h
    · exact .nested (exists_items.mp ⟨vs, hvs⟩) h
  · intro h
    cases h with
    | patterns h => exact .inl ⟨h, rfl⟩
    | allowed hpatterns h =>
      obtain ⟨vs, hvs⟩ := exists_items.mpr hpatterns
      exact .inr ⟨vs, hvs, .inl ⟨h, rfl⟩⟩
    | nested hpatterns h =>
      obtain ⟨vs, hvs⟩ := exists_items.mpr hpatterns
      exact .inr ⟨vs, hvs, .inr h⟩

theorem Unreported.failure? (h : Unreported entries fault) : fault.failure? = none := by
  cases h with
  | patterns | allowed => rfl
  | nested _ h =>
    obtain ⟨_, _, _, _, _, _, rfl⟩ := h
    rfl

/-- **Making a layer fails without a report** exactly for the table of such a layer. -/
theorem ofValue_unreported (hv : v.IsPlain) :
    ofValue v = .error fault ∧ fault.failure? = none ↔
      ∃ entries, v = .mapping entries ∧ (Value.get? entries "name").isSome = true ∧ Unreported entries fault := by
  cases v with
  | mapping entries =>
    cases hname : Value.get? entries "name" with
    | none =>
      have hnameless : ofValue (.mapping entries) = .error (.setting "layers" (.mapping entries) .namelessLayer) := by
        rw [ofValue, hname]
        rfl
      rw [hnameless]
      refine iff_of_false (LoadFault.not_unreported rfl) fun ⟨own, h, hsome, _⟩ => ?_
      rw [← Value.mapping.inj h, hname] at hsome
      cases hsome
    | some name =>
      rw [mapping_unreported (fun e he => (hv.mapping e he).2) hname]
      constructor
      · exact fun ⟨h, _⟩ => ⟨entries, rfl, by rw [hname]; rfl, h⟩
      · rintro ⟨own, h, -, hown⟩
        rw [← Value.mapping.inj h] at hown
        exact ⟨hown, hown.failure?⟩
  | record type fields derived =>
    obtain ⟨r, hr⟩ := hv
    cases r <;> cases hr
  | _ => exact iff_of_false (LoadFault.not_unreported rfl) nofun

/-- The first entry of an array of which no layer can be made is a table with a name, whose fault is not reported. -/
def ArrayUnreported (v : Value) (fault : LoadFault) : Prop :=
  ∃ before entries after, v = .list (before ++ .mapping entries :: after) ∧
    (∀ x ∈ before, ∃ layer, ofValue x = .ok layer) ∧ (Value.get? entries "name").isSome = true ∧
    Unreported entries fault

theorem ofArray_unreported (hv : v.IsPlain) :
    ofArray v = .error fault ∧ fault.failure? = none ↔ ArrayUnreported v fault := by
  cases v with
  | list vs =>
    have hopened : ofArray (.list vs) = vs.mapM ofValue := rfl
    rw [hopened, mapM_eq_error]
    constructor
    · rintro ⟨⟨before, item, after, rfl, hbefore, hitem⟩, hsilent⟩
      have hplain := hv.list item (List.mem_append_right _ List.mem_cons_self)
      obtain ⟨entries, rfl, hname, h⟩ := (ofValue_unreported hplain).mp ⟨hitem, hsilent⟩
      exact ⟨before, entries, after, rfl, hbefore, hname, h⟩
    · rintro ⟨before, entries, after, hsplit, hbefore, hname, h⟩
      obtain rfl := Value.list.inj hsplit
      have hplain := hv.list (.mapping entries) (List.mem_append_right _ List.mem_cons_self)
      obtain ⟨hitem, hsilent⟩ := (ofValue_unreported hplain).mpr ⟨entries, rfl, hname, h⟩
      exact ⟨⟨before, _, after, rfl, hbefore, hitem⟩, hsilent⟩
  | tuple _ =>
    obtain ⟨r, hr⟩ := hv
    cases r <;> cases hr
  | _ => exact iff_of_false (LoadFault.not_unreported rfl) nofun

end DeclaredLayer

/-! ### One setting -/

namespace LoadedConfig

/-- The weights of a table, the usual ones where it has none. -/
def weightsOf (entries : List (Value × Value)) : VelocityWeights Value :=
  .build (number fun name usual => (Value.get? entries name).getD usual)

/-- What is wrong with a setting without being reported: one of the layers, or the weights. -/
def SettingUnreported (key : String) (v : Value) (fault : LoadFault) : Prop :=
  key = "layers" ∧ DeclaredLayer.ArrayUnreported v fault ∨
    key = "velocity" ∧ fault = .tooLarge ∧
      ∃ entries, v = .mapping entries ∧ SectionName.velocity.Knows entries ∧ (weightsOf entries).IsTooLarge

variable {c : LoadedConfig} {key : String} {v : Value} {fault : LoadFault}

theorem formulaOf_reported : ¬ (formulaOf v = .error fault ∧ fault.failure? = none) := by
  rintro ⟨h, hsilent⟩
  simp only [formulaOf] at h
  split at h
  · cases h
  · exact LoadFault.not_unreported rfl ⟨h, hsilent⟩

/-- **Setting a setting fails without a report** exactly for such a one. -/
theorem set_unreported (hv : key = "layers" → v.IsPlain) :
    c.set key v = .error fault ∧ fault.failure? = none ↔ SettingUnreported key v fault := by
  rw [set]
  cases hkey : SectionName.ofName? key with
  | some s =>
    obtain rfl := SectionName.eq_name_of_ofName? hkey
    rw [SettingUnreported, or_iff_right fun h => SectionName.name_ne_layers s h.1]
    cases s with
    | velocity =>
      simp only [bind_pure_eq_error, SectionName.load_unreported, VelocityWeights.check_eq_tooLarge]
      exact (and_iff_right rfl).symm
    | scoring =>
      simp only [bind_pure_eq_error]
      exact iff_of_false (SectionName.load_reported ScoringConfig.check_ne_tooLarge) fun h => absurd h.1 (by decide)
    | blockers =>
      simp only [bind_pure_eq_error]
      exact iff_of_false (SectionName.load_reported BlockerThresholds.check_ne_tooLarge) fun h => absurd h.1 (by decide)
    | drift =>
      simp only [bind_pure_eq_error]
      exact iff_of_false (SectionName.load_reported DriftThresholds.check_ne_tooLarge) fun h => absurd h.1 (by decide)
  | none =>
    have hvelocity : key ≠ "velocity" := by
      rintro rfl
      cases hkey
    rw [SettingUnreported, or_iff_left fun h => hvelocity h.1]
    by_cases hlayers : key = "layers"
    · simp only [if_pos hlayers, bind_pure_eq_error, DeclaredLayer.ofArray_unreported (hv hlayers)]
      exact (and_iff_right hlayers).symm
    · refine iff_of_false ?_ fun h => hlayers h.1
      rintro ⟨h, hsilent⟩
      simp only [if_neg hlayers] at h
      split at h
      · rw [bind_pure_eq_error] at h
        exact formulaOf_reported ⟨h, hsilent⟩
      · exact LoadFault.not_unreported rfl ⟨h, hsilent⟩

end LoadedConfig

/-! ### All settings of a document -/

namespace Document

/-- Everything in a document is plain data. -/
def IsPlain (d : Document) : Prop := ∀ e ∈ d, e.2.IsPlain

/-- The layers of a document are plain data. -/
def HasPlainLayers (d : Document) : Prop := ∀ e ∈ d, e.1 = "layers" → e.2.IsPlain

/-- The first setting of a document that is refused is one that is not reported. -/
def Unreported (d : Document) (fault : LoadFault) : Prop :=
  ∃ before key v after c, d = before ++ (key, v) :: after ∧
    before.foldlM (fun c e => c.set e.1 e.2) LoadedConfig.usual = .ok c ∧ LoadedConfig.SettingUnreported key v fault

variable {a b d : Document}

theorem IsPlain.hasPlainLayers (h : d.IsPlain) : d.HasPlainLayers := fun e he _ => h e he

theorem hasPlainLayers_merge (ha : a.HasPlainLayers) (hb : b.HasPlainLayers) : (merge a b).HasPlainLayers := by
  induction b using List.reverseRecOn with
  | nil => exact ha
  | append_singleton rest e ih =>
    have hrest := ih fun x hx => hb x (List.mem_append_left _ hx)
    intro x hx hlayers
    rw [merge, List.foldl_append, List.foldl_cons, List.foldl_nil, put_eq_overlay] at hx
    rcases Overlay.mem_put hx with hx | ⟨hvalue, hsame⟩
    · exact hrest x hx hlayers
    · have hkey : x.1 = e.1 := hsame.elim id of_decide_eq_true
      have hwhole : SectionName.ofName? e.1 = none := by
        rw [← hkey, hlayers]
        rfl
      rw [hvalue, combined_of_none hwhole]
      exact hb e (List.mem_append_right _ List.mem_cons_self) (hkey ▸ hlayers)

/-- The environment says nothing about layers. -/
theorem hasPlainLayers_ofEnvironment {environment : Table String String} (h : ofEnvironment environment = .ok d) :
    d.HasPlainLayers := by
  intro e he hlayers
  rcases mem_ofEnvironment h he with hformula | ⟨s, entries, rfl, -⟩
  · exact absurd (hformula.symm.trans hlayers) (by decide)
  · exact absurd hlayers (SectionName.name_ne_layers s)

end Document

namespace LoadedConfig

theorem ofDocument_unreported {d : Document} {fault : LoadFault} (hd : d.HasPlainLayers) :
    ofDocument d = .error fault ∧ fault.failure? = none ↔ d.Unreported fault := by
  have hset : ∀ {before after : Document} {e : String × Value} {c : LoadedConfig}, d = before ++ e :: after →
      (c.set e.1 e.2 = .error fault ∧ fault.failure? = none ↔ SettingUnreported e.1 e.2 fault) := by
    intro before after e c hsplit
    exact set_unreported (hd e (hsplit ▸ List.mem_append_right _ List.mem_cons_self))
  rw [ofDocument, bind_eq_error, foldlM_eq_error]
  constructor
  · rintro ⟨⟨before, e, after, c, hsplit, hbefore, he⟩ | ⟨c, -, h⟩, hsilent⟩
    · exact ⟨before, e.1, e.2, after, c, hsplit, hbefore, (hset hsplit).mp ⟨he, hsilent⟩⟩
    · split at h
      · exact absurd ⟨h, hsilent⟩ (LoadFault.not_unreported rfl)
      · cases h
  · rintro ⟨before, key, v, after, c, hsplit, hbefore, h⟩
    obtain ⟨he, hsilent⟩ := (hset (c := c) hsplit).mpr h
    exact ⟨.inl ⟨before, (key, v), after, c, hsplit, hbefore, he⟩, hsilent⟩

/-! ### The settings of four documents -/

/-- A file that cannot be had is reported. -/
theorem documentOf_reported {path : String} {given : Option SettingsFile} {fault : LoadFault}
    (h : (given.map (documentOf path)).getD (.ok []) = .error fault) : fault.failure? ≠ none := by
  rcases given with _ | (d | _ | reason)
  · cases h
  · cases h
  all_goals
    rw [← Except.error.inj h]
    nofun

/-- A variable that cannot be read is reported. -/
theorem environmentDocument_reported {environment : Table String String} {fault : LoadFault}
    (h : environmentDocument environment = .error fault) : fault.failure? ≠ none := by
  obtain ⟨e, -, rfl⟩ := mapError_eq_error.mp h
  nofun

/-- What is reported is a failure of configuration. -/
theorem configuration_mem_chain {fault : LoadFault} {f : Failure} (h : fault.failure? = some f) :
    FailureFamily.configuration ∈ f.family.chain := by
  have hall : ∀ family ∈ [FailureFamily.setting, .configuration, .settingsFile], .configuration ∈ family.chain := by
    decide
  cases fault with
  | setting | sectionFields | file =>
    rw [← Option.some.inj h]
    exact hall _ (by simp [Failure.ofSetting, Failure.ofFile])
  | _ => cases h

/-- The documents are merged, and the first setting of the result that is refused is one that is not reported. -/
def LoadUnreported (project : Document) (path : String) (given : Option SettingsFile)
    (environment : Table String String) (overrides : Document) (fault : LoadFault) : Prop :=
  ∃ file ambient, (given.map (documentOf path)).getD (.ok []) = .ok file ∧
    environmentDocument environment = .ok ambient ∧
    ((((Document.merge [] project).merge file).merge ambient).merge overrides).Unreported fault

section Load

variable {project overrides : Document} {given : Option SettingsFile}

theorem hasPlainLayers_merged (hproject : project.IsPlain) (hgiven : ∀ d, given = some (.document d) → d.IsPlain)
    (hoverrides : overrides.IsPlain) {path : String} {environment : Table String String} {file ambient : Document}
    (hfile : (given.map (documentOf path)).getD (.ok []) = .ok file)
    (hambient : environmentDocument environment = .ok ambient) :
    ((((Document.merge [] project).merge file).merge ambient).merge overrides).HasPlainLayers := by
  have hread : file.IsPlain := by
    rcases given with _ | (d | _ | reason)
    · rw [← Except.ok.inj hfile]
      nofun
    · rw [← Except.ok.inj hfile]
      exact hgiven d rfl
    all_goals cases hfile
  have hnone : Document.HasPlainLayers [] := nofun
  have hown := Document.hasPlainLayers_ofEnvironment (mapError_eq_ok.mp hambient)
  have hlower := Document.hasPlainLayers_merge hnone hproject.hasPlainLayers
  have hmiddle := Document.hasPlainLayers_merge hlower hread.hasPlainLayers
  exact Document.hasPlainLayers_merge (Document.hasPlainLayers_merge hmiddle hown) hoverrides.hasPlainLayers

end Load

end LoadedConfig
end RepoSurvey
