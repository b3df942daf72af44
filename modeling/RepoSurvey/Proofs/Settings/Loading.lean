import RepoSurvey.Proofs.Failing
import RepoSurvey.Proofs.Settings.Merging
import RepoSurvey.Settings.Loading

/-!
# What settings are loaded

* `Document.mem_ofEnvironment`: what the environment sets.
* `Document.ofEnvironment_isTables`: the document of the environment consists of tables.
* `LoadedConfig.set_cases`: what one setting more changes.
* `LoadedConfig.foldlM_set`: what all settings of a document change.
* `LoadedConfig.IsLoadOf`, `LoadedConfig.load_isLoadOf`: every field of what is loaded has the value of the last
  document that sets it, or its usual one.
-/

namespace RepoSurvey

/-! ### The environment -/

namespace Document

open Value (DistinctKeys)

section Environment

variable {environment : Table String String} {d : Document}

/-- What comes of some items has their names as keys, in their order. -/
theorem keys_flatten_sublist {ι β κ : Type} {name : ι → κ} {key : β → κ} {items : List ι} {found : List (List β)}
    (h : List.Forall₂ (fun item own => (own.map key).Sublist [name item]) items found) :
    (found.flatten.map key).Sublist (items.map name) := by
  induction h with
  | nil => exact List.Sublist.slnil
  | cons hhead _ ih =>
    rw [List.flatten_cons, List.map_append, List.map_cons]
    exact hhead.append ih

/-- The fields of a section are different from each other. -/
theorem nodup_fields (s : SectionName) : (s.fields.map (·.1)).Nodup := by
  cases s <;> decide +kernel

theorem isTables_section (s : SectionName) {entries : List (Value × Value)} (h : DistinctKeys entries) :
    IsTables [(s.name, .mapping entries)] := by
  refine ⟨List.nodup_singleton _, fun e he => ?_⟩
  rw [List.mem_singleton.mp he]
  exact .inr ⟨entries, rfl, h⟩

theorem key_fieldOf {s : SectionName} {field : String × FieldType} {found : Option (Value × Value)}
    (h : fieldOf environment s field = .ok found) : (found.toList.map (·.1)).Sublist [Value.text field.1] := by
  rw [fieldOf] at h
  cases hvariable : environment.get? (variableName s field.1) with
  | none =>
    rw [hvariable] at h
    rw [← Except.ok.inj h]
    exact List.nil_sublist _
  | some text =>
    rw [hvariable] at h
    have hread := mapError_eq_ok.mp h
    cases hvalue : field.2.read text with
    | error e =>
      rw [hvalue] at hread
      cases hread
    | ok v =>
      rw [hvalue] at hread
      rw [← Except.ok.inj hread]
      exact List.Sublist.refl _

/-- A section of the environment is one table, or none if no variable of it is set. -/
theorem sectionOf_cases {s : SectionName} (h : sectionOf environment s = .ok d) :
    d = [] ∨ ∃ entries, d = [(s.name, .mapping entries)] ∧ DistinctKeys entries := by
  obtain ⟨entries, hentries, h⟩ := bind_eq_ok.mp h
  have hkeys : ((entries.filterMap id).map (·.1)).Sublist ((s.fields.map (·.1)).map .text) := by
    have hflat : entries.filterMap id = (entries.map Option.toList).flatten := by
      rw [← List.flatMap_def, List.filterMap_eq_flatMap_toList]
      rfl
    rw [hflat, List.map_map]
    refine keys_flatten_sublist (List.forall₂_map_right_iff.mpr ?_)
    exact (mapM_eq_ok.mp hentries).imp fun _ _ hfield => key_fieldOf hfield
  rw [← Except.ok.inj h]
  by_cases hempty : (entries.filterMap id).isEmpty = true
  · exact .inl (if_pos hempty)
  · exact .inr ⟨_, if_neg hempty, Value.distinctKeys_of_texts hkeys (nodup_fields s)⟩

/-- What the environment sets: the formula of the coupling, or the fields of one section. -/
theorem mem_ofEnvironment (h : ofEnvironment environment = .ok d) {e : String × Value} (he : e ∈ d) :
    e.1 = "coupling_formula" ∨ ∃ (s : SectionName) (entries : List (Value × Value)),
      e = (s.name, .mapping entries) ∧ DistinctKeys entries := by
  obtain ⟨sections, hsections, h⟩ := bind_eq_ok.mp h
  rw [← Except.ok.inj h] at he
  rcases List.mem_append.mp he with he | he
  · obtain ⟨s, -, rfl⟩ := Option.map_eq_some_iff.mp (Option.mem_toList.mp he)
    exact .inl rfl
  · obtain ⟨own, hown, he⟩ := List.mem_flatten.mp he
    obtain ⟨s, -, hs⟩ := exists_of_mem_mapM hsections hown
    rcases sectionOf_cases hs with rfl | ⟨entries, rfl, hdistinct⟩
    · exact absurd he List.not_mem_nil
    · exact .inr ⟨s, entries, List.mem_singleton.mp he, hdistinct⟩

/-- **The environment's document consists of tables.** -/
theorem ofEnvironment_isTables (h : ofEnvironment environment = .ok d) : d.IsTables where
  distinct := by
    obtain ⟨sections, hsections, h⟩ := bind_eq_ok.mp h
    have hkeys : (sections.flatten.map (·.1)).Sublist (SectionName.all.map (·.name)) := by
      refine keys_flatten_sublist ((mapM_eq_ok.mp hsections).imp fun s own hown => ?_)
      rcases sectionOf_cases hown with rfl | ⟨entries, rfl, -⟩
      · exact List.nil_sublist _
      · exact List.Sublist.refl _
    have hformula : (((environment.get? (variablePrefix ++ "COUPLING_FORMULA")).map
        fun s => ("coupling_formula", Value.text s)).toList.map (·.1)).Sublist ["coupling_formula"] := by
      cases environment.get? (variablePrefix ++ "COUPLING_FORMULA") with
      | none => exact List.nil_sublist _
      | some s => exact List.Sublist.refl _
    rw [← Except.ok.inj h, List.map_append]
    exact List.Nodup.sublist (hformula.append hkeys) (by decide)
  sound := by
    intro e he
    rcases mem_ofEnvironment h he with hformula | ⟨s, entries, rfl, hdistinct⟩
    · have hwhole : SectionName.ofName? "coupling_formula" = none := by decide
      exact .inl (hformula ▸ hwhole)
    · exact .inr ⟨entries, rfl, hdistinct⟩

end Environment

end Document

/-! ### One setting more -/

/-- A section that is loaded from a table is built from its entries. -/
theorem SectionName.load_mapping {β : Type} {s : SectionName} {build : (String → Value → Value) → β}
    {check : β → Checked Unit} {entries : List (Value × Value)} {x : β}
    (h : s.load build check (.mapping entries) = .ok x) : x = build fun name usual => (Value.get? entries name).getD usual := by
  obtain ⟨-, -, h⟩ := bind_eq_ok.mp (mapError_eq_ok.mp h)
  obtain ⟨-, -, h⟩ := bind_eq_ok.mp h
  exact (Except.ok.inj h).symm

namespace LoadedConfig

section Set

variable {c c' : LoadedConfig} {key : String} {v : Value}

/-- The fields of a section with their values. -/
def entriesOf (c : LoadedConfig) : SectionName → List (String × Value)
  | .velocity => c.velocity.entries id
  | .scoring => c.scoring.entries id id
  | .blockers => c.blockers.entries id id
  | .drift => c.drift.entries id id

/-- The fields of a section with what is said about them, and else with their usual values. -/
def entriesWith (s : SectionName) (setting? : String → Option Value) : List (String × Value) :=
  (usual.entriesOf s).map fun f => (f.1, (setting? f.1).getD f.2)

/-- **What one setting more changes**: a section, the layers or the coupling formula, and nothing else. -/
theorem set_cases (h : c.set key v = .ok c') :
    (∃ s : SectionName, key = s.name ∧ c'.layers = c.layers ∧ c'.formula = c.formula ∧
      (∀ s' ≠ s, c'.entriesOf s' = c.entriesOf s') ∧
      ∀ entries, v = .mapping entries → c'.entriesOf s = entriesWith s (Value.get? entries)) ∨
    (key = "layers" ∧ ∃ layers, DeclaredLayer.ofArray v = .ok layers ∧ c' = { c with layers }) ∨
    (key = "coupling_formula" ∧ ∃ formula, formulaOf v = .ok formula ∧ c' = { c with formula }) := by
  rw [set] at h
  cases hkey : SectionName.ofName? key with
  | some s =>
    refine .inl ⟨s, SectionName.eq_name_of_ofName? hkey, ?_⟩
    rw [hkey] at h
    -- The four sections are loaded alike.
    cases s <;>
    · obtain ⟨w, hw, h⟩ := bind_eq_ok.mp h
      obtain rfl := Except.ok.inj h
      refine ⟨rfl, rfl, fun s' hs' => ?_, fun entries hentries => ?_⟩
      · cases s' <;> first | rfl | exact absurd rfl hs'
      · rw [hentries] at hw
        rw [SectionName.load_mapping hw]
        rfl
  | none =>
    rw [hkey] at h
    by_cases hlayers : key = "layers"
    · simp only [if_pos hlayers] at h
      obtain ⟨layers, hls, h⟩ := bind_eq_ok.mp h
      exact .inr (.inl ⟨hlayers, layers, hls, (Except.ok.inj h).symm⟩)
    · simp only [if_neg hlayers] at h
      by_cases hformula : key = "coupling_formula"
      · rw [if_pos hformula] at h
        obtain ⟨formula, hf, h⟩ := bind_eq_ok.mp h
        exact .inr (.inr ⟨hformula, formula, hf, (Except.ok.inj h).symm⟩)
      · rw [if_neg hformula] at h
        cases h

theorem entriesOf_set_of_ne {s : SectionName} (h : c.set key v = .ok c') (hkey : key ≠ s.name) :
    c'.entriesOf s = c.entriesOf s := by
  rcases set_cases h with ⟨s', rfl, -, -, hother, -⟩ | ⟨-, layers, -, rfl⟩ | ⟨-, formula, -, rfl⟩
  · exact hother s fun hs => hkey (hs ▸ rfl)
  · cases s <;> rfl
  · cases s <;> rfl

theorem entriesOf_set {s : SectionName} {entries : List (Value × Value)}
    (h : c.set s.name (.mapping entries) = .ok c') : c'.entriesOf s = entriesWith s (Value.get? entries) := by
  rcases set_cases h with ⟨s', hs', -, -, -, hown⟩ | ⟨hkey, -⟩ | ⟨hkey, -⟩
  · rw [SectionName.name_injective hs']
    exact hown entries rfl
  · exact absurd hkey (SectionName.name_ne_layers s)
  · exact absurd hkey (SectionName.name_ne_formula s)

theorem layers_set_of_ne (h : c.set key v = .ok c') (hkey : key ≠ "layers") : c'.layers = c.layers := by
  rcases set_cases h with ⟨s, -, hlayers, -⟩ | ⟨hlayers, -⟩ | ⟨-, formula, -, rfl⟩
  · exact hlayers
  · exact absurd hlayers hkey
  · rfl

theorem layers_set (h : c.set "layers" v = .ok c') : DeclaredLayer.ofArray v = .ok c'.layers := by
  rcases set_cases h with ⟨s, hs, -⟩ | ⟨-, layers, hlayers, rfl⟩ | ⟨hkey, -⟩
  · exact absurd hs.symm (SectionName.name_ne_layers s)
  · exact hlayers
  · exact absurd hkey (by decide)

theorem formula_set_of_ne (h : c.set key v = .ok c') (hkey : key ≠ "coupling_formula") : c'.formula = c.formula := by
  rcases set_cases h with ⟨s, -, -, hformula, -⟩ | ⟨-, layers, -, rfl⟩ | ⟨hformula, -⟩
  · exact hformula
  · rfl
  · exact absurd hformula hkey

theorem formula_set (h : c.set "coupling_formula" v = .ok c') : formulaOf v = .ok c'.formula := by
  rcases set_cases h with ⟨s, hs, -⟩ | ⟨hkey, -⟩ | ⟨-, formula, hformula, rfl⟩
  · exact absurd hs.symm (SectionName.name_ne_formula s)
  · exact absurd hkey (by decide)
  · exact hformula

end Set

/-! ### All settings of a document -/

section Document

variable {c c' : LoadedConfig} {d : Document}

/-- **What the settings of a document change**: a part that one key alone changes is left alone by a document without
the key, and else is what comes of the key's value. -/
theorem foldlM_set {γ : Type} {key : String} (part : LoadedConfig → γ) (Became : Value → γ → Prop)
    (hkeep : ∀ {c c' : LoadedConfig} {k v}, c.set k v = .ok c' → k ≠ key → part c' = part c)
    (hset : ∀ {c c' : LoadedConfig} {v}, c.set key v = .ok c' → Became v (part c'))
    (hdistinct : (d.map (·.1)).Nodup) (h : d.foldlM (fun c e => c.set e.1 e.2) c = .ok c') :
    (d.get? key = none → part c' = part c) ∧ ∀ v, d.get? key = some v → Became v (part c') := by
  induction d generalizing c with
  | nil =>
    rw [← Except.ok.inj h]
    exact ⟨fun _ => rfl, fun v hv => absurd hv.symm (Option.some_ne_none v)⟩
  | cons e rest ih =>
    rw [List.foldlM_cons] at h
    obtain ⟨c₁, hstep, hrun⟩ := bind_eq_ok.mp h
    rw [List.map_cons, List.nodup_cons] at hdistinct
    obtain ⟨hnone, hsome⟩ := ih hdistinct.2 hrun
    by_cases hkey : e.1 = key
    · have hrest : Table.get? rest key = none := Table.get?_of_not_mem (hkey ▸ hdistinct.1)
      have hhead : Table.get? (e :: rest) key = some e.2 := by
        rw [Table.get?, List.find?_cons_of_pos (by simpa using hkey), Option.map_some]
      rw [hhead]
      refine ⟨fun hv => absurd hv (Option.some_ne_none e.2), fun v hv => ?_⟩
      rw [hnone hrest, ← Option.some.inj hv]
      exact hset (hkey ▸ hstep)
    · have hhead : Table.get? (e :: rest) key = Table.get? rest key := by
        rw [Table.get?, Table.get?, List.find?_cons_of_neg (by simpa using hkey)]
      rw [hhead]
      exact ⟨fun hv => (hnone hv).trans (hkeep hstep hkey), hsome⟩

/-- The check of the layers' names changes nothing. -/
theorem ofDocument_eq_ok (h : ofDocument d = .ok c) : d.foldlM (fun c e => c.set e.1 e.2) usual = .ok c := by
  obtain ⟨c', hrun, h⟩ := bind_eq_ok.mp h
  split at h
  · cases h
  · rw [hrun, Except.ok.inj h]

/-- What is loaded from a document: the fields of the sections, the layers and the coupling formula come of what the
document says about them, or are the usual ones. -/
theorem ofDocument_parts (hd : d.IsTables) (h : ofDocument d = .ok c) :
    (∀ s, c.entriesOf s = entriesWith s fun field => d.setting? s (.text field)) ∧
      (d.get? "layers").elim (.ok usual.layers) DeclaredLayer.ofArray = .ok c.layers ∧
      (d.get? "coupling_formula").elim (.ok usual.formula) formulaOf = .ok c.formula := by
  have hrun := ofDocument_eq_ok h
  refine ⟨fun s => ?_, ?_, ?_⟩
  · obtain ⟨hnone, hsome⟩ := foldlM_set (entriesOf · s)
      (fun v own => ∀ entries, v = .mapping entries → own = entriesWith s (Value.get? entries))
      entriesOf_set_of_ne (fun hset entries hv => entriesOf_set (hv ▸ hset)) hd.distinct hrun
    cases hsection : d.get? s.name with
    | none =>
      simp only [entriesWith, Document.setting?_of_none hsection, Option.getD_none, List.map_id']
      exact hnone hsection
    | some v =>
      obtain ⟨entries, rfl, -⟩ := hd.mapping hsection
      simp only [Document.setting?_of_mapping hsection]
      exact hsome _ hsection entries rfl
  · obtain ⟨hnone, hsome⟩ := foldlM_set (·.layers) (fun v layers => DeclaredLayer.ofArray v = .ok layers)
      layers_set_of_ne layers_set hd.distinct hrun
    cases hlayers : d.get? "layers" with
    | none => exact congrArg Except.ok (hnone hlayers).symm
    | some v => exact hsome v hlayers
  · obtain ⟨hnone, hsome⟩ := foldlM_set (·.formula) (fun v formula => formulaOf v = .ok formula)
      formula_set_of_ne formula_set hd.distinct hrun
    cases hformula : d.get? "coupling_formula" with
    | none => exact congrArg Except.ok (hnone hformula).symm
    | some v => exact hsome v hformula

end Document

/-! ### The settings of four documents -/

section Load

/-- The settings of some documents: each field has the value of the last document that sets it, and else its usual one;
the layers and the coupling formula come whole from the last document that has them. -/
structure IsLoadOf (c : LoadedConfig) (documents : List Document) : Prop where
  fields : ∀ s, c.entriesOf s = entriesWith s fun field => Document.lastSetting? documents s (.text field)
  layers : (Document.last? documents "layers").elim (.ok usual.layers) DeclaredLayer.ofArray = .ok c.layers
  formula : (Document.last? documents "coupling_formula").elim (.ok usual.formula) formulaOf = .ok c.formula

theorem ofDocument_isLoadOf {d : Document} {documents : List Document} {c : LoadedConfig}
    (hd : d.IsMergeOf documents) (h : ofDocument d = .ok c) : c.IsLoadOf documents := by
  obtain ⟨hfields, hlayers, hformula⟩ := ofDocument_parts hd.isTables h
  constructor
  · intro s
    rw [hfields]
    simp only [hd.fields]
  · rw [← hd.whole _ (by decide)]
    exact hlayers
  · rw [← hd.whole _ (by decide)]
    exact hformula

/-- **Settings are merged field by field**: for documents whose sections are tables, each field of the merged document
has the value of the last of the four that sets it, and everything else is taken whole from the last one that has it;
merging is associative; and what is loaded has these values, or the usual ones where no document sets any. -/
theorem load_isLoadOf {project file overrides : Document} (hproject : project.IsTables) (hfile : file.IsTables)
    (hoverrides : overrides.IsTables) :
    (∀ ambient : Document, ambient.IsTables →
      ((((Document.merge [] project).merge file).merge ambient).merge overrides).IsMergeOf
        [project, file, ambient, overrides]) ∧
    (∀ a b c : Document, a.IsTables → b.IsTables → c.IsTables → (a.merge b).merge c = a.merge (b.merge c)) ∧
    ∀ path given environment c, (given.map (documentOf path)).getD (.ok []) = .ok file →
      load project path given environment overrides = .ok c →
      ∃ ambient, environmentDocument environment = .ok ambient ∧ ambient.IsTables ∧
        c.IsLoadOf [project, file, ambient, overrides] := by
  have hmerge : ∀ ambient : Document, ambient.IsTables →
      ((((Document.merge [] project).merge file).merge ambient).merge overrides).IsMergeOf
        [project, file, ambient, overrides] := by
    intro ambient hambient
    have hall : ∀ d ∈ [project, file, ambient, overrides], d.IsTables := by
      intro d hd
      simp only [List.mem_cons, List.not_mem_nil, or_false] at hd
      rcases hd with rfl | rfl | rfl | rfl
      · exact hproject
      · exact hfile
      · exact hambient
      · exact hoverrides
    exact Document.foldl_merge_isMergeOf hall
  refine ⟨hmerge, fun a b c ha hb hc => Document.merge_assoc ha hb hc, fun path given environment c hgiven h => ?_⟩
  obtain ⟨file', hfile', h⟩ := bind_eq_ok.mp h
  obtain rfl := Except.ok.inj (hgiven.symm.trans hfile')
  obtain ⟨ambient, henvironment, h⟩ := bind_eq_ok.mp h
  have htables := Document.ofEnvironment_isTables (mapError_eq_ok.mp henvironment)
  exact ⟨ambient, henvironment, htables, ofDocument_isLoadOf (hmerge ambient htables) h⟩

/-- Four thresholds: set by the file over the project, by a caller alone, by nobody, and by the project alone. -/
theorem load_isLoadOf_of_blockers :
    let project : Document :=
      [("blockers", .mapping [(.text "stale_pr_days", .int 5), (.text "high_violation_rate", .int 1)])]
    let file : Document :=
      [("blockers", .mapping [(.text "stale_pr_days", .int 6)]), ("coupling_formula", .text "fan_blend")]
    let overrides : Document := [("blockers", .mapping [(.text "long_branch_days", .int 9)])]
    project.IsTables ∧ file.IsTables ∧ overrides.IsTables ∧
      ∃ c, load project "settings.toml" (some (.document file)) [] overrides = .ok c ∧
        c.IsLoadOf [project, file, [], overrides] ∧ c.formula = .fanBlend ∧
        c.entriesOf .blockers = [("stale_pr_days", .int 6), ("long_branch_days", .int 9),
          ("review_bottleneck_threshold", .int 3), ("high_violation_rate", .int 1)] := by
  intro project file overrides
  have hkeys : ["stale_pr_days", "high_violation_rate"].Nodup := by decide
  have hproject : project.IsTables :=
    Document.isTables_section .blockers (Value.distinctKeys_of_texts (List.Sublist.refl _) hkeys)
  have hoverrides : overrides.IsTables := Document.isTables_section .blockers (List.pairwise_singleton _ _)
  have hfile : file.IsTables := by
    refine ⟨by decide, fun e he => ?_⟩
    rcases List.mem_cons.mp he with rfl | he
    · exact .inr ⟨_, rfl, List.pairwise_singleton _ _⟩
    · rw [List.mem_singleton.mp he]
      exact .inl (by decide)
  obtain ⟨-, -, hload⟩ := load_isLoadOf hproject hfile hoverrides
  have hok : (load project "settings.toml" (some (.document file)) [] overrides).isOk = true := by decide +kernel
  cases hc : load project "settings.toml" (some (.document file)) [] overrides with
  | error fault =>
    rw [hc] at hok
    cases hok
  | ok c =>
    obtain ⟨ambient, hambient, -, hloaded⟩ := hload _ _ _ _ rfl hc
    obtain rfl : [] = ambient := Except.ok.inj hambient
    exact ⟨hproject, hfile, hoverrides, c, rfl, hloaded, (Except.ok.inj hloaded.formula).symm,
      hloaded.fields .blockers⟩

end Load

end LoadedConfig
end RepoSurvey
