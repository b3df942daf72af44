import RepoSurvey.Proofs.LookUp
import RepoSurvey.Proofs.Settings.Overlay
import RepoSurvey.Proofs.Text.Quoted
import RepoSurvey.Settings.Document

/-!
# Merging documents

A document over another one is a table over another one, and so is a section of it over the section of that name below.

* `Value.same_text`: keys that are texts count as equal exactly if the texts are.
* `Document.IsTables`: a document whose sections are tables.
* `Document.merge_assoc`: three documents over each other.
* `Document.IsMergeOf merged documents`: every field of a section, and everything else whole, has the value of the last
  of the documents that sets it.
* `Document.foldl_merge_isMergeOf`: any number of documents over each other are merged so.
-/

namespace RepoSurvey

/-! ### Tables of a section -/

namespace Value

theorem same_eq_true {v w : Value} : same v w = true ↔ ∃ id, v.identity? = some id ∧ w.identity? = some id := by
  rw [same]
  cases v.identity? with
  | none => exact ⟨nofun, fun ⟨_, h, _⟩ => absurd h nofun⟩
  | some a =>
    cases w.identity? with
    | none => exact ⟨nofun, fun ⟨_, _, h⟩ => absurd h nofun⟩
    | some b =>
      constructor
      · exact fun h => ⟨b, congrArg some (eq_of_beq h), rfl⟩
      · rintro ⟨id, ha, hb⟩
        rw [Option.some.inj ha, Option.some.inj hb]
        exact beq_self_eq_true id

/-- Texts count as equal exactly if they are. -/
theorem same_text (s t : String) : same (.text s) (.text t) = decide (s = t) := by
  have hidentity : ∀ s, (text s).identity? = some ("t" ++ Text.quoted s) := fun s => by rw [identity?]
  rw [Bool.eq_iff_iff, same_eq_true, decide_eq_true_eq, hidentity, hidentity]
  constructor
  · rintro ⟨id, hs, ht⟩
    have hquoted := Option.some.inj (hs.trans ht.symm)
    exact Text.quoted_injective ((String.append_right_inj "t").mp hquoted)
  · rintro rfl
    exact ⟨_, rfl, rfl⟩

theorem isKeyTest_same : Overlay.IsKeyTest same where
  symm := by
    intro v w h
    obtain ⟨id, hv, hw⟩ := same_eq_true.mp h
    exact same_eq_true.mpr ⟨id, hw, hv⟩
  trans := by
    intro u v w h h'
    obtain ⟨id, hu, hv⟩ := same_eq_true.mp h
    obtain ⟨id', hv', hw⟩ := same_eq_true.mp h'
    rw [Option.some.inj (hv.symm.trans hv')] at hu
    exact same_eq_true.mpr ⟨id', hu, hw⟩

theorem put_eq_overlay (t : List (Value × Value)) (key v : Value) : put t key v = Overlay.put same t key v := by
  induction t with
  | nil => rfl
  | cons e rest ih => rw [put, Overlay.put, ih]

/-- The value of a key of any kind. -/
def valueAt? (entries : List (Value × Value)) (key : Value) : Option Value := Overlay.get? same entries key

/-- The upper one of two values. -/
def upperOf (_ : Value) (_ : Option Value) (upper : Value) : Value := upper

theorem putAll_eq_over (lower upper : List (Value × Value)) :
    putAll lower upper = Overlay.overlay same upperOf lower upper := by
  simp only [putAll, Overlay.overlay, put_eq_overlay, upperOf]

theorem isRule_upperOf : Overlay.IsRule same upperOf fun _ _ => True where
  congr := fun _ => ⟨rfl, rfl⟩
  alone := fun _ _ => rfl
  sound := fun _ _ => trivial
  assoc := fun _ _ _ => rfl

/-- The keys of a table are different from each other. -/
def DistinctKeys (entries : List (Value × Value)) : Prop := Overlay.Distinct same entries

/-- Keys among different texts are different from each other. -/
theorem distinctKeys_of_texts {entries : List (Value × Value)} {names : List String}
    (hkeys : (entries.map (·.1)).Sublist (names.map .text)) (hnodup : names.Nodup) : DistinctKeys entries := by
  have hnames : (names.map .text).Pairwise fun v w => same v w = false := by
    rw [List.pairwise_map]
    exact hnodup.imp fun hne => (same_text _ _).trans (decide_eq_false hne)
  rw [DistinctKeys, Overlay.Distinct]
  exact List.pairwise_map.mp (hnames.sublist hkeys)

section PutAll

variable {a b c : List (Value × Value)}

theorem distinctKeys_putAll (h : DistinctKeys a) : DistinctKeys (putAll a b) := by
  rw [putAll_eq_over]
  exact Overlay.distinct_over isKeyTest_same h

theorem valueAt?_putAll (hb : DistinctKeys b) (key : Value) :
    valueAt? (putAll a b) key = (valueAt? b key).or (valueAt? a key) := by
  rw [valueAt?, valueAt?, valueAt?, putAll_eq_over, Overlay.get?_over isKeyTest_same isRule_upperOf hb]
  cases Overlay.get? same b key <;> rfl

theorem putAll_assoc (hb : DistinctKeys b) : putAll (putAll a b) c = putAll a (putAll b c) := by
  simp only [putAll_eq_over]
  exact Overlay.over_assoc isKeyTest_same isRule_upperOf (fun _ _ => trivial) (fun _ _ => trivial) (fun _ _ => trivial)
    hb

end PutAll

end Value

/-! ### Names of sections -/

namespace SectionName

variable {s s' : SectionName} {key : String}

theorem ofName?_name (s : SectionName) : ofName? s.name = some s := by cases s <;> rfl

theorem eq_name_of_ofName? (h : ofName? key = some s) : key = s.name := by
  have hfound := List.find?_some h
  exact (eq_of_beq hfound).symm

theorem name_injective (h : s.name = s'.name) : s = s' := by
  have hname := ofName?_name s
  rw [h, ofName?_name] at hname
  exact (Option.some.inj hname).symm

theorem name_ne_layers (s : SectionName) : s.name ≠ "layers" := by cases s <;> decide

theorem name_ne_formula (s : SectionName) : s.name ≠ "coupling_formula" := by cases s <;> decide

end SectionName

/-! ### Documents -/

namespace Document

open Value (putAll valueAt? valueAt?_putAll putAll_assoc DistinctKeys distinctKeys_putAll)

/-- The value of a key that is a section is a table with keys different from each other. -/
def Sound (key : String) (v : Value) : Prop :=
  SectionName.ofName? key = none ∨ ∃ entries, v = .mapping entries ∧ DistinctKeys entries

/-- A document whose sections are tables. -/
structure IsTables (d : Document) : Prop where
  distinct : (d.map (·.1)).Nodup
  sound : ∀ e ∈ d, Sound e.1 e.2

def sameName (j k : String) : Bool := decide (j = k)

theorem isKeyTest_sameName : Overlay.IsKeyTest sameName where
  symm := fun h => decide_eq_true (of_decide_eq_true h).symm
  trans := fun h h' => decide_eq_true ((of_decide_eq_true h).trans (of_decide_eq_true h'))

theorem put_eq_overlay (d : Document) (key : String) (v : Value) : d.put key v = Overlay.put sameName d key v := by
  induction d with
  | nil => rfl
  | cons e rest ih => simp only [Table.put, Overlay.put, ih, sameName, decide_eq_true_eq]

theorem merge_eq_over (lower upper : Document) : merge lower upper = Overlay.overlay sameName combined lower upper := by
  simp only [merge, Overlay.overlay, put_eq_overlay]
  rfl

theorem distinct_iff {d : Document} : Overlay.Distinct sameName d ↔ (d.map (·.1)).Nodup := by
  rw [Overlay.Distinct, List.Nodup, List.pairwise_map]
  simp only [sameName, decide_eq_false_iff_not]

theorem combined_mapping {key : String} {a b : List (Value × Value)} (h : SectionName.ofName? key ≠ none) :
    combined key (some (.mapping a)) (.mapping b) = .mapping (putAll a b) := by
  obtain ⟨s, hs⟩ := Option.ne_none_iff_exists'.mp h
  simp only [combined, hs]

theorem combined_of_none {key : String} {lower : Option Value} {upper : Value} (h : SectionName.ofName? key = none) :
    combined key lower upper = upper := by
  simp only [combined, h]

theorem isRule_combined : Overlay.IsRule sameName combined Sound where
  congr := by
    intro j k h
    rw [of_decide_eq_true h]
    exact ⟨rfl, rfl⟩
  alone := by
    intro key v
    simp only [combined]
    cases SectionName.ofName? key <;> rfl
  sound := by
    intro key u v hu hv
    rcases hu with hkey | ⟨a, rfl, ha⟩
    · exact .inl hkey
    · by_cases hkey : SectionName.ofName? key = none
      · exact .inl hkey
      · obtain ⟨b, rfl, -⟩ := hv.resolve_left hkey
        rw [combined_mapping hkey]
        exact .inr ⟨_, rfl, distinctKeys_putAll ha⟩
  assoc := by
    intro key u v w hu hv hw
    by_cases hkey : SectionName.ofName? key = none
    · simp only [combined_of_none hkey]
    · obtain ⟨a, rfl, -⟩ := hu.resolve_left hkey
      obtain ⟨b, rfl, hb⟩ := hv.resolve_left hkey
      obtain ⟨c, rfl, -⟩ := hw.resolve_left hkey
      simp only [combined_mapping hkey, putAll_assoc hb]

section Merge

variable {a b c : Document}

theorem IsTables.merge (ha : a.IsTables) (hb : b.IsTables) : (merge a b).IsTables where
  distinct := by
    rw [merge_eq_over, ← distinct_iff]
    exact Overlay.distinct_over isKeyTest_sameName (distinct_iff.mpr ha.distinct)
  sound := by
    rw [merge_eq_over]
    exact Overlay.sound_over isRule_combined ha.sound hb.sound

/-- **Merging is associative** for documents whose sections are tables. -/
theorem merge_assoc (ha : a.IsTables) (hb : b.IsTables) (hc : c.IsTables) :
    (a.merge b).merge c = a.merge (b.merge c) := by
  simp only [merge_eq_over]
  exact Overlay.over_assoc isKeyTest_sameName isRule_combined ha.sound hb.sound hc.sound (distinct_iff.mpr hb.distinct)

theorem get?_merge (hb : b.IsTables) (key : String) :
    (a.merge b).get? key = ((b.get? key).map (combined key (a.get? key))).or (a.get? key) := by
  rw [merge_eq_over]
  exact Overlay.get?_over isKeyTest_sameName isRule_combined (distinct_iff.mpr hb.distinct) key

/-- What is under a key that is no section is taken whole. -/
theorem get?_merge_whole (hb : b.IsTables) {key : String} (h : SectionName.ofName? key = none) :
    (a.merge b).get? key = (b.get? key).or (a.get? key) := by
  rw [get?_merge hb]
  cases b.get? key with
  | none => rfl
  | some v => exact congrArg some (combined_of_none h)

theorem isSome_get?_merge (hb : b.IsTables) (key : String) :
    ((a.merge b).get? key).isSome = ((b.get? key).isSome || (a.get? key).isSome) := by
  rw [get?_merge hb]
  cases b.get? key <;> rfl

/-- The value of a field, if the document sets it. -/
def setting? (d : Document) (s : SectionName) (field : Value) : Option Value :=
  match d.get? s.name with
  | some (.mapping entries) => valueAt? entries field
  | _ => none

theorem setting?_of_mapping {s : SectionName} {entries : List (Value × Value)}
    (h : a.get? s.name = some (.mapping entries)) (field : Value) : a.setting? s field = valueAt? entries field := by
  rw [setting?, h]

theorem setting?_of_none {s : SectionName} (h : a.get? s.name = none) (field : Value) : a.setting? s field = none := by
  rw [setting?, h]

theorem combined_section (s : SectionName) (a b : List (Value × Value)) :
    combined s.name (some (.mapping a)) (.mapping b) = .mapping (putAll a b) :=
  combined_mapping (by rw [SectionName.ofName?_name]; exact Option.some_ne_none s)

theorem IsTables.mapping (ha : a.IsTables) {s : SectionName} {v : Value} (h : a.get? s.name = some v) :
    ∃ entries, v = .mapping entries ∧ DistinctKeys entries := by
  refine (ha.sound _ ((Table.get?_eq_some ha.distinct).mp h)).resolve_left fun hnone => ?_
  rw [SectionName.ofName?_name] at hnone
  exact absurd hnone (Option.some_ne_none s)

/-- A field of a section is set by the upper document, or else by the lower one. -/
theorem setting?_merge (ha : a.IsTables) (hb : b.IsTables) (s : SectionName) (field : Value) :
    (a.merge b).setting? s field = (b.setting? s field).or (a.setting? s field) := by
  have hmerge := get?_merge (a := a) hb s.name
  cases hupper : b.get? s.name with
  | none =>
    rw [hupper, Option.map_none, Option.none_or] at hmerge
    rw [setting?_of_none hupper, Option.none_or, setting?, setting?, hmerge]
  | some v =>
    obtain ⟨upper, rfl, hdistinct⟩ := hb.mapping hupper
    rw [hupper, Option.map_some, Option.some_or] at hmerge
    rw [setting?_of_mapping hupper]
    cases hlower : a.get? s.name with
    | none =>
      rw [hlower, isRule_combined.alone] at hmerge
      rw [setting?_of_mapping hmerge, setting?_of_none hlower, Option.or_none]
    | some w =>
      obtain ⟨lower, rfl, -⟩ := ha.mapping hlower
      rw [hlower, combined_section] at hmerge
      rw [setting?_of_mapping hmerge, setting?_of_mapping hlower, valueAt?_putAll hdistinct]

end Merge

/-! ### Any number of documents -/

/-- The value of a field in the last of some documents that sets it. -/
def lastSetting? (documents : List Document) (s : SectionName) (field : Value) : Option Value :=
  documents.reverse.findSome? (·.setting? s field)

/-- The value of a key in the last of some documents that has it. -/
def last? (documents : List Document) (key : String) : Option Value := documents.reverse.findSome? (·.get? key)

/-- Some documents over each other: each field of a section, and everything else whole, has the value of the last of the
documents that sets it, and what none of them sets is not set. -/
structure IsMergeOf (merged : Document) (documents : List Document) : Prop where
  fields : ∀ s field, merged.setting? s field = lastSetting? documents s field
  whole : ∀ key, SectionName.ofName? key = none → merged.get? key = last? documents key
  /-- A section is there if one of the documents has it. -/
  sections : ∀ s : SectionName, merged.contains s.name = documents.any (Table.contains · s.name)
  isTables : merged.IsTables

theorem isTables_nil : IsTables [] := ⟨List.nodup_nil, fun _ he => absurd he List.not_mem_nil⟩

/-- **Every field has the value of the last document that sets it.** -/
theorem foldl_merge_isMergeOf {documents : List Document} (h : ∀ d ∈ documents, d.IsTables) :
    IsMergeOf (documents.foldl merge []) documents := by
  induction documents using List.reverseRecOn with
  | nil => exact ⟨fun _ _ => rfl, fun _ _ => rfl, fun _ => rfl, isTables_nil⟩
  | append_singleton rest d ih =>
    have hrest := ih fun d' hd' => h d' (List.mem_append_left _ hd')
    have hd := h d (List.mem_append_right _ (List.mem_singleton_self d))
    rw [List.foldl_append, List.foldl_cons, List.foldl_nil]
    refine ⟨fun s field => ?_, fun key hkey => ?_, fun s => ?_, hrest.isTables.merge hd⟩
    · rw [setting?_merge hrest.isTables hd, hrest.fields, lastSetting?, lastSetting?, List.reverse_concat,
        List.findSome?_cons]
      cases d.setting? s field <;> rfl
    · rw [get?_merge_whole hd hkey, hrest.whole key hkey, last?, last?, List.reverse_concat, List.findSome?_cons]
      cases d.get? key <;> rfl
    · rw [Table.contains, isSome_get?_merge hd, List.any_append, ← hrest.sections s, List.any_cons, List.any_nil,
        Bool.or_false, Bool.or_comm]
      rfl

end Document
end RepoSurvey
