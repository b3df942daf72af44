import RepoSurvey.Proofs.Failing
import RepoSurvey.Proofs.LookUp
import RepoSurvey.Proofs.Text.Distinct
import RepoSurvey.Value.Record

/-!
# Records are plain data

* `Record.hasDistinctKeys`: plain data whose tables have each key once.
* `Record.record?_asValue`: the record of plain data is the data itself.
* `Value.isStorable`: values of plain kinds, nested to any depth.
* `Value.exists_record?`: such a value has a record.
* `Value.record?_set_texts`: the record of a set of texts lists them in ascending order.
* `Value.record?_of_isStorable`: the three together.
-/

namespace RepoSurvey

/-! ### Plain data -/

namespace Record

mutual

/-- Every table has each of its keys once. -/
def hasDistinctKeys : Record → Bool
  | list items => allHaveDistinctKeys items
  | mapping entries => decide (entries.map (·.1)).Nodup && entriesHaveDistinctKeys entries
  | _ => true

def allHaveDistinctKeys : List Record → Bool
  | [] => true
  | r :: rest => hasDistinctKeys r && allHaveDistinctKeys rest

def entriesHaveDistinctKeys : List (String × Record) → Bool
  | [] => true
  | (_, r) :: rest => hasDistinctKeys r && entriesHaveDistinctKeys rest

end

theorem allHaveDistinctKeys_iff {items : List Record} :
    allHaveDistinctKeys items = true ↔ ∀ r ∈ items, r.hasDistinctKeys = true := by
  induction items with
  | nil => exact iff_of_true rfl nofun
  | cons r rest ih => rw [allHaveDistinctKeys, Bool.and_eq_true, ih, List.forall_mem_cons]

theorem entriesHaveDistinctKeys_iff {entries : List (String × Record)} :
    entriesHaveDistinctKeys entries = true ↔ ∀ e ∈ entries, e.2.hasDistinctKeys = true := by
  induction entries with
  | nil => exact iff_of_true rfl nofun
  | cons e rest ih => rw [entriesHaveDistinctKeys, Bool.and_eq_true, ih, List.forall_mem_cons]

theorem hasDistinctKeys_mapping {entries : List (String × Record)} :
    (mapping entries).hasDistinctKeys = true ↔
      (entries.map (·.1)).Nodup ∧ ∀ e ∈ entries, e.2.hasDistinctKeys = true := by
  rw [hasDistinctKeys, Bool.and_eq_true, decide_eq_true_eq, entriesHaveDistinctKeys_iff]

mutual

/-- **The record of plain data is the data itself.** -/
theorem record?_asValue (r : Record) (h : r.hasDistinctKeys = true) : r.asValue.record? = .ok r := by
  match r, h with
  | .none, _ => rfl
  | .bool _, _ => rfl
  | .int _, _ => rfl
  | .number _, _ => rfl
  | .text _, _ => rfl
  | .list items, h =>
    rw [asValue, Value.record?, records?_asValues items h]
    rfl
  | .mapping entries, h =>
    have hkeys := (hasDistinctKeys_mapping.mp h).1
    rw [hasDistinctKeys, Bool.and_eq_true] at h
    rw [asValue, Value.record?, recordEntries?_asEntries entries h.2]
    show Except.ok (mapping (Table.ofPairs entries)) = _
    rw [Table.ofPairs_of_nodup hkeys]

theorem records?_asValues (items : List Record) (h : allHaveDistinctKeys items = true) :
    Value.records? (asValues items) = .ok items := by
  match items, h with
  | [], _ => rfl
  | r :: rest, h =>
    rw [allHaveDistinctKeys, Bool.and_eq_true] at h
    rw [asValues, Value.records?, record?_asValue r h.1, records?_asValues rest h.2]
    rfl

theorem recordEntries?_asEntries (entries : List (String × Record)) (h : entriesHaveDistinctKeys entries = true) :
    Value.recordEntries? (asEntries entries) = .ok entries := by
  match entries, h with
  | [], _ => rfl
  | (k, r) :: rest, h =>
    rw [entriesHaveDistinctKeys, Bool.and_eq_true] at h
    rw [asEntries, Value.recordEntries?, Value.record?, record?_asValue r h.1, recordEntries?_asEntries rest h.2]
    rfl

end

end Record

/-! ### Storable values -/

namespace Value

def isText : Value → Bool
  | text _ => true
  | _ => false

/-- A text or a member of an enumeration. -/
def isPlainKey : Value → Bool
  | text _ | member _ _ _ => true
  | _ => false

mutual

/-- Values of plain kinds: nothing, truth values, numbers, texts, members of enumerations, times, paths, lists and tuples,
sets of texts, tables whose keys are texts or members of enumerations, and structures with different names for all that
their records hold. -/
def isStorable : Value → Bool
  | none | bool _ | int _ | number _ | text _ | moment _ | date _ | duration _ | path _ | member _ _ _ => true
  | list items | tuple items => areStorable items
  | set _ items => items.all isText
  | mapping entries => areEntriesStorable entries
  | record _ fields derived =>
    decide ((fields ++ derived).map (·.1)).Nodup && areFieldsStorable fields && areFieldsStorable derived
  | complex _ _ | bytes _ | family _ | object => false

def areStorable : List Value → Bool
  | [] => true
  | v :: rest => isStorable v && areStorable rest

def areEntriesStorable : List (Value × Value) → Bool
  | [] => true
  | (k, v) :: rest => isPlainKey k && isStorable v && areEntriesStorable rest

def areFieldsStorable : List (String × Value) → Bool
  | [] => true
  | (_, v) :: rest => isStorable v && areFieldsStorable rest

end

/-! ### Sets of texts -/

theorem exists_texts {items : List Value} (h : items.all isText = true) : ∃ texts : List String, items = texts.map text := by
  induction items with
  | nil => exact ⟨[], rfl⟩
  | cons v rest ih =>
    rw [List.all_cons, Bool.and_eq_true] at h
    obtain ⟨texts, rfl⟩ := ih h.2
    cases v with
    | text s => exact ⟨s :: texts, rfl⟩
    | _ => exact absurd h.1 Bool.false_ne_true

theorem records?_texts (texts : List String) : records? (texts.map text) = .ok (texts.map .text) := by
  induction texts with
  | nil => rfl
  | cons s rest ih =>
    rw [List.map_cons, records?, ih]
    rfl

/-- **The record of a set of texts** lists them in ascending order. -/
theorem record?_set_texts (frozen : Bool) (texts : List String) :
    (set frozen (texts.map text)).record? = .ok (.list ((Text.ascending texts).map .text)) := by
  have hsorted : Record.sorted (texts.map .text) = (Text.ascending texts).map .text :=
    (List.map_mergeSort (f := Record.text) fun _ _ _ _ => rfl).symm
  rw [record?, records?_texts]
  show Except.ok (Record.list (Record.sorted (texts.map .text))) = _
  rw [hsorted]

/-! ### Success -/

theorem hasDistinctKeys_ofPairs {pairs : List (String × Record)} (h : Record.entriesHaveDistinctKeys pairs = true) :
    (Record.mapping (Table.ofPairs pairs)).hasDistinctKeys = true := by
  rw [Record.entriesHaveDistinctKeys_iff] at h
  refine Record.hasDistinctKeys_mapping.mpr ⟨?_, fun e he => h e (Table.mem_of_mem_ofPairs he)⟩
  rw [Table.keys_ofPairs]
  exact nodup_eraseDups _

mutual

/-- **A storable value has a record**, and every table in it has each key once. -/
theorem exists_record? (v : Value) (h : v.isStorable = true) :
    ∃ r, v.record? = .ok r ∧ r.hasDistinctKeys = true := by
  match v, h with
  | .none, _ => exact ⟨_, rfl, rfl⟩
  | .bool _, _ => exact ⟨_, rfl, rfl⟩
  | .int _, _ => exact ⟨_, rfl, rfl⟩
  | .number _, _ => exact ⟨_, rfl, rfl⟩
  | .text _, _ => exact ⟨_, rfl, rfl⟩
  | .moment _, _ => exact ⟨_, rfl, rfl⟩
  | .date _, _ => exact ⟨_, rfl, rfl⟩
  | .duration _, _ => exact ⟨_, rfl, rfl⟩
  | .path _, _ => exact ⟨_, rfl, rfl⟩
  | .member _ _ _, _ => exact ⟨_, rfl, rfl⟩
  | .list items, h =>
    obtain ⟨rs, hrs, hdistinct⟩ := exists_records? items h
    refine ⟨.list rs, ?_, hdistinct⟩
    rw [record?, hrs]
    rfl
  | .tuple items, h =>
    obtain ⟨rs, hrs, hdistinct⟩ := exists_records? items h
    refine ⟨.list rs, ?_, hdistinct⟩
    rw [record?, hrs]
    rfl
  | .set frozen items, h =>
    obtain ⟨texts, rfl⟩ := exists_texts h
    refine ⟨_, record?_set_texts frozen texts, Record.allHaveDistinctKeys_iff.mpr fun r hr => ?_⟩
    obtain ⟨s, -, rfl⟩ := List.mem_map.mp hr
    rfl
  | .mapping entries, h =>
    obtain ⟨es, hes, hdistinct⟩ := exists_recordEntries? entries h
    refine ⟨.mapping (Table.ofPairs es), ?_, hasDistinctKeys_ofPairs hdistinct⟩
    rw [record?, hes]
    rfl
  | .record type fields derived, h =>
    rw [isStorable, Bool.and_eq_true, Bool.and_eq_true, decide_eq_true_eq] at h
    obtain ⟨⟨hnames, hfields⟩, hderived⟩ := h
    obtain ⟨own, hown, hownNames, hownDistinct⟩ := exists_recordFields? fields hfields
    obtain ⟨more, hmore, hmoreNames, hmoreDistinct⟩ := exists_recordFields? derived hderived
    refine ⟨.mapping (own ++ more), ?_, Record.hasDistinctKeys_mapping.mpr ⟨?_, ?_⟩⟩
    · rw [record?, hown, hmore]
      rfl
    · rw [List.map_append, hownNames, hmoreNames, ← List.map_append]
      exact hnames
    · rw [List.forall_mem_append]
      exact ⟨Record.entriesHaveDistinctKeys_iff.mp hownDistinct, Record.entriesHaveDistinctKeys_iff.mp hmoreDistinct⟩

theorem exists_records? (items : List Value) (h : areStorable items = true) :
    ∃ rs, records? items = .ok rs ∧ Record.allHaveDistinctKeys rs = true := by
  match items, h with
  | [], _ => exact ⟨[], rfl, rfl⟩
  | v :: rest, h =>
    rw [areStorable, Bool.and_eq_true] at h
    obtain ⟨r, hr, hdistinct⟩ := exists_record? v h.1
    obtain ⟨rs, hrs, hrest⟩ := exists_records? rest h.2
    refine ⟨r :: rs, ?_, ?_⟩
    · rw [records?, hr, hrs]
      rfl
    · rw [Record.allHaveDistinctKeys, hdistinct, hrest, Bool.and_self]

theorem exists_recordEntries? (entries : List (Value × Value)) (h : areEntriesStorable entries = true) :
    ∃ es, recordEntries? entries = .ok es ∧ Record.entriesHaveDistinctKeys es = true := by
  match entries, h with
  | [], _ => exact ⟨[], rfl, rfl⟩
  | (k, v) :: rest, h =>
    rw [areEntriesStorable, Bool.and_eq_true, Bool.and_eq_true] at h
    obtain ⟨⟨hkey, hvalue⟩, hrest⟩ := h
    obtain ⟨key, hk⟩ : ∃ key, k.record? = .ok key := by
      cases k with
      | text s => exact ⟨_, rfl⟩
      | member type label name => exact ⟨_, rfl⟩
      | _ => exact absurd hkey Bool.false_ne_true
    obtain ⟨r, hr, hdistinct⟩ := exists_record? v hvalue
    obtain ⟨es, hes, hothers⟩ := exists_recordEntries? rest hrest
    refine ⟨(key.asText, r) :: es, ?_, ?_⟩
    · rw [recordEntries?, hk, hr, hes]
      rfl
    · rw [Record.entriesHaveDistinctKeys, hdistinct, hothers, Bool.and_self]

theorem exists_recordFields? (fields : List (String × Value)) (h : areFieldsStorable fields = true) :
    ∃ es, recordFields? fields = .ok es ∧ es.map (·.1) = fields.map (·.1) ∧
      Record.entriesHaveDistinctKeys es = true := by
  match fields, h with
  | [], _ => exact ⟨[], rfl, rfl, rfl⟩
  | (k, v) :: rest, h =>
    rw [areFieldsStorable, Bool.and_eq_true] at h
    obtain ⟨r, hr, hdistinct⟩ := exists_record? v h.1
    obtain ⟨es, hes, hnames, hothers⟩ := exists_recordFields? rest h.2
    refine ⟨(k, r) :: es, ?_, ?_, ?_⟩
    · rw [recordFields?, hr, hes]
      rfl
    · rw [List.map_cons, List.map_cons, hnames]
    · rw [Record.entriesHaveDistinctKeys, hdistinct, hothers, Bool.and_self]

end

/-! ### Records of storable values -/

end Value
end RepoSurvey
