import Mathlib.Data.List.Forall2
import RepoSurvey.Proofs.Failing
import RepoSurvey.Proofs.LookUp
import RepoSurvey.Value.Record

/-!
# Equal records

Plain data is equal as data: numbers by what they amount to, across kinds, and tables whatever the order of their keys.
What it takes for the records of two values to be equal is read off the values, part by part.

* `Record.Equal`: plain data that is equal.
* `Record.IsEquality`: the rules of such a relation, which both `Record.Equal` and identity obey.
* `Value.Related`: two values whose records are related.
* `Value.related_tuple`, `Value.related_record`: tuples are related item by item, structures field by field.
-/

namespace RepoSurvey

/-! ### Lists side by side -/

section Lists

variable {α β γ δ : Type} {P : α → γ → Prop} {Q : β → δ → Prop} {R : γ → δ → Prop} {as : List α} {bs : List β}

/-- Two lists that are related through two others are related item by item. -/
theorem exists_forall₂_iff :
    (∃ cs ds, List.Forall₂ P as cs ∧ List.Forall₂ Q bs ds ∧ List.Forall₂ R cs ds) ↔
      List.Forall₂ (fun a b => ∃ c d, P a c ∧ Q b d ∧ R c d) as bs := by
  constructor
  · rintro ⟨cs, ds, has, hbs, hcs⟩
    induction hcs generalizing as bs with
    | nil =>
      cases has
      cases hbs
      exact .nil
    | cons hhead _ ih =>
      cases has with
      | cons ha has =>
        cases hbs with
        | cons hb hbs => exact .cons ⟨_, _, ha, hb, hhead⟩ (ih has hbs)
  · intro h
    induction h with
    | nil => exact ⟨[], [], .nil, .nil, .nil⟩
    | cons hhead _ ih =>
      obtain ⟨c, d, ha, hb, hcd⟩ := hhead
      obtain ⟨cs, ds, has, hbs, hcs⟩ := ih
      exact ⟨c :: cs, d :: ds, .cons ha has, .cons hb hbs, .cons hcd hcs⟩

end Lists

/-! ### Plain data -/

/-- What a double amounts to: a rational, or an infinity with its sign. -/
def Double.quantity? (x : Float) : Option (Rat ⊕ Bool) :=
  match Scalar.toRat? x with
  | some q => some (.inl q)
  | none => if Scalar.isNumber x then some (.inr (Scalar.negative x)) else none

/-- Doubles that amount to the same; both zeros do, and what is no number amounts to nothing. -/
def Double.SameQuantity (x y : Float) : Prop := ∃ q, quantity? x = some q ∧ quantity? y = some q

namespace Record

/-- What plain data amounts to if it is a number, as truth values are. -/
def quantity? : Record → Option (Rat ⊕ Bool)
  | bool b => some (.inl (if b then 1 else 0))
  | int n => some (.inl n)
  | number x => Double.quantity? x
  | _ => Option.none

mutual

/-- Plain data that is equal: numbers amount to the same, lists are equal item by item, and tables have equal data under
the same keys. -/
def Equal : Record → Record → Prop
  | none, other => other = none
  | text s, other => other = text s
  | bool b, other => ∃ q, quantity? (bool b) = some q ∧ other.quantity? = some q
  | int n, other => ∃ q, quantity? (int n) = some q ∧ other.quantity? = some q
  | number x, other => ∃ q, quantity? (number x) = some q ∧ other.quantity? = some q
  | list items, other => ∃ items', other = list items' ∧ AllEqual items items'
  | mapping entries, other =>
    ∃ entries', other = mapping entries' ∧ entries.length = entries'.length ∧ EqualIn entries' entries

def AllEqual : List Record → List Record → Prop
  | [], others => others = []
  | r :: rest, others => ∃ r' rest', others = r' :: rest' ∧ Equal r r' ∧ AllEqual rest rest'

/-- Every entry has equal data under its key in a table. -/
def EqualIn (table : List (String × Record)) : List (String × Record) → Prop
  | [] => True
  | (k, r) :: rest => (∃ r', Table.get? table k = some r' ∧ Equal r r') ∧ EqualIn table rest

end

theorem allEqual_iff {items items' : List Record} : AllEqual items items' ↔ List.Forall₂ Equal items items' := by
  induction items generalizing items' with
  | nil => rw [AllEqual, List.forall₂_nil_left_iff]
  | cons r rest ih =>
    rw [AllEqual, List.forall₂_cons_left_iff]
    constructor
    · rintro ⟨r', rest', rfl, hr, hrest⟩
      exact ⟨r', rest', hr, ih.mp hrest, rfl⟩
    · rintro ⟨r', rest', hr, hrest, rfl⟩
      exact ⟨r', rest', rfl, hr, ih.mpr hrest⟩

/-- Entries that stand in a table in the same order are looked up there. -/
theorem equalIn_iff {table : List (String × Record)} (hnodup : (table.map (·.1)).Nodup) {es fs : List (String × Record)}
    (hkeys : es.map (·.1) = fs.map (·.1)) (hmem : ∀ f ∈ fs, f ∈ table) :
    EqualIn table es ↔ List.Forall₂ (fun e f => Equal e.2 f.2) es fs := by
  induction es generalizing fs with
  | nil =>
    rw [List.map_nil, eq_comm, List.map_eq_nil_iff] at hkeys
    rw [hkeys]
    exact iff_of_true trivial .nil
  | cons e rest ih =>
    obtain ⟨f, fs, rfl⟩ : ∃ f fs', fs = f :: fs' := List.exists_cons_of_ne_nil (by rintro rfl; cases hkeys)
    obtain ⟨hkey, hrest⟩ : e.1 = f.1 ∧ _ := List.cons.inj hkeys
    have hfound : Table.get? table e.1 = some f.2 :=
      (Table.get?_eq_some hnodup).mpr (hkey ▸ hmem f List.mem_cons_self)
    rw [EqualIn, hfound, List.forall₂_cons, ih hrest fun f' hf' => hmem f' (List.mem_cons_of_mem f hf')]
    simp only [Option.some.injEq, exists_eq_left']

/-- The rules of an equality of plain data that compares numbers in a way of its own. -/
structure IsEquality (R : Record → Record → Prop) (sameNumber : Float → Float → Prop) : Prop where
  none : R .none .none
  none_text : ∀ {s}, ¬ R .none (.text s)
  text_none : ∀ {s}, ¬ R (.text s) .none
  text : ∀ {s s'}, R (.text s) (.text s') ↔ s = s'
  int : ∀ {n n'}, R (.int n) (.int n') ↔ n = n'
  number : ∀ {x x'}, R (.number x) (.number x') ↔ sameNumber x x'
  list : ∀ {items items'}, R (.list items) (.list items') ↔ List.Forall₂ R items items'
  mapping : ∀ {entries entries' : List (String × Record)}, entries.map (·.1) = entries'.map (·.1) →
    (entries'.map (·.1)).Nodup →
    (R (.mapping entries) (.mapping entries') ↔ List.Forall₂ (fun e e' => R e.2 e'.2) entries entries')

theorem isEquality_equal : IsEquality Equal Double.SameQuantity where
  none := by rw [Equal]
  none_text {s} := by
    rw [Equal]
    exact nofun
  text_none {s} := by
    rw [Equal]
    exact nofun
  text {s s'} := by rw [Equal, Record.text.injEq, eq_comm]
  int {n n'} := by
    rw [Equal]
    simp [quantity?, eq_comm]
  number {x x'} := by
    rw [Equal]
    rfl
  list {items items'} := by
    rw [Equal, ← allEqual_iff]
    simp
  mapping {entries entries'} hkeys hnodup := by
    have hlength : entries.length = entries'.length := by simpa using congrArg List.length hkeys
    rw [Equal, ← equalIn_iff hnodup hkeys fun _ => id]
    simp [hlength]

theorem isEquality_eq : IsEquality Eq Eq where
  none := rfl
  none_text {s} := nofun
  text_none {s} := nofun
  text {s s'} := by rw [Record.text.injEq]
  int {n n'} := by rw [Record.int.injEq]
  number {x x'} := by rw [Record.number.injEq]
  list {items items'} := by rw [Record.list.injEq, List.forall₂_eq_eq_eq]
  mapping {entries entries'} hkeys _ := by
    rw [Record.mapping.injEq]
    constructor
    · rintro rfl
      exact List.forall₂_same.mpr fun _ _ => rfl
    · intro h
      have hvalues : entries.map (·.2) = entries'.map (·.2) := by
        rwa [← List.forall₂_eq_eq_eq, List.forall₂_map_left_iff, List.forall₂_map_right_iff]
      rw [List.zip_of_prod hkeys hvalues, ← List.zip_of_prod rfl rfl]

end Record

/-! ### Values whose records are related -/

namespace Value

def HasRecord (v : Value) (r : Record) : Prop := v.record? = .ok r

/-- Both values have records, and these are related. -/
def Related (R : Record → Record → Prop) (v w : Value) : Prop := ∃ r s, v.HasRecord r ∧ w.HasRecord s ∧ R r s

section Parts

variable {R : Record → Record → Prop} {N : Float → Float → Prop}

theorem records?_eq_ok {items : List Value} {rs : List Record} :
    records? items = .ok rs ↔ List.Forall₂ HasRecord items rs := by
  induction items generalizing rs with
  | nil =>
    rw [records?, List.forall₂_nil_left_iff, Except.ok.injEq, eq_comm]
  | cons v rest ih =>
    rw [records?, List.forall₂_cons_left_iff]
    simp only [bind_eq_ok, ih]
    constructor
    · rintro ⟨r, hr, rest', hrest, h⟩
      exact ⟨r, rest', hr, hrest, (Except.ok.inj h).symm⟩
    · rintro ⟨r, rest', hr, hrest, rfl⟩
      exact ⟨r, hr, rest', hrest, rfl⟩

/-- An entry of a record belongs to a field of the value. -/
def IsEntryOf (f : String × Value) (e : String × Record) : Prop := f.1 = e.1 ∧ f.2.HasRecord e.2

theorem recordFields?_eq_ok {fields : List (String × Value)} {rs : List (String × Record)} :
    recordFields? fields = .ok rs ↔ List.Forall₂ IsEntryOf fields rs := by
  induction fields generalizing rs with
  | nil =>
    rw [recordFields?, List.forall₂_nil_left_iff, Except.ok.injEq, eq_comm]
  | cons f rest ih =>
    obtain ⟨k, v⟩ := f
    rw [recordFields?, List.forall₂_cons_left_iff]
    simp only [bind_eq_ok, ih]
    constructor
    · rintro ⟨r, hr, rest', hrest, h⟩
      exact ⟨(k, r), rest', ⟨rfl, hr⟩, hrest, (Except.ok.inj h).symm⟩
    · rintro ⟨⟨k', r⟩, rest', ⟨rfl, hr⟩, hrest, rfl⟩
      exact ⟨r, hr, rest', hrest, rfl⟩

/-- A structure's record has the entries of its fields and then the derived ones. -/
theorem hasRecord_record {type : String} {fields derived : List (String × Value)} {r : Record} :
    (record type fields derived).HasRecord r ↔
      ∃ rs, List.Forall₂ IsEntryOf (fields ++ derived) rs ∧ .mapping rs = r := by
  rw [HasRecord, record?]
  simp only [bind_eq_ok, recordFields?_eq_ok]
  constructor
  · rintro ⟨own, hown, more, hmore, h⟩
    exact ⟨own ++ more, List.rel_append hown hmore, Except.ok.inj h⟩
  · rintro ⟨rs, hrs, rfl⟩
    refine ⟨rs.take fields.length, ?_, rs.drop fields.length, ?_, ?_⟩
    · simpa using List.forall₂_take fields.length hrs
    · simpa using List.forall₂_drop fields.length hrs
    · rw [List.take_append_drop]
      rfl

theorem hasRecord_tuple {items : List Value} {r : Record} :
    (tuple items).HasRecord r ↔ ∃ rs, List.Forall₂ HasRecord items rs ∧ .list rs = r := by
  rw [HasRecord, record?]
  simp only [bind_eq_ok, records?_eq_ok]
  exact exists_congr fun rs => and_congr_right fun _ => ⟨Except.ok.inj, congrArg Except.ok⟩

theorem related_iff {v w : Value} {r s : Record} (hv : v.HasRecord r) (hw : w.HasRecord s) :
    Related R v w ↔ R r s := by
  constructor
  · rintro ⟨r', s', hr, hs, h⟩
    rwa [Except.ok.inj (hv.symm.trans hr), Except.ok.inj (hw.symm.trans hs)]
  · exact fun h => ⟨r, s, hv, hw, h⟩

variable (hR : Record.IsEquality R N)
include hR

/-- Tuples are related item by item. -/
theorem related_tuple {vs ws : List Value} : Related R (tuple vs) (tuple ws) ↔ List.Forall₂ (Related R) vs ws := by
  refine Iff.trans ?_ (exists_forall₂_iff (P := HasRecord) (Q := HasRecord) (R := R))
  constructor
  · rintro ⟨r, s, hr, hs, h⟩
    obtain ⟨rs, hrs, rfl⟩ := hasRecord_tuple.mp hr
    obtain ⟨ss, hss, rfl⟩ := hasRecord_tuple.mp hs
    exact ⟨rs, ss, hrs, hss, hR.list.mp h⟩
  · rintro ⟨rs, ss, hrs, hss, h⟩
    exact ⟨_, _, hasRecord_tuple.mpr ⟨rs, hrs, rfl⟩, hasRecord_tuple.mpr ⟨ss, hss, rfl⟩, hR.list.mpr h⟩

/-- Structures with the same different names are related field by field, derived entries included. -/
theorem related_record {type type' : String} {fields derived fields' derived' : List (String × Value)}
    (hnames : (fields ++ derived).map (·.1) = (fields' ++ derived').map (·.1))
    (hnodup : ((fields' ++ derived').map (·.1)).Nodup) :
    Related R (record type fields derived) (record type' fields' derived') ↔
      List.Forall₂ (fun f f' => Related R f.2 f'.2) (fields ++ derived) (fields' ++ derived') := by
  have hkeys : ∀ {fs : List (String × Value)} {rs}, List.Forall₂ IsEntryOf fs rs → fs.map (·.1) = rs.map (·.1) := by
    intro fs rs h
    rw [← List.forall₂_eq_eq_eq, List.forall₂_map_left_iff, List.forall₂_map_right_iff]
    exact h.imp fun _ _ hentry => hentry.1
  have hparts : (fun f f' : String × Value => Related R f.2 f'.2) =
      fun f f' => ∃ e e', IsEntryOf f e ∧ IsEntryOf f' e' ∧ R e.2 e'.2 := by
    funext f f'
    refine propext ⟨?_, fun ⟨e, e', he, he', h⟩ => ⟨e.2, e'.2, he.2, he'.2, h⟩⟩
    exact fun ⟨r, s, hr, hs, h⟩ => ⟨(f.1, r), (f'.1, s), ⟨rfl, hr⟩, ⟨rfl, hs⟩, h⟩
  rw [hparts, ← exists_forall₂_iff]
  constructor
  · rintro ⟨r, s, hr, hs, h⟩
    obtain ⟨rs, hrs, rfl⟩ := hasRecord_record.mp hr
    obtain ⟨ss, hss, rfl⟩ := hasRecord_record.mp hs
    refine ⟨rs, ss, hrs, hss, (hR.mapping ?_ ?_).mp h⟩
    · rw [← hkeys hrs, hnames, hkeys hss]
    · rwa [← hkeys hss]
  · rintro ⟨rs, ss, hrs, hss, h⟩
    refine ⟨_, _, hasRecord_record.mpr ⟨rs, hrs, rfl⟩, hasRecord_record.mpr ⟨ss, hss, rfl⟩,
      (hR.mapping ?_ ?_).mpr h⟩
    · rw [← hkeys hrs, hnames, hkeys hss]
    · rwa [← hkeys hss]

end Parts

end Value

end RepoSurvey
