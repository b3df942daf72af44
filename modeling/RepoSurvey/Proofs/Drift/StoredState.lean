import Mathlib.Tactic.MkIffOfInductiveProp
import RepoSurvey.Proofs.Time.Written
import RepoSurvey.Proofs.Value.RecordEquality
import RepoSurvey.Proofs.Value.Storable

/-!
# Stored snapshots and events

The record of a snapshot or of an event tells everything about it. Records that are equal as data belong to snapshots
that are alike in everything, their numbers up to what these amount to, and to one and the same event.

* `Snapshot.Alike`: snapshots that are alike but for a way of their own to compare numbers.
* `related_snapshot`, `related_event`: what it takes for records to be equal.
* `Snapshot.Alike.same`: snapshots that are alike are equal values.
* `equal_records_iff`: for all snapshots and events.
-/

namespace RepoSurvey

open Value

/-! ### Parts of records -/

section Parts

variable {τ : Type} {R : Record → Record → Prop} {N : Float → Float → Prop} (hR : Record.IsEquality R N)
include hR

theorem related_string {a b : String} : Related R (value a) (value b) ↔ a = b :=
  Iff.trans (related_iff rfl rfl) hR.text

theorem related_int {m n : Int} : Related R (value m) (value n) ↔ m = n := Iff.trans (related_iff rfl rfl) hR.int

theorem related_nat {m n : Nat} : Related R (value m) (value n) ↔ m = n :=
  Iff.trans (related_iff rfl rfl) (hR.int.trans Int.ofNat_inj)

theorem related_float {x y : Float} : Related R (value x) (value y) ↔ N x y :=
  Iff.trans (related_iff rfl rfl) hR.number

theorem related_moment {m m' : Moment} : Related R (value m) (value m') ↔ m = m' :=
  Iff.trans (related_iff rfl rfl) (hR.text.trans Moment.text_injective.eq_iff)

theorem related_member [Enumeration τ] (hname : Function.Injective (Enumeration.name : τ → String)) {a b : τ} :
    Related R (value a) (value b) ↔ a = b :=
  Iff.trans (related_iff rfl rfl) (hR.text.trans hname.eq_iff)

/-- A text that is left out differs from every text. -/
theorem related_optional {a b : Option String} : Related R (value a) (value b) ↔ a = b := by
  cases a with
  | none =>
    cases b with
    | none => exact iff_of_true ⟨_, _, rfl, rfl, hR.none⟩ rfl
    | some b =>
      refine iff_of_false ?_ nofun
      rintro ⟨_, _, ⟨⟩, ⟨⟩, h⟩
      exact hR.none_text h
  | some a =>
    cases b with
    | none =>
      refine iff_of_false ?_ nofun
      rintro ⟨_, _, ⟨⟩, ⟨⟩, h⟩
      exact hR.text_none h
    | some b => exact (related_string hR).trans (Option.some_inj).symm

theorem related_list [ToValue τ] {xs ys : List τ} :
    Related R (value xs) (value ys) ↔ List.Forall₂ (fun x y => Related R (value x) (value y)) xs ys := by
  refine (related_tuple hR).trans ?_
  rw [List.forall₂_map_left_iff, List.forall₂_map_right_iff]

end Parts

/-! ### Snapshots -/

section Alike

variable (N : Float → Float → Prop)

@[mk_iff]
structure Decision.Alike (d d' : Decision Float) : Prop where
  id : d.id = d'.id
  title : d.title = d'.title
  confidence : N d.confidence d'.confidence

@[mk_iff]
structure DependencyStats.Alike (s s' : DependencyStats Float) : Prop where
  modules : s.modules = s'.modules
  cycles : s.cycles = s'.cycles
  coupling : N s.coupling s'.coupling
  instability : N s.instability s'.instability
  distance : N s.distance s'.distance

/-- Snapshots that are alike in everything; their moments are written alike. -/
@[mk_iff]
structure Snapshot.Alike (s t : Snapshot Float) : Prop where
  id : s.id = t.id
  repository : s.repository = t.repository
  commit : s.commit = t.commit
  driftScore : N s.driftScore t.driftScore
  decisions : List.Forall₂ (Decision.Alike N) s.decisions t.decisions
  violations : s.violations = t.violations
  stats : DependencyStats.Alike N s.stats t.stats
  createdAt : s.createdAt = t.createdAt

end Alike

/-- Different types of events have different names, and so have different severities. -/
theorem eventNames_injective : Function.Injective (Enumeration.name : DriftEventType → String) := by
  intro a b h
  cases a <;> cases b <;> first | rfl | exact absurd h (by decide)

theorem severityNames_injective : Function.Injective (Enumeration.name : Severity → String) := by
  intro a b h
  cases a <;> cases b <;> first | rfl | exact absurd h (by decide)

section Records

variable {R : Record → Record → Prop} {N : Float → Float → Prop} (hR : Record.IsEquality R N)
include hR

theorem related_decision {d d' : Decision Float} : Related R (value d) (value d') ↔ d.Alike N d' := by
  refine Iff.trans (related_record hR rfl (by simp)) ?_
  simp only [List.append_nil, List.forall₂_cons, List.forall₂_nil_left_iff, and_true, related_string hR,
    related_float hR, Decision.alike_iff]

theorem related_stats {s s' : DependencyStats Float} : Related R (value s) (value s') ↔ s.Alike N s' := by
  refine Iff.trans (related_record hR rfl (by simp)) ?_
  simp only [List.append_nil, List.forall₂_cons, List.forall₂_nil_left_iff, and_true, related_int hR,
    related_float hR, DependencyStats.alike_iff]

/-- **The record of a snapshot** tells it; the number of decisions is told twice. -/
theorem related_snapshot {s t : Snapshot Float} : Related R (value s) (value t) ↔ s.Alike N t := by
  refine Iff.trans (related_record hR rfl (by simp)) ?_
  simp only [List.cons_append, List.nil_append, List.forall₂_cons, List.forall₂_nil_left_iff, and_true,
    related_string hR, related_float hR, related_list hR, related_decision hR, related_int hR, related_stats hR,
    related_moment hR, related_nat hR]
  constructor
  · rintro ⟨hid, hrepository, hcommit, hdrift, hdecisions, hviolations, hstats, hcreated, -⟩
    exact ⟨hid, hrepository, hcommit, hdrift, hdecisions, hviolations, hstats, hcreated⟩
  · rintro ⟨hid, hrepository, hcommit, hdrift, hdecisions, hviolations, hstats, hcreated⟩
    exact ⟨hid, hrepository, hcommit, hdrift, hdecisions, hviolations, hstats, hcreated, hdecisions.length_eq⟩

theorem related_event {e e' : DriftEvent} : Related R (value e) (value e') ↔ e = e' := by
  refine Iff.trans (related_record hR rfl (by simp)) ?_
  simp only [List.append_nil, List.forall₂_cons, List.forall₂_nil_left_iff, and_true, related_string hR,
    related_member hR eventNames_injective, related_member hR severityNames_injective, related_moment hR,
    related_optional hR]
  constructor
  · rintro ⟨hid, hrepository, htype, hseverity, hdescription, hdetected, hsnapshot, hdecision⟩
    cases e
    cases e'
    simp_all
  · rintro rfl
    simp

end Records

/-! ### Snapshots that are alike -/

section Alike

theorem Decision.alike_eq : Decision.Alike Eq = Eq := by
  funext d d'
  cases d
  cases d'
  simp [Decision.alike_iff]

theorem DependencyStats.alike_eq : DependencyStats.Alike Eq = Eq := by
  funext s s'
  cases s
  cases s'
  simp [DependencyStats.alike_iff]

/-- Snapshots that are alike down to their numbers are one snapshot. -/
theorem Snapshot.alike_eq : Snapshot.Alike Eq = Eq := by
  funext s t
  cases s
  cases t
  simp [Snapshot.alike_iff, Decision.alike_eq, DependencyStats.alike_eq, List.forall₂_eq_eq_eq]

end Alike

/-! ### Equal values -/

namespace Value

/-- Two values are equal if they share a text. -/
def Identical (v w : Value) : Prop := ∃ shared, v.identity? = some shared ∧ w.identity? = some shared

variable {v w : Value}

theorem Identical.same (h : Identical v w) : same v w = true := by
  obtain ⟨shared, hv, hw⟩ := h
  rw [Value.same, hv, hw]
  exact beq_self_eq_true shared

theorem identities?_of_identical {vs ws : List Value} (h : List.Forall₂ Identical vs ws) :
    ∃ ids, identities? vs = some ids ∧ identities? ws = some ids := by
  induction h with
  | nil => exact ⟨[], rfl, rfl⟩
  | cons hhead _ ih =>
    obtain ⟨shared, hv, hw⟩ := hhead
    obtain ⟨ids, hvs, hws⟩ := ih
    exact ⟨shared :: ids, by rw [identities?, hv, hvs]; rfl, by rw [identities?, hw, hws]; rfl⟩

theorem fieldIdentities?_of_identical {fs gs : List (String × Value)}
    (h : List.Forall₂ (fun f g => Identical f.2 g.2) fs gs) :
    ∃ ids, fieldIdentities? fs = some ids ∧ fieldIdentities? gs = some ids := by
  induction h with
  | nil => exact ⟨[], rfl, rfl⟩
  | @cons f g _ _ hhead _ ih =>
    obtain ⟨shared, hv, hw⟩ := hhead
    obtain ⟨ids, hvs, hws⟩ := ih
    obtain ⟨k, v⟩ := f
    obtain ⟨k', w⟩ := g
    exact ⟨shared :: ids, by rw [fieldIdentities?, hv, hvs]; rfl, by rw [fieldIdentities?, hw, hws]; rfl⟩

theorem identical_tuple {vs ws : List Value} (h : List.Forall₂ Identical vs ws) :
    Identical (tuple vs) (tuple ws) := by
  obtain ⟨ids, hvs, hws⟩ := identities?_of_identical h
  exact ⟨bundle "u" ids, by rw [identity?, hvs]; rfl, by rw [identity?, hws]; rfl⟩

/-- Structures of one type are equal if their fields are. -/
theorem identical_record {type : String} {fs gs ds es : List (String × Value)}
    (h : List.Forall₂ (fun f g => Identical f.2 g.2) fs gs) :
    Identical (record type fs ds) (record type gs es) := by
  obtain ⟨ids, hvs, hws⟩ := fieldIdentities?_of_identical h
  exact ⟨bundle ("r" ++ type) ids, by rw [identity?, hvs]; rfl, by rw [identity?, hws]; rfl⟩

theorem numberIdentity?_eq (x : Float) : numberIdentity? x =
    (Double.quantity? x).map (Sum.elim rationalIdentity fun negative => if negative then "n-" else "n+") := by
  rw [numberIdentity?, Double.quantity?]
  cases Scalar.toRat? x with
  | some q => rfl
  | none =>
    show (if Scalar.isNumber x then _ else _) = Option.map _ (if Scalar.isNumber x then _ else _)
    split <;> rfl

theorem identical_number {x y : Float} (h : Double.SameQuantity x y) : Identical (number x) (number y) := by
  obtain ⟨q, hx, hy⟩ := h
  exact ⟨_, by rw [identity?, numberIdentity?_eq, hx]; rfl, by rw [identity?, numberIdentity?_eq, hy]; rfl⟩

end Value

/-- Snapshots that are alike, their numbers up to what these amount to, are equal values. -/
theorem Snapshot.Alike.same {s t : Snapshot Float} (h : s.Alike Double.SameQuantity t) :
    Value.same (value s) (value t) = true := by
  have htext : ∀ {a b : String}, a = b → Identical (value a) (value b) := by
    rintro a b rfl
    exact ⟨_, rfl, rfl⟩
  have hwhole : ∀ {m n : Int}, m = n → Identical (value m) (value n) := by
    rintro m n rfl
    exact ⟨_, rfl, rfl⟩
  have hmoment : ∀ {m m' : Moment}, m = m' → Identical (value m) (value m') := by
    rintro m m' rfl
    exact ⟨_, rfl, rfl⟩
  have hdecision : ∀ {d d' : Decision Float}, d.Alike Double.SameQuantity d' → Identical (value d) (value d') := by
    refine fun hd => identical_record ?_
    simp only [List.forall₂_cons, List.forall₂_nil_left_iff, and_true]
    exact ⟨htext hd.id, htext hd.title, identical_number hd.confidence⟩
  have hdecisions : Identical (value s.decisions) (value t.decisions) := by
    refine identical_tuple ?_
    rw [List.forall₂_map_left_iff, List.forall₂_map_right_iff]
    exact h.decisions.imp fun _ _ => hdecision
  have hstats : Identical (value s.stats) (value t.stats) := by
    refine identical_record ?_
    simp only [List.forall₂_cons, List.forall₂_nil_left_iff, and_true]
    exact ⟨hwhole h.stats.modules, hwhole h.stats.cycles, identical_number h.stats.coupling,
      identical_number h.stats.instability, identical_number h.stats.distance⟩
  refine Identical.same (identical_record ?_)
  simp only [List.forall₂_cons, List.forall₂_nil_left_iff, and_true]
  exact ⟨htext h.id, htext h.repository, htext h.commit, identical_number h.driftScore, hdecisions,
    hwhole h.violations, hstats, hmoment h.createdAt⟩

/-! ### What is stored -/

end RepoSurvey
