import Mathlib.Data.List.Perm.Basic
import RepoSurvey.Proofs.Number.DoubleArithmetic
import RepoSurvey.Velocity.Cohort

/-!
# The order of a cohort

* `Double.isSome_rank?_settle`: a settled double is a number.
* `Cohort.IsPeak`, `Cohort.isPeak_peak`: the peak of some numbers is one of them that none exceeds.
* `Cohort.normalize_eq`: every member is scored by its own value and the peak of the cohort.
* `Cohort.scoreUnder_peak_of_perm`: in another order the cohort has the same peak, or one that makes no difference.
* `Cohort.scored_of_perm`: the members of a cohort in another order keep their scores.
-/

namespace RepoSurvey

/-! ### Numbers -/

namespace Double

variable {x y : Float}

/-- A settled double is a number. -/
theorem isSome_rank?_settle (x : Float) : (rank? (Scalar.settle x)).isSome := by
  have hparts := parts_eq (x := x)
  by_cases hfinite : place x < infinitePlace
  · rw [if_pos hfinite] at hparts
    simp only [Scalar.settle, hparts]
    rw [rank?, if_pos hfinite.le]
    rfl
  · rw [if_neg hfinite] at hparts
    by_cases hinfinite : place x = infinitePlace
    · rw [if_pos hinfinite] at hparts
      cases hnegative : decide (pow2 63 ≤ x.toBits.toNat)
      · simp only [Scalar.settle, hparts, hnegative]
        decide +kernel
      · simp only [Scalar.settle, hparts, hnegative]
        decide +kernel
    · rw [if_neg hinfinite] at hparts
      simp only [Scalar.settle, hparts]
      decide +kernel

theorem le_refl_of_isSome (hx : (rank? x).isSome) : x ≤ x := by
  obtain ⟨r, hr⟩ := Option.isSome_iff_exists.mp hx
  exact (le_iff _ _).mpr ⟨r, r, hr, hr, le_rfl⟩

/-- The larger of two numbers is one of them, and none of them exceeds it. -/
theorem larger_spec (hx : (rank? x).isSome) (hy : (rank? y).isSome) :
    (Scalar.larger x y = x ∨ Scalar.larger x y = y) ∧ x ≤ Scalar.larger x y ∧ y ≤ Scalar.larger x y := by
  obtain ⟨r, hr⟩ := Option.isSome_iff_exists.mp hx
  obtain ⟨s, hs⟩ := Option.isSome_iff_exists.mp hy
  rw [Scalar.larger]
  by_cases hlt : Scalar.lt x y = true
  · rw [if_pos hlt]
    obtain ⟨r', s', hr', hs', hrs⟩ := (lt_iff _ _).mp (lt_eq_true.mp hlt)
    exact ⟨.inr rfl, (le_iff _ _).mpr ⟨r', s', hr', hs', hrs.le⟩, le_refl_of_isSome hy⟩
  · rw [if_neg hlt]
    have hsr : s ≤ r := by
      by_contra hless
      exact hlt (lt_eq_true.mpr ((lt_iff _ _).mpr ⟨r, s, hr, hs, Int.lt_of_not_ge hless⟩))
    exact ⟨.inl rfl, le_refl_of_isSome hx, (le_iff _ _).mpr ⟨s, r, hs, hr, hsr⟩⟩

theorem isSome_rank?_larger (hx : (rank? x).isSome) (hy : (rank? y).isSome) :
    (rank? (Scalar.larger x y)).isSome := by
  rcases (larger_spec hx hy).1 with h | h
  · rw [h]
    exact hx
  · rw [h]
    exact hy

end Double

namespace Cohort

open Double

/-! ### The peak -/

section Peak

variable {values values' : List Float} {top top' : Float}

/-- One of some numbers that none of them exceeds. -/
structure IsPeak (values : List Float) (top : Float) : Prop where
  mem : top ∈ values
  le : ∀ v ∈ values, v ≤ top

/-- The peak of the larger of two numbers and others is that of all of them. -/
theorem IsPeak.of_larger {x y : Float} {rest : List Float} (hx : (rank? x).isSome) (hy : (rank? y).isSome)
    (h : IsPeak (Scalar.larger x y :: rest) top) : IsPeak (x :: y :: rest) top := by
  obtain ⟨heither, hxle, hyle⟩ := larger_spec hx hy
  have hover := h.le _ List.mem_cons_self
  refine ⟨?_, ?_⟩
  · rcases List.mem_cons.mp h.mem with htop | hrest
    · rcases heither with hlarger | hlarger
      · rw [htop, hlarger]
        exact List.mem_cons_self
      · rw [htop, hlarger]
        exact List.mem_cons_of_mem _ List.mem_cons_self
    · exact List.mem_cons_of_mem _ (List.mem_cons_of_mem _ hrest)
  · refine List.forall_mem_cons.mpr ⟨Double.le_trans hxle hover, ?_⟩
    refine List.forall_mem_cons.mpr ⟨Double.le_trans hyle hover, ?_⟩
    exact fun v hv => h.le v (List.mem_cons_of_mem _ hv)

theorem isPeak_foldl (x : Float) (rest : List Float) (hx : (rank? x).isSome) (hrest : ∀ v ∈ rest, (rank? v).isSome) :
    IsPeak (x :: rest) (rest.foldl Scalar.larger x) := by
  -- By the values still to be read, with the largest one so far in front.
  induction rest generalizing x with
  | nil =>
    refine ⟨List.mem_cons_self, fun v hv => ?_⟩
    rw [List.mem_singleton.mp hv]
    exact le_refl_of_isSome hx
  | cons y rest ih =>
    obtain ⟨hy, hrest⟩ := List.forall_mem_cons.mp hrest
    exact .of_larger hx hy (ih (Scalar.larger x y) (isSome_rank?_larger hx hy) hrest)

theorem isPeak_peak (hne : values ≠ []) (hnumbers : ∀ v ∈ values, (rank? v).isSome) :
    IsPeak values (peak values) := by
  cases values with
  | nil => exact absurd rfl hne
  | cons x rest =>
    obtain ⟨hx, hrest⟩ := List.forall_mem_cons.mp hnumbers
    exact isPeak_foldl x rest hx hrest

/-- Peaks of one cohort have the same rank. -/
theorem IsPeak.rank?_eq (h : IsPeak values top) (h' : IsPeak values' top') (hperm : values.Perm values') :
    ∃ r, rank? top = some r ∧ rank? top' = some r := by
  obtain ⟨r, r', hr, hr', hrr'⟩ := (le_iff _ _).mp (h'.le top (hperm.mem_iff.mp h.mem))
  obtain ⟨s', s, hs', hs, hss'⟩ := (le_iff _ _).mp (h.le top' (hperm.mem_iff.mpr h'.mem))
  have hupper := Option.some.inj (hr'.symm.trans hs')
  have hlower := Option.some.inj (hr.symm.trans hs)
  have hsame : r = r' := by omega
  exact ⟨r, hr, hsame ▸ hr'⟩

end Peak

/-! ### Scores under a peak -/

section Scores

variable {α : Type} [Scalar α]

/-- A provisional score of a cohort with some peak, scaled down if the peak is too high. -/
def scaledUnder (top score : α) : α := if Scalar.lt maxScore top then score / top * maxScore else score

/-- The score of a value in a cohort whose provisional scores have some peak. -/
def scoreUnder (top reference referenceScore value : α) : α :=
  if Scalar.le reference Scalar.zero then Scalar.zero
  else finish (scaledUnder top (provisional reference referenceScore value))

/-- Every member is scored by its own value and the peak of the cohort. -/
theorem normalize_eq (values : List α) (reference referenceScore : α) :
    normalize values reference referenceScore =
      values.map (scoreUnder (peak (values.map (provisional reference referenceScore))) reference referenceScore) := by
  rw [normalize]
  by_cases hreference : Scalar.le reference Scalar.zero = true
  · rw [if_pos hreference]
    refine List.map_congr_left fun v _ => ?_
    rw [scoreUnder, if_pos hreference]
  · rw [if_neg hreference]
    generalize htop : peak (values.map (provisional reference referenceScore)) = top
    have hscaled : (if Scalar.lt maxScore top then
        (values.map (provisional reference referenceScore)).map fun x => x / top * maxScore
        else values.map (provisional reference referenceScore)) =
        (values.map (provisional reference referenceScore)).map (scaledUnder top) := by
      by_cases hover : Scalar.lt maxScore top = true
      · have hdown : scaledUnder top = fun score => score / top * maxScore := funext fun _ => if_pos hover
        rw [if_pos hover, hdown]
      · have hkept : scaledUnder top = id := funext fun _ => if_neg hover
        rw [if_neg hover, hkept, List.map_id]
    dsimp only
    rw [htop, hscaled, List.map_map, List.map_map]
    refine List.map_congr_left fun v _ => ?_
    rw [scoreUnder, if_neg hreference]
    rfl

end Scores

/-! ### Another order -/

section Order

variable {reference referenceScore : Float}

/-- Peaks of one rank scale alike: those above the greatest score are equal, and others are not looked at. -/
theorem scaledUnder_congr {top top' : Float} {r : Int} (h : rank? top = some r) (h' : rank? top' = some r)
    (score : Float) : scaledUnder top score = scaledUnder top' score := by
  obtain ⟨m, hmax, hpos⟩ : ∃ m : Int, rank? (maxScore : Float) = some m ∧ 0 ≤ m :=
    ⟨place (maxScore : Float), by decide +kernel, Int.natCast_nonneg _⟩
  have hover : ∀ t : Float, rank? t = some r → (Scalar.lt maxScore t = true ↔ m < r) := by
    intro t ht
    rw [lt_eq_true, lt_iff]
    constructor
    · rintro ⟨m', r', hm', hr', hlt⟩
      have hm := Option.some.inj (hmax.symm.trans hm')
      have hr := Option.some.inj (ht.symm.trans hr')
      omega
    · intro hlt
      exact ⟨m, r, hmax, ht, hlt⟩
  -- Only the zeros share a rank, and none of them is above the greatest score.
  by_cases hlt : m < r
  · rw [eq_of_rank? h h' (by omega)]
  · rw [scaledUnder, scaledUnder, if_neg fun hlow => hlt ((hover top h).mp hlow),
      if_neg fun hlow => hlt ((hover top' h').mp hlow)]

/-- In another order the cohort has the same peak, or one that makes no difference. -/
theorem scoreUnder_peak_of_perm {values values' : List Float} (hperm : values.Perm values') (value : Float) :
    scoreUnder (peak (values.map (provisional reference referenceScore))) reference referenceScore value =
      scoreUnder (peak (values'.map (provisional reference referenceScore))) reference referenceScore value := by
  have hnumbers : ∀ vs : List Float, ∀ p ∈ vs.map (provisional reference referenceScore), (rank? p).isSome := by
    intro vs p hp
    obtain ⟨v, -, rfl⟩ := List.mem_map.mp hp
    exact isSome_rank?_settle _
  have hscores := hperm.map (provisional reference referenceScore)
  by_cases hempty : values.map (provisional reference referenceScore) = []
  · rw [hempty] at hscores ⊢
    rw [List.nil_perm.mp hscores]
  · have hempty' : values'.map (provisional reference referenceScore) ≠ [] := by
      intro hnone
      rw [hnone] at hscores
      exact hempty hscores.eq_nil
    obtain ⟨r, hr, hr'⟩ := IsPeak.rank?_eq (isPeak_peak hempty (hnumbers values))
      (isPeak_peak hempty' (hnumbers values')) hscores
    rw [scoreUnder, scoreUnder, scaledUnder_congr hr hr']

variable {β : Type} {members members' : List β} {value : β → Float} {withScore : β → Float → β}

/-- The members of a cohort, each with its score. -/
def scored (members : List β) (value : β → Float) (withScore : β → Float → β) (reference referenceScore : Float) :
    List β :=
  members.zipWith withScore (normalize (members.map value) reference referenceScore)

theorem scored_eq : scored members value withScore reference referenceScore =
    members.map fun m => withScore m (scoreUnder
      (peak ((members.map value).map (provisional reference referenceScore))) reference referenceScore (value m)) := by
  rw [scored, normalize_eq, List.map_map, List.zipWith_map_right, List.zipWith_self]
  rfl

/-- The members of a cohort in another order keep their scores. -/
theorem scored_of_perm (hperm : members.Perm members') :
    (scored members value withScore reference referenceScore).Perm
      (scored members' value withScore reference referenceScore) := by
  rw [scored_eq, scored_eq]
  simp only [scoreUnder_peak_of_perm (hperm.map value)]
  exact hperm.map _

theorem map_scored {κ : Type} {key : β → κ} (hkey : ∀ m score, key (withScore m score) = key m) :
    (scored members value withScore reference referenceScore).map key = members.map key := by
  rw [scored_eq, List.map_map]
  exact List.map_congr_left fun m _ => hkey m _

end Order

end Cohort
end RepoSurvey
