import RepoSurvey.Drift.Detection
import RepoSurvey.Proofs.Drift.StructureFindings
import RepoSurvey.Proofs.Drift.Thresholds
import RepoSurvey.Proofs.Number.DoubleArithmetic

/-!
# The drift score of a worse architecture

Two states that differ in the number of violations and of cycles only are compared with the same snapshot.

* `Dominated`: sums of weights in their order, whatever they begin with.
* `Finding.dominated_ofStructure`: with more violations and cycles no structural finding gets less severe or lost.
* `DriftResult.rawScore_mono`: the sum under the score does not fall if the weights rise with the severity.
* `DriftResult.detect_mono`: neither does the score.
-/

namespace RepoSurvey

/-! ### Sums of weights -/

section Sums

variable {ws ws' us us' : List Float} {w w' : Float}

/-- Added to what is not less, the weights of the second list make no lesser sum. -/
def Dominated (ws ws' : List Float) : Prop :=
  -- Sums of doubles depend on the order of their summands, so that the sum so far is part of the comparison.
  ∀ a a', Double.ofRat 0 ≤ a → a ≤ a' →
    Double.ofRat 0 ≤ ws.foldl (· + ·) a ∧ ws.foldl (· + ·) a ≤ ws'.foldl (· + ·) a'

namespace Dominated

theorem nil : Dominated [] [] := fun _ _ ha haa' => ⟨ha, haa'⟩

theorem append (h : Dominated ws ws') (h' : Dominated us us') : Dominated (ws ++ us) (ws' ++ us') := by
  intro a a' ha haa'
  obtain ⟨hws, hle⟩ := h a a' ha haa'
  rw [List.foldl_append, List.foldl_append]
  exact h' _ _ hws hle

theorem single (hw : Double.ofRat 0 ≤ w) (hww' : w ≤ w') : Dominated [w] [w'] :=
  fun _ _ ha haa' => Double.add_mono ha haa' hw hww'

theorem added (hw : Double.ofRat 0 ≤ w) : Dominated [] [w] := by
  intro a a' ha haa'
  obtain ⟨hsum, -⟩ := Double.le_add (Double.le_trans ha haa') hw
  exact ⟨ha, Double.le_trans haa' hsum⟩

theorem of_nonneg (h : ∀ w ∈ ws, Double.ofRat 0 ≤ w) : Dominated ws ws := by
  induction ws with
  | nil => exact nil
  | cons w rest ih =>
    have hw := h w List.mem_cons_self
    have hrest := ih fun u hu => h u (List.mem_cons_of_mem w hu)
    show Dominated ([w] ++ rest) ([w] ++ rest)
    exact append (single hw (Double.le_refl_of_zero_le hw)) hrest

theorem sum (h : Dominated ws ws') : Double.ofRat 0 ≤ Scalar.sum ws ∧ Scalar.sum ws ≤ Scalar.sum ws' := by
  have hzero : (Scalar.zero : Float) = Double.ofRat 0 := rfl
  rw [Scalar.sum, Scalar.sum, hzero]
  exact h _ _ (Double.ofRat_mono le_rfl) (Double.ofRat_mono le_rfl)

end Dominated

end Sums

/-! ### Weights -/

namespace DriftThresholds

variable {t : DriftThresholds Int Float}

/-- The weights rise with the severity. -/
def IsOrdered (t : DriftThresholds Int Float) : Prop := t.lowWeight ≤ t.mediumWeight ∧ t.mediumWeight ≤ t.highWeight

theorem AllFinite.severityWeight (h : t.AllFinite) (s : Severity) : (Scalar.toRat? (severityWeight t s)).isSome := by
  cases s with
  | high => exact h ("high_severity_weight", (Scalar.toRat? t.highWeight).isSome) (by simp [entries])
  | medium => exact h ("medium_severity_weight", (Scalar.toRat? t.mediumWeight).isSome) (by simp [entries])
  | low => exact h ("low_severity_weight", (Scalar.toRat? t.lowWeight).isSome) (by simp [entries])

theorem AllFinite.spikeRatio (h : t.AllFinite) : (Scalar.toRat? t.spikeRatio).isSome :=
  h ("violation_spike_ratio", (Scalar.toRat? t.spikeRatio).isSome) (by simp [entries])

theorem AllFinite.maxScore (h : t.AllFinite) : (Scalar.toRat? t.maxScore).isSome :=
  h ("max_score", (Scalar.toRat? t.maxScore).isSome) (by simp [entries])

theorem AllFinite.lostDecisionPenalty (h : t.AllFinite) : (Scalar.toRat? t.lostDecisionPenalty).isSome :=
  h ("lost_decision_penalty", (Scalar.toRat? t.lostDecisionPenalty).isSome) (by simp [entries])

theorem AllFinite.violationWeight (h : t.AllFinite) : (Scalar.toRat? t.violationWeight).isSome :=
  h ("violation_weight", (Scalar.toRat? t.violationWeight).isSome) (by simp [entries])

theorem AllFinite.cycleWeight (h : t.AllFinite) : (Scalar.toRat? t.cycleWeight).isSome :=
  h ("cycle_weight", (Scalar.toRat? t.cycleWeight).isSome) (by simp [entries])

theorem zero_le_severityWeight (ht : t.check = .ok ()) (hfinite : t.AllFinite) (s : Severity) :
    Double.ofRat 0 ≤ severityWeight t s := by
  have haccepted := t.check_eq_ok.mp ht
  have hs := hfinite.severityWeight s
  cases s with
  | high => exact Double.zero_le_of_not_lt hs haccepted.highWeight
  | medium => exact Double.zero_le_of_not_lt hs haccepted.mediumWeight
  | low => exact Double.zero_le_of_not_lt hs haccepted.lowWeight

theorem severityWeight_mono (ht : t.check = .ok ()) (hfinite : t.AllFinite) (hordered : t.IsOrdered) {s s' : Severity}
    (h : s'.rank ≤ s.rank) : severityWeight t s ≤ severityWeight t s' := by
  have hself := fun s => Double.le_refl_of_zero_le (zero_le_severityWeight ht hfinite s)
  obtain ⟨hlow, hmedium⟩ := hordered
  cases s with
  | high =>
    cases s' with
    | high => exact hself .high
    | medium => exact absurd h (by decide)
    | low => exact absurd h (by decide)
  | medium =>
    cases s' with
    | high => exact hmedium
    | medium => exact hself .medium
    | low => exact absurd h (by decide)
  | low =>
    cases s' with
    | high => exact Double.le_trans hlow hmedium
    | medium => exact hlow
    | low => exact hself .low

end DriftThresholds

/-! ### Structural findings of a worse state -/

namespace Finding

variable {t : DriftThresholds Int Float} {before : Snapshot Float} {stats : DependencyStats Float}

/-- The weights of some findings. -/
def weights (t : DriftThresholds Int Float) (fs : List Finding) : List Float :=
  fs.map fun f => severityWeight t f.severity

theorem dominated_weights (ht : t.check = .ok ()) (hfinite : t.AllFinite) (fs : List Finding) :
    Dominated (weights t fs) (weights t fs) := by
  refine .of_nonneg fun w hw => ?_
  obtain ⟨f, -, rfl⟩ := List.mem_map.mp hw
  exact DriftThresholds.zero_le_severityWeight ht hfinite f.severity

/-- A finding that stays, if there is one, and is not less severe. -/
def Worsens (o o' : Option Finding) : Prop :=
  ∀ f, o = some f → ∃ f', o' = some f' ∧ f'.severity.rank ≤ f.severity.rank

theorem Worsens.refl (o : Option Finding) : Worsens o o := fun f hf => ⟨f, hf, le_rfl⟩

theorem Worsens.dominated (ht : t.check = .ok ()) (hfinite : t.AllFinite) (hordered : t.IsOrdered)
    {o o' : Option Finding} (h : Worsens o o') : Dominated (weights t o.toList) (weights t o'.toList) := by
  cases o with
  | some f =>
    obtain ⟨f', rfl, hrank⟩ := h f rfl
    exact .single (DriftThresholds.zero_le_severityWeight ht hfinite f.severity)
      (DriftThresholds.severityWeight_mono ht hfinite hordered hrank)
  | none =>
    cases o' with
    | none => exact .nil
    | some f' => exact .added (DriftThresholds.zero_le_severityWeight ht hfinite f'.severity)

theorem rank_highIf {b b' : Bool} (h : b = true → b' = true) : (highIf b').rank ≤ (highIf b).rank := by
  cases b with
  | false => cases b' <;> decide
  | true =>
    rw [h rfl]

theorem worsens_newCycles? {c c' : Int} (hc : c ≤ c') :
    Worsens (newCycles? t before.stats { stats with cycles := c })
      (newCycles? t before.stats { stats with cycles := c' }) := by
  intro f hf
  have hincrease := (newCycles?_eq_some hf).2
  simp only [newCycles?] at hf hincrease ⊢
  rw [if_pos (by omega)] at hf ⊢
  refine ⟨_, rfl, ?_⟩
  rw [← Option.some.inj hf]
  refine rank_highIf fun hhigh => decide_eq_true ?_
  have hmany := of_decide_eq_true hhigh
  omega

/-- More violations than before stay more if there are even more of them. -/
theorem spike_worse (ht : t.check = .ok ()) (hfinite : t.AllFinite) {b : Int} {v v' : Nat} (hv : v ≤ v')
    (h : b = 0 ∨ Scalar.le t.spikeRatio (Scalar.quot (v - b) b) = true) :
    b = 0 ∨ Scalar.le t.spikeRatio (Scalar.quot (v' - b) b) = true := by
  rcases h with hzero | hratio
  · exact .inl hzero
  · refine .inr (Double.le_eq_true.mpr ?_)
    have hratio := Double.le_eq_true.mp hratio
    have hincrease : ((v - b : Int) : Rat) ≤ ((v' - b : Int) : Rat) := by exact_mod_cast by omega
    rcases lt_or_ge b 0 with hnegative | hpositive
    · -- An earlier count below zero makes the ratio negative, which no accepted ratio is.
      exfalso
      have hb : (b : Rat) < 0 := by exact_mod_cast hnegative
      have hcount : (0 : Rat) ≤ (v : Rat) := Nat.cast_nonneg v
      have hquot : ((v - b : Int) : Rat) / b ≤ -1 := by
        rw [div_le_iff_of_neg hb]
        push_cast
        linarith
      have hbelow := Double.le_trans hratio (Double.ofRat_mono hquot)
      have hzero := Double.zero_le_of_not_lt hfinite.spikeRatio (t.check_eq_ok.mp ht).spikeRatio
      have hnot : ¬ Double.ofRat 0 ≤ Double.ofRat (-1) := by decide +kernel
      exact hnot (Double.le_trans hzero hbelow)
    · have hb : (0 : Rat) ≤ (b : Rat) := by exact_mod_cast hpositive
      exact Double.le_trans hratio (Double.ofRat_mono (div_le_div_of_nonneg_right hincrease hb))

theorem worsens_moreViolations? (ht : t.check = .ok ()) (hfinite : t.AllFinite) {b : Int} {v v' : Nat} (hv : v ≤ v') :
    Worsens (moreViolations? t b v) (moreViolations? t b v') := by
  intro f hf
  simp only [moreViolations?] at hf ⊢
  split at hf
  · next hmore =>
    rw [if_pos ⟨by omega, spike_worse ht hfinite hv hmore.2⟩]
    refine ⟨_, rfl, ?_⟩
    rw [← Option.some.inj hf]
    dsimp only
    split_ifs <;> first | decide | omega
  · cases hf

/-- With more violations and cycles no structural finding gets lost or less severe. -/
theorem dominated_ofStructure (ht : t.check = .ok ()) (hfinite : t.AllFinite) (hordered : t.IsOrdered) {c c' : Int}
    (hc : c ≤ c') {v v' : Nat} (hv : v ≤ v') :
    Dominated (weights t (ofStructure t before { stats with cycles := c } v))
      (weights t (ofStructure t before { stats with cycles := c' } v')) := by
  have happend : ∀ fs gs : List Finding, weights t (fs ++ gs) = weights t fs ++ weights t gs :=
    fun fs gs => List.map_append
  rw [ofStructure_eq, ofStructure_eq, happend, happend, happend, happend, happend, happend]
  refine .append (.append (.append ?_ ?_) ?_) ?_
  · exact (worsens_newCycles? hc).dominated ht hfinite hordered
  · exact (Worsens.refl _).dominated ht hfinite hordered
  · exact (Worsens.refl _).dominated ht hfinite hordered
  · exact (worsens_moreViolations? ht hfinite hv).dominated ht hfinite hordered

end Finding

/-! ### Sums of scores -/

section Sum

variable {t : DriftThresholds Int Float} {es es' : List (DriftEventType × Severity)} {n : Nat} {v v' c c' : Nat}

/-- A count times a finite weight, where the greater count still gives a finite number. -/
theorem count_mul_mono {w : Float} (hv : v ≤ v') (hw : Double.ofRat 0 ≤ w) (hfinite : (Scalar.toRat? w).isSome)
    (h : (Scalar.toRat? (Scalar.ofInt v' * w)).isSome) :
    Double.ofRat 0 ≤ Scalar.ofInt v * w ∧ Scalar.ofInt v * w ≤ Scalar.ofInt v' * w := by
  have hcount : ((v : Int) : Rat) ≤ ((v' : Int) : Rat) := by exact_mod_cast hv
  have hnonneg : (0 : Rat) ≤ ((v : Int) : Rat) := by exact_mod_cast Nat.zero_le v
  exact Double.mul_mono (Double.ofRat_mono hnonneg) (Double.ofRat_mono hcount) (Double.isSome_of_combined (.inr h)).1 hw
    hfinite

/-- The share of lost decisions is not negative. -/
theorem quot_mul_mono {w : Float} (lost : Nat) (hw : Double.ofRat 0 ≤ w) (hfinite : (Scalar.toRat? w).isSome)
    (h : (Scalar.toRat? (Scalar.quot lost n * w)).isSome) :
    Double.ofRat 0 ≤ Scalar.quot lost n * w ∧ Scalar.quot lost n * w ≤ Scalar.quot lost n * w := by
  have hnonneg : (0 : Rat) ≤ ((lost : Int) : Rat) / ((n : Int) : Rat) :=
    div_nonneg (by exact_mod_cast Nat.zero_le lost) (by exact_mod_cast Nat.zero_le n)
  exact Double.mul_mono (Double.ofRat_mono hnonneg) (Double.ofRat_mono le_rfl) (Double.isSome_of_combined (.inr h)).1 hw
    hfinite

/-- With the same share of lost decisions, weights that are dominated and greater counts, the sum does not fall as long
as it is a finite number. -/
theorem driftSum_mono (ht : t.check = .ok ()) (hfinite : t.AllFinite)
    (hweights : Dominated (es.map fun e => severityWeight t e.2) (es'.map fun e => severityWeight t e.2))
    (hlost : es.countP (·.1 == .decisionLost) = es'.countP (·.1 == .decisionLost)) (hv : v ≤ v') (hc : c ≤ c')
    (h : (Scalar.toRat? (driftSum es' n v' c' t)).isSome) :
    Double.ofRat 0 ≤ driftSum es n v c t ∧ driftSum es n v c t ≤ driftSum es' n v' c' t := by
  have haccepted := t.check_eq_ok.mp ht
  have hpenalty := Double.zero_le_of_not_lt hfinite.lostDecisionPenalty haccepted.lostDecisionPenalty
  have hviolation := Double.zero_le_of_not_lt hfinite.violationWeight haccepted.violationWeight
  have hcycle := Double.zero_le_of_not_lt hfinite.cycleWeight haccepted.cycleWeight
  -- A finite sum has finite summands, down to the products of the counts.
  obtain ⟨hcounts, hcycles⟩ := Double.isSome_of_combined (.inl h)
  obtain ⟨hwithLost, hviolations⟩ := Double.isSome_of_combined (.inl hcounts)
  obtain ⟨hcyclesPos, hcyclesLe⟩ := count_mul_mono hc hcycle hfinite.cycleWeight hcycles
  obtain ⟨hviolationsPos, hviolationsLe⟩ := count_mul_mono hv hviolation hfinite.violationWeight hviolations
  obtain ⟨hsumPos, hsumLe⟩ := hweights.sum
  simp only [driftSum, hlost] at hwithLost ⊢
  by_cases hbefore : (0 : Int) < n
  · rw [if_pos hbefore] at hwithLost
    rw [if_pos hbefore, if_pos hbefore]
    obtain ⟨hquotPos, hquotLe⟩ := quot_mul_mono _ hpenalty hfinite.lostDecisionPenalty
      (Double.isSome_of_combined (.inl hwithLost)).2
    obtain ⟨hlostPos, hlostLe⟩ := Double.add_mono hsumPos hsumLe hquotPos hquotLe
    obtain ⟨hmorePos, hmoreLe⟩ := Double.add_mono hlostPos hlostLe hviolationsPos hviolationsLe
    exact Double.add_mono hmorePos hmoreLe hcyclesPos hcyclesLe
  · rw [if_neg hbefore, if_neg hbefore]
    obtain ⟨hmorePos, hmoreLe⟩ := Double.add_mono hsumPos hsumLe hviolationsPos hviolationsLe
    exact Double.add_mono hmorePos hmoreLe hcyclesPos hcyclesLe

/-- A score that is rounded and capped keeps the order and lies between zero and the cap. -/
theorem capped_mono {x x' m : Float} (hx : Double.ofRat 0 ≤ x) (hxx' : x ≤ x') (hx' : (Scalar.toRat? x').isSome)
    (hm : Double.ofRat 0 ≤ m) :
    Double.ofRat 0 ≤ Scalar.smaller (Scalar.roundPlaces 0 x) m ∧ Scalar.smaller (Scalar.roundPlaces 0 x) m ≤ m ∧
      Scalar.smaller (Scalar.roundPlaces 0 x) m ≤ Scalar.smaller (Scalar.roundPlaces 0 x') m := by
  obtain ⟨hpos, hle⟩ := Double.roundPlaces_mono hx hxx' hx'
  obtain ⟨p, p', hp, hp', hplaces⟩ := Double.exists_places hpos hle
  obtain ⟨q, hq⟩ := Double.zero_le_iff.mp hm
  have hcapped := hp.smaller hq
  refine ⟨Double.zero_le_iff.mpr ⟨_, hcapped⟩, (hcapped.le_iff hq).mpr (Nat.min_le_right _ _), ?_⟩
  exact (hcapped.le_iff (hp'.smaller hq)).mpr (by omega)

end Sum

/-! ### Scores -/

/-- The same request for a state with other counts of violations and cycles. -/
def DriftRequest.withCounts {α : Type} (r : DriftRequest α) (violations cycles : Nat) : DriftRequest α :=
  { r with violations, stats := { r.stats with cycles } }

namespace DriftResult

open Finding

section Scores

variable {t : DriftThresholds Int Float} {r : DriftRequest Float} {names : Nat → String} {result : DriftResult Float}

/-- The sum under the score; zero without a previous snapshot. -/
def rawScore (r : DriftRequest Float) (t : DriftThresholds Int Float) : Float :=
  match r.previous with
  | none => Scalar.zero
  | some before =>
    driftSum ((findings r t).map fun f => (f.type, f.severity)) before.decisions.length r.violations r.stats.cycles t

/-- The sum rounded to a whole number and capped; zero without a previous snapshot. -/
def cappedScore (r : DriftRequest Float) (t : DriftThresholds Int Float) : Float :=
  match r.previous with
  | none => Scalar.zero
  | some _ => Scalar.smaller (Scalar.roundPlaces 0 (rawScore r t)) t.maxScore

theorem isSome_toRat?_zero : (Scalar.toRat? (Scalar.zero : Float)).isSome :=
  (Double.isSome_toRat? _).mpr (by
    have hplace := Double.standsAt_zero.place_eq
    have hzero : (Scalar.zero : Float) = Double.ofRat 0 := rfl
    rw [hzero, hplace]
    decide)

/-- A score comes of a finite sum only. -/
theorem scoreOf_eq : scoreOf r t =
    if (Scalar.toRat? (rawScore r t)).isSome then .ok (cappedScore r t)
    else .error (if Scalar.isNumber (rawScore r t) then .infinite else .notANumber) := by
  cases hprevious : r.previous with
  | none =>
    simp only [scoreOf, rawScore, cappedScore, hprevious]
    rw [if_pos isSome_toRat?_zero]
  | some before =>
    simp only [scoreOf, rawScore, cappedScore, hprevious, driftScore, wholeScore]
    cases Scalar.toRat? (driftSum ((findings r t).map fun f => (f.type, f.severity)) before.decisions.length
      r.violations r.stats.cycles t) with
    | none => rfl
    | some q => rfl

theorem detect_eq_ok (h : detect names r t = .ok result) :
    (Scalar.toRat? (rawScore r t)).isSome ∧ result.score = cappedScore r t ∧
      result.snapshot.driftScore = result.score := by
  rw [detect, scoreOf_eq] at h
  by_cases hfinite : (Scalar.toRat? (rawScore r t)).isSome
  · rw [if_pos hfinite] at h
    have hresult := Except.ok.inj h
    rw [← hresult]
    exact ⟨hfinite, rfl, rfl⟩
  · rw [if_neg hfinite] at h
    exact absurd h nofun

theorem exists_detect (h : (Scalar.toRat? (rawScore r t)).isSome) : ∃ result, detect names r t = .ok result := by
  rw [detect, scoreOf_eq, if_pos h]
  exact ⟨_, rfl⟩

theorem zero_le_maxScore (ht : t.check = .ok ()) (hfinite : t.AllFinite) : Double.ofRat 0 ≤ t.maxScore := by
  refine Double.zero_le_of_not_lt hfinite.maxScore (Bool.eq_false_iff.mpr fun hlt => ?_)
  have hnot := (t.check_eq_ok.mp ht).maxScore
  refine Bool.eq_false_iff.mp hnot (Double.le_eq_true.mpr ?_)
  obtain ⟨r, r', hr, hr', hless⟩ := (Double.lt_iff _ _).mp (Double.lt_eq_true.mp hlt)
  exact (Double.le_iff _ _).mpr ⟨r, r', hr, hr', hless.le⟩

/-- A finite sum is not negative. -/
theorem zero_le_rawScore (ht : t.check = .ok ()) (hfinite : t.AllFinite) {v c : Nat}
    (h : (Scalar.toRat? (rawScore (r.withCounts v c) t)).isSome) : Double.ofRat 0 ≤ rawScore (r.withCounts v c) t := by
  cases hprevious : r.previous with
  | none =>
    simp only [rawScore, DriftRequest.withCounts, hprevious]
    exact Double.ofRat_mono le_rfl
  | some before =>
    simp only [rawScore, DriftRequest.withCounts, hprevious] at h ⊢
    refine (driftSum_mono ht hfinite ?_ rfl le_rfl le_rfl h).1
    rw [List.map_map]
    exact dominated_weights ht hfinite _

/-- Only decisions are lost. -/
theorem countP_lost (before : Snapshot Float) (stats : DependencyStats Float) (v : Int) :
    ((ofDecisions t before.decisions r.decisions ++ ofStructure t before stats v).map fun f =>
      (f.type, f.severity)).countP (·.1 == .decisionLost) =
    ((ofDecisions t before.decisions r.decisions).map fun f => (f.type, f.severity)).countP (·.1 == .decisionLost) := by
  have hnone :
      ((ofStructure t before stats v).map fun f => (f.type, f.severity)).countP (·.1 == .decisionLost) = 0 := by
    rw [List.countP_eq_zero]
    intro e he hlost
    obtain ⟨f, hf, rfl⟩ := List.mem_map.mp he
    have htype := type_of_mem_ofStructure hf
    have hkind : f.type = .decisionLost := eq_of_beq hlost
    rw [hkind] at htype
    exact absurd htype (by decide)
  rw [List.map_append, List.countP_append, hnone, Nat.add_zero]

/-- With weights that rise with the severity, a worse state has no lesser sum, as long as that is a finite number. -/
theorem rawScore_mono (ht : t.check = .ok ()) (hfinite : t.AllFinite) (hordered : t.IsOrdered) {v v' c c' : Nat}
    (hv : v ≤ v') (hc : c ≤ c') (h : (Scalar.toRat? (rawScore (r.withCounts v' c') t)).isSome) :
    Double.ofRat 0 ≤ rawScore (r.withCounts v c) t ∧
      rawScore (r.withCounts v c) t ≤ rawScore (r.withCounts v' c') t := by
  cases hprevious : r.previous with
  | none =>
    simp only [rawScore, DriftRequest.withCounts, hprevious]
    exact ⟨Double.ofRat_mono le_rfl, Double.ofRat_mono le_rfl⟩
  | some before =>
    simp only [rawScore, DriftRequest.withCounts, hprevious, findings] at h ⊢
    refine driftSum_mono ht hfinite ?_ ?_ hv hc h
    · rw [List.map_map, List.map_map, List.map_append, List.map_append]
      exact (dominated_weights ht hfinite _).append
        (dominated_ofStructure ht hfinite hordered (by exact_mod_cast hc) hv)
    · rw [countP_lost, countP_lost]

theorem cappedScore_mono (r r' : DriftRequest Float) (hmax : Double.ofRat 0 ≤ t.maxScore)
    (hprevious : r.previous = r'.previous) (hpos : Double.ofRat 0 ≤ rawScore r t) (hle : rawScore r t ≤ rawScore r' t)
    (hsum : (Scalar.toRat? (rawScore r' t)).isSome) :
    Double.ofRat 0 ≤ cappedScore r t ∧ cappedScore r t ≤ t.maxScore ∧ cappedScore r t ≤ cappedScore r' t := by
  cases hbefore : r'.previous with
  | none =>
    simp only [cappedScore, hprevious, hbefore]
    exact ⟨Double.ofRat_mono le_rfl, hmax, Double.ofRat_mono le_rfl⟩
  | some before =>
    simp only [cappedScore, hprevious, hbefore]
    exact capped_mono hpos hle hsum hmax

/-- Under accepted and finite thresholds a detection returns a score exactly if the sum under it is a finite number; the
score lies between zero and the greatest score; and if the weights rise with the severity, a state with no more
violations and cycles has a score that is not greater. -/
theorem detect_mono (ht : t.check = .ok ()) (hfinite : t.AllFinite) (r : DriftRequest Float) (names : Nat → String) :
    (∀ v c : Nat, (∃ result, detect names (r.withCounts v c) t = .ok result) ↔
      (Scalar.toRat? (rawScore (r.withCounts v c) t)).isSome) ∧
    (∀ (v c : Nat) result, detect names (r.withCounts v c) t = .ok result →
      Scalar.le Scalar.zero result.score = true ∧ Scalar.le result.score t.maxScore = true) ∧
    (t.IsOrdered → ∀ (v v' c c' : Nat) worse, v ≤ v' → c ≤ c' → detect names (r.withCounts v' c') t = .ok worse →
      ∃ better, detect names (r.withCounts v c) t = .ok better ∧ Scalar.le better.score worse.score = true) := by
  have hmax := zero_le_maxScore ht hfinite
  refine ⟨fun v c => ⟨fun ⟨result, hresult⟩ => (detect_eq_ok hresult).1, exists_detect⟩, ?_, ?_⟩
  · intro v c result hresult
    obtain ⟨hsum, hscore, -⟩ := detect_eq_ok hresult
    have hpos := zero_le_rawScore ht hfinite hsum
    obtain ⟨hlow, hhigh, -⟩ := cappedScore_mono (r.withCounts v c) (r.withCounts v c) hmax rfl hpos
      (Double.le_refl_of_zero_le hpos) hsum
    rw [hscore]
    exact ⟨Double.le_eq_true.mpr hlow, Double.le_eq_true.mpr hhigh⟩
  · intro hordered v v' c c' worse hv hc hworse
    obtain ⟨hsum', hscore', -⟩ := detect_eq_ok hworse
    obtain ⟨hpos, hle⟩ := rawScore_mono ht hfinite hordered hv hc hsum'
    have hruns : ∃ better, detect names (r.withCounts v c) t = .ok better :=
      exists_detect (Double.isSome_of_le hpos hle hsum')
    obtain ⟨better, hbetter⟩ := hruns
    obtain ⟨-, hscore, -⟩ := detect_eq_ok hbetter
    obtain ⟨-, -, hcapped⟩ := cappedScore_mono (r.withCounts v c) (r.withCounts v' c') hmax rfl hpos hle hsum'
    refine ⟨better, hbetter, Double.le_eq_true.mpr ?_⟩
    rw [hscore, hscore']
    exact hcapped

/-- The usual thresholds, and a state with three more violations and two more cycles. -/
theorem detect_mono_of_usual :
    let t : DriftThresholds Int Float := .usual
    let stats : DependencyStats Float := ⟨5, 0, Scalar.ofRat 0.5, Scalar.ofRat 0.5, Scalar.ofRat 0.5⟩
    let before : Snapshot Float :=
      ⟨"s1", "web", "a1", Scalar.zero, [⟨"d1", "Layers", Scalar.ofRat 0.9⟩], 1, stats, ⟨⟨2024, 6, 1⟩, 0, none⟩⟩
    let r : DriftRequest Float := ⟨"web", "b2", stats, 0, [], some before, ⟨⟨2024, 6, 7⟩, 0, none⟩⟩
    t.check = .ok () ∧ t.AllFinite ∧ t.IsOrdered ∧
      ∃ better worse, detect toString (r.withCounts 2 1) t = .ok better ∧
        detect toString (r.withCounts 5 3) t = .ok worse ∧ Scalar.le better.score worse.score = true ∧
        Scalar.le Scalar.zero better.score = true ∧ Scalar.le worse.score t.maxScore = true := by
  intro t stats before r
  have ht : t.check = .ok () := by decide +kernel
  have hfinite : t.AllFinite := by
    show ∀ e ∈ t.entries (fun _ => true) fun x => (Scalar.toRat? x).isSome, e.2 = true
    decide +kernel
  have hordered : t.IsOrdered := by
    show t.lowWeight ≤ t.mediumWeight ∧ t.mediumWeight ≤ t.highWeight
    decide +kernel
  obtain ⟨hruns, hbounds, hmono⟩ := detect_mono ht hfinite r toString
  obtain ⟨worse, hworse⟩ := (hruns 5 3).mpr (by decide +kernel)
  obtain ⟨better, hbetter, hle⟩ := hmono hordered 2 5 1 3 worse (by decide) (by decide) hworse
  exact ⟨ht, hfinite, hordered, better, worse, hbetter, hworse, hle, (hbounds 2 1 better hbetter).1,
    (hbounds 5 3 worse hworse).2⟩

/-- A greater weight of less severe findings lets the score fall from the cap to zero with one more cycle. -/
example :
    let t : DriftThresholds Int Float :=
      { DriftThresholds.usual with
        mediumWeight := Scalar.ofInt 100, highWeight := Scalar.zero, cycleWeight := Scalar.zero }
    let stats : DependencyStats Float := ⟨3, 0, Scalar.zero, Scalar.zero, Scalar.zero⟩
    let before : Snapshot Float := ⟨"s0", "web", "a1", Scalar.zero, [], 0, stats, ⟨⟨2024, 6, 1⟩, 0, none⟩⟩
    let r : DriftRequest Float := ⟨"web", "b2", stats, 0, [], some before, ⟨⟨2024, 6, 7⟩, 0, none⟩⟩
    t.check = .ok () ∧ (scoreOf (r.withCounts 0 2) t).toOption = some (Scalar.ofInt 100) ∧
      (scoreOf (r.withCounts 0 3) t).toOption = some Scalar.zero := by
  decide +kernel

end Scores

end DriftResult
end RepoSurvey
