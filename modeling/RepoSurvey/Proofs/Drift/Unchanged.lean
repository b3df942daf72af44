import RepoSurvey.ArchitectureReport
import RepoSurvey.Proofs.Drift.Directions
import RepoSurvey.Proofs.Drift.Score
import RepoSurvey.Proofs.Layer.Violations

/-!
# Analysing an unchanged repository again

* `Finding.ofDecisions_self`, `Finding.ofStructure_self`: a state compared with itself has no findings.
* `DriftResult.detect_unchanged`: the detection for a state that the previous snapshot was taken of.
* `ArchitectureReport.exists_analyze`: when an analysis succeeds.
* `ArchitectureReport.analyze_unchanged`: the second analysis of a repository repeats the first one without drift.
-/

namespace RepoSurvey

/-! ### A state compared with itself -/

namespace Finding

variable {t : DriftThresholds Int Float}

theorem gone_self (ds : List (Decision Float)) : gone ds ds = [] := by
  rw [gone, List.filter_eq_nil_iff]
  rintro ⟨title, d⟩ he hgone
  have hhas : (byTitle ds).contains title = true := by
    rw [Table.contains, get?_byTitle, mem_byTitle.mp he]
    rfl
  dsimp only at hgone
  rw [hhas] at hgone
  exact absurd hgone (by decide)

/-- No decision is lost, new or weakened. -/
theorem ofDecisions_self (hdrop : Scalar.le Scalar.zero t.weakenedDrop) (ds : List (Decision Float)) :
    ofDecisions t ds ds = [] := by
  have hfallen : fallen t ds ds = [] := by
    rw [List.eq_nil_iff_forall_not_mem]
    intro f hf
    obtain ⟨title, hweak⟩ := isWeakening_of_mem hf
    exact not_isWeakening_both hdrop hweak hweak
  rw [ofDecisions_eq, gone_self, hfallen]
  rfl

/-- Nothing in the structure became worse. -/
theorem ofStructure_self (ht : t.check = .ok ()) (hcoupling : Scalar.le Scalar.zero t.couplingIncrease)
    (hinstability : Scalar.le Scalar.zero t.instabilityIncrease) (s : Snapshot Float) :
    ofStructure t s s.stats s.violations = [] := by
  have hnone : ∀ kind, structural? t s s.stats s.violations kind = none :=
    fun kind => (or_self_iff).mp (structural?_both ht hcoupling hinstability)
  rw [ofStructure_eq, hnone, hnone, hnone, hnone]
  rfl

end Finding

/-! ### The second detection -/

namespace DriftResult

open Finding

variable {t : DriftThresholds Int Float}

/-- The violations and the cycles of a state by their weights, added up. -/
def countedSum (violations cycles : Int) (t : DriftThresholds Int Float) : Float :=
  Scalar.sum [Scalar.ofInt violations * t.violationWeight, Scalar.ofInt cycles * t.cycleWeight]

/-- Without events the sum under a score is that of the counts. -/
theorem driftSum_nil (hfinite : t.AllFinite) (decisions : Nat) (violations cycles : Int) :
    driftSum [] decisions violations cycles t = countedSum violations cycles t := by
  have hnothing : (Scalar.zero : Float) + Scalar.quot 0 decisions * t.lostDecisionPenalty = Scalar.zero := by
    have hquot : (Scalar.quot 0 decisions : Float) = Double.ofRat 0 := by
      rw [Scalar.quot, Int.cast_zero, zero_div]
      rfl
    rw [hquot]
    exact Double.zero_add_zero_mul hfinite.lostDecisionPenalty
  have hopened : driftSum [] decisions violations cycles t =
      (if 0 < (decisions : Int) then
        (Scalar.zero : Float) + Scalar.quot 0 decisions * t.lostDecisionPenalty else Scalar.zero) +
        Scalar.ofInt violations * t.violationWeight + Scalar.ofInt cycles * t.cycleWeight := rfl
  rw [hopened, hnothing, ite_self]
  rfl

/-- The detection for a state that the previous snapshot was taken of: there are no events, and the score is that of the
counts of violations and cycles alone. -/
theorem detect_unchanged (ht : t.check = .ok ()) (hfinite : t.AllFinite)
    (hdrop : Scalar.le Scalar.zero t.weakenedDrop) (hcoupling : Scalar.le Scalar.zero t.couplingIncrease)
    (hinstability : Scalar.le Scalar.zero t.instabilityIncrease) (names : Nat → String) (r : DriftRequest Float)
    {s : Snapshot Float} (hprevious : r.previous = some s) (hdecisions : s.decisions = r.decisions)
    (hviolations : s.violations = r.violations) (hstats : s.stats = r.stats) :
    detect names r t =
      let total := countedSum r.violations r.stats.cycles t
      let score := Scalar.smaller (Scalar.roundPlaces 0 total) t.maxScore
      if (Scalar.toRat? total).isSome then
        .ok ⟨score, [], ⟨names 0, r.repository, r.commit, score, r.decisions, r.violations, r.stats, r.now.asUtc⟩⟩
      else .error (if Scalar.isNumber total then .infinite else .notANumber) := by
  have hnone : findings r t = [] := by
    simp only [findings, hprevious]
    rw [← hdecisions, ← hviolations, ← hstats, ofDecisions_self hdrop, ofStructure_self ht hcoupling hinstability]
    rfl
  have hraw : rawScore r t = countedSum r.violations r.stats.cycles t := by
    simp only [rawScore, hprevious, hnone]
    exact driftSum_nil hfinite _ _ _
  have hcapped : cappedScore r t =
      Scalar.smaller (Scalar.roundPlaces 0 (countedSum r.violations r.stats.cycles t)) t.maxScore := by
    simp only [cappedScore, hprevious, hraw]
  rw [detect, scoreOf_eq, hraw, hcapped, hnone]
  dsimp only
  split
  · rfl
  · rfl

theorem snapshot_of_detect {names : Nat → String} {r : DriftRequest Float} {result : DriftResult Float}
    (h : detect names r t = .ok result) : result.snapshot =
      ⟨names 0, r.repository, r.commit, result.score, r.decisions, r.violations, r.stats, r.now.asUtc⟩ := by
  cases hscore : scoreOf r t with
  | error e =>
    rw [detect, hscore] at h
    cases h
  | ok score =>
    rw [detect, hscore] at h
    rw [← Except.ok.inj h]

end DriftResult

/-! ### The second analysis -/

namespace ArchitectureReport

open DriftResult

variable {files : List SourceFile} {decisions : List (Decision Float)} {r : AnalysisRequest Float}
  {c : AnalysisConfig LayerDefinition Int Float} {names : Nat → String}

/-- The graph of an analysis. -/
def graphOf (files : List SourceFile) (c : AnalysisConfig LayerDefinition Int Float) : DependencyGraph Float :=
  DependencyGraph.ofFiles c.formula files

/-- The layers of an analysis: its own, those of the settings, or inferred ones. -/
def layersOf (files : List SourceFile) (r : AnalysisRequest Float) (c : AnalysisConfig LayerDefinition Int Float) :
    List LayerDefinition :=
  LayerDefinition.resolve (if r.layers.isEmpty then c.layers else r.layers) (graphOf files c).paths

/-- The violations that an analysis reports if its layers have no fault. -/
def violationsOf (files : List SourceFile) (r : AnalysisRequest Float) (c : AnalysisConfig LayerDefinition Int Float) :
    List Violation :=
  Violation.report (graphOf files c) (layersOf files r c)

/-- What the detection of an analysis is made on. -/
def stateOf (files : List SourceFile) (decisions : List (Decision Float)) (r : AnalysisRequest Float)
    (c : AnalysisConfig LayerDefinition Int Float) : DriftRequest Float :=
  ⟨r.repository, r.commit, .ofGraph (graphOf files c), (violationsOf files r c).length, decisions, r.previous, r.now⟩

theorem analyze_eq : analyze names files decisions r c =
    match LayerDefinition.fault? (layersOf files r c) with
    | some e => .error (.repetition e)
    | none =>
      match detect names (stateOf files decisions r c) c.drift with
      | .error e => .error (.rounding e)
      | .ok drift => .ok ⟨graphOf files c, layersOf files r c, violationsOf files r c, drift⟩ := by
  have hopened : analyze names files decisions r c = (do
      let violations ← (Violation.inGraph (graphOf files c) (layersOf files r c)).mapError .repetition
      let drift ← (detect names
        ⟨r.repository, r.commit, .ofGraph (graphOf files c), violations.length, decisions, r.previous, r.now⟩
        c.drift).mapError .rounding
      return ⟨graphOf files c, layersOf files r c, violations, drift⟩) := rfl
  rw [hopened, Violation.inGraph_eq]
  cases LayerDefinition.fault? (layersOf files r c) with
  | some e => rfl
  | none =>
    show (do
      let drift ← (detect names (stateOf files decisions r c) c.drift).mapError AnalysisFault.rounding
      return ⟨graphOf files c, layersOf files r c, violationsOf files r c, drift⟩ :
        Except AnalysisFault (ArchitectureReport Float)) = _
    cases detect names (stateOf files decisions r c) c.drift with
    | error e => rfl
    | ok drift => rfl

theorem analyze_eq_ok {report : ArchitectureReport Float} : analyze names files decisions r c = .ok report ↔
    LayerDefinition.fault? (layersOf files r c) = none ∧
      ∃ drift, detect names (stateOf files decisions r c) c.drift = .ok drift ∧
        report = ⟨graphOf files c, layersOf files r c, violationsOf files r c, drift⟩ := by
  rw [analyze_eq]
  cases LayerDefinition.fault? (layersOf files r c) with
  | some e => exact ⟨nofun, fun h => absurd h.1 nofun⟩
  | none =>
    cases detect names (stateOf files decisions r c) c.drift with
    | error e => exact ⟨nofun, fun ⟨_, _, h, _⟩ => absurd h nofun⟩
    | ok drift =>
      constructor
      · intro h
        exact ⟨rfl, drift, rfl, (Except.ok.inj h).symm⟩
      · rintro ⟨-, drift', hdrift, rfl⟩
        rw [Except.ok.inj hdrift]

/-- An analysis succeeds exactly if its layers have no fault and the sum under its score is a finite number. -/
theorem exists_analyze : (∃ report, analyze names files decisions r c = .ok report) ↔
    LayerDefinition.fault? (layersOf files r c) = none ∧
      (Scalar.toRat? (rawScore (stateOf files decisions r c) c.drift)).isSome := by
  constructor
  · rintro ⟨report, hreport⟩
    obtain ⟨hfault, drift, hdrift, -⟩ := analyze_eq_ok.mp hreport
    exact ⟨hfault, (detect_eq_ok hdrift).1⟩
  · rintro ⟨hfault, hsum⟩
    have hruns : ∃ drift, detect names (stateOf files decisions r c) c.drift = .ok drift := exists_detect hsum
    obtain ⟨drift, hdrift⟩ := hruns
    exact ⟨_, analyze_eq_ok.mpr ⟨hfault, drift, hdrift, rfl⟩⟩

/-- An analysis succeeds exactly if its layers have no fault and the sum under its score is a finite number. Made again
with the snapshot of the first report it reports the same graph, layers and violations, no events, and a snapshot that
differs in its name, its time and its score only; the score is the capped rounded sum of the violations and cycles by
their weights, and if that sum is no finite number there is no second report. -/
theorem analyze_unchanged (ht : c.drift.check = .ok ()) (hfinite : c.drift.AllFinite)
    (hdrop : Scalar.le Scalar.zero c.drift.weakenedDrop) (hcoupling : Scalar.le Scalar.zero c.drift.couplingIncrease)
    (hinstability : Scalar.le Scalar.zero c.drift.instabilityIncrease) (files : List SourceFile)
    (decisions : List (Decision Float)) (r : AnalysisRequest Float) (names names' : Nat → String) (now : Moment) :
    ((∃ first, analyze names files decisions r c = .ok first) ↔
      LayerDefinition.fault? (layersOf files r c) = none ∧
        (Scalar.toRat? (rawScore (stateOf files decisions r c) c.drift)).isSome) ∧
    ∀ first, analyze names files decisions r c = .ok first →
      analyze names' files decisions { r with previous := some first.drift.snapshot, now } c =
        let total := countedSum first.violations.length first.graph.cycles.length c.drift
        let score := Scalar.smaller (Scalar.roundPlaces 0 total) c.drift.maxScore
        if (Scalar.toRat? total).isSome then
          .ok { first with
            drift := ⟨score, [],
              { first.drift.snapshot with id := names' 0, driftScore := score, createdAt := now.asUtc }⟩ }
        else .error (.rounding (if Scalar.isNumber total then .infinite else .notANumber)) := by
  refine ⟨exists_analyze, fun first hfirst => ?_⟩
  obtain ⟨hfault, drift, hdrift, rfl⟩ := analyze_eq_ok.mp hfirst
  -- The snapshot of the first report holds everything that the second detection compares.
  have hsnapshot := snapshot_of_detect hdrift
  generalize hrequest : ({ r with previous := some drift.snapshot, now } : AnalysisRequest Float) = again
  have hlayers : layersOf files again c = layersOf files r c := by
    rw [← hrequest]
    rfl
  have hviolations : violationsOf files again c = violationsOf files r c := by
    rw [violationsOf, hlayers]
    rfl
  have hstate : stateOf files decisions again c =
      ⟨r.repository, r.commit, .ofGraph (graphOf files c), (violationsOf files r c).length, decisions,
        some drift.snapshot, now⟩ := by
    rw [stateOf, hviolations, ← hrequest]
  have hdetect := detect_unchanged ht hfinite hdrop hcoupling hinstability names' (stateOf files decisions again c)
    (s := drift.snapshot) (by rw [hstate]) (by rw [hstate, hsnapshot]; rfl) (by rw [hstate, hsnapshot]; rfl)
    (by rw [hstate, hsnapshot]; rfl)
  have hcycles : (DependencyStats.ofGraph (graphOf files c)).cycles = ((graphOf files c).cycles.length : Int) := rfl
  rw [analyze_eq, hlayers, hfault, hdetect, hviolations, hstate, hsnapshot]
  dsimp only
  rw [hcycles]
  by_cases htotal : (Scalar.toRat? (countedSum (violationsOf files r c).length (graphOf files c).cycles.length
      c.drift)).isSome
  · rw [if_pos htotal, if_pos htotal]
    rfl
  · rw [if_neg htotal, if_neg htotal]

/-- A page with three imports across a boundary, analysed on two days by the usual settings. -/
theorem analyze_unchanged_of_page :
    let files : List SourceFile := [⟨"src/db/a.ts", [], none, 0, 0, 0, 0⟩, ⟨"src/db/b.ts", [], none, 0, 0, 0, 0⟩,
      ⟨"src/db/c.ts", [], none, 0, 0, 0, 0⟩,
      ⟨"src/ui/page.ts", ["src/db/a.ts", "src/db/b.ts", "src/db/c.ts"], none, 0, 0, 0, 0⟩]
    let c : AnalysisConfig LayerDefinition Int Float := .usual
    let decisions : List (Decision Float) := [⟨"d1", "Layers", Scalar.ofRat 0.9⟩, ⟨"d2", "Layers", Scalar.ofRat 0.4⟩]
    let layers : List LayerDefinition := [⟨"ui", ["src/ui/**"], []⟩, ⟨"db", ["src/db/**"], []⟩]
    let r : AnalysisRequest Float := ⟨"web", "a1", layers, none, ⟨⟨2024, 6, 7⟩, 0, none⟩⟩
    c.drift.check = .ok () ∧ c.drift.AllFinite ∧ Scalar.le Scalar.zero c.drift.weakenedDrop = true ∧
      Scalar.le Scalar.zero c.drift.couplingIncrease = true ∧
      Scalar.le Scalar.zero c.drift.instabilityIncrease = true ∧
      ∃ first second, analyze toString files decisions r c = .ok first ∧
        analyze toString files decisions
          { r with previous := some first.drift.snapshot, now := ⟨⟨2024, 6, 8⟩, 0, none⟩ } c = .ok second ∧
        second.violations.length = 3 ∧ second.drift.score = Scalar.ofInt 2 ∧ second.drift.events = [] := by
  intro files c decisions layers r
  have hcheck : c.drift.check = .ok () := by decide +kernel
  have hfinite : c.drift.AllFinite := by
    show ∀ e ∈ c.drift.entries (fun _ => true) fun x => (Scalar.toRat? x).isSome, e.2 = true
    decide +kernel
  have hdrop : Scalar.le Scalar.zero c.drift.weakenedDrop = true := by decide +kernel
  have hcoupling : Scalar.le Scalar.zero c.drift.couplingIncrease = true := by decide +kernel
  have hinstability : Scalar.le Scalar.zero c.drift.instabilityIncrease = true := by decide +kernel
  -- The files are in ascending order, so that nothing is left to sort.
  have hnodes : Violation.ascendingNodes (graphOf files c) = (graphOf files c).nodes :=
    List.mergeSort_of_pairwise (by decide +kernel)
  have hviolations : (violationsOf files r c).length = 3 := by
    rw [violationsOf, Violation.report, hnodes]
    decide +kernel
  have hcycles : (graphOf files c).cycles.length = 0 := by
    have hpaths : Text.ascending (Imports.ofFiles files).paths = (Imports.ofFiles files).paths :=
      List.mergeSort_of_pairwise (by decide +kernel)
    show (Imports.ofFiles files).cycles.length = 0
    rw [Imports.cycles, Imports.search, hpaths]
    decide +kernel
  obtain ⟨hruns, hagain⟩ := analyze_unchanged hcheck hfinite hdrop hcoupling hinstability files decisions r toString
    toString ⟨⟨2024, 6, 8⟩, 0, none⟩
  obtain ⟨first, hfirst⟩ := hruns.mpr ⟨by decide +kernel, by decide +kernel⟩
  obtain ⟨-, drift, -, rfl⟩ := analyze_eq_ok.mp hfirst
  have hsecond := hagain _ hfirst
  dsimp only at hsecond
  rw [hviolations, hcycles, if_pos (by decide +kernel)] at hsecond
  have hscore : Scalar.smaller (Scalar.roundPlaces 0 (countedSum (3 : Nat) (0 : Nat) c.drift)) c.drift.maxScore =
      Scalar.ofInt 2 := by
    decide +kernel
  exact ⟨hcheck, hfinite, hdrop, hcoupling, hinstability, _, _, hfirst, hsecond, hviolations, hscore, rfl⟩

end ArchitectureReport
end RepoSurvey
