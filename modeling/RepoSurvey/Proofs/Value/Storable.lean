import RepoSurvey.Proofs.Value.Recording
import RepoSurvey.Value.Drift
import RepoSurvey.Value.Settings

/-!
# What the library yields can be stored

* `StorableType`: types all of whose members are storable values. All structures of the library are of such a type, so
  that their fields have different names and hold nothing that has no record.
* `StorableType.exists_record`: the members of a storable type have records, which are final.
-/

namespace RepoSurvey

/-! ### Values that hold others -/

namespace Value

theorem areStorable_iff {items : List Value} : areStorable items = true ↔ ∀ v ∈ items, v.isStorable = true := by
  induction items with
  | nil => exact iff_of_true rfl nofun
  | cons v rest ih => rw [areStorable, Bool.and_eq_true, ih, List.forall_mem_cons]

theorem areEntriesStorable_iff {entries : List (Value × Value)} :
    areEntriesStorable entries = true ↔ ∀ e ∈ entries, e.1.isPlainKey = true ∧ e.2.isStorable = true := by
  induction entries with
  | nil => exact iff_of_true rfl nofun
  | cons e rest ih => rw [areEntriesStorable, Bool.and_eq_true, Bool.and_eq_true, ih, List.forall_mem_cons]

theorem areFieldsStorable_iff {fields : List (String × Value)} :
    areFieldsStorable fields = true ↔ ∀ f ∈ fields, f.2.isStorable = true := by
  induction fields with
  | nil => exact iff_of_true rfl nofun
  | cons f rest ih => rw [areFieldsStorable, Bool.and_eq_true, ih, List.forall_mem_cons]

/-- A structure with different names for all that it holds is storable if all that is. -/
theorem isStorable_record {type : String} {fields derived : List (String × Value)}
    (hnames : ((fields ++ derived).map (·.1)).Nodup) (h : ∀ f ∈ fields ++ derived, f.2.isStorable = true) :
    (record type fields derived).isStorable = true := by
  rw [List.forall_mem_append] at h
  rw [isStorable, Bool.and_eq_true, Bool.and_eq_true, decide_eq_true_eq]
  exact ⟨⟨hnames, areFieldsStorable_iff.mpr h.1⟩, areFieldsStorable_iff.mpr h.2⟩

@[simp] theorem isStorable_set_texts (frozen : Bool) (texts : List String) :
    (set frozen (texts.map text)).isStorable = true := by
  rw [isStorable, List.all_map]
  exact List.all_eq_true.mpr fun _ _ => rfl

end Value

/-! ### Types of storable values -/

/-- A type all of whose members are storable values. -/
class StorableType (τ : Type) [ToValue τ] : Prop where
  isStorable_value (x : τ) : (value x).isStorable = true

attribute [simp] StorableType.isStorable_value

open Value StorableType

section Types

variable {τ : Type}

/-- **The members of a storable type have records**, which are final. -/
theorem StorableType.exists_record [ToValue τ] [StorableType τ] (x : τ) :
    ∃ r, record x = .ok r ∧ r.hasDistinctKeys = true ∧ record r.asValue = .ok r := by
  obtain ⟨r, hr, hdistinct⟩ := exists_record? (value x) (isStorable_value x)
  exact ⟨r, hr, hdistinct, r.record?_asValue hdistinct⟩

instance : StorableType Bool := ⟨fun _ => rfl⟩

instance : StorableType Int := ⟨fun _ => rfl⟩

instance : StorableType Nat := ⟨fun _ => rfl⟩

instance : StorableType Float := ⟨fun _ => rfl⟩

instance : StorableType String := ⟨fun _ => rfl⟩

instance : StorableType Moment := ⟨fun _ => rfl⟩

instance : StorableType Duration := ⟨fun _ => rfl⟩

instance [Enumeration τ] : StorableType τ := ⟨fun _ => rfl⟩

variable [ToValue τ] [StorableType τ]

instance : StorableType (Option τ) := ⟨fun x => by
  cases x with
  | none => rfl
  | some x => exact isStorable_value x⟩

@[simp] theorem Value.areStorable_map (xs : List τ) : areStorable (xs.map value) = true := by
  rw [areStorable_iff, List.forall_mem_map]
  exact fun x _ => isStorable_value x

instance : StorableType (List τ) := ⟨areStorable_map⟩

@[simp] theorem Value.isStorable_texts (texts : List String) : (Value.texts texts).isStorable = true :=
  areStorable_map texts

theorem Value.isStorable_table (entries : List (String × τ)) : (table entries).isStorable = true := by
  refine areEntriesStorable_iff.mpr fun e he => ?_
  obtain ⟨⟨k, x⟩, -, rfl⟩ := List.mem_map.mp he
  exact ⟨rfl, isStorable_value x⟩

end Types

/-! ### Architecture -/

section Architecture

instance : StorableType Language := ⟨fun _ => rfl⟩

instance : StorableType SourceFile := ⟨fun _ => isStorable_record (by simp) (by simp)⟩

instance : StorableType (FileNode Float) := ⟨fun _ => isStorable_record (by simp) (by simp)⟩

instance : StorableType Cycle := ⟨fun _ => isStorable_record (by simp) (by simp)⟩

instance : StorableType (CouplingMetrics Float) := ⟨fun _ => isStorable_record (by simp) (by simp)⟩

theorem isStorable_edgesValue (edges : List (String × String)) : (edgesValue edges).isStorable = true := by
  refine areStorable_iff.mpr fun v hv => ?_
  obtain ⟨e, -, rfl⟩ := List.mem_map.mp hv
  exact isStorable_value [e.1, e.2]

instance : StorableType (DependencyGraph Float) := ⟨fun g => by
  have hnodes : (Value.table (g.nodes.map fun n => (n.path, n))).isStorable = true := isStorable_table _
  have hexternal : (Value.table (g.external.map fun (k, v) => (k, Value.texts v))).isStorable = true := by
    refine areEntriesStorable_iff.mpr fun e he => ?_
    rw [List.map_map] at he
    obtain ⟨own, -, rfl⟩ := List.mem_map.mp he
    exact ⟨rfl, isStorable_texts own.2⟩
  have hcycles : (Value.list (g.cycles.map value)).isStorable = true := areStorable_map g.cycles
  exact isStorable_record (by simp) (by simp [hnodes, hexternal, hcycles, isStorable_table, isStorable_edgesValue])⟩

instance : StorableType LayerDefinition := ⟨fun _ => isStorable_record (by simp) (by simp)⟩

instance : StorableType Violation := ⟨fun _ => isStorable_record (by simp) (by simp)⟩

end Architecture

/-! ### History -/

section History

theorem isStorable_block (path : Option String) (b : Source.Block) : (b.value path).isStorable = true :=
  isStorable_record (by simp) (by simp)

theorem isStorable_blocks (path : Option String) (blocks : List Source.Block) :
    (Value.tuple (blocks.map (·.value path))).isStorable = true := by
  refine areStorable_iff.mpr fun v hv => ?_
  obtain ⟨b, -, rfl⟩ := List.mem_map.mp hv
  exact isStorable_block path b

theorem isStorable_mode (e : Source.Extraction) : e.mode.isStorable = true := by cases e <;> rfl

theorem isStorable_extraction (path : Option String) (e : Source.Extraction) : (e.value path).isStorable = true :=
  isStorable_record (by simp) (by simp [isStorable_mode, isStorable_blocks])

theorem isStorable_fileComplexity (path : Option String) (c : FileComplexity Float) :
    (c.value path).isStorable = true :=
  isStorable_record (by simp) (by simp [isStorable_mode, isStorable_blocks])

instance : StorableType (ComplexityDelta Float) := ⟨fun _ => isStorable_record (by simp) (by simp)⟩

instance : StorableType Hunk := ⟨fun _ => isStorable_record (by simp) (by simp)⟩

instance : StorableType FileDiff := ⟨fun _ => isStorable_record (by simp) (by simp)⟩

instance : StorableType Activity := ⟨fun _ => isStorable_record (by simp) (by simp [isStorable_table])⟩

instance : StorableType PullRequest := ⟨fun _ => isStorable_record (by simp) (by simp)⟩

instance : StorableType (RequestMetrics Float) := ⟨fun _ => isStorable_record (by simp) (by simp)⟩

end History

/-! ### Velocity -/

section Velocity

instance : StorableType ReviewViolation := ⟨fun _ => isStorable_record (by simp) (by simp)⟩

instance : StorableType Blocker := ⟨fun _ => isStorable_record (by simp) (by simp)⟩

instance : StorableType (EffortScore Float) := ⟨fun _ => isStorable_record (by simp) (by simp)⟩

instance : StorableType (ImpactScore Float) := ⟨fun _ => isStorable_record (by simp) (by simp)⟩

instance : StorableType (VelocityScore Float) :=
  ⟨fun _ => isStorable_record (by simp [Span.fields]) (by simp [Span.fields])⟩

instance : StorableType (TeamVelocity Float) :=
  ⟨fun _ => isStorable_record (by simp [Span.fields]) (by simp [Span.fields])⟩

instance : StorableType (VelocityInput Float) :=
  ⟨fun _ => isStorable_record (by simp [Span.fields]) (by simp [Span.fields, isStorable_table])⟩

instance : StorableType (VelocityResult Float) := ⟨fun _ => isStorable_record (by simp) (by simp)⟩

end Velocity

/-! ### Drift -/

section Drift

instance : StorableType (Decision Float) := ⟨fun _ => isStorable_record (by simp) (by simp)⟩

instance : StorableType (DependencyStats Float) := ⟨fun _ => isStorable_record (by simp) (by simp)⟩

instance : StorableType (Snapshot Float) := ⟨fun _ => isStorable_record (by simp) (by simp)⟩

instance : StorableType DriftEvent := ⟨fun _ => isStorable_record (by simp) (by simp)⟩

instance : StorableType (DriftResult Float) := ⟨fun _ => isStorable_record (by simp) (by simp)⟩

instance : StorableType (TrendPoint Float) := ⟨fun _ => isStorable_record (by simp) (by simp)⟩

instance : StorableType (TrendSummary Float) := ⟨fun _ => isStorable_record (by simp) (by simp)⟩

instance : StorableType (ArchitectureReport Float) := ⟨fun _ => isStorable_record (by simp) (by simp)⟩

end Drift

/-! ### Settings -/

section Settings

variable {ι α : Type} [ToValue ι] [ToValue α] [StorableType ι] [StorableType α]

instance : StorableType (VelocityWeights α) :=
  ⟨fun _ => isStorable_record (by simp [VelocityWeights.entries]) (by simp [VelocityWeights.entries])⟩

instance : StorableType (ScoringConfig ι α) :=
  ⟨fun _ => isStorable_record (by simp [ScoringConfig.entries]) (by simp [ScoringConfig.entries])⟩

instance : StorableType (BlockerThresholds ι α) :=
  ⟨fun _ => isStorable_record (by simp [BlockerThresholds.entries]) (by simp [BlockerThresholds.entries])⟩

instance : StorableType (DriftThresholds ι α) :=
  ⟨fun _ => isStorable_record (by simp [DriftThresholds.entries]) (by simp [DriftThresholds.entries])⟩

instance {layer : Type} [ToValue layer] [StorableType layer] : StorableType (AnalysisConfig layer ι α) :=
  ⟨fun _ => isStorable_record (by simp) (by simp)⟩

end Settings

end RepoSurvey
