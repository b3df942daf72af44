import Mathlib.Data.List.Forall2
import RepoSurvey.Drift.Finding
import RepoSurvey.Proofs.LookUp

/-!
# Findings on decisions

Decisions are matched by their titles: of several with one title the last counts, in the place of the first.

* `titles`, `lastWith`: the distinct titles of some decisions, and the decision that counts for a title.
* `titlesOnlyIn`: the titles of one list of decisions that another one lacks.
* `lost_ofDecisions`, `emerged_ofDecisions`: each of these titles is reported once, in the order of the titles.
* `weakened_ofDecisions`: a weakened decision is a common one of which the confidence fell by more than is allowed.
* `lost_iff_emerged`: what is lost in one direction emerges in the other.
-/

namespace RepoSurvey

namespace Finding

variable {α : Type} {title : String}

/-! ### Titles -/

section Titles

/-- The distinct titles of some decisions in order of first appearance. -/
def titles (ds : List (Decision α)) : List String := (ds.map (·.title)).eraseDups

/-- The last decision with a title. -/
def lastWith (ds : List (Decision α)) (title : String) : Option (Decision α) :=
  ds.reverse.find? fun d => decide (d.title = title)

/-- The titles of one list of decisions that another one lacks. -/
def titlesOnlyIn (these others : List (Decision α)) : List String :=
  (titles these).filter fun title => !(others.map (·.title)).contains title

theorem keys_byTitle (ds : List (Decision α)) : (byTitle ds).map (·.1) = titles ds := by
  rw [byTitle, Table.keys_ofPairs, List.map_map]
  rfl

theorem get?_byTitle (ds : List (Decision α)) (title : String) : (byTitle ds).get? title = lastWith ds title := by
  rw [byTitle, Table.get?_ofPairs, ← List.map_reverse, List.find?_map, Option.map_map]
  exact Option.map_id'

theorem nodup_keys_byTitle (ds : List (Decision α)) : ((byTitle ds).map (·.1)).Nodup := by
  rw [keys_byTitle]
  exact nodup_eraseDups _

theorem mem_byTitle {ds : List (Decision α)} {d : Decision α} :
    (title, d) ∈ byTitle ds ↔ lastWith ds title = some d := by
  rw [← get?_byTitle]
  exact (Table.get?_eq_some (nodup_keys_byTitle ds)).symm

theorem title_of_lastWith {ds : List (Decision α)} {d : Decision α} (h : lastWith ds title = some d) :
    d ∈ ds ∧ d.title = title := by
  have hfound := List.find?_some (p := fun d : Decision α => decide (d.title = title)) h
  exact ⟨List.mem_reverse.mp (List.mem_of_find?_eq_some h), of_decide_eq_true hfound⟩

theorem isSome_lastWith {ds : List (Decision α)} : (lastWith ds title).isSome ↔ title ∈ ds.map (·.title) := by
  rw [lastWith, List.find?_isSome, List.mem_map]
  constructor
  · rintro ⟨d, hd, htitle⟩
    exact ⟨d, List.mem_reverse.mp hd, of_decide_eq_true htitle⟩
  · rintro ⟨d, hd, rfl⟩
    exact ⟨d, List.mem_reverse.mpr hd, decide_eq_true rfl⟩

theorem contains_byTitle (ds : List (Decision α)) (title : String) :
    (byTitle ds).contains title = (ds.map (·.title)).contains title := by
  rw [Bool.eq_iff_iff, Table.contains, get?_byTitle, isSome_lastWith, List.contains_iff_mem]

/-- The entries of the earlier decisions whose titles are gone. -/
def gone (before now : List (Decision α)) : List (String × Decision α) :=
  (byTitle before).filter fun (title, _) => !(byTitle now).contains title

theorem keys_gone (before now : List (Decision α)) : (gone before now).map (·.1) = titlesOnlyIn before now := by
  rw [gone, titlesOnlyIn, ← keys_byTitle, List.filter_map]
  refine congrArg (List.map _) (List.filter_congr ?_)
  intro e _
  exact congrArg Bool.not (contains_byTitle now e.1)

theorem lastWith_of_mem_gone {before now : List (Decision α)} {e : String × Decision α} (h : e ∈ gone before now) :
    lastWith before e.1 = some e.2 :=
  mem_byTitle.mp (List.mem_of_mem_filter h)

end Titles

/-! ### Lost, new and weakened decisions -/

section Decisions

variable [Scalar α] {t : DriftThresholds Int α} {before now : List (Decision α)}

/-- What a weakened decision is: both lists have the title, and from the last decision with it in the one to that in the
other the confidence falls by more than is allowed. -/
def IsWeakening (t : DriftThresholds Int α) (before now : List (Decision α)) (title : String) (f : Finding) : Prop :=
  ∃ b n, lastWith before title = some b ∧ lastWith now title = some n ∧
    Scalar.lt t.weakenedDrop (b.confidence - n.confidence) ∧ weakened? t b n = some f

theorem type_of_weakened? {b n : Decision α} {f : Finding} (h : weakened? t b n = some f) :
    f.type = .decisionWeakened ∧ Scalar.lt t.weakenedDrop (b.confidence - n.confidence) := by
  simp only [weakened?] at h
  split at h
  · next hdrop =>
    rw [← Option.some.inj h]
    exact ⟨rfl, hdrop⟩
  · exact absurd h nofun

/-- Findings that are all of one type are kept or dropped together. -/
theorem filter_type {fs : List Finding} {kind : DriftEventType} (h : ∀ f ∈ fs, f.type = kind) (type : DriftEventType) :
    fs.filter (·.type = type) = if type = kind then fs else [] := by
  by_cases hkind : type = kind
  · rw [if_pos hkind, List.filter_eq_self]
    exact fun f hf => decide_eq_true ((h f hf).trans hkind.symm)
  · rw [if_neg hkind, List.filter_eq_nil_iff]
    exact fun f hf htype => hkind ((of_decide_eq_true htype).symm.trans (h f hf))

/-- The common decisions that are weakened. -/
def fallen (t : DriftThresholds Int α) (before now : List (Decision α)) : List Finding :=
  (byTitle now).filterMap fun (title, d) => ((byTitle before).get? title).bind fun b => weakened? t b d

theorem ofDecisions_eq : ofDecisions t before now =
    (gone before now).map (fun e => lost t e.2) ++ (gone now before).map (fun e => emerged e.1) ++
      fallen t before now :=
  rfl

theorem isWeakening_of_mem {f : Finding} (h : f ∈ fallen t before now) : ∃ title, IsWeakening t before now title f := by
  obtain ⟨⟨title, n⟩, hmem, hfind⟩ := List.mem_filterMap.mp h
  obtain ⟨b, hb, hweak⟩ := Option.bind_eq_some_iff.mp hfind
  rw [get?_byTitle] at hb
  exact ⟨title, b, n, hb, mem_byTitle.mp hmem, (type_of_weakened? hweak).2, hweak⟩

theorem IsWeakening.mem {f : Finding} (h : IsWeakening t before now title f) : f ∈ ofDecisions t before now := by
  obtain ⟨b, n, hb, hn, -, hweak⟩ := h
  refine List.mem_append_right _ (List.mem_filterMap.mpr ⟨(title, n), mem_byTitle.mpr hn, ?_⟩)
  dsimp only
  rw [get?_byTitle, hb]
  exact hweak

theorem IsWeakening.type {f : Finding} (h : IsWeakening t before now title f) : f.type = .decisionWeakened := by
  obtain ⟨b, n, -, -, -, hweak⟩ := h
  exact (type_of_weakened? hweak).1

/-- The findings of one type are the lost, the new or the weakened decisions. -/
theorem filter_ofDecisions (type : DriftEventType) : (ofDecisions t before now).filter (·.type = type) =
    (if type = .decisionLost then (gone before now).map fun e => lost t e.2 else []) ++
      (if type = .decisionEmerged then (gone now before).map fun e => emerged e.1 else []) ++
      (if type = .decisionWeakened then fallen t before now else []) := by
  have hlost : ∀ f ∈ (gone before now).map fun e => lost t e.2, f.type = .decisionLost := by
    intro f hf
    obtain ⟨e, -, rfl⟩ := List.mem_map.mp hf
    rfl
  have hemerged : ∀ f ∈ (gone now before).map fun e => emerged e.1, f.type = .decisionEmerged := by
    intro f hf
    obtain ⟨e, -, rfl⟩ := List.mem_map.mp hf
    rfl
  have hfallen : ∀ f ∈ fallen t before now, f.type = .decisionWeakened := by
    intro f hf
    obtain ⟨title, hweak⟩ := isWeakening_of_mem hf
    exact hweak.type
  rw [ofDecisions_eq, List.filter_append, List.filter_append, filter_type hlost, filter_type hemerged,
    filter_type hfallen]

theorem filter_lost : (ofDecisions t before now).filter (·.type = .decisionLost) =
    (gone before now).map fun e => lost t e.2 := by
  rw [filter_ofDecisions, if_pos rfl, if_neg nofun, if_neg nofun, List.append_nil, List.append_nil]

theorem filter_emerged : (ofDecisions t before now).filter (·.type = .decisionEmerged) =
    (gone now before).map fun e => emerged e.1 := by
  rw [filter_ofDecisions, if_neg nofun, if_pos rfl, if_neg nofun, List.nil_append, List.append_nil]

/-- Each title that is gone is reported once, in the order of the titles, with the last decision that had it. -/
theorem lost_ofDecisions : List.Forall₂ (fun title f => ∃ d, lastWith before title = some d ∧ f = lost t d)
    (titlesOnlyIn before now) ((ofDecisions t before now).filter (·.type = .decisionLost)) := by
  rw [filter_lost, ← keys_gone, List.forall₂_map_left_iff, List.forall₂_map_right_iff]
  exact List.forall₂_same.mpr fun e he => ⟨e.2, lastWith_of_mem_gone he, rfl⟩

/-- Each title that is new is reported once, in the order of the titles. -/
theorem emerged_ofDecisions : (ofDecisions t before now).filter (·.type = .decisionEmerged) =
    (titlesOnlyIn now before).map emerged := by
  rw [filter_emerged, ← keys_gone, List.map_map]
  rfl

theorem weakened_ofDecisions {f : Finding} (hf : f ∈ ofDecisions t before now) (htype : f.type = .decisionWeakened) :
    ∃ title, IsWeakening t before now title f := by
  have hkept : f ∈ (ofDecisions t before now).filter (·.type = .decisionWeakened) :=
    List.mem_filter.mpr ⟨hf, decide_eq_true htype⟩
  rw [filter_ofDecisions, if_neg nofun, if_neg nofun, if_pos rfl, List.append_nil, List.nil_append] at hkept
  exact isWeakening_of_mem hkept

/-- Only the three kinds of findings come from decisions. -/
theorem type_of_mem_ofDecisions {f : Finding} (hf : f ∈ ofDecisions t before now) :
    f.type = .decisionLost ∨ f.type = .decisionEmerged ∨ f.type = .decisionWeakened := by
  by_contra hother
  obtain ⟨hlost, hemerged, hweakened⟩ := not_or.mp hother |>.imp_right not_or.mp
  have hkept : f ∈ (ofDecisions t before now).filter (·.type = f.type) := List.mem_filter.mpr ⟨hf, decide_eq_true rfl⟩
  rw [filter_ofDecisions, if_neg hlost, if_neg hemerged, if_neg hweakened] at hkept
  exact absurd hkept List.not_mem_nil

-- Findings do not carry titles, which are read off their descriptions.

theorem emerged_inj {title other : String} (h : emerged title = emerged other) : title = other := by
  have hdescription := congrArg Finding.description h
  exact String.append_right_inj _ |>.mp (String.append_left_inj _ |>.mp hdescription)

theorem title_of_lost {d e : Decision α} (h : lost t d = lost t e) : d.title = e.title := by
  have hdescription := congrArg Finding.description h
  exact String.append_right_inj _ |>.mp (String.append_left_inj _ |>.mp hdescription)

/-- The titles that are lost in one direction are those that emerge in the other. -/
theorem lost_iff_emerged : (∃ d, d.title = title ∧ lost t d ∈ ofDecisions t before now) ↔
    emerged title ∈ ofDecisions t now before := by
  have hlost : ∀ f, f ∈ ofDecisions t before now ∧ f.type = .decisionLost ↔ ∃ e ∈ gone before now, lost t e.2 = f := by
    intro f
    rw [← List.mem_map, ← filter_lost, List.mem_filter, decide_eq_true_iff]
  have hemerged : ∀ f, f ∈ ofDecisions t now before ∧ f.type = .decisionEmerged ↔
      ∃ e ∈ gone before now, emerged e.1 = f := by
    intro f
    rw [← List.mem_map, ← filter_emerged, List.mem_filter, decide_eq_true_iff]
  constructor
  · rintro ⟨d, rfl, hd⟩
    obtain ⟨e, he, heq⟩ := (hlost _).mp ⟨hd, rfl⟩
    have htitle : e.1 = d.title := (title_of_lastWith (lastWith_of_mem_gone he)).2.symm.trans (title_of_lost heq)
    exact ((hemerged _).mpr ⟨e, he, by rw [htitle]⟩).1
  · intro h
    obtain ⟨e, he, heq⟩ := (hemerged _).mp ⟨h, rfl⟩
    have htitle : e.2.title = title := (title_of_lastWith (lastWith_of_mem_gone he)).2.trans (emerged_inj heq)
    exact ⟨e.2, htitle, ((hlost _).mpr ⟨e, he, rfl⟩).1⟩

end Decisions

end Finding
end RepoSurvey
