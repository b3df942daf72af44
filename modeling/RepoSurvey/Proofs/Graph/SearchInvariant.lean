import Mathlib.Data.List.Chain
import Mathlib.Data.List.Perm.Subperm
import RepoSurvey.Proofs.Graph.SearchStage
import RepoSurvey.Proofs.Text.Distinct

/-!
# What every stage of the search satisfies

* `Cycle.closing?`: the import that closes a cycle.
* `Sound`: no file is visited twice; what a file on the path has examined is finished, is the next file of the path, or
  closes a cycle found; what a finished file imports was finished before it or closes a cycle found; and every cycle
  found is one.
* `Move.sound`: a move keeps all of this.

The one difficult point is that a cycle is left out when one of the same files has been found. Both run through the
trail of the stage in its order, so that they are the same cycle (`eq_of_sublist`), and nothing is lost.
-/

namespace RepoSurvey

/-! ### Parts of a list without repetitions -/

section Parts

variable {l part part' : List String}

theorem filter_mem_part (hnodup : l.Nodup) (h : part.Sublist l) : l.filter (fun p => p ∈ part) = part := by
  have hself : part.filter (fun p => p ∈ part) = part := List.filter_eq_self.mpr fun p hp => decide_eq_true hp
  have hsub : part.Sublist (l.filter fun p => p ∈ part) := by
    have hfilter := h.filter fun p => decide (p ∈ part)
    rwa [hself] at hfilter
  have hperm : (l.filter fun p => p ∈ part).Subperm part :=
    (hnodup.filter _).subperm fun p hp => of_decide_eq_true (List.mem_filter.mp hp).2
  exact (hsub.eq_of_length_le hperm.length_le).symm

theorem eq_of_sublist (hnodup : l.Nodup) (h : part.Sublist l) (h' : part'.Sublist l)
    (hmem : ∀ p, p ∈ part ↔ p ∈ part') : part = part' := by
  rw [← filter_mem_part hnodup h, ← filter_mem_part hnodup h']
  exact List.filter_congr fun p _ => decide_eq_decide.mpr (hmem p)

end Parts

/-! ### The import that closes a cycle -/

namespace Cycle

/-- The last step of the way around a cycle. -/
def closing? (c : Cycle) : Option (String × String) :=
  match c.walk.reverse with
  | last :: before :: _ => some (before, last)
  | _ => none

theorem closing?_around (front : List String) (u v : String) :
    (around (front ++ [u]) v).closing? = some (u, v) := by
  simp [closing?, around]

theorem subset_addTo (found : List Cycle) (c : Cycle) : found ⊆ addTo found c := by
  rw [addTo]
  split_ifs
  · exact List.Subset.refl _
  · exact List.subset_append_left _ _

theorem mem_addTo {found : List Cycle} {c d : Cycle} (hd : d ∈ addTo found c) : d ∈ found ∨ d = c := by
  rw [addTo] at hd
  split_ifs at hd
  · exact Or.inl hd
  · rcases List.mem_append.mp hd with hd | hd
    · exact Or.inl hd
    · exact Or.inr (List.mem_singleton.mp hd)

/-- A cycle of the same files is noted. -/
theorem exists_mem_addTo (found : List Cycle) (c : Cycle) : ∃ d ∈ addTo found c, d.files = c.files := by
  rw [addTo]
  split_ifs with hany
  · obtain ⟨d, hd, hfiles⟩ := List.any_eq_true.mp hany
    exact ⟨d, hd, eq_of_beq hfiles⟩
  · exact ⟨c, List.mem_append_right _ (List.mem_singleton_self c), rfl⟩

theorem pairwise_addTo {found : List Cycle} (h : found.Pairwise fun c d => c.files ≠ d.files) (c : Cycle) :
    (addTo found c).Pairwise fun c d => c.files ≠ d.files := by
  rw [addTo]
  split_ifs with hany
  · exact h
  · refine List.pairwise_append.mpr ⟨h, List.pairwise_singleton _ c, fun d hd e he hfiles => hany ?_⟩
    rw [List.mem_singleton.mp he] at hfiles
    exact List.any_eq_true.mpr ⟨d, hd, beq_iff_eq.mpr hfiles⟩

end Cycle

namespace Search

variable (targets? : String → Option (List String)) (nodes : List String)

def Leads (p t : String) : Prop := ∃ ts, targets? p = some ts ∧ t ∈ ts

/-- An edge closes one of the cycles found. -/
def Closes (found : List Cycle) (p t : String) : Prop := ∃ c ∈ found, c.closing? = some (p, t)

/-- What the files of the path have examined, each below the file that it led to. -/
def Opened (found : List Cycle) (done : List String) : Option String → List (String × List String) → Prop
  | _, [] => True
  | next, (p, rest) :: below =>
    (∃ seen, targets? p = some (seen ++ rest) ∧ (∀ t ∈ seen, Closes found p t ∨ t ∈ done ∨ next = some t) ∧
      ∀ t, next = some t → t ∈ seen) ∧
    Opened found done (some p) below

/-- What the finished files import was finished before. -/
def Settled (found : List Cycle) : List String → Prop
  | [] => True
  | p :: rest => (∀ t, Leads targets? p t → Closes found p t ∨ t ∈ rest) ∧ Settled found rest

/-- A cycle runs through a trail in its order, from import to import. -/
def Genuine (trail : List String) (c : Cycle) : Prop :=
  ∃ start rest, c = Cycle.around (start :: rest) start ∧ (start :: rest).Sublist trail ∧
    List.IsChain (Leads targets?) (start :: rest ++ [start])

structure Sound (x : Stage) : Prop where
  nodup : x.trail.Nodup
  known : ∀ p ∈ x.trail, p ∈ nodes
  opened : Opened targets? x.found x.finished none x.frames
  settled : Settled targets? x.found x.finished
  genuine : ∀ c ∈ x.found, Genuine targets? x.trail c
  distinct : x.found.Pairwise fun c d => c.files ≠ d.files

variable {targets? nodes} {found found' : List Cycle} {done done' : List String} {next : Option String}
  {frames below : List (String × List String)}

/-! ### More cycles and more finished files -/

theorem Closes.mono (h : found ⊆ found') {p t : String} (hc : Closes found p t) : Closes found' p t := by
  obtain ⟨c, hc, hclosing⟩ := hc
  exact ⟨c, h hc, hclosing⟩

theorem Opened.mono (hfound : found ⊆ found') (hdone : done ⊆ done')
    (h : Opened targets? found done next frames) : Opened targets? found' done' next frames := by
  induction frames generalizing next with
  | nil => trivial
  | cons f below ih =>
    obtain ⟨⟨seen, hts, hseen, hnext⟩, hbelow⟩ := h
    refine ⟨⟨seen, hts, fun t ht => ?_, hnext⟩, ih hbelow⟩
    rcases hseen t ht with hc | hd | hn
    · exact Or.inl (hc.mono hfound)
    · exact Or.inr (Or.inl (hdone hd))
    · exact Or.inr (Or.inr hn)

theorem Settled.mono (hfound : found ⊆ found') (h : Settled targets? found done) :
    Settled targets? found' done := by
  induction done with
  | nil => trivial
  | cons p rest ih =>
    refine ⟨fun t ht => ?_, ih h.2⟩
    exact (h.1 t ht).imp_left (Closes.mono hfound)

theorem Genuine.mono {trail trail' : List String} (h : trail.Sublist trail') {c : Cycle}
    (hc : Genuine targets? trail c) : Genuine targets? trail' c := by
  obtain ⟨start, rest, heq, hsub, hchain⟩ := hc
  exact ⟨start, rest, heq, hsub.trans h, hchain⟩

/-- A file that is finished has been examined by the file below it. -/
theorem Opened.finish {u : String} (h : Opened targets? found done (some u) below) :
    Opened targets? found (u :: done) none below := by
  cases below with
  | nil => trivial
  | cons f below =>
    obtain ⟨⟨seen, hts, hseen, -⟩, hbelow⟩ := h
    refine ⟨⟨seen, hts, fun t ht => ?_, fun t ht => absurd ht (by simp)⟩,
      hbelow.mono (List.Subset.refl _) (List.subset_cons_self u done)⟩
    rcases hseen t ht with hc | hd | hn
    · exact Or.inl hc
    · exact Or.inr (Or.inl (List.mem_cons_of_mem u hd))
    · exact Or.inr (Or.inl (by rw [Option.some.inj hn]; exact List.mem_cons_self))

/-! ### The path is a chain of imports -/

theorem Opened.chain (h : Opened targets? found done next frames) :
    List.IsChain (Leads targets?) (pathOf frames) := by
  induction frames generalizing next with
  | nil => exact List.isChain_nil
  | cons f below ih =>
    obtain ⟨-, hbelow⟩ := h
    rw [pathOf_cons]
    refine (ih hbelow).append (List.isChain_singleton f.1) fun p hp t ht => ?_
    cases below with
    | nil => simp [pathOf] at hp
    | cons b below =>
      obtain ⟨⟨seen, hts, -, hnext⟩, -⟩ := hbelow
      rw [pathOf_cons, List.getLast?_concat, Option.mem_some_iff] at hp
      rw [List.head?_cons, Option.mem_some_iff] at ht
      subst hp ht
      exact ⟨seen ++ b.2, hts, List.mem_append_left _ (hnext _ rfl)⟩

theorem Opened.targets (h : Opened targets? found done next frames) {f : String × List String} (hf : f ∈ frames) :
    ∃ seen, targets? f.1 = some (seen ++ f.2) := by
  induction frames generalizing next with
  | nil => exact absurd hf List.not_mem_nil
  | cons b below ih =>
    obtain ⟨⟨seen, hts, -⟩, hbelow⟩ := h
    rcases List.mem_cons.mp hf with rfl | hf
    · exact ⟨seen, hts⟩
    · exact ih hbelow hf

/-- What is pending are files. -/
theorem Sound.pending {x : Stage} (hclosed : Closed targets? nodes) (h : Sound targets? nodes x) :
    ∀ f ∈ x.frames, ∀ t ∈ f.2, t ∈ nodes := by
  intro f hf t ht
  have hp : f.1 ∈ x.path := by
    rw [Stage.path, pathOf, List.mem_reverse]
    exact List.mem_map_of_mem hf
  obtain ⟨seen, hseen⟩ := h.opened.targets hf
  obtain ⟨ts, hts, hnodes⟩ := hclosed f.1 (h.known f.1 (List.mem_append_left _ hp))
  rw [hseen] at hts
  exact hnodes t (by rw [← Option.some.inj hts]; exact List.mem_append_right _ ht)

/-! ### A move keeps all of this -/

section Moves

variable {u v : String} {rest : List String}

theorem Sound.finish (h : Sound targets? nodes ⟨(u, []) :: below, done, found⟩) :
    Sound targets? nodes ⟨below, u :: done, found⟩ := by
  have htrail : (Stage.mk ((u, []) :: below) done found).trail = (Stage.mk below (u :: done) found).trail := by
    show pathOf ((u, []) :: below) ++ done = pathOf below ++ u :: done
    rw [pathOf_cons, List.append_assoc, List.singleton_append]
  obtain ⟨⟨seen, hts, hseen, -⟩, hbelow⟩ := h.opened
  rw [List.append_nil] at hts
  refine ⟨htrail ▸ h.nodup, htrail ▸ h.known, hbelow.finish, ⟨fun t ht => ?_, h.settled⟩, htrail ▸ h.genuine,
    h.distinct⟩
  obtain ⟨ts, hts', ht⟩ := ht
  rw [hts] at hts'
  rcases hseen t (by rw [Option.some.inj hts']; exact ht) with hc | hd | hn
  · exact Or.inl hc
  · exact Or.inr hd
  · exact absurd hn (by simp)

/-- The next target has been examined, if it is finished or closes a cycle. -/
theorem Opened.examine (h : Opened targets? found done none ((u, v :: rest) :: below))
    (hv : Closes found u v ∨ v ∈ done) : Opened targets? found done none ((u, rest) :: below) := by
  obtain ⟨⟨seen, hts, hseen, -⟩, hbelow⟩ := h
  refine ⟨⟨seen ++ [v], by rw [hts, List.append_assoc, List.singleton_append], fun t ht => ?_,
    fun t ht => absurd ht (by simp)⟩, hbelow⟩
  rcases List.mem_append.mp ht with ht | ht
  · exact hseen t ht
  · rw [List.mem_singleton.mp ht]
    exact hv.imp_right Or.inl

theorem Sound.pass (h : Sound targets? nodes ⟨(u, v :: rest) :: below, done, found⟩) (hv : v ∈ done) :
    Sound targets? nodes ⟨(u, rest) :: below, done, found⟩ :=
  ⟨h.nodup, h.known, h.opened.examine (Or.inr hv), h.settled, h.genuine, h.distinct⟩

theorem Sound.enter (h : Sound targets? nodes ⟨(u, v :: rest) :: below, done, found⟩) {ts : List String}
    (hnode : v ∈ nodes) (hv : v ∉ pathOf ((u, rest) :: below) ++ done) (hts : targets? v = some ts) :
    Sound targets? nodes ⟨(v, ts) :: (u, rest) :: below, done, found⟩ := by
  have htrail : (Stage.mk ((v, ts) :: (u, rest) :: below) done found).trail =
      pathOf ((u, rest) :: below) ++ v :: done := by
    show pathOf ((v, ts) :: (u, rest) :: below) ++ done = _
    rw [pathOf_cons, List.append_assoc, List.singleton_append]
  have hsub : (pathOf ((u, rest) :: below) ++ done).Sublist (pathOf ((u, rest) :: below) ++ v :: done) :=
    (List.sublist_cons_self v done).append_left _
  refine ⟨?_, fun p hp => ?_, ?_, h.settled, fun c hc => ?_, h.distinct⟩
  · rw [htrail]
    exact (List.nodup_middle).mpr (List.nodup_cons.mpr ⟨hv, h.nodup⟩)
  · rw [htrail, List.mem_append, List.mem_cons] at hp
    rcases hp with hp | rfl | hp
    · exact h.known p (List.mem_append_left _ hp)
    · exact hnode
    · exact h.known p (List.mem_append_right _ hp)
  · obtain ⟨⟨seen, hts', hseen, -⟩, hbelow⟩ := h.opened
    refine ⟨⟨[], hts, fun t ht => absurd ht List.not_mem_nil, fun t ht => absurd ht (by simp)⟩,
      ⟨seen ++ [v], by rw [hts', List.append_assoc, List.singleton_append], fun t ht => ?_, fun t ht => ?_⟩, hbelow⟩
    · rcases List.mem_append.mp ht with ht | ht
      · rcases hseen t ht with hc | hd | hn
        · exact Or.inl hc
        · exact Or.inr (Or.inl hd)
        · exact absurd hn (by simp)
      · rw [List.mem_singleton.mp ht]
        exact Or.inr (Or.inr rfl)
    · rw [← Option.some.inj ht]
      simp
  · rw [htrail]
    exact (h.genuine c hc).mono hsub

/-- The part of the path from a target on begins with it and ends with the last file. -/
theorem exists_segment {i : Nat} (hi : (pathOf ((u, rest) :: below))[i]? = some v) :
    (∃ tail, (pathOf ((u, rest) :: below)).drop i = v :: tail) ∧
      ∃ front, (pathOf ((u, rest) :: below)).drop i = front ++ [u] := by
  obtain ⟨hlt, hget⟩ := List.getElem?_eq_some_iff.mp hi
  constructor
  · exact ⟨_, by rw [List.drop_eq_getElem_cons hlt, hget]⟩
  · rw [pathOf_cons] at hlt ⊢
    rw [List.length_append, List.length_singleton] at hlt
    exact ⟨_, List.drop_append_of_le_length (Nat.le_of_lt_succ hlt)⟩

/-- Cycles of the same files on one trail are the same. -/
theorem Genuine.eq_of_files {trail : List String} (hnodup : trail.Nodup) {c d : Cycle}
    (hc : Genuine targets? trail c) (hd : Genuine targets? trail d) (h : ∀ p, p ∈ c.files ↔ p ∈ d.files) :
    c = d := by
  obtain ⟨start, rest, rfl, hsub, -⟩ := hc
  obtain ⟨start', rest', rfl, hsub', -⟩ := hd
  have hmem : ∀ p, p ∈ start :: rest ↔ p ∈ start' :: rest' := fun p =>
    (Text.mem_distinctAscending _).symm.trans ((h p).trans (Text.mem_distinctAscending _))
  obtain ⟨rfl, rfl⟩ := List.cons.inj (eq_of_sublist hnodup hsub hsub' hmem)
  rfl

/-- A target on the path closes a cycle with the part of the path from it on. -/
theorem Sound.genuine_around (h : Sound targets? nodes ⟨(u, v :: rest) :: below, done, found⟩) {i : Nat}
    (hi : (pathOf ((u, rest) :: below))[i]? = some v) :
    Genuine targets? (pathOf ((u, rest) :: below) ++ done)
      (Cycle.around ((pathOf ((u, rest) :: below)).drop i) v) := by
  obtain ⟨⟨tail, htail⟩, front, hfront⟩ := exists_segment hi
  refine ⟨v, tail, by rw [htail], ?_, ?_⟩
  · rw [← htail]
    exact (List.drop_sublist i _).trans (List.sublist_append_left _ _)
  · obtain ⟨⟨seen, hts, -⟩, -⟩ := h.opened
    rw [← htail]
    refine (h.opened.chain.drop i).append (List.isChain_singleton v) fun p hp t ht => ?_
    have hpu : u = p := by
      rw [show pathOf ((u, v :: rest) :: below) = pathOf ((u, rest) :: below) from rfl, hfront,
        List.getLast?_concat, Option.mem_some_iff] at hp
      exact hp
    rw [List.head?_cons, Option.mem_some_iff] at ht
    rw [← hpu, ← ht]
    exact ⟨_, hts, by simp⟩

/-- The step that closes a cycle closes the one that is noted, whether it is new or has been found before. -/
theorem Sound.closes_around (h : Sound targets? nodes ⟨(u, v :: rest) :: below, done, found⟩) {i : Nat}
    (hi : (pathOf ((u, rest) :: below))[i]? = some v) :
    Closes ((Cycle.around ((pathOf ((u, rest) :: below)).drop i) v).addTo found) u v := by
  have hgenuine := h.genuine_around hi
  obtain ⟨d, hd, hfiles⟩ := Cycle.exists_mem_addTo found (Cycle.around ((pathOf ((u, rest) :: below)).drop i) v)
  have hsame : d = Cycle.around ((pathOf ((u, rest) :: below)).drop i) v := by
    rcases Cycle.mem_addTo hd with hold | hnew
    · exact (h.genuine d hold).eq_of_files h.nodup hgenuine fun p => by rw [hfiles]
    · exact hnew
  obtain ⟨-, front, hfront⟩ := exists_segment hi
  refine ⟨d, hd, ?_⟩
  rw [hsame, hfront, Cycle.closing?_around]

theorem Sound.close (h : Sound targets? nodes ⟨(u, v :: rest) :: below, done, found⟩) {i : Nat}
    (hi : (pathOf ((u, rest) :: below))[i]? = some v) :
    Sound targets? nodes
      ⟨(u, rest) :: below, done, (Cycle.around ((pathOf ((u, rest) :: below)).drop i) v).addTo found⟩ := by
  have hsub := Cycle.subset_addTo found (Cycle.around ((pathOf ((u, rest) :: below)).drop i) v)
  refine ⟨h.nodup, h.known, ?_, h.settled.mono hsub, fun d hd => ?_, Cycle.pairwise_addTo h.distinct _⟩
  · exact (h.opened.mono hsub (List.Subset.refl _)).examine (Or.inl (h.closes_around hi))
  · rcases Cycle.mem_addTo hd with hold | rfl
    · exact h.genuine d hold
    · exact h.genuine_around hi

/-- **A move keeps a stage sound.** -/
theorem Move.sound {x x' : Stage} (hmove : Move targets? nodes x x') (h : Sound targets? nodes x) :
    Sound targets? nodes x' := by
  cases hmove with
  | finish u below done found => exact h.finish
  | close u v rest below done found i hi => exact h.close hi
  | pass u v rest below done found hv => exact h.pass hv
  | enter u v rest below done found ts hnode hv hts => exact h.enter hnode hv hts

end Moves

end Search
end RepoSurvey
