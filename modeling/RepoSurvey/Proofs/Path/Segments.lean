import RepoSurvey.Path
import RepoSurvey.Proofs.Text.Lines
import RepoSurvey.Proofs.Text.PatternReading

/-!
# Paths by their segments

A relative path is what its segments say, and each operation on paths is one on lists of segments, as long as the
directories among them have names.

* `Path.IsName`, `Path.IsPlain`: segments that name something, and the relative paths of nothing else.
* `Path.base_cases`, `segments_append`: the last segment, and what a text behind it makes of it.
* `Path.directory_eq`, `join_eq`: the directory of a path, and a path below a directory.
* `Path.foldl_pushSegment_names`, `foldl_pushSegment_back`: names are kept one after the other, and as many steps up
  take them away again; `getLast?_foldl_pushSegment`: a step above the top stays.
* `Path.normal_eq`, `normal_of_isPlain`, `prefix_normal`: the normal forms that come of it.
-/

namespace RepoSurvey
namespace Path

variable {p q s part rest front name : List Char} {parts dirs xs ys : List (List Char)}

/-! ### Segments -/

section Segments

theorem not_mem_of_mem_segments (h : part ∈ segments s) : '/' ∉ part := not_mem_of_mem_splitOn h

theorem ofSegments_append (hxs : xs ≠ []) (hys : ys ≠ []) :
    ofSegments (xs ++ ys) = ofSegments xs ++ '/' :: ofSegments ys := intercalate_append hxs hys

/-- A path below some segments begins with them. -/
theorem segments_below (hxs : xs ≠ []) (h : ∀ x ∈ xs, '/' ∉ x) :
    segments (ofSegments xs ++ '/' :: rest) = xs ++ segments rest := by
  rw [segments, List.splitOn_append_cons_self, ofSegments, List.splitOn_intercalate '/' h hxs, segments]

theorem ofSegments_segments (p : List Char) : ofSegments (segments p) = p := List.intercalate_splitOn '/'

theorem segments_ofSegments (hne : parts ≠ []) (h : ∀ x ∈ parts, '/' ∉ x) : segments (ofSegments parts) = parts :=
  List.splitOn_intercalate '/' h hne

theorem segments_ne_nil (p : List Char) : segments p ≠ [] := List.splitOn_ne_nil '/' p

theorem segments_append_slash (front rest : List Char) :
    segments (front ++ '/' :: rest) = segments front ++ segments rest := List.splitOn_append_cons_self front rest

theorem segments_of_not_mem (h : '/' ∉ p) : segments p = [p] := List.splitOn_eq_singleton h

theorem nil_mem_segments_of_startsWithSlash (h : startsWithSlash p = true) : [] ∈ segments p := by
  cases p with
  | nil => cases h
  | cons c rest =>
    have hc : c = '/' := by simpa [startsWithSlash] using h
    have hcut : segments ('/' :: rest) = segments [] ++ segments rest := segments_append_slash [] rest
    rw [hc, hcut]
    exact List.mem_append_left _ (List.mem_singleton_self [])

theorem nil_mem_segments_of_endsWithSlash (h : endsWithSlash p = true) : [] ∈ segments p := by
  have hlast : p.getLast? = some '/' := by simpa [endsWithSlash] using h
  obtain ⟨front, rfl⟩ := List.getLast?_eq_some_iff.mp hlast
  rw [segments_append_slash]
  exact List.mem_append_right _ (List.mem_singleton_self [])

end Segments

/-! ### The last segment -/

section LastSegment

/-- Read backwards, a text without slashes is taken as a whole. -/
theorem bne_of_mem_reverse (hname : '/' ∉ name) : ∀ c ∈ name.reverse, (c != '/') = true := by
  intro c hc
  rw [bne_iff_ne]
  rintro rfl
  exact hname (List.mem_reverse.mp hc)

theorem splitLast_append_slash (hname : '/' ∉ name) :
    splitLast (front ++ '/' :: name) = (front ++ ['/'], name) := by
  have htail : ((front ++ '/' :: name).reverse.takeWhile (· != '/')).reverse = name := by
    have hstop : ('/' :: front.reverse).head?.any (· != '/') = false := by simp
    have htake := Pattern.takeWhile_append_edge (bne_of_mem_reverse hname) hstop
    rw [List.reverse_append, List.reverse_cons, List.append_assoc, List.singleton_append, htake, List.reverse_reverse]
  have htake : (front ++ '/' :: name).take ((front ++ '/' :: name).length - name.length) = front ++ ['/'] := by
    have hlength : (front ++ '/' :: name).length - name.length = (front ++ ['/']).length := by
      simp
      omega
    rw [hlength, List.append_cons front '/' name, List.take_left]
  rw [splitLast]
  simp only [htail, htake]

theorem splitLast_of_not_mem (hname : '/' ∉ name) : splitLast name = ([], name) := by
  have htake : name.reverse.takeWhile (· != '/') = name.reverse := by
    simpa using Pattern.takeWhile_append_edge (bne_of_mem_reverse hname) (s := []) rfl
  rw [splitLast]
  simp [htake]

theorem base_append_slash (hname : '/' ∉ name) : base (front ++ '/' :: name) = name := by
  rw [base, splitLast_append_slash hname]

/-- A path is a single segment, or something with a slash and its last segment. -/
theorem base_cases (p : List Char) : ('/' ∉ p ∧ base p = p) ∨ ∃ front, p = front ++ '/' :: base p ∧ '/' ∉ base p := by
  by_cases hslash : '/' ∈ p
  · right
    -- the last slash is the first one of the reversed text
    obtain ⟨name, front, hp, hname⟩ := List.eq_append_cons_of_mem (List.mem_reverse.mpr hslash)
    have hcut : p = front.reverse ++ '/' :: name.reverse := by
      rw [← List.reverse_reverse p, hp]
      simp
    have hbase : base p = name.reverse := by
      rw [hcut, base_append_slash (by simpa using hname)]
    exact ⟨front.reverse, hbase ▸ hcut, by simpa [hbase] using hname⟩
  · left
    exact ⟨hslash, by rw [base, splitLast_of_not_mem hslash]⟩

/-- The last segment stands at the end of the segments. -/
theorem segments_eq (p : List Char) : segments p = (segments p).dropLast ++ [base p] := by
  obtain ⟨hslash, hbase⟩ | ⟨front, hp, hname⟩ := base_cases p
  · rw [segments_of_not_mem hslash, hbase]
    rfl
  · have hsegments : segments p = segments front ++ [base p] := by
      conv_lhs => rw [hp, segments_append_slash, segments_of_not_mem hname]
    rw [hsegments, List.dropLast_concat]

theorem base_of_segments (h : segments p = xs ++ segments q) : base p = base q := by
  rw [segments_eq p, segments_eq q, ← List.append_assoc] at h
  exact (List.append_singleton_inj.mp h).2

/-- What is put behind a path goes on from its last segment. -/
theorem segments_append (p q : List Char) : segments (p ++ q) = (segments p).dropLast ++ segments (base p ++ q) := by
  obtain ⟨hslash, hbase⟩ | ⟨front, hp, hname⟩ := base_cases p
  · rw [segments_of_not_mem hslash, hbase]
    rfl
  · have hsegments : (segments p).dropLast = segments front := by
      rw [hp, segments_append_slash, segments_of_not_mem hname, List.dropLast_concat]
    rw [hsegments]
    conv_lhs => rw [hp, List.append_assoc, List.cons_append, segments_append_slash]

/-- Below some segments, what is put behind a path stays behind it. -/
theorem ofSegments_append_segments (xs : List (List Char)) (p q : List Char) :
    ofSegments (xs ++ segments (p ++ q)) = ofSegments (xs ++ segments p) ++ q := by
  by_cases hxs : xs = []
  · rw [hxs, List.nil_append, List.nil_append, ofSegments_segments, ofSegments_segments]
  · rw [ofSegments_append hxs (segments_ne_nil _), ofSegments_append hxs (segments_ne_nil _), ofSegments_segments,
      ofSegments_segments, List.append_assoc, List.cons_append]

/-- The last segment of a path is the beginning of a segment of any longer path. -/
theorem exists_segment_of_append (p q : List Char) : ∃ part ∈ segments (p ++ q), base p <+: part := by
  obtain ⟨first, others, hfirst⟩ := List.exists_cons_of_ne_nil (segments_ne_nil q)
  have hname : '/' ∉ base p := by
    obtain ⟨hslash, hbase⟩ | ⟨front, -, hname⟩ := base_cases p
    · rwa [hbase]
    · exact hname
  have hfirstName : '/' ∉ first := not_mem_of_mem_segments (hfirst ▸ List.mem_cons_self)
  have hsegments : segments (base p ++ q) = (base p ++ first) :: others := by
    have hq : q = ofSegments (first :: others) := by rw [← hfirst, ofSegments_segments]
    have hjoined : base p ++ q = ofSegments ((base p ++ first) :: others) := by
      rw [hq]
      cases others with
      | nil => simp [ofSegments]
      | cons other others => simp [ofSegments, List.intercalate_cons_cons]
    rw [hjoined, segments_ofSegments (List.cons_ne_nil _ _)]
    intro x hx
    rcases List.mem_cons.mp hx with rfl | hx
    · simp [hname, hfirstName]
    · exact not_mem_of_mem_segments (hfirst ▸ List.mem_cons_of_mem _ hx)
  refine ⟨base p ++ first, ?_, List.prefix_append _ _⟩
  rw [segments_append, hsegments]
  exact List.mem_append_right _ List.mem_cons_self

end LastSegment

/-! ### Names -/

section Names

/-- A segment that names something: it is neither empty nor a dot nor two dots. -/
def IsName (part : List Char) : Prop := '/' ∉ part ∧ part ∉ [[], ['.'], ['.', '.']]

instance : DecidablePred IsName :=
  fun part => inferInstanceAs (Decidable ('/' ∉ part ∧ part ∉ [[], ['.'], ['.', '.']]))

/-- A relative path in normal form: each of its segments names something. -/
def IsPlain (p : List Char) : Prop := ∀ part ∈ segments p, IsName part

instance : DecidablePred IsPlain := fun p => inferInstanceAs (Decidable (∀ part ∈ segments p, IsName part))

theorem IsName.not_mem (h : IsName part) : '/' ∉ part := h.1

theorem IsName.ne_nil (h : IsName part) : part ≠ [] := fun hp => h.2 (by simp [hp])

theorem IsName.ne_dot (h : IsName part) : part ≠ ['.'] := fun hp => h.2 (by simp [hp])

theorem IsName.ne_up (h : IsName part) : part ≠ ['.', '.'] := fun hp => h.2 (by simp [hp])

theorem isName_of_length (hslash : '/' ∉ part) (h : 2 < part.length) : IsName part := by
  refine ⟨hslash, fun hmem => ?_⟩
  simp only [List.mem_cons, List.not_mem_nil, or_false] at hmem
  rcases hmem with rfl | rfl | rfl
  · simp at h
  · simp at h
  · simp at h

theorem nil_not_mem (h : ∀ d ∈ dirs, IsName d) : [] ∉ dirs := fun hnil => (h [] hnil).ne_nil rfl

theorem ofSegments_ne_nil (hne : parts ≠ []) (h : ∀ x ∈ parts, IsName x) : ofSegments parts ≠ [] := by
  intro hnil
  have hsegments := segments_ofSegments hne fun x hx => (h x hx).not_mem
  rw [hnil] at hsegments
  exact nil_not_mem h (hsegments ▸ List.mem_singleton_self [])

theorem isPlain_ofSegments (hne : parts ≠ []) (h : ∀ x ∈ parts, IsName x) : IsPlain (ofSegments parts) := by
  rwa [IsPlain, segments_ofSegments hne fun x hx => (h x hx).not_mem]

theorem IsPlain.startsWithSlash (h : IsPlain p) : startsWithSlash p = false :=
  Bool.eq_false_iff.mpr fun hstart => nil_not_mem h (nil_mem_segments_of_startsWithSlash hstart)

/-- A path with a suffix behind its last segment. -/
theorem IsPlain.append_suffix (h : IsPlain p) (hslash : '/' ∉ q) (hlength : 2 < q.length) : IsPlain (p ++ q) := by
  have hbase : base p ∈ segments p := segments_eq p ▸ List.mem_append_right _ (List.mem_singleton_self _)
  have hname : '/' ∉ base p := (h (base p) hbase).not_mem
  have hlast : '/' ∉ base p ++ q := by simp [hname, hslash]
  intro part hpart
  rw [segments_append, segments_of_not_mem hlast] at hpart
  rcases List.mem_append.mp hpart with hpart | hpart
  · exact h part (List.dropLast_subset _ hpart)
  · rw [List.mem_singleton.mp hpart]
    exact isName_of_length hlast (by rw [List.length_append]; omega)

/-- All segments but the last stay what they are, whatever is put behind a path. -/
theorem isPlain_of_append (h : IsPlain (p ++ q)) (hbase : IsName (base p)) : IsPlain p := by
  intro part hpart
  rw [segments_eq] at hpart
  rcases List.mem_append.mp hpart with hpart | hpart
  · exact h part (segments_append p q ▸ List.mem_append_left _ hpart)
  · rwa [List.mem_singleton.mp hpart]

end Names

/-! ### Directories and what is below them -/

section Below

/-- The directory of a path, without its last segment. -/
theorem directory_eq (h : [] ∉ (segments p).dropLast) : directory p = ofSegments (segments p).dropLast := by
  obtain ⟨hslash, -⟩ | ⟨front, hp, hname⟩ := base_cases p
  · rw [segments_of_not_mem hslash, directory, splitLast_of_not_mem hslash]
    rfl
  · have hsegments : (segments p).dropLast = segments front := by
      rw [hp, segments_append_slash, segments_of_not_mem hname, List.dropLast_concat]
    rw [hsegments] at h ⊢
    have hends : endsWithSlash front = false :=
      Bool.eq_false_iff.mpr fun hends => h (nil_mem_segments_of_endsWithSlash hends)
    have hfront : front ≠ [] := by
      rintro rfl
      exact h (List.mem_singleton_self [])
    obtain ⟨init, c, hinit⟩ := (List.eq_nil_or_concat front).resolve_left hfront
    have hc : c ≠ '/' := by simpa [endsWithSlash, hinit] using hends
    have hmixed : (front ++ ['/']).all (· == '/') = false := by simp [hinit, hc]
    have hcut : (front ++ ['/']).reverse.dropWhile (· == '/') = front.reverse := by simp [hinit, hc]
    rw [hp, directory, splitLast_append_slash hname]
    simp only [hmixed, hcut, List.reverse_reverse, ofSegments_segments, Bool.false_eq_true, if_false]

theorem directory_of_segments (h : segments p = dirs ++ [name]) (hdirs : ∀ d ∈ dirs, IsName d) :
    directory p = ofSegments dirs := by
  have hdropLast : (segments p).dropLast = dirs := by rw [h, List.dropLast_concat]
  rw [directory_eq (hdropLast ▸ nil_not_mem hdirs), hdropLast]

/-- One step up from a directory. -/
theorem directory_ofSegments (h : ∀ d ∈ dirs, IsName d) : directory (ofSegments dirs) = ofSegments dirs.dropLast := by
  by_cases hdirs : dirs = []
  · rw [hdirs]
    rfl
  · have hsegments := segments_ofSegments hdirs fun d hd => (h d hd).not_mem
    rw [directory_eq, hsegments]
    rw [hsegments]
    exact fun hnil => nil_not_mem h (List.dropLast_subset _ hnil)

/-- A path below a directory has the segments of both. -/
theorem join_eq (h : ∀ d ∈ dirs, IsName d) (hq : startsWithSlash q = false) :
    join (ofSegments dirs) q = ofSegments (dirs ++ segments q) := by
  rw [join, hq]
  by_cases hdirs : dirs = []
  · rw [hdirs, List.nil_append, ofSegments_segments]
    rfl
  · have hsegments := segments_ofSegments hdirs fun d hd => (h d hd).not_mem
    have hends : endsWithSlash (ofSegments dirs) = false := by
      refine Bool.eq_false_iff.mpr fun hends => nil_not_mem h ?_
      exact hsegments ▸ nil_mem_segments_of_endsWithSlash hends
    rw [hends, List.isEmpty_eq_false_iff.mpr (ofSegments_ne_nil hdirs h), ofSegments_append hdirs (segments_ne_nil q),
      ofSegments_segments]
    rfl

theorem segments_join (h : ∀ d ∈ dirs, IsName d) (hq : startsWithSlash q = false) :
    segments (join (ofSegments dirs) q) = dirs ++ segments q := by
  rw [join_eq h hq, segments_ofSegments (by simp [segments_ne_nil])]
  intro x hx
  rcases List.mem_append.mp hx with hx | hx
  · exact (h x hx).not_mem
  · exact not_mem_of_mem_segments hx

theorem startsWithSlash_join (h : ∀ d ∈ dirs, IsName d) (hq : startsWithSlash q = false) :
    startsWithSlash (join (ofSegments dirs) q) = false := by
  cases dirs with
  | nil =>
    rw [join, hq]
    exact hq
  | cons d others =>
    rw [join_eq h hq]
    obtain ⟨c, letters, rfl⟩ := List.exists_cons_of_ne_nil (h d List.mem_cons_self).ne_nil
    have hc : c ≠ '/' := fun hc => (h _ List.mem_cons_self).not_mem (hc ▸ List.mem_cons_self)
    have hne : others ++ segments q ≠ [] := by simp [segments_ne_nil]
    rw [List.cons_append, ← List.singleton_append, ofSegments_append (List.cons_ne_nil _ _) hne]
    simpa [startsWithSlash, ofSegments] using hc

end Below

/-! ### Normal forms -/

section Normal

variable {rooted : Bool} {done : List (List Char)}

theorem foldl_pushSegment_names (h : ∀ x ∈ xs, IsName x) : xs.foldl (pushSegment rooted) done = xs.reverse ++ done := by
  induction xs generalizing done with
  | nil => rfl
  | cons x xs ih =>
    have hx := h x List.mem_cons_self
    have hpush : pushSegment rooted done x = x :: done := by simp [pushSegment, hx.ne_nil, hx.ne_dot, hx.ne_up]
    rw [List.foldl_cons, hpush, ih fun y hy => h y (List.mem_cons_of_mem x hy), List.reverse_cons, List.append_assoc,
      List.singleton_append]

/-- As many steps up as there are names lead back. -/
theorem foldl_pushSegment_back (h : ∀ x ∈ xs, IsName x) :
    (List.replicate xs.length ['.', '.']).foldl (pushSegment rooted) (xs ++ done) = done := by
  induction xs with
  | nil => rfl
  | cons x xs ih =>
    have hpop : pushSegment rooted (x :: xs ++ done) ['.', '.'] = xs ++ done := by
      simp [pushSegment, (h x List.mem_cons_self).ne_up]
    rw [List.length_cons, List.replicate_succ, List.foldl_cons, hpop, ih fun y hy => h y (List.mem_cons_of_mem x hy)]

/-- A step above the top of a relative path is never taken back. -/
theorem getLast?_pushSegment (h : done.getLast? = some ['.', '.']) (part : List Char) :
    (pushSegment false done part).getLast? = some ['.', '.'] := by
  cases done with
  | nil => cases h
  | cons last others =>
    by_cases hskip : part = [] ∨ part = ['.']
    · rw [pushSegment, if_pos hskip]
      exact h
    · by_cases hup : part = ['.', '.']
      · by_cases hlast : last = ['.', '.']
        · simp [pushSegment, hup, hlast, List.getLast?_cons_cons, ← h]
        · have hothers : others ≠ [] := by
            rintro rfl
            exact hlast (by simpa using h)
          have hpop : pushSegment false (last :: others) part = others := by simp [pushSegment, hup, hlast]
          rw [hpop, ← h, List.getLast?_cons_of_ne_nil hothers]
      · rw [pushSegment, if_neg hskip, if_neg hup, List.getLast?_cons_cons]
        exact h

theorem getLast?_foldl_pushSegment (h : done.getLast? = some ['.', '.']) (xs : List (List Char)) :
    (xs.foldl (pushSegment false) done).getLast? = some ['.', '.'] := by
  induction xs generalizing done with
  | nil => exact h
  | cons x xs ih => exact ih (getLast?_pushSegment h x)

/-- The normal form of a relative path, from what is left of its segments. -/
theorem normal_eq (h : startsWithSlash p = false) (hparts : (segments p).foldl (pushSegment false) [] = parts.reverse)
    (hne : ofSegments parts ≠ []) : normal p = ofSegments parts := by
  have hroot : root p = [] := by
    cases p with
    | nil => rfl
    | cons c rest =>
      have hc : c ≠ '/' := by simpa [startsWithSlash] using h
      unfold root
      split
      · next heq => exact absurd (List.cons.inj heq).1 hc
      · next heq => exact absurd (List.cons.inj heq).1 hc
      · next heq => exact absurd (List.cons.inj heq).1 hc
      · rfl
  have hrooted : (!(root p).isEmpty) = false := by rw [hroot]; rfl
  rw [normal, hrooted, hparts, hroot, List.reverse_reverse, List.nil_append]
  exact if_neg (by simpa using hne)

/-- A plain path is in normal form. -/
theorem normal_of_isPlain (h : IsPlain p) : normal p = p := by
  have hfold : (segments p).foldl (pushSegment false) [] = (segments p).reverse := by
    rw [foldl_pushSegment_names h, List.append_nil]
  rw [normal_eq h.startsWithSlash hfold (ofSegments_ne_nil (segments_ne_nil p) h), ofSegments_segments]

/-- A relative path with more steps up than names before them begins with a step up in normal form. -/
theorem prefix_normal {n : Nat} (h : startsWithSlash p = false) (hdirs : ∀ d ∈ dirs, IsName d)
    (hsegments : segments p = dirs ++ List.replicate (dirs.length + (n + 1)) ['.', '.'] ++ xs) :
    ['.', '.'] <+: normal p := by
  have hback : dirs.length = dirs.reverse.length := List.length_reverse.symm
  have hnames : ∀ x ∈ dirs.reverse, IsName x := fun x hx => hdirs x (List.mem_reverse.mp hx)
  have hlast : ((segments p).foldl (pushSegment false) []).getLast? = some ['.', '.'] := by
    rw [hsegments, List.replicate_add, List.foldl_append, List.foldl_append, List.foldl_append,
      foldl_pushSegment_names hdirs, hback, foldl_pushSegment_back hnames, List.replicate_succ, List.foldl_cons]
    exact getLast?_foldl_pushSegment (getLast?_foldl_pushSegment rfl _) _
  obtain ⟨others, hothers⟩ := List.getLast?_eq_some_iff.mp hlast
  have hparts : (segments p).foldl (pushSegment false) [] = (['.', '.'] :: others.reverse).reverse := by
    rw [hothers]
    simp
  have htext : ['.', '.'] <+: ofSegments (['.', '.'] :: others.reverse) := by
    cases others.reverse with
    | nil => exact List.prefix_rfl
    | cons x xs =>
      rw [ofSegments, List.intercalate_cons_cons, List.append_assoc]
      exact List.prefix_append _ _
  rw [normal_eq h hparts fun hnil => by simp [hnil] at htext]
  exact htext

end Normal

end Path
end RepoSurvey
