import Mathlib.Data.List.DropRight
import Mathlib.Data.List.Infix

/-!
# Texts in Python

The methods of `str`, on lists of characters.

* `splitlines`: the lines of a text. Those of a text that is made of lines are these
  lines (`splitlines_unlines`), but for an empty one at the end of a `join`
  (`filter_splitlines_join`).
* `splitHead`: the text before a pattern that follows a space.
-/

namespace Python

abbrev Str := List Char

/-- `isspace`, for one character, and `\s` of `re`. -/
def isspace (c : Char) : Bool :=
  let n := c.toNat
  (0x09 ≤ n && n ≤ 0x0d) || (0x1c ≤ n && n ≤ 0x20) || n == 0x85 || n == 0xa0 || n == 0x1680 ||
    (0x2000 ≤ n && n ≤ 0x200a) || n == 0x2028 || n == 0x2029 || n == 0x202f || n == 0x205f ||
    n == 0x3000

/-- The characters that end a line, for `splitlines`. -/
def isLineEnd (c : Char) : Bool :=
  let n := c.toNat
  (0x0a ≤ n && n ≤ 0x0d) || (0x1c ≤ n && n ≤ 0x1e) || n == 0x85 || n == 0x2028 || n == 0x2029

def lstrip (s : Str) : Str := s.dropWhile isspace

def rstrip (s : Str) : Str := s.rdropWhile isspace

def strip (s : Str) : Str := rstrip (lstrip s)

def startswith (s p : Str) : Bool := p.isPrefixOf s

/-- `replace`, of one character. -/
def replace (s : Str) (old : Char) (new : Str) : Str :=
  s.flatMap fun c => if c = old then new else [c]

/-- The character `c` in front of the first of the lines. -/
def consLine (c : Char) : List Str → List Str
  | [] => [[c]]
  | l :: ls => (c :: l) :: ls

def splitlines : Str → List Str
  | [] => []
  | '\r' :: '\n' :: s => [] :: splitlines s
  | c :: s =>
    if isLineEnd c then [] :: splitlines s else consLine c (splitlines s)

/-- `"\n".join`. -/
def join (ls : List Str) : Str := List.intercalate ['\n'] ls

/-- Each of the lines with a newline behind it. -/
def unlines (ls : List Str) : Str := ls.flatMap (· ++ ['\n'])

/-- The first part of a text that `re.split` splits at a space followed by `p`. -/
def splitHead (p : Str) : Str → Str
  | [] => []
  | c :: s => if isspace c && startswith s p then [] else c :: splitHead p s

/-- A text within one line. -/
def IsLine (l : Str) : Prop := ∀ c ∈ l, isLineEnd c = false

instance : DecidablePred IsLine := fun l => List.decidableBAll (isLineEnd · = false) l

/-! ### Lines -/

theorem isLine_nil : IsLine [] := nofun

theorem isLine_cons {c : Char} {l : Str} : IsLine (c :: l) ↔ isLineEnd c = false ∧ IsLine l :=
  List.forall_mem_cons

theorem isLine_append {l l' : Str} : IsLine (l ++ l') ↔ IsLine l ∧ IsLine l' :=
  List.forall_mem_append

theorem IsLine.sublist {l l' : Str} (h : IsLine l) (hl : l'.Sublist l) : IsLine l' :=
  fun c hc => h c (hl.subset hc)

theorem mem_consLine {c : Char} {ls : List Str} {l : Str} (h : l ∈ consLine c ls) :
    (∃ l', (l' = [] ∨ l' ∈ ls) ∧ l = c :: l') ∨ l ∈ ls := by
  cases ls with
  | nil => exact .inl ⟨[], .inl rfl, List.mem_singleton.1 h⟩
  | cons l' ls =>
    rcases List.mem_cons.1 h with rfl | h
    · exact .inl ⟨l', .inr List.mem_cons_self, rfl⟩
    · exact .inr (List.mem_cons_of_mem _ h)

theorem consLine_append {c : Char} {ls : List Str} (h : ls ≠ []) (ls' : List Str) :
    consLine c (ls ++ ls') = consLine c ls ++ ls' := by
  cases ls with
  | nil => contradiction
  | cons l ls => rfl

theorem isLineEnd_newline : isLineEnd '\n' = true := by decide

theorem isLineEnd_return : isLineEnd '\r' = true := by decide

theorem splitlines_newline (s : Str) : splitlines ('\n' :: s) = [] :: splitlines s := by
  rw [splitlines.eq_3 _ _ (by simp), if_pos isLineEnd_newline]

theorem splitlines_cons {c : Char} (hc : isLineEnd c = false) (s : Str) :
    splitlines (c :: s) = consLine c (splitlines s) := by
  rw [splitlines.eq_3, if_neg (by rw [hc]; decide)]
  rintro s' rfl rfl
  rw [isLineEnd_return] at hc
  cases hc

theorem isLine_of_mem_splitlines {s l : Str} (h : l ∈ splitlines s) : IsLine l := by
  induction s using splitlines.induct generalizing l with
  | case1 => cases h
  | case2 s ih =>
    rcases List.mem_cons.1 h with rfl | h
    · exact isLine_nil
    · exact ih h
  | case3 c s hne hc ih =>
    rw [splitlines.eq_3 _ _ hne, if_pos hc] at h
    rcases List.mem_cons.1 h with rfl | h
    · exact isLine_nil
    · exact ih h
  | case4 c s hne hc ih =>
    rw [splitlines.eq_3 _ _ hne, if_neg hc] at h
    rcases mem_consLine h with ⟨l', hl', rfl⟩ | h
    · refine isLine_cons.2 ⟨by simpa using hc, ?_⟩
      rcases hl' with rfl | hl'
      · exact isLine_nil
      · exact ih hl'
    · exact ih h

/-- A line with its newline is the first line of a text. -/
theorem splitlines_append {l : Str} (hl : IsLine l) (s : Str) :
    splitlines (l ++ '\n' :: s) = l :: splitlines s := by
  induction l with
  | nil => exact splitlines_newline s
  | cons c l ih =>
    obtain ⟨hc, hl⟩ := isLine_cons.1 hl
    rw [List.cons_append, splitlines_cons hc, ih hl]
    rfl

theorem splitlines_of_isLine {l : Str} (hl : IsLine l) (hne : l ≠ []) : splitlines l = [l] := by
  induction l with
  | nil => contradiction
  | cons c l ih =>
    obtain ⟨hc, hl⟩ := isLine_cons.1 hl
    rw [splitlines_cons hc]
    rcases eq_or_ne l [] with rfl | hne
    · rfl
    · rw [ih hl hne]
      rfl

theorem splitlines_unlines_append {ls : List Str} (h : ∀ l ∈ ls, IsLine l) (s : Str) :
    splitlines (unlines ls ++ s) = ls ++ splitlines s := by
  induction ls with
  | nil => rfl
  | cons l ls ih =>
    obtain ⟨hl, hls⟩ := List.forall_mem_cons.1 h
    have hunlines : unlines (l :: ls) ++ s = l ++ '\n' :: (unlines ls ++ s) := by
      simp [unlines]
    rw [hunlines, splitlines_append hl, ih hls, List.cons_append]

@[simp] theorem unlines_nil : unlines [] = [] := rfl

@[simp] theorem unlines_cons (l : Str) (ls : List Str) :
    unlines (l :: ls) = l ++ ['\n'] ++ unlines ls := List.flatMap_cons

@[simp] theorem unlines_append (ls ls' : List Str) :
    unlines (ls ++ ls') = unlines ls ++ unlines ls' := List.flatMap_append

theorem splitlines_unlines {ls : List Str} (h : ∀ l ∈ ls, IsLine l) :
    splitlines (unlines ls) = ls := by
  simpa [splitlines] using splitlines_unlines_append h []

theorem splitlines_ne_nil {s : Str} (hs : s ≠ []) : splitlines s ≠ [] := by
  induction s using splitlines.induct with
  | case1 => contradiction
  | case2 s ih => exact List.cons_ne_nil _ _
  | case3 c s hne hc ih =>
    rw [splitlines.eq_3 _ _ hne, if_pos hc]
    exact List.cons_ne_nil _ _
  | case4 c s hne hc ih =>
    rw [splitlines.eq_3 _ _ hne, if_neg hc]
    cases splitlines s <;> exact List.cons_ne_nil _ _

/-- A line end goes with no newline behind it, unless that comes at once. -/
theorem splitlines_lineEnd_append {c : Char} {s : Str} (hc : isLineEnd c = true)
    (hne : ∀ s', c = '\r' → s = '\n' :: s' → False) (hs : c = '\r' → s ≠ []) (t : Str) :
    splitlines (c :: (s ++ '\n' :: t)) = [] :: splitlines (s ++ '\n' :: t) := by
  rw [splitlines.eq_3, if_pos hc]
  intro s' hreturn heq
  cases s with
  | nil => exact hs hreturn rfl
  | cons d s =>
    obtain rfl := (List.cons.inj heq).1
    exact hne s hreturn rfl

/-- What stands behind a newline has its own lines. -/
theorem splitlines_append_newline (s t : Str) :
    splitlines (s ++ '\n' :: t) = splitlines (s ++ ['\n']) ++ splitlines t := by
  induction s using splitlines.induct with
  | case1 => exact splitlines_newline t
  | case2 s ih => exact congrArg (List.cons []) ih
  | case3 c s hne hc ih =>
    -- a return at the end of `s` is one line end with the newline
    by_cases hs : c = '\r' ∧ s = []
    · obtain ⟨rfl, rfl⟩ := hs
      rfl
    · have hs' : c = '\r' → s ≠ [] := fun hreturn hnil => hs ⟨hreturn, hnil⟩
      rw [List.cons_append, List.cons_append, splitlines_lineEnd_append hc hne hs',
        splitlines_lineEnd_append hc hne hs', ih, List.cons_append]
  | case4 c s hne hc ih =>
    have hc' : isLineEnd c = false := by simpa using hc
    rw [List.cons_append, List.cons_append, splitlines_cons hc', splitlines_cons hc', ih,
      consLine_append (splitlines_ne_nil (by simp))]

/-- A newline adds an empty line at most. -/
theorem splitlines_newline_eq (s : Str) :
    splitlines (s ++ ['\n']) = splitlines s ∨ splitlines (s ++ ['\n']) = splitlines s ++ [[]] := by
  induction s using splitlines.induct with
  | case1 => exact .inr rfl
  | case2 s ih => exact ih.imp (congrArg (List.cons [])) (congrArg (List.cons []))
  | case3 c s hne hc ih =>
    by_cases hs : c = '\r' ∧ s = []
    · obtain ⟨rfl, rfl⟩ := hs
      exact .inl rfl
    · rw [List.cons_append, splitlines_lineEnd_append hc hne fun hreturn hnil => hs ⟨hreturn, hnil⟩,
        splitlines.eq_3 _ _ hne, if_pos hc]
      exact ih.imp (congrArg (List.cons [])) (congrArg (List.cons []))
  | case4 c s hne hc ih =>
    have hc' : isLineEnd c = false := by simpa using hc
    rw [List.cons_append, splitlines_cons hc', splitlines_cons hc']
    rcases ih with ih | ih
    · exact .inl (congrArg (consLine c) ih)
    · rcases eq_or_ne s [] with rfl | hs
      · exact .inl rfl
      · right
        rw [ih, consLine_append (splitlines_ne_nil hs)]

theorem mem_splitlines_newline {s l : Str} (h : l ∈ splitlines (s ++ ['\n'])) :
    l ∈ splitlines s ∨ l = [] := by
  rcases splitlines_newline_eq s with heq | heq
  · exact .inl (heq ▸ h)
  · rw [heq, List.mem_append, List.mem_singleton] at h
    exact h

theorem unlines_consLine (c : Char) {ls : List Str} (h : ls ≠ []) :
    unlines (consLine c ls) = c :: unlines ls := by
  cases ls with
  | nil => contradiction
  | cons l ls => rfl

/-- A text whose line ends are newlines, the last of them at its end, is made of its lines. -/
theorem unlines_splitlines {s : Str} (h : ∀ c ∈ s, isLineEnd c = true → c = '\n') :
    unlines (splitlines (s ++ ['\n'])) = s ++ ['\n'] := by
  induction s with
  | nil => rfl
  | cons c s ih =>
    obtain ⟨hc, hs⟩ := List.forall_mem_cons.1 h
    rw [List.cons_append]
    cases hend : isLineEnd c with
    | true =>
      rw [hc hend, splitlines_newline, unlines_cons, ih hs]
      rfl
    | false => rw [splitlines_cons hend, unlines_consLine c (splitlines_ne_nil (by simp)), ih hs]

theorem unlines_splitlines_lineEnd {c : Char} (hc : isLineEnd c = true) (s : Str) :
    ∃ rest, unlines (splitlines (c :: s)) = '\n' :: rest := by
  -- a return takes the newline behind it along
  by_cases h : ∃ s', c = '\r' ∧ s = '\n' :: s'
  · obtain ⟨s', rfl, rfl⟩ := h
    exact ⟨unlines (splitlines s'), rfl⟩
  · rw [splitlines.eq_3 _ _ fun s' hc hs => h ⟨s', hc, hs⟩, if_pos hc]
    exact ⟨unlines (splitlines s), rfl⟩

/-- A text with another line end does not even begin as its lines do. -/
theorem eq_newline_of_unlines_splitlines {s a b : Str}
    (h : unlines (splitlines (s ++ ['\n'])) ++ a = s ++ ['\n'] ++ b) :
    ∀ c ∈ s, isLineEnd c = true → c = '\n' := by
  induction s with
  | nil => exact nofun
  | cons c s ih =>
    rw [List.cons_append] at h
    cases hend : isLineEnd c with
    | true =>
      obtain ⟨rest, hrest⟩ := unlines_splitlines_lineEnd hend (s ++ ['\n'])
      -- the lines have a newline here, and the text has `c`
      have hc : '\n' = c := by
        rw [hrest] at h
        exact (List.cons.inj h).1
      subst hc
      rw [splitlines_newline] at h
      exact List.forall_mem_cons.2 ⟨fun _ => rfl, ih (List.cons.inj h).2⟩
    | false =>
      rw [splitlines_cons hend, unlines_consLine c (splitlines_ne_nil (by simp))] at h
      refine List.forall_mem_cons.2 ⟨fun hc => ?_, ih (List.cons.inj h).2⟩
      rw [hend] at hc
      cases hc

/-- The lines of joined lines are these lines again, but for an empty one at the end. -/
theorem filter_splitlines_join {ls : List Str} (h : ∀ l ∈ ls, IsLine l) {q : Str → Bool}
    (hq : q [] = false) : (splitlines (join ls)).filter q = ls.filter q := by
  induction ls with
  | nil => rfl
  | cons l ls ih =>
    obtain ⟨hl, hls⟩ := List.forall_mem_cons.1 h
    cases ls with
    | nil =>
      -- the last line has no newline behind it, so an empty one is no line of the text
      rw [join, List.intercalate_singleton]
      rcases eq_or_ne l [] with rfl | hne
      · rw [List.filter_cons_of_neg (by rw [hq]; decide)]
        rfl
      · rw [splitlines_of_isLine hl hne]
    | cons l' ls =>
      have hjoin : join (l :: l' :: ls) = l ++ '\n' :: join (l' :: ls) := by
        simp [join, List.intercalate_cons_cons]
      rw [hjoin, splitlines_append hl, List.filter_cons, List.filter_cons, ih hls]

theorem mem_join {ls : List Str} {c : Char} (h : c ∈ join ls) : c = '\n' ∨ ∃ l ∈ ls, c ∈ l := by
  induction ls with
  | nil => cases h
  | cons l ls ih =>
    cases ls with
    | nil =>
      rw [join, List.intercalate_singleton] at h
      exact .inr ⟨l, List.mem_cons_self, h⟩
    | cons l' ls =>
      rw [join, List.intercalate_cons_cons, List.mem_append, List.mem_append] at h
      rcases h with (h | h) | h
      · exact .inr ⟨l, List.mem_cons_self, h⟩
      · exact .inl (List.mem_singleton.1 h)
      · exact (ih h).imp_right fun ⟨l', hl', hc⟩ => ⟨l', List.mem_cons_of_mem _ hl', hc⟩

/-! ### Spaces -/

theorem strip_eq_nil_iff {s : Str} : strip s = [] ↔ ∀ c ∈ s, isspace c := by
  rw [strip, rstrip, List.rdropWhile_eq_nil_iff]
  constructor
  · intro h
    by_contra hall
    have hne : lstrip s ≠ [] := fun hnil => hall (List.dropWhile_eq_nil_iff.1 hnil)
    have hhead : isspace ((lstrip s).head hne) = false := List.head_dropWhile_not isspace hne
    rw [h _ (List.head_mem hne)] at hhead
    cases hhead
  · exact fun h c hc => h c ((List.dropWhile_sublist _).subset hc)

/-- Spaces stand behind what `rstrip` leaves. -/
theorem exists_rstrip_append (s : Str) : ∃ ws, (∀ c ∈ ws, isspace c) ∧ s = rstrip s ++ ws :=
  ⟨s.rtakeWhile isspace, fun _ => List.mem_rtakeWhile_imp,
    List.rdropWhile_append_rtakeWhile.symm⟩

/-- No space stands at the end of what `rstrip` leaves. -/
theorem eq_nil_of_rstrip_eq {s u ws : Str} (h : rstrip s = u ++ ws) (hws : ∀ c ∈ ws, isspace c) :
    ws = [] := by
  by_contra hne
  have hs : rstrip s ≠ [] := by
    rw [h]
    exact List.append_ne_nil_of_right_ne_nil u hne
  refine List.rdropWhile_last_not isspace s hs ?_
  have hlast : (rstrip s).getLast hs = ws.getLast hne := by
    simp only [h, List.getLast_append_of_ne_nil _ hne]
  change isspace ((rstrip s).getLast hs) = true
  rw [hlast]
  exact hws _ (List.getLast_mem hne)

theorem rstrip_sublist (s : Str) : (rstrip s).Sublist s :=
  (List.rdropWhile_prefix isspace s).sublist

theorem rstrip_cons {c : Char} (hc : isspace c = false) (s : Str) :
    ∃ s', rstrip (c :: s) = c :: s' := by
  obtain ⟨ws, hws, heq⟩ := exists_rstrip_append (c :: s)
  cases hr : rstrip (c :: s) with
  | nil =>
    rw [hr, List.nil_append] at heq
    have hspace := hws c (heq ▸ List.mem_cons_self)
    rw [hc] at hspace
    cases hspace
  | cons d s' =>
    rw [hr] at heq
    exact ⟨s', by rw [(List.cons.inj heq).1]⟩

theorem isPrefix_splitHead (p s : Str) : splitHead p s <+: s := by
  induction s with
  | nil => exact List.nil_prefix
  | cons c s ih =>
    rw [splitHead]
    split_ifs
    · exact List.nil_prefix
    · exact List.cons_prefix_cons.2 ⟨rfl, ih⟩

/-- Where `re.split` splits. -/
theorem splitHead_eq_or (p s : Str) :
    splitHead p s = s ∨ ∃ w v, isspace w ∧ s = splitHead p s ++ w :: (p ++ v) := by
  induction s with
  | nil => exact .inl rfl
  | cons c s ih =>
    rw [splitHead]
    split_ifs with h
    · rw [Bool.and_eq_true] at h
      obtain ⟨v, rfl⟩ := List.isPrefixOf_iff_prefix.1 h.2
      exact .inr ⟨c, v, h.1, rfl⟩
    · rcases ih with ih | ⟨w, v, hw, ih⟩
      · exact .inl (congrArg (List.cons c) ih)
      · exact .inr ⟨w, v, hw, congrArg (List.cons c) ih⟩

/-- `re.split` leaves no `p` behind a space. -/
theorem splitHead_ne {p s u v : Str} {w : Char} (hw : isspace w) :
    splitHead p s ≠ u ++ w :: (p ++ v) := by
  induction s generalizing u with
  | nil => exact fun h => by simp [splitHead] at h
  | cons c s ih =>
    rw [splitHead]
    split_ifs with h
    · simp
    · intro heq
      cases u with
      | nil =>
        obtain ⟨rfl, hp⟩ := List.cons.inj heq
        have hprefix : p <+: s := (List.prefix_append p v).trans (hp ▸ isPrefix_splitHead p s)
        exact h (by simp [hw, startswith, List.isPrefixOf_iff_prefix.2 hprefix])
      | cons d u => exact ih (List.cons.inj heq).2

end Python
