import RidenDongle.Python.Text
import Mathlib.Logic.Relation

/-!
# The generated page

The script that turns the page into a text of C (`extract_code` in
`extract_code.py`).

* `evalLiterals`: the text that adjacent string literals stand for, in C.
* `Deletes`: what the script may delete, a comment or a space at a time.
* `evalLiterals_extractCode`: the literals stand for the lines that remain, and only
  what may be deleted is, as far as it goes.
-/

namespace RidenDongle

namespace ExtractCode

open Python Relation

/-- What a comment begins with. -/
def slashes : Str := ['/', '/']

/-- The first half of `extract_code`: `content` without its comments and its empty lines,
    by one join after another. -/
def removeComments (content : Str) : Str :=
  let content := join ((splitlines content).map fun line => rstrip (splitHead slashes line))
  let content := join ((splitlines content).filter fun line => !startswith (lstrip line) slashes)
  join ((splitlines content).filter fun line => strip line != [])

/-- A newline, the end of its literal and the next literal on the next line. -/
def newLiteral : Str := ['\\', 'n', '"', '\n', ' ', ' ', ' ', ' ', '"']

/-- The second half: `content` between the quotes of a literal of C, a line a literal. -/
def escape (content : Str) : Str :=
  let content := replace content '\r' []
  let content := replace content '\\' ['\\', '\\']
  let content := replace content '"' ['\\', '"']
  replace content '\n' newLiteral

/-- `extract_code`. -/
def extractCode (content _name : Str) : Str :=
  [' ', ' ', ' ', ' ', '"'] ++ escape (removeComments (strip content)) ++ ['"', ';']

/-! ## The literals -/

/-- White space between two literals. -/
def isBlank (c : Char) : Bool := c = ' ' || (0x09 ≤ c.toNat && c.toNat ≤ 0x0d)

/-- Where a character stands: before a literal, in it, or in it behind a backslash. -/
inductive Place where
  | outside
  | inside
  | escaped
deriving DecidableEq, Repr

/-- The text of adjacent string literals, up to the semicolon. -/
def evalLiterals : Place → Str → Option Str
  | _, [] => none
  | .outside, c :: s =>
    if c = '"' then evalLiterals .inside s
    else if c = ';' then if s = [] then some [] else none
    else if isBlank c then evalLiterals .outside s
    else none
  | .inside, c :: s =>
    if c = '"' then evalLiterals .outside s
    else if c = '\\' then evalLiterals .escaped s
    else if c = '\n' then none
    else (evalLiterals .inside s).map (c :: ·)
  | .escaped, c :: s =>
    if c = '\\' || c = '"' then (evalLiterals .inside s).map (c :: ·)
    else if c = 'n' then (evalLiterals .inside s).map ('\n' :: ·)
    else none

/-- What `escape` makes of a character. -/
def escapeChar (c : Char) : Str :=
  if c = '\r' then []
  else if c = '\\' then ['\\', '\\']
  else if c = '"' then ['\\', '"']
  else if c = '\n' then newLiteral
  else [c]

/-- No replacement touches what another has produced. -/
theorem escape_eq (s : Str) : escape s = s.flatMap escapeChar := by
  simp only [escape, replace, List.flatMap_assoc]
  congr 1
  funext c
  unfold escapeChar
  by_cases hr : c = '\r'
  · subst hr
    rfl
  by_cases hb : c = '\\'
  · subst hb
    rfl
  by_cases hq : c = '"'
  · subst hq
    rfl
  simp [hr, hb, hq]

/-- A character comes out of its literal as it went in. -/
theorem evalLiterals_escapeChar {c : Char} (hc : c ≠ '\r') (s : Str) :
    evalLiterals .inside (escapeChar c ++ s) = (evalLiterals .inside s).map (c :: ·) := by
  unfold escapeChar
  rw [if_neg hc]
  split_ifs with hb hq hn
  · rw [hb]
    rfl
  · rw [hq]
    rfl
  · rw [hn]
    rfl
  · simp [evalLiterals, hb, hq, hn]

/-- So does a text. -/
theorem evalLiterals_escape {s : Str} (hs : '\r' ∉ s) (rest : Str) :
    evalLiterals .inside (escape s ++ rest) = (evalLiterals .inside rest).map (s ++ ·) := by
  rw [escape_eq]
  -- the place is inside of a literal again behind each character, also behind a newline
  induction s with
  | nil => exact Option.map_id'.symm
  | cons c s ih =>
    rw [List.mem_cons, not_or] at hs
    rw [List.flatMap_cons, List.append_assoc, evalLiterals_escapeChar (Ne.symm hs.1), ih hs.2,
      Option.map_map]
    rfl

/-- What the page becomes, as long as there is no carriage return in it. -/
theorem evalLiterals_extractCode_eq {content name : Str}
    (h : '\r' ∉ removeComments (strip content)) :
    evalLiterals .outside (extractCode content name) = some (removeComments (strip content)) := by
  have hopen (s : Str) : evalLiterals .outside ([' ', ' ', ' ', ' ', '"'] ++ s) =
      evalLiterals .inside s := rfl
  have hclose : evalLiterals .inside ['"', ';'] = some [] := rfl
  rw [extractCode, List.append_assoc, hopen, evalLiterals_escape h, hclose, Option.map_some,
    List.append_nil]

/-! ## The lines that remain -/

/-- What may be deleted from a line, and the lines that it leaves. -/
inductive Erases : Str → List Str → Prop
  /-- a comment behind a space, to the end of the line -/
  | comment (u v : Str) {w : Char} (hw : isspace w) :
    Erases (u ++ w :: (slashes ++ v)) [u ++ [w]]
  /-- spaces at the end of the line -/
  | spaces (u : Str) {ws : Str} (hws : ∀ c ∈ ws, isspace c) (hne : ws ≠ []) :
    Erases (u ++ ws) [u]
  /-- a line that is a comment -/
  | line (v : Str) : Erases (slashes ++ v) []
  /-- a blank line -/
  | blank {l : Str} (hl : ∀ c ∈ l, isspace c) : Erases l []

/-- One deletion in one of the lines. -/
def Deletes (ls ls' : List Str) : Prop :=
  ∃ pre l new post, Erases l new ∧ ls = pre ++ l :: post ∧ ls' = pre ++ new ++ post

/-- A line without its comment and the spaces at its end. -/
def trim (line : Str) : Str := rstrip (splitHead slashes line)

/-- A line that is neither a comment nor empty. -/
def keeps (line : Str) : Bool := !startswith (lstrip line) slashes && strip line != []

/-- The lines that remain of those of a text. -/
def remaining (ls : List Str) : List Str := (ls.map trim).filter keeps

theorem isLine_trim {l : Str} (h : IsLine l) : IsLine (trim l) :=
  h.sublist ((rstrip_sublist _).trans (isPrefix_splitHead slashes l).sublist)

/-- The joins do not change what remains. -/
theorem removeComments_eq (content : Str) :
    removeComments content = join (remaining (splitlines content)) := by
  have htrim : ∀ l ∈ (splitlines content).map trim, IsLine l := by
    intro l hl
    obtain ⟨l', hl', rfl⟩ := List.mem_map.1 hl
    exact isLine_trim (isLine_of_mem_splitlines hl')
  have hfilter : ∀ l ∈ (splitlines (join ((splitlines content).map trim))).filter
      fun line => !startswith (lstrip line) slashes, IsLine l :=
    fun l hl => isLine_of_mem_splitlines (List.mem_of_mem_filter hl)
  change join ((splitlines (join ((splitlines (join ((splitlines content).map trim))).filter
    fun line => !startswith (lstrip line) slashes))).filter fun line => strip line != []) = _
  rw [filter_splitlines_join hfilter (by decide), List.filter_filter, remaining]
  have hkeeps : (fun line => strip line != [] && !startswith (lstrip line) slashes) = keeps :=
    funext fun line => Bool.and_comm _ _
  rw [hkeeps, filter_splitlines_join htrim (by decide)]

/-- Deletions in some of the lines are deletions in all of them. -/
theorem deletes_append {ls ls' : List Str} (h : ReflTransGen Deletes ls ls')
    (before after : List Str) :
    ReflTransGen Deletes (before ++ ls ++ after) (before ++ ls' ++ after) := by
  refine h.lift (fun ls => before ++ ls ++ after) ?_
  rintro _ _ ⟨pre, l, new, post, herases, rfl, rfl⟩
  exact ⟨before ++ pre, l, new, post ++ after, herases, by simp, by simp⟩

theorem Erases.deletes {l : Str} {new : List Str} (h : Erases l new) :
    ReflTransGen Deletes [l] new :=
  .single ⟨[], l, new, [], h, rfl, by simp⟩

theorem deletes_spaces (u : Str) {ws : Str} (hws : ∀ c ∈ ws, isspace c) :
    ReflTransGen Deletes [u ++ ws] [u] := by
  rcases eq_or_ne ws [] with rfl | hne
  · rw [List.append_nil]
  · exact (Erases.spaces u hws hne).deletes

theorem deletes_trim (l : Str) : ReflTransGen Deletes [l] [trim l] := by
  obtain ⟨ws, hws, heq⟩ := exists_rstrip_append (splitHead slashes l)
  rcases splitHead_eq_or slashes l with hl | ⟨w, v, hw, hl⟩
  · have := deletes_spaces (rstrip (splitHead slashes l)) hws
    rw [← heq, hl] at this
    rw [trim, hl]
    exact this
  · -- the comment goes first, then the space before it with those before that
    have hcomment := (Erases.comment (splitHead slashes l) v hw).deletes
    rw [← hl] at hcomment
    refine hcomment.trans ?_
    have hws' : ∀ c ∈ ws ++ [w], isspace c := by
      intro c hc
      rcases List.mem_append.1 hc with hc | hc
      · exact hws c hc
      · exact List.mem_singleton.1 hc ▸ hw
    have := deletes_spaces (trim l) hws'
    rwa [trim, ← List.append_assoc, ← heq] at this

/-- In a trimmed line, no comment stands behind a space. -/
theorem trim_ne {l u v : Str} {w : Char} (hw : isspace w) : trim l ≠ u ++ w :: (slashes ++ v) := by
  intro h
  obtain ⟨ws, -, heq⟩ := exists_rstrip_append (splitHead slashes l)
  refine splitHead_ne (p := slashes) (s := l) (u := u) (v := v ++ ws) hw ?_
  rw [heq]
  change trim l ++ ws = _
  rw [h]
  simp

/-- So a comment that it begins with has no space before it. -/
theorem exists_of_startswith_lstrip {l : Str} (h : startswith (lstrip (trim l)) slashes) :
    ∃ v, trim l = slashes ++ v := by
  obtain ⟨v, hv⟩ := List.isPrefixOf_iff_prefix.1 h
  have hsplit : (trim l).takeWhile isspace ++ lstrip (trim l) = trim l :=
    List.takeWhile_append_dropWhile
  -- with spaces before it, the last of them would have the comment behind it
  rcases List.eq_nil_or_concat ((trim l).takeWhile isspace) with hnil | ⟨u, w, hconcat⟩
  · rw [hnil, List.nil_append, ← hv] at hsplit
    exact ⟨v, hsplit.symm⟩
  · have hw : isspace w := by
      refine List.mem_takeWhile_imp (l := trim l) ?_
      rw [hconcat]
      simp
    rw [hconcat, ← hv] at hsplit
    refine absurd ?_ (trim_ne (l := l) (u := u) (v := v) hw)
    rw [← hsplit]
    simp

theorem deletes_of_not_keeps {l : Str} (h : ¬keeps (trim l)) :
    ReflTransGen Deletes [trim l] [] := by
  rw [keeps, Bool.and_eq_true, not_and_or] at h
  rcases h with h | h
  · obtain ⟨v, hv⟩ := exists_of_startswith_lstrip (by simpa using h)
    rw [hv]
    exact (Erases.line v).deletes
  · exact (Erases.blank (strip_eq_nil_iff.1 (by simpa using h))).deletes

/-- The lines that remain are left by deletions. -/
theorem deletes_remaining (ls : List Str) : ReflTransGen Deletes ls (remaining ls) := by
  induction ls with
  | nil => exact .refl
  | cons l ls ih =>
    have hline : ReflTransGen Deletes [l] (remaining [l]) := by
      by_cases hkeeps : keeps (trim l)
      · rw [remaining, List.map_singleton, List.filter_cons_of_pos hkeeps]
        exact deletes_trim l
      · rw [remaining, List.map_singleton, List.filter_cons_of_neg hkeeps]
        exact (deletes_trim l).trans (deletes_of_not_keeps hkeeps)
    have hcons : remaining (l :: ls) = remaining [l] ++ remaining ls := by
      rw [remaining, remaining, remaining, ← List.filter_append]
      rfl
    rw [hcons]
    -- first the line itself, with the others behind it, and then these, behind what it left
    refine (deletes_append hline [] ls).trans ?_
    simpa using deletes_append ih (remaining [l]) []

/-- In them nothing is left to delete. -/
theorem not_erases_of_mem_remaining {ls : List Str} {l : Str} (hl : l ∈ remaining ls)
    (new : List Str) : ¬Erases l new := by
  obtain ⟨hmem, hkeeps⟩ := List.mem_filter.1 hl
  obtain ⟨l₀, -, htrim⟩ := List.mem_map.1 hmem
  rw [keeps, Bool.and_eq_true] at hkeeps
  intro h
  cases h with
  | comment u v hw => exact trim_ne hw htrim
  | spaces u hws hne => exact hne (eq_nil_of_rstrip_eq htrim hws)
  | line v =>
    have hstarts : startswith (lstrip (slashes ++ v)) slashes = true := by
      rw [startswith, List.isPrefixOf_iff_prefix]
      exact List.prefix_append slashes v
    rw [hstarts] at hkeeps
    cases hkeeps.1
  | blank hspace => simp [strip_eq_nil_iff.2 hspace] at hkeeps

/-- The literals stand for the lines that remain of the page, and these are what is left
    of its lines by deletions, as far as there is anything to delete. -/
theorem evalLiterals_extractCode (content name : Str) :
    evalLiterals .outside (extractCode content name) =
        some (join (remaining (splitlines (strip content)))) ∧
      ReflTransGen Deletes (splitlines (strip content))
        (remaining (splitlines (strip content))) ∧
      ∀ l ∈ remaining (splitlines (strip content)), ∀ new, ¬Erases l new := by
  refine ⟨?_, deletes_remaining _, fun l hl => not_erases_of_mem_remaining hl⟩
  rw [evalLiterals_extractCode_eq, removeComments_eq]
  rw [removeComments_eq]
  intro hreturn
  rcases mem_join hreturn with h | ⟨l, hl, hmem⟩
  · cases h
  · obtain ⟨l', hl', rfl⟩ := List.mem_map.1 (List.mem_of_mem_filter hl)
    have := isLine_trim (isLine_of_mem_splitlines hl') _ hmem
    rw [isLineEnd_return] at this
    cases this

example : evalLiterals .outside (extractCode ['a', '"', '\n', 'b', ' ', '/', '/', '\\'] []) =
    some ['a', '"', '\n', 'b'] := by decide +kernel

end ExtractCode

end RidenDongle
