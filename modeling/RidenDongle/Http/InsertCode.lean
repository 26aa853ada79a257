import RidenDongle.Http.ExtractCode
import Mathlib.Logic.IsEmpty.Basic

/-!
# The header of the generated page

The script that puts the page into the header file (`insert_code` in
`extract_code.py`), with the texts that it looks for in `main`.

* `Section`: a section of the header, and `IsFirst`: the one that gets replaced. A
  line that opens a section does not follow another that does.
* `foldl_step_of_passes`: the scanner keeps the lines up to the declaration.
* `isCode_extractCode`: what `extract_code` returns is code that can be put into it.
* `insert_spec`: what the header becomes, and that one insertion does not disturb another.

The scanner rewrites the line ends of the header to newlines, in the code that it has
inserted before too.
-/

namespace RidenDongle

namespace InsertCode

open Python

/-- `prefix` in `main`. -/
@[irreducible] def sectionStart : Str :=
  "// DO NOT MODIFY THIS SECTION. IT IS MAINTAINED BY 'extract_code.py', generated from 'mockup.html'".toList

/-- `postfix` in `main`. -/
@[irreducible] def sectionEnd : Str := "// END OF SECTION GENERATED BY 'extract_code.py'".toList

/-- `prefix2`. -/
@[irreducible] def declarationOf (name : Str) : Str :=
  "static const char ".toList ++ name ++ "[] PROGMEM =".toList

/-- `line.strip().startswith(p)`. -/
def begins (line p : Str) : Bool := startswith (strip line) p

/-- The modes of the scanner, from 0 to 3. -/
inductive Mode where
  /-- search for the prefix -/
  | search
  /-- the prefix must be followed by a declaration -/
  | declaration
  /-- search for the postfix -/
  | replace
  | done
deriving DecidableEq, Repr

/-- The variables of the loop. -/
structure Scan where
  newcontent : Str
  mode : Mode
  nextmode : Mode

section Scanner

variable (name code pre post : Str)

def step (s : Scan) (line : Str) : Scan :=
  -- everything before and after maintained section is to be kept
  let s :=
    if s.mode ≠ .replace then { s with newcontent := s.newcontent ++ (line ++ ['\n']) } else s
  let s := if s.mode = .search && begins line pre then { s with nextmode := .declaration } else s
  let s :=
    if s.mode = .declaration then
      if begins line (declarationOf name) then
        { s with nextmode := .replace, newcontent := s.newcontent ++ (code ++ ['\n']) }
      else { s with nextmode := .search }
    else s
  let s :=
    if s.mode = .replace then
      if begins line post then
        { s with newcontent := s.newcontent ++ (line ++ ['\n']), nextmode := .done }
      else s
    else s
  { s with mode := s.nextmode }

/-- `insert_code`, where `none` is its `exit(1)`. -/
def insertCode (dest : Str) : Option Str :=
  let s := (splitlines dest).foldl (step name code pre post) ⟨[], .search, .search⟩
  if s.mode ≠ .done then none else some s.newcontent

end Scanner

/-- `insert_code`, as `main` calls it. -/
def insert (name code dest : Str) : Option Str := insertCode name code sectionStart sectionEnd dest

/-! ## Sections -/

/-- Whether the last of the lines opens a section: it begins with `sectionStart`, and does
    not follow a line that opens one. Whether the line before the first does is `o`. -/
def opens (o : Bool) (ls : List Str) : Bool :=
  ls.foldl (fun o l => begins l sectionStart && !o) o

/-- A section of `name` in the lines of a text. -/
structure Section (name : Str) (lines : List Str) where
  /-- the lines before its declaration, the opening one being the last of them -/
  before : List Str
  declaration : Str
  body : List Str
  stop : Str
  after : List Str
  lines_eq : lines = before ++ declaration :: (body ++ stop :: after)
  opens : opens false before = true
  declares : begins declaration (declarationOf name) = true
  ends : begins stop sectionEnd = true

namespace Section

variable {name : Str} {lines : List Str} (s : Section name lines)

/-- No section of the name is declared before, and the section ends as soon as it can. -/
structure IsFirst : Prop where
  declaration : ∀ u l v, s.before = u ++ l :: v → InsertCode.opens false u = true →
    begins l (declarationOf name) = false
  stop : ∀ l ∈ s.body, begins l sectionEnd = false

/-- The text with `code` between the declaration and the end of the section. -/
def replaced (code : Str) : Str :=
  unlines (s.before ++ [s.declaration]) ++ (code ++ '\n' :: unlines (s.stop :: s.after))

/-- The position of the line that opens the section, the last of those before it. -/
def openingAt : ℕ := s.before.length - 1

/-- The position of the line that ends it. -/
def endsAt : ℕ := s.before.length + s.body.length + 1

end Section

/-- Four spaces and a quote. -/
def opening : Str := [' ', ' ', ' ', ' ', '"']

/-- Each line of the code begins with `opening`. -/
def IsCode (code : Str) : Prop := ∀ l ∈ splitlines code, startswith l opening = true

instance : DecidablePred IsCode := fun code =>
  List.decidableBAll (startswith · opening = true) (splitlines code)

/-- The code has no line end but newlines. -/
def OnlyNewlines (code : Str) : Prop := ∀ c ∈ code, isLineEnd c = true → c = '\n'

instance : DecidablePred OnlyNewlines := fun code =>
  List.decidableBAll (fun c => isLineEnd c = true → c = '\n') code

/-! ## The scanner -/

variable {name code out : Str} {l : Str} {ls : List Str} {o : Bool}

/-- The mode that looks for a section, where `o` tells whether a line has just opened one. -/
def searching (o : Bool) : Mode := if o then .declaration else .search

theorem opens_append (o : Bool) (ls ls' : List Str) :
    opens o (ls ++ ls') = opens (opens o ls) ls' := List.foldl_append

/-- No declaration of the name follows a line that opens a section. -/
def Passes (name : Str) : Bool → List Str → Prop
  | _, [] => True
  | o, l :: ls =>
    (o = true → begins l (declarationOf name) = false) ∧
      Passes name (begins l sectionStart && !o) ls

theorem passes_append (o : Bool) (ls ls' : List Str) :
    Passes name o (ls ++ ls') ↔ Passes name o ls ∧ Passes name (opens o ls) ls' := by
  induction ls generalizing o with
  | nil => exact (and_iff_right trivial).symm
  | cons l ls ih =>
    rw [List.cons_append, Passes, Passes, ih, and_assoc]
    rfl

theorem passes_iff (o : Bool) (ls : List Str) :
    Passes name o ls ↔ ∀ u l v, ls = u ++ l :: v → opens o u = true →
      begins l (declarationOf name) = false := by
  constructor
  · rintro h u l v rfl ho
    exact ((passes_append o u (l :: v)).1 h).2.1 ho
  · intro h
    induction ls generalizing o with
    | nil => trivial
    | cons l ls ih =>
      refine ⟨h [] l ls rfl, ih _ fun u l' v heq => ?_⟩
      exact h (l :: u) l' v (congrArg (List.cons l) heq)

theorem passes_of_forall (h : ∀ l ∈ ls, begins l (declarationOf name) = false) :
    Passes name o ls :=
  (passes_iff o ls).2 fun u l v heq _ => h l (by simp [heq])

/-- The first declaration that follows a line that opens a section. -/
theorem exists_of_not_passes (h : ¬Passes name o ls) :
    ∃ u l v, ls = u ++ l :: v ∧ Passes name o u ∧ opens o u = true ∧
      begins l (declarationOf name) = true := by
  induction ls generalizing o with
  | nil => exact absurd trivial h
  | cons l ls ih =>
    by_cases hl : o = true ∧ begins l (declarationOf name) = true
    · exact ⟨[], l, ls, rfl, trivial, hl⟩
    · have hhead : o = true → begins l (declarationOf name) = false := fun ho => by
        simpa using fun hb => hl ⟨ho, hb⟩
      obtain ⟨u, l', v, rfl, hu, ho, hb⟩ := ih fun htail => h ⟨hhead, htail⟩
      exact ⟨l :: u, l', v, rfl, ⟨hhead, hu⟩, ho, hb⟩

/-- The scanner between two lines, when its two modes are the same. -/
def Scan.between (newcontent : Str) (mode : Mode) : Scan := ⟨newcontent, mode, mode⟩

theorem step_searching (ho : o = true → begins l (declarationOf name) = false) :
    step name code sectionStart sectionEnd (.between out (searching o)) l =
      .between (out ++ (l ++ ['\n'])) (searching (begins l sectionStart && !o)) := by
  cases o with
  | false => cases hl : begins l sectionStart <;> simp [step, Scan.between, searching, hl]
  | true => simp [step, Scan.between, searching, ho rfl]

theorem step_declaration (h : begins l (declarationOf name) = true) :
    step name code sectionStart sectionEnd (.between out .declaration) l =
      .between (out ++ (l ++ ['\n']) ++ (code ++ ['\n'])) .replace := by
  simp [step, Scan.between, h]

theorem step_replace (h : begins l sectionEnd = false) :
    step name code sectionStart sectionEnd (.between out .replace) l = .between out .replace := by
  simp [step, Scan.between, h]

theorem step_stop (h : begins l sectionEnd = true) :
    step name code sectionStart sectionEnd (.between out .replace) l =
      .between (out ++ (l ++ ['\n'])) .done := by
  simp [step, Scan.between, h]

theorem step_done :
    step name code sectionStart sectionEnd (.between out .done) l =
      .between (out ++ (l ++ ['\n'])) .done := by
  simp [step, Scan.between]

/-- The scanner keeps the lines up to the declaration. -/
theorem foldl_step_of_passes (h : Passes name o ls) :
    ls.foldl (step name code sectionStart sectionEnd) (.between out (searching o)) =
      .between (out ++ unlines ls) (searching (opens o ls)) := by
  induction ls generalizing o out with
  | nil => exact congrArg (Scan.between · _) (List.append_nil out).symm
  | cons l ls ih =>
    rw [List.foldl_cons, step_searching h.1, ih h.2, unlines_cons, List.append_assoc]
    rfl

theorem foldl_step_replace (h : ∀ l ∈ ls, begins l sectionEnd = false) :
    ls.foldl (step name code sectionStart sectionEnd) (.between out .replace) =
      .between out .replace := by
  induction ls with
  | nil => rfl
  | cons l ls ih =>
    rw [List.foldl_cons, step_replace (h l List.mem_cons_self),
      ih fun l' hl' => h l' (List.mem_cons_of_mem _ hl')]

theorem foldl_step_done :
    ls.foldl (step name code sectionStart sectionEnd) (.between out .done) =
      .between (out ++ unlines ls) .done := by
  induction ls generalizing out with
  | nil => exact congrArg (Scan.between · _) (List.append_nil out).symm
  | cons l ls ih => rw [List.foldl_cons, step_done, ih, unlines_cons, List.append_assoc]

/-! ## Lines that are no markers -/

/-- A line of the code begins with a quote, and an empty line with nothing. -/
theorem begins_eq_false {c : Char} {p : Str} (hc : c ≠ '"')
    (hl : startswith l opening = true ∨ l = []) :
    begins l (c :: p) = false := by
  rw [begins, startswith, Bool.eq_false_iff, ne_eq, List.isPrefixOf_iff_prefix]
  rintro ⟨v, hv⟩
  rcases hl with hl | rfl
  · obtain ⟨rest, rfl⟩ := List.isPrefixOf_iff_prefix.1 hl
    obtain ⟨s', hs'⟩ := rstrip_cons (c := '"') (by decide) rest
    have hstrip : strip (opening ++ rest) = '"' :: s' := hs'
    rw [hstrip] at hv
    exact hc (List.cons.inj hv).1
  · cases hv

theorem sectionEnd_eq : ∃ p, sectionEnd = '/' :: p := by
  unfold sectionEnd
  exact ⟨_, rfl⟩

theorem declarationOf_eq (name : Str) : ∃ p, declarationOf name = 's' :: p := by
  unfold declarationOf
  exact ⟨_, rfl⟩

theorem begins_sectionEnd_of_isCode (hcode : IsCode code) (hl : l ∈ splitlines (code ++ ['\n'])) :
    begins l sectionEnd = false := by
  obtain ⟨p, hp⟩ := sectionEnd_eq
  rw [hp]
  exact begins_eq_false (by decide) ((mem_splitlines_newline hl).imp_left (hcode l))

theorem begins_declaration_of_isCode (hcode : IsCode code) (hl : l ∈ splitlines (code ++ ['\n'])) :
    begins l (declarationOf name) = false := by
  obtain ⟨p, hp⟩ := declarationOf_eq name
  rw [hp]
  exact begins_eq_false (by decide) ((mem_splitlines_newline hl).imp_left (hcode l))

/-- No line opens a section and ends it. -/
theorem begins_sectionStart_of_ends (h : begins l sectionEnd = true) :
    begins l sectionStart = false := by
  rw [begins, startswith, List.isPrefixOf_iff_prefix] at h
  rw [begins, startswith, Bool.eq_false_iff, ne_eq, List.isPrefixOf_iff_prefix]
  intro hstart
  have hlength : sectionEnd.length ≤ sectionStart.length := by decide +kernel
  have hprefix : ¬sectionEnd <+: sectionStart := by decide +kernel
  exact hprefix (List.prefix_of_prefix_length_le h hstart hlength)

/-- No line ends a section and is a declaration. -/
theorem begins_declaration_of_ends (h : begins l sectionEnd = true) :
    begins l (declarationOf name) = false := by
  rw [begins, startswith, List.isPrefixOf_iff_prefix] at h
  rw [begins, startswith, Bool.eq_false_iff, ne_eq, List.isPrefixOf_iff_prefix]
  obtain ⟨p, hp⟩ := sectionEnd_eq
  obtain ⟨q, hq⟩ := declarationOf_eq name
  rintro ⟨v, hv⟩
  obtain ⟨v', hv'⟩ := h
  rw [← hv', hp, hq] at hv
  cases hv

/-- Behind the end of a section, the search begins anew. -/
theorem opens_stop {stop : Str} (hstop : begins stop sectionEnd = true) (u mid : List Str) :
    opens o (u ++ stop :: mid) = opens false mid := by
  rw [opens_append]
  change opens (begins stop sectionStart && !opens o u) mid = _
  rw [begins_sectionStart_of_ends hstop, Bool.false_and]

theorem passes_stop {stop : Str} (hstop : begins stop sectionEnd = true) (mid : List Str) :
    Passes name o (stop :: mid) ↔ Passes name false mid := by
  rw [Passes, begins_sectionStart_of_ends hstop, Bool.false_and]
  exact and_iff_right fun _ => begins_declaration_of_ends hstop

/-! ## One insertion -/

theorem insert_of_scan {dest : Str} {mode : Mode}
    (h : (splitlines dest).foldl (step name code sectionStart sectionEnd)
      (.between [] (searching false)) = .between out mode) :
    insert name code dest = if mode ≠ .done then none else some out := by
  change (if ((splitlines dest).foldl (step name code sectionStart sectionEnd)
      (.between [] (searching false))).mode ≠ .done then none
    else some ((splitlines dest).foldl (step name code sectionStart sectionEnd)
      (.between [] (searching false))).newcontent) = _
  rw [h]
  rfl

namespace Section

variable {dest : Str} {lines : List Str} {s : Section name lines}

theorem IsFirst.passes (hs : s.IsFirst) : Passes name false s.before :=
  (passes_iff false s.before).2 hs.declaration

theorem not_passes (s : Section name lines) : ¬Passes name false lines := by
  intro h
  have hb := (passes_iff false lines).1 h _ _ _ s.lines_eq s.opens
  rw [s.declares] at hb
  cases hb

/-- The first section is replaced. -/
theorem insert_eq {s : Section name (splitlines dest)} (hs : s.IsFirst) :
    insert name code dest = some (s.replaced code) := by
  have hscan : (splitlines dest).foldl (step name code sectionStart sectionEnd)
      (.between [] (searching false)) = .between (s.replaced code) .done := by
    refine (congrArg (List.foldl _ _) s.lines_eq).trans ?_
    rw [List.foldl_append, foldl_step_of_passes hs.passes, s.opens, searching,
      if_pos rfl, List.foldl_cons, step_declaration s.declares, List.foldl_append,
      foldl_step_replace hs.stop, List.foldl_cons, step_stop s.ends, foldl_step_done]
    simp [replaced]
  exact insert_of_scan hscan

/-- A declaration that is the first, with an end behind it, is that of the first section. -/
theorem exists_isFirst_of_mem {u v : List Str} (hlines : lines = u ++ l :: v)
    (hu : Passes name false u) (ho : InsertCode.opens false u = true)
    (hl : begins l (declarationOf name) = true) (hv : ∃ e ∈ v, begins e sectionEnd = true) :
    ∃ s : Section name lines, s.IsFirst := by
  obtain ⟨e, he⟩ := Option.isSome_iff_exists.1 (List.find?_isSome.2 hv)
  obtain ⟨hends, body, after, rfl, hbody⟩ := List.find?_eq_some_iff_append.1 he
  exact ⟨⟨u, l, body, e, after, hlines, ho, hl, hends⟩, (passes_iff false u).1 hu, fun l' hl' => by
    simpa using hbody l' hl'⟩

/-- Where there is a section, there is a first one. -/
theorem exists_isFirst (s : Section name lines) : ∃ t : Section name lines, t.IsFirst := by
  obtain ⟨u, l, v, hlines, hu, ho, hl⟩ := exists_of_not_passes s.not_passes
  refine exists_isFirst_of_mem hlines hu ho hl ⟨s.stop, ?_, s.ends⟩
  -- the end of `s` stands behind the first declaration, which is not behind that of `s`
  rcases List.append_eq_append_iff.1 (hlines.symm.trans s.lines_eq) with
    ⟨w, hbefore, hv⟩ | ⟨w, hbefore, hv⟩
  · cases w with
    | nil =>
      rw [(List.cons.inj hv).2]
      simp
    | cons x w =>
      rw [(List.cons.inj hv).2]
      simp
  · cases w with
    | nil =>
      rw [← (List.cons.inj hv).2]
      simp
    | cons x w =>
      rw [hbefore, ← (List.cons.inj hv).1] at hu
      have hdecl := (passes_iff false _).1 hu _ _ _ rfl s.opens
      rw [s.declares] at hdecl
      cases hdecl

end Section

/-- Without a section the script exits. -/
theorem insert_eq_none {dest : Str} (h : IsEmpty (Section name (splitlines dest))) :
    insert name code dest = none := by
  -- the scanner ends in a mode that searches, or in the one that replaces
  by_cases hpasses : Passes name false (splitlines dest)
  · rw [insert_of_scan (foldl_step_of_passes hpasses)]
    cases opens false (splitlines dest) <;> rfl
  · obtain ⟨u, l, v, hlines, hu, ho, hl⟩ := exists_of_not_passes hpasses
    have hv : ∀ e ∈ v, begins e sectionEnd = false := by
      intro e he
      by_contra hends
      obtain ⟨s, -⟩ := Section.exists_isFirst_of_mem hlines hu ho hl ⟨e, he, by simpa using hends⟩
      exact h.false s
    have hscan : (splitlines dest).foldl (step name code sectionStart sectionEnd)
        (.between [] (searching false)) =
          .between (unlines u ++ (l ++ ['\n']) ++ (code ++ ['\n'])) .replace := by
      rw [hlines, List.foldl_append, foldl_step_of_passes hu, ho, List.foldl_cons, searching,
        if_pos rfl, step_declaration hl, foldl_step_replace hv]
      rfl
    exact insert_of_scan hscan

namespace Section

variable {dest : Str}

theorem isLine_of_mem (s : Section name (splitlines dest))
    (h : l ∈ s.before ++ s.declaration :: (s.body ++ s.stop :: s.after)) : IsLine l :=
  isLine_of_mem_splitlines ((congrArg (l ∈ ·) s.lines_eq).mpr h)

/-- The lines of the text with another section. -/
theorem splitlines_replaced (s : Section name (splitlines dest)) (code : Str) :
    splitlines (s.replaced code) =
      s.before ++ s.declaration :: (splitlines (code ++ ['\n']) ++ s.stop :: s.after) := by
  have hbefore : ∀ l ∈ s.before ++ [s.declaration], IsLine l := fun l hl =>
    s.isLine_of_mem (by
      rcases List.mem_append.1 hl with hl | hl
      · simp [hl]
      · simp [List.mem_singleton.1 hl])
  have hafter : ∀ l ∈ s.stop :: s.after, IsLine l := fun l hl =>
    s.isLine_of_mem (by simp [List.mem_cons.1 hl])
  rw [replaced, splitlines_unlines_append hbefore, splitlines_append_newline,
    splitlines_unlines hafter]
  simp

/-- The section, in the text where the code has been put into it. -/
def inserted (s : Section name (splitlines dest)) (code : Str) :
    Section name (splitlines (s.replaced code)) :=
  { s with body := splitlines (code ++ ['\n']), lines_eq := s.splitlines_replaced code }

theorem IsFirst.inserted {s : Section name (splitlines dest)} (hs : s.IsFirst)
    (hcode : IsCode code) : (s.inserted code).IsFirst where
  declaration := hs.declaration
  stop _ hl := begins_sectionEnd_of_isCode hcode hl

/-- The same insertion again changes nothing. -/
theorem insert_replaced {s : Section name (splitlines dest)} (hs : s.IsFirst)
    (hcode : IsCode code) : insert name code (s.replaced code) = some (s.replaced code) :=
  insert_eq (hs.inserted hcode)

end Section

/-! ## The generated code -/

open ExtractCode

theorem onlyNewlines_join {ls : List Str} (h : ∀ l ∈ ls, IsLine l) : OnlyNewlines (join ls) := by
  intro c hc hend
  rcases mem_join hc with rfl | ⟨l, hl, hmem⟩
  · rfl
  · rw [h l hl c hmem] at hend
    cases hend

theorem onlyNewlines_removeComments (content : Str) : OnlyNewlines (removeComments content) := by
  rw [removeComments_eq]
  refine onlyNewlines_join fun l hl => ?_
  obtain ⟨l', hl', rfl⟩ := List.mem_map.1 (List.mem_of_mem_filter hl)
  exact isLine_trim (isLine_of_mem_splitlines hl')

theorem isLine_escapeChar {c : Char} (hc : isLineEnd c = false) : IsLine (escapeChar c) := by
  have hnewline : c ≠ '\n' := by
    rintro rfl
    cases hc
  unfold escapeChar
  split_ifs
  · exact isLine_nil
  · decide
  · decide
  · exact isLine_cons.2 ⟨hc, isLine_nil⟩

theorem startswith_opening (s : Str) : startswith (opening ++ s) opening = true :=
  List.isPrefixOf_iff_prefix.2 (List.prefix_append opening s)

theorem isLine_opening : IsLine opening := by decide

/-- Each newline in the page goes with the end of a literal and the beginning of another. -/
theorem startswith_of_mem_splitlines {s m : Str} (hs : OnlyNewlines s) (hm : IsLine m) :
    ∀ l ∈ splitlines (opening ++ (m ++ (s.flatMap escapeChar ++ ['"', ';']))),
      startswith l opening = true := by
  induction s generalizing m with
  | nil =>
    have hclose : IsLine ['"', ';'] := by decide
    have hline : IsLine (opening ++ (m ++ ['"', ';'])) :=
      isLine_append.2 ⟨isLine_opening, isLine_append.2 ⟨hm, hclose⟩⟩
    intro l hl
    rw [List.flatMap_nil, List.nil_append, splitlines_of_isLine hline (by simp [opening])] at hl
    rw [List.mem_singleton.1 hl]
    exact startswith_opening _
  | cons c s ih =>
    obtain ⟨hc, hs⟩ := List.forall_mem_cons.1 hs
    rw [List.flatMap_cons, List.append_assoc]
    cases hend : isLineEnd c with
    | true =>
      have hquote : IsLine ['\\', 'n', '"'] := by decide
      have hline : IsLine (opening ++ (m ++ ['\\', 'n', '"'])) :=
        isLine_append.2 ⟨isLine_opening, isLine_append.2 ⟨hm, hquote⟩⟩
      have hsplit : opening ++ (m ++ (escapeChar c ++ (s.flatMap escapeChar ++ ['"', ';']))) =
          opening ++ (m ++ ['\\', 'n', '"']) ++
            '\n' :: (opening ++ ([] ++ (s.flatMap escapeChar ++ ['"', ';']))) := by
        rw [hc hend]
        simp [escapeChar, newLiteral, opening]
      rw [hsplit, splitlines_append hline]
      exact List.forall_mem_cons.2 ⟨startswith_opening _, ih hs isLine_nil⟩
    | false =>
      rw [← List.append_assoc m]
      exact ih hs (isLine_append.2 ⟨hm, isLine_escapeChar hend⟩)

/-- The script's code is such as the script inserts. -/
theorem isCode_extractCode (content name : Str) : IsCode (extractCode content name) := by
  have h := startswith_of_mem_splitlines (m := [])
    (onlyNewlines_removeComments (strip content)) isLine_nil
  rw [← escape_eq] at h
  simpa [IsCode, extractCode, opening] using h

/-! ## Two insertions -/

namespace Section

variable {dest name' code' : Str}

/-- The section stands before another, with the lines `mid` between them. -/
structure Precedes {lines : List Str} (s : Section name lines) (t : Section name' lines)
    (mid : List Str) : Prop where
  before : t.before = s.before ++ s.declaration :: (s.body ++ s.stop :: mid)
  after : s.after = mid ++ t.declaration :: (t.body ++ t.stop :: t.after)

theorem exists_precedes {lines : List Str} {s : Section name lines} {t : Section name' lines}
    (h : s.endsAt < t.openingAt) : ∃ mid, s.Precedes t mid := by
  have heq : t.before ++ t.declaration :: (t.body ++ t.stop :: t.after) =
      (s.before ++ s.declaration :: (s.body ++ [s.stop])) ++ s.after :=
    (t.lines_eq.symm.trans s.lines_eq).trans (by simp)
  have hlength : (s.before ++ s.declaration :: (s.body ++ [s.stop])).length < t.before.length := by
    rw [endsAt, openingAt] at h
    simp
    omega
  rcases List.append_eq_append_iff.1 heq with ⟨w, hbefore, -⟩ | ⟨w, hbefore, hafter⟩
  -- the declaration of `t` is not within `s`
  · rw [hbefore, List.length_append] at hlength
    omega
  · exact ⟨w, by simpa using hbefore, hafter⟩

variable {s : Section name (splitlines dest)} {t : Section name' (splitlines dest)}
  {mid : List Str}

/-- The later section, in the text where code has been put into the earlier one. -/
def Precedes.later (h : s.Precedes t mid) (code : Str) :
    Section name' (splitlines (s.replaced code)) where
  before := s.before ++ s.declaration :: (splitlines (code ++ ['\n']) ++ s.stop :: mid)
  declaration := t.declaration
  body := t.body
  stop := t.stop
  after := t.after
  lines_eq := by
    rw [splitlines_replaced, h.after]
    simp
  opens := by
    have hbefore := t.opens
    rw [h.before, ← List.cons_append, ← List.append_assoc, opens_stop s.ends] at hbefore
    rw [← List.cons_append, ← List.append_assoc]
    exact (opens_stop s.ends _ _).trans hbefore
  declares := t.declares
  ends := t.ends

theorem IsFirst.later (h : s.Precedes t mid) (ht : t.IsFirst) (hcode : IsCode code) :
    (h.later code).IsFirst := by
  refine ⟨(passes_iff false _).1 ?_, ht.stop⟩
  have hbefore := ht.passes
  rw [h.before, passes_append, Passes, passes_append, passes_stop s.ends] at hbefore
  obtain ⟨hs, hdecl, -, hmid⟩ := hbefore
  -- no line of the code is a declaration, whatever stood in its place before
  have hbody : ∀ l ∈ splitlines (code ++ ['\n']), begins l (declarationOf name') = false :=
    fun _ hl => begins_declaration_of_isCode hcode hl
  change Passes name' false
    (s.before ++ s.declaration :: (splitlines (code ++ ['\n']) ++ s.stop :: mid))
  rw [passes_append, Passes, passes_append, passes_stop s.ends]
  exact ⟨hs, hdecl, passes_of_forall hbody, hmid⟩

/-- The earlier section, in the text where code has been put into the later one. -/
def Precedes.earlier (h : s.Precedes t mid) (code' : Str) :
    Section name (splitlines (t.replaced code')) :=
  { s with
    after := mid ++ t.declaration :: (splitlines (code' ++ ['\n']) ++ t.stop :: t.after)
    lines_eq := by
      rw [splitlines_replaced, h.before]
      simp }

theorem IsFirst.earlier (h : s.Precedes t mid) (hs : s.IsFirst) : (h.earlier code').IsFirst :=
  ⟨hs.declaration, hs.stop⟩

end Section

/-- The two insertions give the same lines in either order, and the same text just if the
    codes have no line end but newlines. -/
def Commute (dest name code name' code' : Str) : Prop :=
  ∃ r r', (insert name code dest).bind (insert name' code') = some r ∧
    (insert name' code' dest).bind (insert name code) = some r' ∧
    splitlines r = splitlines r' ∧ (r = r' ↔ OnlyNewlines code ∧ OnlyNewlines code')

theorem Commute.symm {dest name code name' code' : Str} (h : Commute dest name code name' code') :
    Commute dest name' code' name code := by
  obtain ⟨r, r', hr, hr', hlines, htext⟩ := h
  exact ⟨r', r, hr', hr, hlines.symm, eq_comm.trans (htext.trans and_comm)⟩

/-- The texts of the two orders: each has split the code that it inserted first. -/
theorem splitFirst_eq_iff {code code' between rest : Str} :
    unlines (splitlines (code ++ ['\n'])) ++ (between ++ (code' ++ ['\n'] ++ rest)) =
        code ++ ['\n'] ++ (between ++ (unlines (splitlines (code' ++ ['\n'])) ++ rest)) ↔
      OnlyNewlines code ∧ OnlyNewlines code' := by
  constructor
  · intro h
    have hcode : OnlyNewlines code := eq_newline_of_unlines_splitlines h
    rw [unlines_splitlines hcode] at h
    have hrest := List.append_cancel_left (List.append_cancel_left h)
    exact ⟨hcode, eq_newline_of_unlines_splitlines hrest.symm⟩
  · rintro ⟨hcode, hcode'⟩
    rw [unlines_splitlines hcode, unlines_splitlines hcode']

theorem Section.Precedes.commute {dest name' : Str} {s : Section name (splitlines dest)}
    {t : Section name' (splitlines dest)} {mid : List Str} (h : s.Precedes t mid) (hs : s.IsFirst)
    (ht : t.IsFirst) (hcode : IsCode code) (code' : Str) :
    Commute dest name code name' code' := by
  have hlater : (h.later code).replaced code' = unlines (s.before ++ [s.declaration]) ++
      (unlines (splitlines (code ++ ['\n'])) ++ (unlines (s.stop :: (mid ++ [t.declaration])) ++
        (code' ++ ['\n'] ++ unlines (t.stop :: t.after)))) := by
    simp [Section.replaced, Section.Precedes.later]
  have hearlier : (h.earlier code').replaced code = unlines (s.before ++ [s.declaration]) ++
      (code ++ ['\n'] ++ (unlines (s.stop :: (mid ++ [t.declaration])) ++
        (unlines (splitlines (code' ++ ['\n'])) ++ unlines (t.stop :: t.after)))) := by
    simp [Section.replaced, Section.Precedes.earlier]
  refine ⟨(h.later code).replaced code', (h.earlier code').replaced code, ?_, ?_, ?_, ?_⟩
  · rw [Section.insert_eq hs, Option.bind_some, Section.insert_eq (ht.later h hcode)]
  · rw [Section.insert_eq ht, Option.bind_some, Section.insert_eq (hs.earlier h)]
  · refine ((h.later code).splitlines_replaced code').trans
      (Eq.trans ?_ ((h.earlier code').splitlines_replaced code).symm)
    simp [Section.Precedes.later, Section.Precedes.earlier]
  · rw [hlater, hearlier, List.append_cancel_left_eq, splitFirst_eq_iff]

/-- The first section of the name is replaced, which leaves what is around it, and the
    same insertion again changes nothing; where there is a section, there is a first one,
    and where there is none the script exits; and the insertions into two sections, one
    before the other, commute. -/
theorem insert_spec (name code dest : Str) (hcode : IsCode code) :
    (∀ s : Section name (splitlines dest), s.IsFirst →
      insert name code dest = some (s.replaced code) ∧
        insert name code (s.replaced code) = some (s.replaced code)) ∧
    (Nonempty (Section name (splitlines dest)) →
      ∃ s : Section name (splitlines dest), s.IsFirst) ∧
    (IsEmpty (Section name (splitlines dest)) → insert name code dest = none) ∧
    ∀ (name' code' : Str), IsCode code' →
      ∀ (s : Section name (splitlines dest)) (t : Section name' (splitlines dest)),
        s.IsFirst → t.IsFirst → s.endsAt < t.openingAt ∨ t.endsAt < s.openingAt →
          Commute dest name code name' code' := by
  refine ⟨fun s hs => ⟨Section.insert_eq hs, Section.insert_replaced hs hcode⟩,
    fun ⟨s⟩ => s.exists_isFirst, insert_eq_none, ?_⟩
  intro name' code' hcode' s t hs ht hdisjoint
  rcases hdisjoint with hst | hts
  · obtain ⟨mid, hmid⟩ := Section.exists_precedes hst
    exact hmid.commute hs ht hcode code'
  · obtain ⟨mid, hmid⟩ := Section.exists_precedes hts
    exact (hmid.commute ht hs hcode' code).symm

/-! ## Two sections -/

/-- A literal, in a line of code. -/
def literal : Str := opening ++ ['"']

def twoSections : List Str :=
  [sectionStart, declarationOf ['A'], literal, sectionEnd, [], sectionStart, declarationOf ['B'],
    literal, literal, sectionEnd]

theorem splitlines_twoSections : splitlines (unlines twoSections) = twoSections := by
  decide +kernel

def sectionA : Section ['A'] (splitlines (unlines twoSections)) where
  before := [sectionStart]
  declaration := declarationOf ['A']
  body := [literal]
  stop := sectionEnd
  after := [[], sectionStart, declarationOf ['B'], literal, literal, sectionEnd]
  lines_eq := splitlines_twoSections
  opens := by decide +kernel
  declares := by decide +kernel
  ends := by decide +kernel

def sectionB : Section ['B'] (splitlines (unlines twoSections)) where
  before := [sectionStart, declarationOf ['A'], literal, sectionEnd, [], sectionStart]
  declaration := declarationOf ['B']
  body := [literal, literal]
  stop := sectionEnd
  after := []
  lines_eq := splitlines_twoSections
  opens := by decide +kernel
  declares := by decide +kernel
  ends := by decide +kernel

theorem sectionA_isFirst : sectionA.IsFirst :=
  ⟨(passes_iff false _).1 (passes_of_forall (by decide +kernel)), by decide +kernel⟩

theorem sectionB_isFirst : sectionB.IsFirst :=
  ⟨(passes_iff false _).1 (passes_of_forall (by decide +kernel)), by decide +kernel⟩

/-- There is no section of another name. -/
theorem isEmpty_section : IsEmpty (Section ['C'] (splitlines (unlines twoSections))) := by
  refine ⟨fun s => ?_⟩
  have hmem : s.declaration ∈ twoSections := by
    have hlines := splitlines_twoSections.symm.trans s.lines_eq
    exact (congrArg (s.declaration ∈ ·) hlines).mpr (List.mem_append_right _ List.mem_cons_self)
  have hnone : ∀ l ∈ twoSections, begins l (declarationOf ['C']) = false := by decide +kernel
  exact absurd (s.declares.symm.trans (hnone _ hmem)) (by decide)

/-- A page of two lines. -/
def page : Str := "<p>\n</p>".toList

/-- The code of the page is put into each of the sections, and into no other. -/
theorem insert_spec_twoSections :
    (insert ['A'] (extractCode page ['A']) (unlines twoSections) =
        some (sectionA.replaced (extractCode page ['A'])) ∧
      insert ['A'] (extractCode page ['A']) (sectionA.replaced (extractCode page ['A'])) =
        some (sectionA.replaced (extractCode page ['A']))) ∧
    (∃ s : Section ['A'] (splitlines (unlines twoSections)), s.IsFirst) ∧
    insert ['C'] (extractCode page ['C']) (unlines twoSections) = none ∧
    Commute (unlines twoSections) ['A'] (extractCode page ['A']) ['B'] (extractCode page ['B']) := by
  obtain ⟨hfirst, hexists, -, hcommute⟩ := insert_spec ['A'] (extractCode page ['A'])
    (unlines twoSections) (isCode_extractCode page ['A'])
  obtain ⟨-, -, hnone, -⟩ := insert_spec ['C'] (extractCode page ['C']) (unlines twoSections)
    (isCode_extractCode page ['C'])
  refine ⟨hfirst sectionA sectionA_isFirst, hexists ⟨sectionA⟩, hnone isEmpty_section, ?_⟩
  exact hcommute ['B'] (extractCode page ['B']) (isCode_extractCode page ['B']) sectionA sectionB
    sectionA_isFirst sectionB_isFirst (Or.inl (by decide))

/-- Two lines of code, with a carriage return between them: the script splits the text
    there when it inserts the other code, and not when it inserts this one. -/
theorem insert_not_comm :
    ¬∀ (dest name code name' code' : Str), IsCode code → IsCode code' →
      ∀ (s : Section name (splitlines dest)) (t : Section name' (splitlines dest)),
        s.IsFirst → t.IsFirst → s.endsAt < t.openingAt →
          (insert name code dest).bind (insert name' code') =
            (insert name' code' dest).bind (insert name code) := by
  intro h
  have hcode : IsCode (literal ++ '\r' :: literal) := by decide
  have hcode' : IsCode literal := by decide
  have hdisjoint : sectionA.endsAt < sectionB.openingAt := by decide
  have heq := h _ _ _ _ _ hcode hcode' sectionA sectionB sectionA_isFirst sectionB_isFirst hdisjoint
  obtain ⟨mid, hmid⟩ := Section.exists_precedes hdisjoint
  obtain ⟨r, r', hr, hr', -, htext⟩ := hmid.commute sectionA_isFirst sectionB_isFirst hcode literal
  rw [hr, hr'] at heq
  exact absurd ((htext.1 (Option.some.inj heq)).1 '\r' (by decide) (by decide)) (by decide)

end InsertCode

end RidenDongle
