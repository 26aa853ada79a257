import Mathlib.Data.List.Basic
import Mathlib.Data.UInt

/-!
# Forms of HTML texts

The `select` elements of a text, as a browser reads them, and what it submits.

* `tagsFrom`: the tags of a text, with `tagsFrom_append` for texts that are put together.
* `Select`: a `select` element; `selects`: those of a text.
* `Select.value`: what is submitted of one, after the user has or has not clicked an option.
* `value_offering`: of a `select` that offers values of which one is the current one.

Of the attributes of a tag only the first is read, and that an option is `selected`.
-/

namespace RidenDongle

namespace Html

/-- The bytes of an ASCII text. -/
def bytes (s : String) : List UInt8 := s.toList.map fun c => c.toNat.toUInt8

/-! ## Tags -/

/-- Where the reader is: outside of the tags, or in a tag or a quoted value of it, with
    what it has read of the tag, the last byte first. -/
inductive Mode
  | text
  | tag (read : List UInt8)
  | quoted (mark : UInt8) (read : List UInt8)
  deriving DecidableEq

/-- It reads a byte, with which a tag can end. -/
def Mode.read : Mode → UInt8 → Mode × Option (List UInt8)
  | .text, b => if b = 0x3c then (.tag [], none) else (.text, none)
  | .tag read, b =>
    if b = 0x3e then (.text, some read.reverse)
    else if b = 0x27 ∨ b = 0x22 then (.quoted b (b :: read), none)
    else (.tag (b :: read), none)
  | .quoted mark read, b =>
    if b = mark then (.tag (b :: read), none) else (.quoted mark (b :: read), none)

def tagsFrom (m : Mode) : List UInt8 → List (List UInt8)
  | [] => []
  | b :: bs =>
    match m.read b with
    | (m, tag) => tag.toList ++ tagsFrom m bs

/-- Where the reader is after the text. -/
def after (m : Mode) (bs : List UInt8) : Mode := bs.foldl (fun m b => (m.read b).1) m

variable {m : Mode} {as bs : List UInt8} {mark : UInt8} {read : List UInt8}

theorem after_append : after m (as ++ bs) = after (after m as) bs := List.foldl_append

theorem tagsFrom_append :
    tagsFrom m (as ++ bs) = tagsFrom m as ++ tagsFrom (after m as) bs := by
  induction as generalizing m with
  | nil => rfl
  | cons a as ih =>
    have hafter : after m (a :: as) = after (m.read a).1 as := rfl
    rw [List.cons_append, tagsFrom, tagsFrom, hafter]
    obtain ⟨m', tag⟩ := m.read a
    dsimp only
    rw [ih, List.append_assoc]

/-- A text without `<` has no tags. -/
theorem read_text (h : 0x3c ∉ bs) : tagsFrom .text bs = [] ∧ after .text bs = .text := by
  induction bs with
  | nil => exact ⟨rfl, rfl⟩
  | cons b bs ih =>
    obtain ⟨hb, hbs⟩ := not_or.1 (mt List.mem_cons.2 h)
    have hread : Mode.text.read b = (.text, none) := by rw [Mode.read, if_neg (Ne.symm hb)]
    rw [tagsFrom, hread, after, List.foldl_cons, hread]
    exact ih hbs

/-- A value without its quotation mark stays quoted. -/
theorem read_quoted (h : mark ∉ bs) : tagsFrom (.quoted mark read) bs = [] ∧
    after (.quoted mark read) bs = .quoted mark (bs.reverse ++ read) := by
  induction bs generalizing read with
  | nil => exact ⟨rfl, rfl⟩
  | cons b bs ih =>
    obtain ⟨hb, hbs⟩ := not_or.1 (mt List.mem_cons.2 h)
    have hread : (Mode.quoted mark read).read b = (.quoted mark (b :: read), none) := by
      rw [Mode.read, if_neg (Ne.symm hb)]
    rw [tagsFrom, hread, after, List.foldl_cons, hread, List.reverse_cons, List.append_assoc]
    exact ih hbs

/-! ## Elements -/

/-- An `option` element. -/
structure Item where
  value : List UInt8
  selected : Bool
  deriving DecidableEq

structure Select where
  name : List UInt8
  options : List Item
  deriving DecidableEq

/-- The value of the attribute that the tag begins with, and what stands behind it. -/
def valueAfter (start tag : List UInt8) : Option (List UInt8 × List UInt8) :=
  if start <+: tag then
    let rest := tag.drop start.length
    some (rest.takeWhile (· ≠ 0x27), (rest.dropWhile (· ≠ 0x27)).drop 1)
  else none

/-- Another option of the last element. -/
def addOption (c : Item) : List Select → List Select
  | [] => []
  | [s] => [{ s with options := s.options ++ [c] }]
  | s :: s' :: ss => s :: addOption c (s' :: ss)

def readTag (ss : List Select) (tag : List UInt8) : List Select :=
  match valueAfter (bytes "select name='") tag with
  | some (name, _) => ss ++ [⟨name, []⟩]
  | none =>
    match valueAfter (bytes "option value='") tag with
    | some (value, rest) => addOption ⟨value, rest = bytes " selected"⟩ ss
    | none => ss

def selects (text : List UInt8) : List Select := (tagsFrom .text text).foldl readTag []

theorem addOption_append (c : Item) (ss : List Select) (s : Select) :
    addOption c (ss ++ [s]) = ss ++ [{ s with options := s.options ++ [c] }] := by
  induction ss with
  | nil => rfl
  | cons s' ss ih =>
    cases ss with
    | nil => rfl
    | cons s'' ss => exact congrArg (s' :: ·) ih

theorem valueAfter_append {start value rest : List UInt8} (h : 0x27 ∉ value) :
    valueAfter start (start ++ (value ++ 0x27 :: rest)) = some (value, rest) := by
  have hvalue : ∀ b ∈ value, decide (b ≠ 0x27) = true := fun b hb =>
    decide_eq_true fun heq => h (heq ▸ hb)
  rw [valueAfter, if_pos (List.prefix_append _ _), List.drop_left]
  dsimp only
  rw [List.takeWhile_append_of_pos hvalue, List.dropWhile_append_of_pos hvalue]
  simp

/-- An option tag, as it stands behind `<`. -/
theorem readTag_option {value rest : List UInt8} (h : 0x27 ∉ value) (ss : List Select) :
    readTag ss (bytes "option value='" ++ (value ++ 0x27 :: rest)) =
      addOption ⟨value, rest = bytes " selected"⟩ ss := by
  have hselect : valueAfter (bytes "select name='")
      (bytes "option value='" ++ (value ++ 0x27 :: rest)) = none := by
    refine if_neg fun hprefix => ?_
    obtain ⟨heq, -⟩ := List.cons_prefix_cons.1 hprefix
    exact absurd heq (by decide)
  rw [readTag, hselect, valueAfter_append h]

/-- The elements that the tags open. -/
def opened (tags : List (List UInt8)) : List Select :=
  tags.filterMap fun tag => (valueAfter (bytes "select name='") tag).map fun x => ⟨x.1, []⟩

/-- Without options, the elements are added as they are opened. -/
theorem foldl_readTag {tags : List (List UInt8)}
    (h : ∀ tag ∈ tags, valueAfter (bytes "option value='") tag = none) (ss : List Select) :
    tags.foldl readTag ss = ss ++ opened tags := by
  induction tags generalizing ss with
  | nil => exact (List.append_nil ss).symm
  | cons tag tags ih =>
    obtain ⟨htag, htags⟩ := List.forall_mem_cons.1 h
    rw [List.foldl_cons, ih htags, readTag, htag]
    simp only [opened, List.filterMap_cons]
    cases valueAfter (bytes "select name='") tag with
    | none => rfl
    | some x => exact List.append_assoc ..

/-! ## What is submitted -/

/-- What is submitted of the element: the option that the user clicked, or else the last
    that is selected, or else the first. -/
def Select.value (s : Select) (clicked : Option ℕ) : Option (List UInt8) :=
  ((clicked.bind (s.options[·]?)).or
    ((s.options.filter (·.selected)).getLast?.or s.options.head?)).map (·.value)

/-- The names with the values that are submitted. -/
def submit (ss : List Select) (clicked : List UInt8 → Option ℕ) :
    List (List UInt8 × List UInt8) :=
  ss.filterMap fun s => (s.value (clicked s.name)).map (s.name, ·)

theorem lookup_submit_eq_none {ss : List Select} {name : List UInt8}
    (h : name ∉ ss.map Select.name) (clicked : List UInt8 → Option ℕ) :
    (submit ss clicked).lookup name = none := by
  rw [List.lookup_eq_none_iff]
  intro x hx
  obtain ⟨s, hs, hvalue⟩ := List.mem_filterMap.1 hx
  obtain ⟨v, -, rfl⟩ := Option.map_eq_some_iff.1 hvalue
  refine bne_iff_ne.2 ?_
  rintro rfl
  exact h (List.mem_map_of_mem hs)

/-- Of elements with different names, each is submitted under its name. -/
theorem lookup_submit {ss : List Select} (h : (ss.map Select.name).Nodup) {s : Select} (hs : s ∈ ss)
    (clicked : List UInt8 → Option ℕ) :
    (submit ss clicked).lookup s.name = s.value (clicked s.name) := by
  induction ss with
  | nil => exact absurd hs List.not_mem_nil
  | cons s' ss ih =>
    rw [List.map_cons, List.nodup_cons] at h
    have hcons : submit (s' :: ss) clicked =
        ((s'.value (clicked s'.name)).map (s'.name, ·)).toList ++ submit ss clicked := by
      rw [submit, submit, List.filterMap_cons]
      cases s'.value (clicked s'.name) <;> rfl
    rw [hcons, List.lookup_append]
    rcases List.mem_cons.1 hs with rfl | hs
    · rw [lookup_submit_eq_none h.1, Option.or_none]
      cases s.value (clicked s.name) with
      | none => rfl
      | some v => exact List.lookup_cons_self
    · have hne : s.name ≠ s'.name := fun heq => h.1 (heq ▸ List.mem_map_of_mem hs)
      rw [ih h.2 hs]
      cases s'.value (clicked s'.name) with
      | none => rfl
      | some v =>
        rw [Option.map_some, Option.toList_some, List.lookup_cons, beq_false_of_ne hne]
        rfl

section

variable {α : Type*} [DecidableEq α] (offered : List α) (current : α)

/-- A click, or the current value if it is offered, or the first. -/
def pick (clicked : Option ℕ) : Option α :=
  (clicked.bind (offered[·]?)).or (if current ∈ offered then some current else offered.head?)

/-- An element that offers these values, with the current one selected. -/
def offering (name : List UInt8) (text : α → List UInt8) : Select where
  name := name
  options := offered.map fun a => ⟨text a, decide (a = current)⟩

variable {offered current}

theorem getLast?_filter_eq : (offered.filter (decide <| · = current)).getLast? =
    if current ∈ offered then some current else none := by
  have hall : ∀ a ∈ offered.filter (decide <| · = current), a = current := fun a ha =>
    of_decide_eq_true (List.mem_filter.1 ha).2
  split_ifs with h
  · have hne : offered.filter (decide <| · = current) ≠ [] :=
      List.ne_nil_of_mem (List.mem_filter.2 ⟨h, decide_eq_true rfl⟩)
    rw [List.getLast?_eq_getLast_of_ne_nil hne, hall _ (List.getLast_mem hne)]
  · rw [List.getLast?_eq_none_iff, List.filter_eq_nil_iff]
    exact fun a ha heq => h (of_decide_eq_true heq ▸ ha)

theorem value_offering (name : List UInt8) (text : α → List UInt8) (clicked : Option ℕ) :
    (offering offered current name text).value clicked =
      (pick offered current clicked).map text := by
  have hselected : ((offering offered current name text).options.filter (·.selected)).getLast? =
      (if current ∈ offered then some current else none).map
        fun a => ⟨text a, decide (a = current)⟩ := by
    rw [offering, List.filter_map, List.getLast?_map]
    exact congrArg (Option.map _) getLast?_filter_eq
  have hclicked : clicked.bind ((offering offered current name text).options[·]?) =
      (clicked.bind (offered[·]?)).map fun a => ⟨text a, decide (a = current)⟩ := by
    cases clicked with
    | none => rfl
    | some i => exact List.getElem?_map
  rw [Select.value, hselected, hclicked, pick, offering, List.head?_map]
  cases clicked.bind (offered[·]?) with
  | some a => rfl
  | none =>
    split_ifs
    · rfl
    · cases offered <;> rfl

theorem mem_of_pick {clicked : Option ℕ} {a : α} (h : pick offered current clicked = some a) :
    a ∈ offered := by
  rw [pick, Option.or_eq_some_iff] at h
  rcases h with hclick | ⟨-, hrest⟩
  · obtain ⟨i, -, hi⟩ := Option.bind_eq_some_iff.1 hclick
    exact List.mem_of_getElem? hi
  · split_ifs at hrest with hmem
    · exact Option.some.inj hrest ▸ hmem
    · exact List.mem_of_mem_head? hrest

/-- Without a click, the current value is submitted exactly if it is offered. -/
theorem pick_none_eq_some_iff : pick offered current none = some current ↔ current ∈ offered := by
  refine ⟨mem_of_pick, fun h => ?_⟩
  rw [pick, if_pos h]
  rfl

theorem exists_pick (h : offered ≠ []) (current : α) (clicked : Option ℕ) :
    ∃ a, pick offered current clicked = some a := by
  rw [← Option.isSome_iff_exists, pick, Option.isSome_or]
  obtain ⟨a, as, rfl⟩ := List.exists_cons_of_ne_nil h
  split_ifs <;> simp

end

end Html

end RidenDongle
