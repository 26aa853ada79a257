import Mathlib.Data.Nat.Digits.Defs

/-!
# Formatted text

The text that `sprintf` writes for a format of characters and unsigned conversions
(`%u`, `%0<width>u`). The width of a conversion is the least number of digits, never
the greatest.

* `format`: the text, from the directives of the format and its arguments.
* `minLength_le_length`: no text is shorter than the widths together.
* `length_le_iff`: it is longer exactly if an argument has more digits than its width.
-/

namespace Printf

/-- What a format is made of. -/
inductive Directive
  | char (c : Char)
  /-- an unsigned number, with leading zeros up to the width -/
  | unsigned (width : ℕ)
  deriving DecidableEq

/-- The directives of a format; within a conversion, `width` is what was read of it. -/
def directives (width : Option ℕ) : List Char → List Directive
  | [] => []
  | c :: cs =>
    match width with
    | none => if c = '%' then directives (some 0) cs else .char c :: directives none cs
    | some w =>
      if c = 'u' then .unsigned w :: directives none cs
      else directives (some (10 * w + (c.toNat - '0'.toNat))) cs

/-- The decimal digits of `n`, at least `width` of them. -/
def padded (width n : ℕ) : List Char := (Nat.toDigits 10 n).leftpad width '0'

/-- The text of the directives. -/
def format : List Directive → List ℕ → List Char
  | [], _ => []
  | .char c :: ds, args => c :: format ds args
  -- without an argument the rest is undefined
  | .unsigned _ :: _, [] => []
  | .unsigned width :: ds, n :: args => padded width n ++ format ds args

/-- The text that `sprintf` writes, without the terminator. -/
def sprintf (fmt : String) (args : List ℕ) : List Char := format (directives none fmt.toList) args

/-- An array of `size` characters holds the text and its terminator. -/
def Holds (size : ℕ) (text : List Char) : Prop := text.length + 1 ≤ size

example : sprintf "%u.%03u" [1, 5] = ['1', '.', '0', '0', '5'] := by decide

/-- The number of characters if no number is wider than its conversion. -/
def minLength : List Directive → ℕ
  | [] => 0
  | .char _ :: ds => minLength ds + 1
  | .unsigned width :: ds => width + minLength ds

/-- Each conversion has a width and an argument. -/
def Supplied : List Directive → List ℕ → Prop
  | [], _ => True
  | .char _ :: ds, args => Supplied ds args
  | .unsigned _ :: _, [] => False
  | .unsigned width :: ds, _ :: args => 0 < width ∧ Supplied ds args

/-- Each argument has no more digits than the width of its conversion. -/
def Narrow : List Directive → List ℕ → Prop
  | [], _ => True
  | .char _ :: ds, args => Narrow ds args
  | .unsigned _ :: _, [] => True
  | .unsigned width :: ds, n :: args => n < 10 ^ width ∧ Narrow ds args

variable {width n k : ℕ} {ds : List Directive} {args : List ℕ}

theorem width_le_length_padded : width ≤ (padded width n).length := by
  rw [padded, List.length_leftpad]
  exact Nat.le_max_left ..

theorem length_padded_le_iff (hk : 0 < k) (hwidth : width ≤ k) :
    (padded width n).length ≤ k ↔ n < 10 ^ k := by
  rw [padded, List.length_leftpad, Nat.max_le, and_iff_right hwidth]
  exact Nat.length_toDigits_le_iff (by decide) hk

theorem minLength_le_length (h : Supplied ds args) : minLength ds ≤ (format ds args).length := by
  induction ds generalizing args with
  | nil => exact Nat.le_refl 0
  | cons d ds ih =>
    cases d with
    | char c => exact Nat.succ_le_succ (ih h)
    | unsigned width =>
      cases args with
      | nil => exact h.elim
      | cons n args =>
        rw [format, List.length_append]
        exact Nat.add_le_add width_le_length_padded (ih h.2)

/-- The text is as short as it can be exactly if each argument fits its width. -/
theorem length_le_iff (h : Supplied ds args) :
    (format ds args).length ≤ minLength ds ↔ Narrow ds args := by
  induction ds generalizing args with
  | nil => exact iff_of_true (Nat.le_refl 0) trivial
  | cons d ds ih =>
    cases d with
    | char c => exact Nat.succ_le_succ_iff.trans (ih h)
    | unsigned width =>
      cases args with
      | nil => exact h.elim
      | cons n args =>
        have hn : (padded width n).length ≤ width ↔ n < 10 ^ width :=
          length_padded_le_iff h.1 (Nat.le_refl width)
        have hleft : width ≤ (padded width n).length := width_le_length_padded
        have hright : minLength ds ≤ (format ds args).length := minLength_le_length h.2
        rw [format, List.length_append, Narrow, ← hn, ← ih h.2]
        change _ ≤ width + minLength ds ↔ _
        omega

end Printf
