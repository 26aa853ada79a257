import RidenDongle.Json.Text
import RidenDongle.Memory.Printf
import Mathlib.Data.List.TakeWhile
import Mathlib.Data.Rat.Floor
import Mathlib.Tactic.FieldSimp
import Mathlib.Tactic.Linarith

/-!
# Numbers of JSON texts

* `rational`: the number that a spelling stands for.
* `fixed`: a number with a fixed number of places, which `rational` reads back.
* `halfUp`: the nearest such number, where halves are rounded away from zero.
-/

namespace RidenDongle

namespace Json

/-- The power of ten of an exponent with its letter, if there is one. -/
def power : List Char → ℚ
  | [] => 1
  | _ :: cs =>
    let n := Nat.ofDigitChars 10 (scanSign cs).2 0
    if (scanSign cs).1 = ['-'] then 1 / 10 ^ n else 10 ^ n

/-- The number that is spelled. -/
def rational (cs : List Char) : Option ℚ := do
  let s := scanMinus cs
  let i ← scanInteger s.2
  let f ← scanFraction i.2
  let e ← scanExponent f.2
  let places := f.1.tail
  let x : ℚ := Nat.ofDigitChars 10 i.1 0 + Nat.ofDigitChars 10 places 0 / 10 ^ places.length
  if e.2 = [] then some ((if s.1 = [] then x else -x) * power e.1) else none

/-- The number of `n` units in the last of `digits` places. -/
def fixed (negative : Bool) (digits n : ℕ) : List Char :=
  (if negative then ['-'] else []) ++ Nat.toDigits 10 (n / 10 ^ digits) ++
    '.' :: Printf.padded digits (n % 10 ^ digits)

/-- The number with so many places that is nearest to `x`. -/
def halfUp (x : ℚ) (digits : ℕ) : List Char :=
  fixed (x < 0) digits ⌊|x| * 10 ^ digits + 1 / 2⌋₊

example : halfUp (-20005 / 10000) 3 = ['-', '2', '.', '0', '0', '1'] := by decide +kernel

/-! ## Digits -/

theorem toDigits_starts {n : ℕ} (hn : 0 < n) :
    ∃ c cs, Nat.toDigits 10 n = c :: cs ∧ c ≠ '0' := by
  induction n using Nat.strong_induction_on with
  | _ n ih =>
    by_cases hlt : n < 10
    · exact ⟨n.digitChar, [], Nat.toDigits_of_lt_base hlt,
        fun h => hn.ne' (Nat.digitChar_eq_zero.1 h)⟩
    · obtain ⟨c, cs, hcs, hc⟩ := ih (n / 10) (by omega) (by omega)
      exact ⟨c, cs ++ [(n % 10).digitChar],
        by rw [Nat.toDigits_of_base_le (by decide) (by omega), hcs, List.cons_append], hc⟩

/-- The digits of a number are its integer part, whatever follows that is no digit. -/
theorem scanInteger_toDigits (n : ℕ) {rest : List Char} (hrest : ∀ c ∈ rest.head?, ¬c.isDigit) :
    scanInteger (Nat.toDigits 10 n ++ rest) = some (Nat.toDigits 10 n, rest) := by
  rcases Nat.eq_zero_or_pos n with rfl | hn
  · rfl
  · obtain ⟨c, cs, hcs, hc⟩ := toDigits_starts hn
    have hdigits : ∀ d ∈ c :: cs, d.isDigit := fun d hd =>
      Nat.isDigit_of_mem_toDigits (by decide) (by decide) (hcs ▸ hd)
    have htail : ∀ d ∈ cs, d.isDigit := fun d hd => hdigits d (List.mem_cons_of_mem _ hd)
    have hspan := @span_append Char.isDigit cs rest hrest
    rw [hcs, List.cons_append, scanInteger.eq_3 _ _ hc, if_pos (hdigits c List.mem_cons_self),
      hspan.1, hspan.2, List.takeWhile_eq_self_iff.2 htail, List.dropWhile_eq_nil_iff.2 htail]
    rfl

theorem isDigit_of_mem_padded {width n : ℕ} {c : Char} (hc : c ∈ Printf.padded width n) :
    c.isDigit := by
  rw [Printf.padded, List.leftpad, List.mem_append] at hc
  rcases hc with hc | hc
  · rw [(List.mem_replicate.1 hc).2]
    rfl
  · exact Nat.isDigit_of_mem_toDigits (by decide) (by decide) hc

theorem ofDigitChars_padded (width n : ℕ) : Nat.ofDigitChars 10 (Printf.padded width n) 0 = n := by
  rw [Printf.padded, List.leftpad, Nat.ofDigitChars_append, Nat.ofDigitChars_replicate_zero,
    Nat.mul_zero, Nat.ofDigitChars_ten_toDigits]

/-! ## What `fixed` spells -/

variable {negative : Bool} {digits n : ℕ}

theorem scanMinus_fixed : scanMinus (fixed negative digits n) =
    (if negative then ['-'] else [], fixed false digits n) := by
  cases negative with
  | true => rfl
  | false =>
    obtain ⟨c, cs, hcs⟩ := List.exists_cons_of_ne_nil (@Nat.toDigits_ne_nil (n / 10 ^ digits) 10)
    have hc : c ≠ '-' := by
      rintro rfl
      have := @Nat.isDigit_of_mem_toDigits 10 (n / 10 ^ digits) '-' (by decide) (by decide)
        (hcs ▸ List.mem_cons_self)
      exact absurd this (by decide)
    refine scanMinus.eq_2 _ fun cs' h => hc ?_
    rw [fixed, hcs] at h
    exact (List.cons.inj h).1

theorem scanInteger_fixed : scanInteger (fixed false digits n) =
    some (Nat.toDigits 10 (n / 10 ^ digits), '.' :: Printf.padded digits (n % 10 ^ digits)) :=
  scanInteger_toDigits _ fun c hc => by
    obtain rfl := Option.some.inj hc
    decide

theorem scanFraction_padded (hdigits : 0 < digits) :
    scanFraction ('.' :: Printf.padded digits n) = some ('.' :: Printf.padded digits n, []) := by
  have hall : ∀ c ∈ Printf.padded digits n, c.isDigit := fun _ => isDigit_of_mem_padded
  have hne : Printf.padded digits n ≠ [] := List.ne_nil_of_length_pos
    (hdigits.trans_le Printf.width_le_length_padded)
  rw [scanFraction, List.takeWhile_eq_self_iff.2 hall, List.dropWhile_eq_nil_iff.2 hall,
    if_neg hne]

theorem spelled_fixed (hdigits : 0 < digits) : Spelled (fixed negative digits n) := by
  simp only [Spelled, scanNumber, scanMinus_fixed, scanInteger_fixed, scanFraction_padded hdigits,
    scanExponent, Option.bind_eq_bind, Option.bind_some, List.append_nil]
  cases negative <;> rfl

theorem rational_fixed (hdigits : 0 < digits) : rational (fixed negative digits n) =
    some ((if negative then -(n : ℚ) else n) / 10 ^ digits) := by
  have hlength : (Printf.padded digits (n % 10 ^ digits)).length = digits :=
    le_antisymm ((Printf.length_padded_le_iff hdigits le_rfl).2 (Nat.mod_lt _ (by positivity)))
      Printf.width_le_length_padded
  have hvalue : ((n / 10 ^ digits : ℕ) : ℚ) + (n % 10 ^ digits : ℕ) / 10 ^ digits =
      n / 10 ^ digits := by
    have hdiv : ((10 ^ digits * (n / 10 ^ digits) + n % 10 ^ digits : ℕ) : ℚ) = n := by
      rw [Nat.div_add_mod]
    push_cast at hdiv
    rw [← hdiv]
    field_simp
  simp only [rational, scanMinus_fixed, scanInteger_fixed, scanFraction_padded hdigits,
    scanExponent, Option.bind_eq_bind, Option.bind_some, if_true, List.tail_cons,
    ofDigitChars_padded, Nat.ofDigitChars_ten_toDigits, hlength, hvalue, power, mul_one]
  cases negative
  · simp
  · simp [neg_div]

/-! ## Rounding -/

theorem spelled_halfUp (x : ℚ) (hdigits : 0 < digits) : Spelled (halfUp x digits) :=
  spelled_fixed hdigits

/-- The text is that of a nearest number. -/
theorem exists_rational_halfUp (x : ℚ) (hdigits : 0 < digits) :
    ∃ k : ℤ, |x * 10 ^ digits - k| ≤ 1 / 2 ∧
      rational (halfUp x digits) = some ((k : ℚ) / 10 ^ digits) := by
  have hpow : (0 : ℚ) < 10 ^ digits := by positivity
  have hnonneg : 0 ≤ |x| * 10 ^ digits + 1 / 2 := by positivity
  have hle := Nat.floor_le hnonneg
  have hlt := Nat.lt_floor_add_one (|x| * 10 ^ digits + 1 / 2)
  rw [halfUp, rational_fixed hdigits]
  generalize ⌊|x| * 10 ^ digits + 1 / 2⌋₊ = n at hle hlt ⊢
  by_cases hx : x < 0
  · refine ⟨-n, ?_, by simp [hx]⟩
    rw [abs_of_neg hx] at hle hlt
    rw [abs_le]
    push_cast
    constructor <;> linarith
  · refine ⟨n, ?_, by simp [hx]⟩
    rw [abs_of_nonneg (not_lt.1 hx)] at hle hlt
    rw [abs_le]
    push_cast
    constructor <;> linarith

end Json

end RidenDongle
