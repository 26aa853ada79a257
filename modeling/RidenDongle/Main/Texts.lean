import RidenDongle.Memory.Printf
import RidenDongle.Modbus.Presets
import Mathlib.Tactic.IntervalCases

/-!
# Texts of fixed size

The texts that the dongle makes of what the power supply reports, in arrays of
characters: the serial number and the firmware version, for `*IDN?`
(`RidenScpi::begin`) and for the web pages, and the clock (`handle_psu_get`).

* `texts`: the texts, from the registers.
* `texts_held_iff`: the registers for which each array holds its text.
-/

namespace RidenDongle

open Printf RidenModbus

/-- What `%u` takes an `int` for. -/
def asUnsigned (x : ℤ) : ℕ := (x % 2 ^ 32).toNat

def serialText (serialNumber : ℕ) : List Char := sprintf "%08u" [serialNumber]

def firmwareText (firmwareVersion : ℕ) : List Char :=
  sprintf "%u.%u" [firmwareVersion / 100, firmwareVersion % 100]

def clockText (clock : Tm) : List Char :=
  sprintf "%04u-%02u-%02u %02u:%02u:%02u"
    [asUnsigned (clock.year + 1900), asUnsigned (clock.mon + 1), asUnsigned clock.mday,
      asUnsigned clock.hour, asUnsigned clock.min, asUnsigned clock.sec]

/-- The texts that are written to arrays. -/
structure Texts where
  /-- `idn3[10]` and `idn4[10]`, of `RidenScpi::begin` -/
  idn3 : List Char
  idn4 : List Char
  /-- the arrays of 10 characters of `get_serial_number` and `get_firmware_version` -/
  serialNumberString : List Char
  firmwareVersionString : List Char
  /-- `clock_string[20]` of `handle_psu_get`, which shows the settings -/
  clockString : Option (List Char)

/-- The texts, if all reads succeed. -/
def texts (div : ℚ → ℚ → ℚ) (s : RidenModbus) (registers : ℕ → ℕ) : Texts where
  idn3 := serialText (getSerialNumber.on registers)
  idn4 := firmwareText (getFirmwareVersion.on registers)
  serialNumberString := serialText (getSerialNumber.on registers)
  firmwareVersionString := firmwareText (getFirmwareVersion.on registers)
  clockString := ((s.getAllValues div false).on registers).settings.map fun x => clockText x.clock

/-- Each array holds its text. -/
structure Texts.Held (t : Texts) : Prop where
  idn3 : Holds 10 t.idn3
  idn4 : Holds 10 t.idn4
  serialNumberString : Holds 10 t.serialNumberString
  firmwareVersionString : Holds 10 t.firmwareVersionString
  clockString : ∀ text ∈ t.clockString, Holds 20 text

/-! ## The three texts -/

theorem holds_serialText_iff {serialNumber : ℕ} :
    Holds 10 (serialText serialNumber) ↔ serialNumber < 10 ^ 9 := by
  have htext : serialText serialNumber = padded 8 serialNumber ++ [] := rfl
  rw [Holds, htext, List.append_nil, Nat.succ_le_succ_iff]
  exact length_padded_le_iff (by decide) (by decide)

/-- At most three digits, a dot and two digits. -/
theorem holds_firmwareText {firmwareVersion : ℕ} (h : firmwareVersion < 2 ^ 16) :
    Holds 10 (firmwareText firmwareVersion) := by
  have htext : firmwareText firmwareVersion =
      padded 0 (firmwareVersion / 100) ++ '.' :: (padded 0 (firmwareVersion % 100) ++ []) := rfl
  have hmajor : (padded 0 (firmwareVersion / 100)).length ≤ 3 :=
    (length_padded_le_iff (by decide) (by decide)).2
      (Nat.div_lt_of_lt_mul (Nat.lt_trans h (by decide)))
  have hminor : (padded 0 (firmwareVersion % 100)).length ≤ 2 :=
    (length_padded_le_iff (by decide) (by decide)).2 (Nat.mod_lt _ (by decide))
  rw [Holds, htext, List.append_nil, List.length_append, List.length_cons]
  omega

/-- `clock_string` as it is made of its six fields. -/
theorem clockDirectives : directives none "%04u-%02u-%02u %02u:%02u:%02u".toList =
    [.unsigned 4, .char '-', .unsigned 2, .char '-', .unsigned 2, .char ' ', .unsigned 2,
      .char ':', .unsigned 2, .char ':', .unsigned 2] := rfl

/-- With no field wider than in a date, the clock is just as long as its array allows. -/
theorem holds_clockText_iff {clock : Tm} : Holds 20 (clockText clock) ↔
    asUnsigned (clock.year + 1900) < 10 ^ 4 ∧ asUnsigned (clock.mon + 1) < 10 ^ 2 ∧
      asUnsigned clock.mday < 10 ^ 2 ∧ asUnsigned clock.hour < 10 ^ 2 ∧
      asUnsigned clock.min < 10 ^ 2 ∧ asUnsigned clock.sec < 10 ^ 2 := by
  rw [Holds, clockText, sprintf, clockDirectives]
  refine Nat.succ_le_succ_iff.trans ((length_le_iff ?_).trans ?_)
  · simp only [Supplied, Nat.ofNat_pos, and_self]
  · simp only [Narrow, and_true]

/-! ## All registers -/

theorem asUnsigned_natCast {n : ℕ} (h : n < 2 ^ 32) : asUnsigned n = n := by
  rw [asUnsigned, Int.emod_eq_of_lt (Int.natCast_nonneg n) (by exact_mod_cast h)]
  exact Int.toNat_natCast n

theorem on_getSerialNumber {registers : ℕ → ℕ} (h : ∀ k, registers k < 2 ^ 16) :
    getSerialNumber.on registers = registers Register.serialNumberHigh * 2 ^ 16 +
      registers (Register.serialNumberHigh + 1) := by
  have hlong : registers Register.serialNumberHigh * 2 ^ 16 +
      registers (Register.serialNumberHigh + 1) < 2 ^ 32 := by
    have hhigh := h Register.serialNumberHigh
    have hlow := h (Register.serialNumberHigh + 1)
    omega
  rw [getSerialNumber, on_readOnce]
  exact (longAt_map (by decide)).trans (Nat.mod_eq_of_lt hlong)

theorem holds_serialText_registers {registers : ℕ → ℕ} (h : ∀ k, registers k < 2 ^ 16) :
    Holds 10 (serialText (getSerialNumber.on registers)) ↔
      registers Register.serialNumberHigh * 2 ^ 16 +
        registers (Register.serialNumberHigh + 1) < 10 ^ 9 := by
  rw [holds_serialText_iff, on_getSerialNumber h]

/-- The decoded clock shows the registers again. -/
theorem holds_clockText_registers {registers : ℕ → ℕ} (h : ∀ k, registers k < 2 ^ 16) :
    Holds 20 (clockText (getClock.on registers)) ↔ registers Register.year < 10 ^ 4 ∧
      ∀ k, 1 ≤ k → k ≤ 5 → registers (Register.year + k) < 10 ^ 2 := by
  have hint : ∀ k, asUnsigned (registers k) = registers k := fun k =>
    asUnsigned_natCast (Nat.lt_trans (h k) (by decide))
  rw [holds_clockText_iff, getClock, on_readOnce, valuesToTm_map (by decide)]
  dsimp only
  simp only [Int.sub_add_cancel, hint, Nat.zero_add, Nat.add_zero]
  -- the offsets that `values_to_tm` subtracts are added again, so the year is left as it is
  -- and the others are the registers after it
  refine and_congr_right' ⟨fun hfields k hk₁ hk₅ => ?_, fun hall => ?_⟩
  · obtain ⟨hmon, hmday, hhour, hmin, hsec⟩ := hfields
    interval_cases k <;> assumption
  · exact ⟨hall 1 (by decide) (by decide), hall 2 (by decide) (by decide),
      hall 3 (by decide) (by decide), hall 4 (by decide) (by decide),
      hall 5 (by decide) (by decide)⟩

variable {div : ℚ → ℚ → ℚ} {s : RidenModbus}

theorem clockString_texts (registers : ℕ → ℕ) :
    (texts div s registers).clockString = some (clockText (getClock.on registers)) := by
  change ((s.getAllValues div false).on registers).settings.map (fun x => clockText x.clock) = _
  rw [on_getAllValues, on_getClock (by decide : Register.year + 5 < 120)]
  rfl

/-- Each array holds its text exactly if the serial number has at most nine digits, the
    year at most four, and each of the five other registers of the clock at most two. -/
theorem texts_held_iff (div : ℚ → ℚ → ℚ) (s : RidenModbus) (words : ℕ → UInt16) :
    (texts div s fun k => (words k).toNat).Held ↔
      (words Register.serialNumberHigh).toNat * 2 ^ 16 +
          (words (Register.serialNumberHigh + 1)).toNat < 10 ^ 9 ∧
        (words Register.year).toNat < 10 ^ 4 ∧
        ∀ k, 1 ≤ k → k ≤ 5 → (words (Register.year + k)).toNat < 10 ^ 2 := by
  have hword : ∀ k, (words k).toNat < 2 ^ 16 := fun k => (words k).toNat_lt
  have hclock := holds_clockText_registers hword
  have hserial := holds_serialText_registers hword
  constructor
  · intro h
    exact ⟨hserial.1 h.idn3, hclock.1 (h.clockString _ (clockString_texts _))⟩
  · rintro ⟨hlong, hfields⟩
    exact
      { idn3 := hserial.2 hlong
        idn4 := holds_firmwareText (hword _)
        serialNumberString := hserial.2 hlong
        firmwareVersionString := holds_firmwareText (hword _)
        clockString := by
          rw [clockString_texts]
          rintro _ ⟨⟩
          exact hclock.2 hfields }

/-- The serial number 1000000000 is longer than its array. -/
theorem not_texts_held_serial :
    ¬(texts (· / ·) ⟨"RD6006P", 601 / 10, 6, 1000, 10000, 1000, 100⟩ fun k =>
      (if k = 1 then 0x3B9A else if k = 2 then 0xCA00 else 0 : UInt16).toNat).Held :=
  fun h => absurd (holds_serialText_iff.1 h.idn3) (by decide)

end RidenDongle
