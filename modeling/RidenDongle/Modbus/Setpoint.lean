import Mathlib.Data.Rat.Floor
import Mathlib.Tactic.Linarith
import Mathlib.Tactic.NormNum
import Mathlib.Tactic.Positivity
import Mathlib.Tactic.FieldSimp
import Mathlib.Tactic.Ring

/-!
# Setpoints

How a requested voltage or current becomes a register value and back: the
multipliers that `RidenModbus::begin` picks for a power supply, the conversions
`voltage_to_value` and its siblings, the setters, and the SCPI and HTTP handlers
that call them (`riden_modbus.cpp`, `riden_scpi.cpp`, `riden_http_server.cpp`).

* Doubles are the rationals they denote. The division and the multiplication of
  doubles are parameters `div` and `mul`, which are only known to come near the
  quotient (`Rounded`) and the product (`RoundedProduct`).
* The conversion of a double to `uint16_t` drops the fraction and reduces modulo
  `2^16` (`toUint16`).
* The transfer to the power supply is a parameter `Transfer`: whether the
  request was sent, and how it was answered.

Main results: which setpoints come back as they were written, where the products are
exact (`setpoint_roundTrip_iff`), and which requests the setters serve without
wrapping (`faithful_handle_iff`).
-/

namespace RidenDongle

/-- `uint16_t(x)`: the fraction is dropped, what is left is taken modulo `2^16`. -/
def toUint16 (x : ℚ) : ℕ := ((if 0 ≤ x then ⌊x⌋ else ⌈x⌉) % 65536).toNat

theorem toUint16_lt (x : ℚ) : toUint16 x < 65536 := by
  unfold toUint16
  omega

theorem toUint16_eq {x : ℚ} {k : ℕ} (hk : k < 65536) (hle : (k : ℚ) ≤ x) (hlt : x < k + 1) :
    toUint16 x = k := by
  have hx : 0 ≤ x := le_trans (Nat.cast_nonneg k) hle
  have hfloor : ⌊x⌋ = (k : ℤ) := by
    rw [Int.floor_eq_iff]
    exact ⟨by exact_mod_cast hle, by exact_mod_cast hlt⟩
  rw [toUint16, if_pos hx, hfloor]
  omega

/-- In range, the conversion is the floor. -/
theorem toUint16_of_mem {x : ℚ} (h₀ : 0 ≤ x) (h₁ : x < 65536) :
    (toUint16 x : ℚ) ≤ x ∧ x < toUint16 x + 1 := by
  have hcast : ((⌊x⌋.toNat : ℕ) : ℤ) = ⌊x⌋ := Int.toNat_of_nonneg (Int.floor_nonneg.mpr h₀)
  have hcast' : ((⌊x⌋.toNat : ℕ) : ℚ) = (⌊x⌋ : ℚ) := by exact_mod_cast hcast
  have hlt : ⌊x⌋ < 65536 := Int.floor_lt.mpr (by exact_mod_cast h₁)
  have heq : toUint16 x = ⌊x⌋.toNat := by
    refine toUint16_eq (by omega) ?_ ?_
    · rw [hcast']
      exact Int.floor_le x
    · rw [hcast']
      exact Int.lt_floor_add_one x
  rw [heq, hcast']
  exact ⟨Int.floor_le x, Int.lt_floor_add_one x⟩

/-- Less than 1 below it, a number is reached only from 0. -/
theorem toUint16_eq_iff {x : ℚ} {k : ℕ} (hk : k < 65536) (h : |x - k| < 1) :
    toUint16 x = k ↔ k = 0 ∨ (k : ℚ) ≤ x := by
  obtain ⟨hlow, hhigh⟩ := abs_lt.1 h
  constructor
  · intro heq
    by_contra hcon
    push Not at hcon
    obtain ⟨hk₀, hlt⟩ := hcon
    have hk₁ : ((k - 1 : ℕ) : ℚ) = (k : ℚ) - 1 := by
      rw [Nat.cast_sub (Nat.one_le_iff_ne_zero.mpr hk₀), Nat.cast_one]
    have hdown : toUint16 x = k - 1 := by
      refine toUint16_eq (by omega) ?_ ?_
      · rw [hk₁]; linarith
      · rw [hk₁]; linarith
    omega
  · rintro (rfl | hle)
    · rw [Nat.cast_zero, sub_zero] at hlow hhigh
      rcases le_or_gt 0 x with hx | hx
      · exact toUint16_eq hk (by simpa using hx) (by simpa using hhigh)
      · have hceil : ⌈x⌉ = 0 := by
          rw [Int.ceil_eq_iff]
          exact ⟨by simpa using hlow, by simpa using hx.le⟩
        rw [toUint16, if_neg (not_le.mpr hx), hceil]
        rfl
    · exact toUint16_eq hk hle (by linarith)

/-- What `RidenModbus::begin` finds out about the power supply. -/
structure RidenModbus where
  type : String
  vMax : ℚ
  iMax : ℚ
  vMulti : ℚ := 100
  iMulti : ℚ := 100
  pMulti : ℚ := 100
  vInMulti : ℚ := 100
  deriving DecidableEq

namespace RidenModbus

/-- `RidenModbus::begin`, once the id of the power supply was read. -/
def begin (id : ℕ) : Option RidenModbus :=
  if 60180 ≤ id ∧ id ≤ 60189 then
    some { type := "RD6018", vMax := 601 / 10, iMax := 181 / 10 }
  else if 60120 ≤ id ∧ id ≤ 60124 then
    some { type := "RD6012", vMax := 601 / 10, iMax := 121 / 10 }
  else if 60125 ≤ id ∧ id ≤ 60129 then
    some { type := "RD6012P", vMax := 601 / 10, iMax := 121 / 10, vMulti := 1000, pMulti := 1000 }
  else if 60060 ≤ id ∧ id ≤ 60064 then
    some { type := "RD6006", vMax := 601 / 10, iMax := 6, iMulti := 1000 }
  else if id = 60065 then
    some { type := "RD6006P", vMax := 601 / 10, iMax := 6,
           vMulti := 1000, iMulti := 10000, pMulti := 1000 }
  else if id = 60301 then
    some { type := "RD6030", vMax := 601 / 10, iMax := 301 / 10 }
  else if 60241 ≤ id then
    some { type := "RD6024", vMax := 601 / 10, iMax := 241 / 10 }
  else none

/-- The multipliers in use. -/
def Multiplier (m : ℚ) : Prop := m = 100 ∨ m = 1000 ∨ m = 10000

theorem Multiplier.bounds {m : ℚ} (h : Multiplier m) : 100 ≤ m ∧ m ≤ 10000 := by
  rcases h with rfl | rfl | rfl <;> norm_num

theorem Multiplier.pos {m : ℚ} (h : Multiplier m) : 0 < m := by
  linarith [h.bounds]

/-- The multipliers of every power supply that `begin` accepts. -/
theorem multiplier_of_begin {id : ℕ} {s : RidenModbus} (h : begin id = some s) :
    Multiplier s.vMulti ∧ Multiplier s.iMulti := by
  unfold begin at h
  split_ifs at h <;> cases h <;> simp [Multiplier]

variable (div mul : ℚ → ℚ → ℚ) (s : RidenModbus)

def valueToVoltage (value : ℕ) : ℚ := div value s.vMulti
def valueToCurrent (value : ℕ) : ℚ := div value s.iMulti
def voltageToValue (voltage : ℚ) : ℕ := toUint16 (mul voltage s.vMulti)
def currentToValue (current : ℚ) : ℕ := toUint16 (mul current s.iMulti)

/-- The setpoints of `Preset`. -/
structure Preset where
  voltage : ℚ
  current : ℚ
  overVoltageProtection : ℚ
  overCurrentProtection : ℚ

/-- The four registers of a preset, `uint16_t values[4]`. -/
structure PresetValues where
  voltage : ℕ
  current : ℕ
  overVoltage : ℕ
  overCurrent : ℕ
  deriving DecidableEq

def valuesToPreset (values : PresetValues) : Preset where
  voltage := s.valueToVoltage div values.voltage
  current := s.valueToCurrent div values.current
  overVoltageProtection := s.valueToVoltage div values.overVoltage
  overCurrentProtection := s.valueToCurrent div values.overCurrent

def presetToValues (preset : Preset) : PresetValues where
  voltage := s.voltageToValue mul preset.voltage
  current := s.currentToValue mul preset.current
  overVoltage := s.voltageToValue mul preset.overVoltageProtection
  overCurrent := s.currentToValue mul preset.overCurrentProtection

/-! ## Setting a decimal -/

/-- `x` is as near to `k / m` as parsing and rounding leave it. -/
def Near (m : ℚ) (k : ℕ) (x : ℚ) : Prop := |x - k / m| ≤ (1 / 2 ^ 40) * max 1 (k / m)

/-- The division of doubles comes near the quotient. -/
def Rounded : Prop := ∀ m, Multiplier m → ∀ k < 65536, Near m k (div k m)

/-- The decimal did not fall below the setpoint it stands for. -/
def NotBelow (m : ℚ) (k : ℕ) (x : ℚ) : Prop := k = 0 ∨ k / m ≤ x

/-- Near a setpoint means less than half a step away from it. -/
theorem Near.mul_close {m x : ℚ} {k : ℕ} (hm : Multiplier m) (hk : k < 65536)
    (h : Near m k x) : |x * m - k| < 1 / 2 := by
  have hpos := hm.pos
  have hb := hm.bounds
  have hk' : (k : ℚ) ≤ 65535 := by exact_mod_cast Nat.le_of_lt_succ hk
  have hquot : (k : ℚ) / m ≤ 65535 := by
    rw [div_le_iff₀ hpos]
    nlinarith
  have hmax : max 1 ((k : ℚ) / m) ≤ 65535 := max_le (by norm_num) hquot
  have htol : |x - k / m| ≤ (1 / 2 ^ 40) * 65535 :=
    le_trans h (mul_le_mul_of_nonneg_left hmax (by norm_num))
  calc |x * m - k| = |(x - k / m) * m| := by congr 1; field_simp
    _ = |x - k / m| * m := by rw [abs_mul, abs_of_pos hpos]
    _ ≤ (1 / 2 ^ 40) * 65535 * 10000 :=
        mul_le_mul htol hb.2 hpos.le (by norm_num)
    _ < 1 / 2 := by norm_num

/-- It is near to one setpoint only. -/
theorem Near.unique {m x : ℚ} {k k' : ℕ} (hm : Multiplier m) (hk : k < 65536)
    (hk' : k' < 65536) (h : Near m k x) (h' : Near m k' x) : k = k' := by
  have hclose := abs_lt.1 (h.mul_close hm hk)
  have hclose' := abs_lt.1 (h'.mul_close hm hk')
  have hlt : (k : ℚ) < k' + 1 := by linarith [hclose.1, hclose'.2]
  have hlt' : (k' : ℚ) < k + 1 := by linarith [hclose.2, hclose'.1]
  have hle : k < k' + 1 := by exact_mod_cast hlt
  have hle' : k' < k + 1 := by exact_mod_cast hlt'
  omega

/-- The setpoint is reached exactly from the decimals that are not below it. -/
theorem toUint16_mul_eq_iff {m x : ℚ} {k : ℕ} (hm : Multiplier m) (hk : k < 65536)
    (h : Near m k x) : toUint16 (x * m) = k ↔ NotBelow m k x := by
  rw [NotBelow, div_le_iff₀ hm.pos]
  exact toUint16_eq_iff hk ((h.mul_close hm hk).trans (by norm_num))

/-- **Round trip of setpoints.** A decimal near the setpoint `k / m` is written
    as `k`, and a register value that was read is written back as it was, exactly
    when the decimal, or the quotient computed for it, is not below `k / m`. The
    products are exact. -/
theorem setpoint_roundTrip_iff (hv : Multiplier s.vMulti) (hi : Multiplier s.iMulti)
    (hdiv : Rounded div) :
    (∀ k < 65536, ∀ x, Near s.vMulti k x →
      (s.voltageToValue (· * ·) x = k ↔ NotBelow s.vMulti k x)) ∧
    (∀ k < 65536, ∀ x, Near s.iMulti k x →
      (s.currentToValue (· * ·) x = k ↔ NotBelow s.iMulti k x)) ∧
    (∀ k < 65536,
      (s.voltageToValue (· * ·) (s.valueToVoltage div k) = k ↔
        NotBelow s.vMulti k (div k s.vMulti)) ∧
      (s.currentToValue (· * ·) (s.valueToCurrent div k) = k ↔
        NotBelow s.iMulti k (div k s.iMulti))) ∧
    ∀ values : PresetValues, values.voltage < 65536 → values.current < 65536 →
      values.overVoltage < 65536 → values.overCurrent < 65536 →
      (s.presetToValues (· * ·) (s.valuesToPreset div values) = values ↔
        NotBelow s.vMulti values.voltage (div values.voltage s.vMulti) ∧
        NotBelow s.iMulti values.current (div values.current s.iMulti) ∧
        NotBelow s.vMulti values.overVoltage (div values.overVoltage s.vMulti) ∧
        NotBelow s.iMulti values.overCurrent (div values.overCurrent s.iMulti)) := by
  have hvolt : ∀ k < 65536, ∀ x, Near s.vMulti k x →
      (s.voltageToValue (· * ·) x = k ↔ NotBelow s.vMulti k x) :=
    fun k hk x hx => toUint16_mul_eq_iff hv hk hx
  have hcurr : ∀ k < 65536, ∀ x, Near s.iMulti k x →
      (s.currentToValue (· * ·) x = k ↔ NotBelow s.iMulti k x) :=
    fun k hk x hx => toUint16_mul_eq_iff hi hk hx
  -- a quotient is one of the numbers near its register value
  have hback : ∀ k < 65536,
      (s.voltageToValue (· * ·) (s.valueToVoltage div k) = k ↔
        NotBelow s.vMulti k (div k s.vMulti)) ∧
      (s.currentToValue (· * ·) (s.valueToCurrent div k) = k ↔
        NotBelow s.iMulti k (div k s.iMulti)) :=
    fun k hk => ⟨hvolt k hk _ (hdiv _ hv k hk), hcurr k hk _ (hdiv _ hi k hk)⟩
  refine ⟨hvolt, hcurr, hback, ?_⟩
  intro values h₁ h₂ h₃ h₄
  rw [← (hback _ h₁).1, ← (hback _ h₂).2, ← (hback _ h₃).1, ← (hback _ h₄).2]
  cases values
  simp only [presetToValues, valuesToPreset, PresetValues.mk.injEq]

theorem rounded_exact : Rounded (· / ·) := by
  intro m _ k _
  simp only [Near, sub_self, abs_zero]
  positivity

/-- On an RD6006P, with exact quotients. -/
theorem setpoint_roundTrip_rd6006p :
    ((⟨"RD6006P", 601 / 10, 6, 1000, 10000, 1000, 100⟩ : RidenModbus).voltageToValue
        (· * ·) (12345 / 1000) = 12345 ↔
      NotBelow 1000 12345 (12345 / 1000)) :=
  (setpoint_roundTrip_iff (· / ·) _ (Or.inr (Or.inl rfl)) (Or.inr (Or.inr rfl))
    rounded_exact).1 12345 (by norm_num) _ (by simp only [Near]; norm_num)

/-- On an RD6018, `0.29` is parsed into a double just below it, and set as `0.28`. -/
theorem not_roundTrip_decimal :
    ¬ ∀ k < 65536, ∀ x, Near 100 k x →
      (⟨"RD6018", 601 / 10, 181 / 10, 100, 100, 100, 100⟩ : RidenModbus).voltageToValue
        (· * ·) x = k := by
  intro h
  have := h 29 (by norm_num) (5224175567749775 / 2 ^ 54)
    (by unfold Near; rw [abs_le, max_eq_left (by norm_num)]; norm_num)
  revert this
  decide +kernel

/-! ## Setting any number -/

abbrev numberOfPresets : ℕ := 9

namespace Register
abbrev voltageSet : ℕ := 8
abbrev currentSet : ℕ := 9
abbrev m0V : ℕ := 80
abbrev m0I : ℕ := 81
abbrev m0Ovp : ℕ := 82
abbrev m0Ocp : ℕ := 83
end Register

/-- How the transfer of a request goes: it is not sent at all, or it is sent and
    `answered` in time or not, or the power supply answers with an exception. That is
    an answer to the call, but nothing was written. -/
inductive Transfer
  | refused
  | sent (answered : Bool)
  | exception
  deriving DecidableEq

/-- What a setter returns, and the registers it had written with their values. -/
structure Outcome where
  result : Bool
  written : List (ℕ × ℕ)
  deriving DecidableEq

def writeHoldingRegister (offset value : ℕ) : Transfer → Outcome
  | .refused => ⟨false, []⟩
  | .sent answered => ⟨answered, [(offset, value)]⟩
  | .exception => ⟨true, []⟩

def writeVoltage (reg : ℕ) (voltage : ℚ) : Transfer → Outcome :=
  writeHoldingRegister reg (s.voltageToValue mul voltage)

def writeCurrent (reg : ℕ) (current : ℚ) : Transfer → Outcome :=
  writeHoldingRegister reg (s.currentToValue mul current)

def setVoltageSet (voltage : ℚ) : Transfer → Outcome :=
  s.writeVoltage mul Register.voltageSet voltage

def setCurrentSet (current : ℚ) : Transfer → Outcome :=
  s.writeCurrent mul Register.currentSet current

def setPresetOverVoltageProtection (index : ℕ) (voltage : ℚ) (transfer : Transfer) : Outcome :=
  if numberOfPresets ≤ index then ⟨false, []⟩
  else s.writeVoltage mul (Register.m0Ovp + 4 * index) voltage transfer

def setPresetOverCurrentProtection (index : ℕ) (current : ℚ) (transfer : Transfer) : Outcome :=
  if numberOfPresets ≤ index then ⟨false, []⟩
  else s.writeCurrent mul (Register.m0Ocp + 4 * index) current transfer

def setOverVoltageProtection (voltage : ℚ) : Transfer → Outcome :=
  s.setPresetOverVoltageProtection mul 0 voltage

def setOverCurrentProtection (current : ℚ) : Transfer → Outcome :=
  s.setPresetOverCurrentProtection mul 0 current

/-- The units of a SCPI number. -/
inductive ScpiUnit
  | none
  | volt
  | amper
  | other
  deriving DecidableEq

/-- The SCPI handlers that take a number: the unit has to fit. -/
def scpiSet (expected unit : ScpiUnit) (set : Transfer → Outcome) (transfer : Transfer) :
    Outcome :=
  if unit ≠ .none ∧ unit ≠ expected then ⟨false, []⟩ else set transfer

def sourceVoltage (unit : ScpiUnit) (value : ℚ) : Transfer → Outcome :=
  scpiSet .volt unit (s.setVoltageSet mul value)

def sourceCurrent (unit : ScpiUnit) (value : ℚ) : Transfer → Outcome :=
  scpiSet .amper unit (s.setCurrentSet mul value)

def sourceVoltageLimit (unit : ScpiUnit) (value : ℚ) : Transfer → Outcome :=
  scpiSet .volt unit (s.setOverVoltageProtection mul value)

def sourceCurrentLimit (unit : ScpiUnit) (value : ℚ) : Transfer → Outcome :=
  scpiSet .amper unit (s.setOverCurrentProtection mul value)

/-- The HTTP handlers `handle_set_v` and `handle_set_i`: the power supply has to
    be connected. -/
def httpSet (connected : Bool) (set : Transfer → Outcome) (transfer : Transfer) : Outcome :=
  if connected then set transfer else ⟨false, []⟩

def handleSetV (connected : Bool) (v : ℚ) : Transfer → Outcome :=
  httpSet connected (s.setVoltageSet mul v)

def handleSetI (connected : Bool) (v : ℚ) : Transfer → Outcome :=
  httpSet connected (s.setCurrentSet mul v)

/-- The ways to ask for a voltage or a current. -/
inductive Request
  | sourceVoltage (unit : ScpiUnit)
  | sourceCurrent (unit : ScpiUnit)
  | sourceVoltageLimit (unit : ScpiUnit)
  | sourceCurrentLimit (unit : ScpiUnit)
  | setV (connected : Bool)
  | setI (connected : Bool)
  deriving DecidableEq

namespace Request

/-- The multiplier of what is asked for. -/
def multi : Request → ℚ
  | sourceVoltage _ | sourceVoltageLimit _ | setV _ => s.vMulti
  | sourceCurrent _ | sourceCurrentLimit _ | setI _ => s.iMulti

/-- The register that is asked for. -/
def register : Request → ℕ
  | sourceVoltage _ | setV _ => Register.voltageSet
  | sourceCurrent _ | setI _ => Register.currentSet
  | sourceVoltageLimit _ => Register.m0Ovp
  | sourceCurrentLimit _ => Register.m0Ocp

/-- The handler turns the request down before it comes to a setter. -/
def Rejected : Request → Prop
  | sourceVoltage unit | sourceVoltageLimit unit => unit ≠ .none ∧ unit ≠ .volt
  | sourceCurrent unit | sourceCurrentLimit unit => unit ≠ .none ∧ unit ≠ .amper
  | setV connected | setI connected => connected = false

/-- The handler, with the double that was read. -/
def handle (x : ℚ) : Request → Transfer → Outcome
  | sourceVoltage unit => s.sourceVoltage mul unit x
  | sourceCurrent unit => s.sourceCurrent mul unit x
  | sourceVoltageLimit unit => s.sourceVoltageLimit mul unit x
  | sourceCurrentLimit unit => s.sourceCurrentLimit mul unit x
  | setV connected => s.handleSetV mul connected x
  | setI connected => s.handleSetI mul connected x

end Request

/-- The register value `r` stands for `v`. -/
def Represents (m v : ℚ) (r : ℕ) : Prop := r / m ≤ v ∧ v < (r + 1) / m

/-- What was asked for was set, or it was refused and nothing was written. -/
def Faithful (reg : ℕ) (m v : ℚ) (out : Outcome) : Prop :=
  (out.result = true → ∃ r < 65536, out.written = [(reg, r)] ∧ Represents m v r) ∧
  ((¬ ∃ r < 65536, Represents m v r) → out.result = false ∧ out.written = [])

theorem represents_iff {m v : ℚ} (hm : 0 < m) (r : ℕ) :
    Represents m v r ↔ (r : ℚ) ≤ v * m ∧ v * m < r + 1 := by
  rw [Represents, div_le_iff₀ hm, lt_div_iff₀ hm]

/-- A number has a register value exactly when it is in range. -/
theorem exists_represents_iff {m v : ℚ} (hm : 0 < m) :
    (∃ r < 65536, Represents m v r) ↔ 0 ≤ v * m ∧ v * m < 65536 := by
  constructor
  · rintro ⟨r, hr, h⟩
    rw [represents_iff hm] at h
    have hr₀ : (0 : ℚ) ≤ r := Nat.cast_nonneg r
    have hr₁ : (r : ℚ) + 1 ≤ 65536 := by exact_mod_cast hr
    exact ⟨le_trans hr₀ h.1, lt_of_lt_of_le h.2 hr₁⟩
  · rintro ⟨h₀, h₁⟩
    exact ⟨toUint16 (v * m), toUint16_lt _, (represents_iff hm _).2 (toUint16_of_mem h₀ h₁)⟩

theorem faithful_refused (reg : ℕ) (m v : ℚ) : Faithful reg m v ⟨false, []⟩ :=
  ⟨fun h => absurd h Bool.false_ne_true, fun _ => ⟨rfl, rfl⟩⟩


/-- The double `x` that is read for `v`; of a number that is too large for a register,
    nothing is known. -/
def Reads (v x : ℚ) : Prop := |v| < 2 ^ 17 → |x - v| ≤ 1 / 2 ^ 50 * max 1 |v|

/-- The product of doubles comes near the product, with the same exception. -/
def RoundedProduct : Prop := ∀ m, Multiplier m → ∀ x, |x * m| < 2 ^ 17 →
  |mul x m - x * m| ≤ 1 / 2 ^ 50 * max 1 |x * m|

/-- No whole number lies between the two, which were rounded the same way. -/
def NotSeparated (p q : ℚ) : Prop := ∀ k : ℕ, 0 < k → ((k : ℚ) ≤ p ↔ (k : ℚ) ≤ q)

variable {mul}

theorem RoundedProduct.close (hmul : RoundedProduct mul) {m x : ℚ} (hm : Multiplier m)
    (hx : |x * m| < 2 ^ 17) : |mul x m - x * m| < 1 / 2 := by
  refine (hmul m hm x hx).trans_lt ?_
  calc 1 / 2 ^ 50 * max 1 |x * m| ≤ 1 / 2 ^ 50 * 2 ^ 17 := by
        gcongr
        exact max_le (by norm_num) hx.le
    _ < 1 / 2 := by norm_num

/-- In range, the product of what was read is less than 1 away from what was asked for. -/
theorem RoundedProduct.close_of_reads (hmul : RoundedProduct mul) {m v x : ℚ} (hm : Multiplier m)
    (hx : Reads v x) (h₀ : 0 ≤ v * m) (h₁ : v * m < 65536) : |mul x m - v * m| < 1 := by
  obtain ⟨hlow, hhigh⟩ := hm.bounds
  have hv₀ : 0 ≤ v := nonneg_of_mul_nonneg_left h₀ hm.pos
  have hv₁ : v < 65536 / 100 := by
    rw [lt_div_iff₀ (by norm_num)]
    exact (mul_le_mul_of_nonneg_left hlow hv₀).trans_lt h₁
  have hread : |x - v| ≤ 1 / 2 ^ 50 * 656 := by
    have habs : |v| = v := abs_of_nonneg hv₀
    refine (hx (by rw [habs]; linarith)).trans ?_
    rw [habs]
    exact mul_le_mul_of_nonneg_left (max_le (by norm_num) (by linarith)) (by norm_num)
  have hmoved : |x * m - v * m| < 1 / 2 := by
    calc |x * m - v * m| = |x - v| * m := by rw [← sub_mul, abs_mul, abs_of_pos hm.pos]
      _ ≤ 1 / 2 ^ 50 * 656 * 10000 := mul_le_mul hread hhigh hm.pos.le (by norm_num)
      _ < 1 / 2 := by norm_num
  have hrange : |x * m| < 2 ^ 17 := by
    have hmoved' := abs_lt.1 hmoved
    rw [abs_lt]
    constructor <;> linarith [hmoved'.1, hmoved'.2]
  have hproduct := hmul.close hm hrange
  calc |mul x m - v * m| = |(mul x m - x * m) + (x * m - v * m)| := by ring_nf
    _ ≤ |mul x m - x * m| + |x * m - v * m| := abs_add_le _ _
    _ < 1 := by linarith

/-- What becomes of a product stands for a number in range if no whole number
    separates them. -/
theorem toUint16_represents_iff {p q : ℚ} (h₀ : 0 ≤ q) (h₁ : q < 65536) (hclose : |p - q| < 1) :
    ((toUint16 p : ℚ) ≤ q ∧ q < toUint16 p + 1) ↔ NotSeparated q p := by
  obtain ⟨hlow, hhigh⟩ := abs_lt.1 hclose
  rcases lt_or_ge p 0 with hneg | hpos
  · -- 0 is written, and `q` is less than 1
    have hzero : toUint16 p = 0 := (toUint16_eq_iff (by decide) (by
      rw [Nat.cast_zero, sub_zero, abs_lt]
      constructor <;> linarith)).2 (Or.inl rfl)
    rw [hzero, Nat.cast_zero]
    refine iff_of_true ⟨h₀, by linarith⟩ fun k hk => ?_
    have hk' : (1 : ℚ) ≤ k := by exact_mod_cast hk
    exact iff_of_false (by linarith) (by linarith)
  rcases lt_or_ge p 65536 with hlt | hge
  · obtain ⟨hn, hn'⟩ := toUint16_of_mem hpos hlt
    generalize toUint16 p = n at hn hn'
    constructor
    · rintro ⟨hq, hq'⟩ k -
      constructor
      · intro hk
        have hkn : (k : ℚ) < n + 1 := hk.trans_lt hq'
        have hle : k < n + 1 := by exact_mod_cast hkn
        exact (Nat.cast_le.2 (Nat.le_of_lt_succ hle)).trans hn
      · intro hk
        have hkn : (k : ℚ) < n + 1 := hk.trans_lt hn'
        have hle : k < n + 1 := by exact_mod_cast hkn
        exact (Nat.cast_le.2 (Nat.le_of_lt_succ hle)).trans hq
    · intro h
      constructor
      · rcases Nat.eq_zero_or_pos n with rfl | hn₀
        · simpa using h₀
        · exact (h n hn₀).2 hn
      · by_contra hcon
        have hup := (h (n + 1) n.succ_pos).1 (by push_cast; linarith)
        push_cast at hup
        linarith
  · -- 65536 separates them, and wraps to 0
    have hwrap : toUint16 p = 0 := by
      have hfloor : ⌊p⌋ = 65536 := by
        rw [Int.floor_eq_iff]
        constructor
        · exact_mod_cast hge
        · push_cast
          linarith
      rw [toUint16, if_pos hpos, hfloor]
      rfl
    rw [hwrap, Nat.cast_zero]
    refine iff_of_false (fun h => by linarith [h.2]) fun h => ?_
    have hq := (h 65536 (by decide)).2 (by exact_mod_cast hge)
    push_cast at hq
    linarith

/-- A register is written faithfully when nothing is sent; or the number is in range, and
    its product, if it is reported as set, was not rounded to another whole number. -/
theorem faithful_writeHoldingRegister_iff {reg : ℕ} {m v x : ℚ} (hm : Multiplier m)
    (hmul : RoundedProduct mul) (hx : Reads v x) (transfer : Transfer) :
    Faithful reg m v (writeHoldingRegister reg (toUint16 (mul x m)) transfer) ↔
      transfer = .refused ∨ (transfer ≠ .exception ∧ (0 ≤ v * m ∧ v * m < 65536) ∧
        (transfer = .sent true → NotSeparated (v * m) (mul x m))) := by
  cases transfer with
  | refused => exact iff_of_true (faithful_refused reg m v) (Or.inl rfl)
  | exception =>
    -- it is reported as set, but nothing was written
    refine iff_of_false (fun h => ?_) (by simp)
    obtain ⟨r, -, hr, -⟩ := h.1 rfl
    exact absurd hr.symm (List.cons_ne_nil _ _)
  | sent answered =>
    have hset : ∀ h : 0 ≤ v * m ∧ v * m < 65536, Represents m v (toUint16 (mul x m)) ↔
        NotSeparated (v * m) (mul x m) := fun h => by
      rw [represents_iff hm.pos]
      exact toUint16_represents_iff h.1 h.2 (hmul.close_of_reads hm hx h.1 h.2)
    rw [← exists_represents_iff hm.pos]
    constructor
    · intro h
      have hrange : ∃ r < 65536, Represents m v r := by
        by_contra hcon
        exact absurd (h.2 hcon).2 (List.cons_ne_nil _ _)
      refine Or.inr ⟨by simp, hrange, ?_⟩
      rintro ⟨⟩
      obtain ⟨r, -, hr, hrep⟩ := h.1 rfl
      obtain rfl : toUint16 (mul x m) = r := congrArg Prod.snd (List.singleton_injective hr)
      exact (hset ((exists_represents_iff hm.pos).1 hrange)).1 hrep
    · rintro (h | ⟨-, hrange, hkept⟩)
      · cases h
      · refine ⟨fun hresult => ?_, fun hcon => absurd hrange hcon⟩
        obtain rfl : answered = true := hresult
        exact ⟨_, toUint16_lt _, rfl,
          (hset ((exists_represents_iff hm.pos).1 hrange)).2 (hkept rfl)⟩

variable (mul)

/-- A request that is not rejected writes its register. -/
theorem handle_eq (req : Request) (x : ℚ) (transfer : Transfer) :
    (req.Rejected ∧ req.handle mul s x transfer = ⟨false, []⟩) ∨
    (¬ req.Rejected ∧ req.handle mul s x transfer =
      writeHoldingRegister req.register (toUint16 (mul x (req.multi s))) transfer) := by
  cases req with
  | sourceVoltage unit | sourceCurrent unit =>
    rcases Classical.em (Request.Rejected _) with h | h
    · exact Or.inl ⟨h, if_pos h⟩
    · exact Or.inr ⟨h, if_neg h⟩
  | sourceVoltageLimit unit | sourceCurrentLimit unit =>
    rcases Classical.em (Request.Rejected _) with h | h
    · exact Or.inl ⟨h, if_pos h⟩
    · exact Or.inr ⟨h, if_neg h⟩
  | setV connected | setI connected =>
    cases connected with
    | false => exact Or.inl ⟨rfl, rfl⟩
    | true => exact Or.inr ⟨fun h => Bool.noConfusion h, rfl⟩

/-- **No silent wrap.** A request for a voltage or a current is set as asked or
    refused exactly when it does not come to be sent; or it is not answered by an
    exception, the number is not negative and fits the register, and, if the setter
    succeeds, the product was not rounded to another whole number. -/
theorem faithful_handle_iff (req : Request) (v x : ℚ) (transfer : Transfer)
    (hm : Multiplier (req.multi s)) (hmul : RoundedProduct mul) (hx : Reads v x) :
    Faithful req.register (req.multi s) v (req.handle mul s x transfer) ↔
      req.Rejected ∨ transfer = .refused ∨
        (transfer ≠ .exception ∧ (0 ≤ v * req.multi s ∧ v * req.multi s < 65536) ∧
          (transfer = .sent true → NotSeparated (v * req.multi s) (mul x (req.multi s)))) := by
  rcases handle_eq mul s req x transfer with ⟨hrej, heq⟩ | ⟨hrej, heq⟩
  · rw [heq]
    exact iff_of_true (faithful_refused _ _ _) (Or.inl hrej)
  · rw [heq, faithful_writeHoldingRegister_iff hm hmul hx, or_iff_right hrej]

theorem roundedProduct_exact : RoundedProduct (· * ·) := by
  intro m _ x _
  rw [sub_self, abs_zero]
  positivity

theorem reads_self (v : ℚ) : Reads v v := by
  intro _
  rw [sub_self, abs_zero]
  positivity

/-- On an RD6018, 12 V are in range. -/
theorem faithful_handle_rd6018 :
    Faithful 8 100 12 (Request.handle (· * ·)
        ⟨"RD6018", 601 / 10, 181 / 10, 100, 100, 100, 100⟩ 12 (.sourceVoltage .none) (.sent true)) ↔
      Request.Rejected (.sourceVoltage .none) ∨ Transfer.sent true = .refused ∨
        (Transfer.sent true ≠ .exception ∧ (0 ≤ (12 : ℚ) * 100 ∧ (12 : ℚ) * 100 < 65536) ∧
          (Transfer.sent true = .sent true → NotSeparated (12 * 100) (12 * 100))) :=
  faithful_handle_iff (· * ·) ⟨"RD6018", 601 / 10, 181 / 10, 100, 100, 100, 100⟩
    (.sourceVoltage .none) 12 12 (.sent true) (Or.inl rfl) roundedProduct_exact (reads_self 12)

/-- On an RD6006P, 7 A are set as 0.4464 A: 70000 is reduced modulo `2^16`. -/
theorem not_faithful_wrap :
    ¬ Faithful 9 10000 7 (Request.handle (· * ·)
        ⟨"RD6006P", 601 / 10, 6, 1000, 10000, 1000, 100⟩ 7 (.setI true) (.sent true)) := by
  intro h
  obtain ⟨r, hr, -, hrep⟩ := h.1 rfl
  have hlow : (70000 : ℚ) < r + 1 := by
    have := ((represents_iff (by norm_num) r).1 hrep).2
    linarith
  have hhigh : (r : ℚ) + 1 ≤ 65536 := by exact_mod_cast hr
  linarith

end RidenModbus

end RidenDongle
