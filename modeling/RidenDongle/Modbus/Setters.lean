import RidenDongle.Memory.Cells
import RidenDongle.Modbus.Bulk

/-!
# Setters

All setters of `RidenModbus`, and what its getters return after them
(`riden_modbus.cpp`). The power supply stores what is written to its registers, unless it
answers with an exception.

* A `Quantity` is what one register stands for; different quantities have different
  registers (`Quantity.register_injective`).
* A `Setting` is a setter with its arguments.
* `lawful_iff`: which settings are returned by their getters, leave all other quantities
  alone, and commute with the settings of other quantities.
-/

namespace RidenDongle

namespace Register
abbrev preset : ℕ := 19
abbrev month : ℕ := 49
abbrev day : ℕ := 50
abbrev hour : ℕ := 51
abbrev minute : ℕ := 52
abbrev second : ℕ := 53
abbrev vOutScale : ℕ := 56
abbrev vBackZero : ℕ := 57
abbrev vBackScale : ℕ := 58
abbrev iOutZero : ℕ := 59
abbrev iOutScale : ℕ := 60
abbrev iBackZero : ℕ := 61
abbrev iBackScale : ℕ := 62
end Register

namespace RidenModbus

def writeHoldingRegisters (offset : ℕ) (values : List ℕ) : Transfer → Outcome
  | .refused => ⟨false, []⟩
  | .sent answered => ⟨answered, Cells.block offset values⟩
  | .exception => ⟨true, []⟩

def writeBoolean (reg : ℕ) (b : Bool) : Transfer → Outcome :=
  writeHoldingRegister reg (if b then 1 else 0)

/-- `uint16_t(x)` of an `int`. -/
def intToUint16 (x : ℤ) : ℕ := (x % 65536).toNat

def tmToValues (time : Tm) : List ℕ :=
  [intToUint16 (time.year + 1900), intToUint16 (time.mon + 1), intToUint16 time.mday,
    intToUint16 time.hour, intToUint16 time.min, intToUint16 time.sec]

def setOutputOn (on : Bool) : Transfer → Outcome := writeBoolean Register.output on

/-- The preset of this number becomes the active one. -/
def setPreset (index : ℕ) (transfer : Transfer) : Outcome :=
  if index < 1 ∨ numberOfPresets ≤ index - 1 then ⟨false, []⟩
  else writeHoldingRegister Register.preset index transfer

def setClock (time : Tm) : Transfer → Outcome :=
  writeHoldingRegisters Register.year (tmToValues time)

def setDate (year month day : ℕ) : Transfer → Outcome :=
  writeHoldingRegisters Register.year [year, month, day]

def setTime (hour minute second : ℕ) : Transfer → Outcome :=
  writeHoldingRegisters Register.hour [hour, minute, second]

def setTakeOk (takeOk : Bool) : Transfer → Outcome := writeBoolean Register.takeOk takeOk
def setTakeOut (takeOut : Bool) : Transfer → Outcome := writeBoolean Register.takeOut takeOut
def setPowerOnBoot (powerOnBoot : Bool) : Transfer → Outcome :=
  writeBoolean Register.powerOnBoot powerOnBoot
def setBuzzerEnabled (buzzer : Bool) : Transfer → Outcome := writeBoolean Register.buzzer buzzer
def setLogo (logo : Bool) : Transfer → Outcome := writeBoolean Register.logo logo

def setLanguage (language : ℕ) : Transfer → Outcome :=
  writeHoldingRegister Register.language language

def setBrightness (brightness : ℕ) : Transfer → Outcome :=
  writeHoldingRegister Register.brightness brightness

def setCalibration (c : Calibration) : Transfer → Outcome :=
  writeHoldingRegisters Register.vOutZero [c.vOutZero, c.vOutScale, c.vBackZero, c.vBackScale,
    c.iOutZero, c.iOutScale, c.iBackZero, c.iBackScale]

variable (div mul : ℚ → ℚ → ℚ) (s : RidenModbus)

/-- `set_preset` with a preset to store. -/
def storePreset (index : ℕ) (preset : Preset) (transfer : Transfer) : Outcome :=
  let values := s.presetToValues mul preset
  if numberOfPresets ≤ index then ⟨false, []⟩
  else writeHoldingRegisters (Register.m0V + 4 * index)
    [values.voltage, values.current, values.overVoltage, values.overCurrent] transfer

def setPresetVoltageOut (index : ℕ) (voltage : ℚ) (transfer : Transfer) : Outcome :=
  if numberOfPresets ≤ index then ⟨false, []⟩
  else s.writeVoltage mul (Register.m0V + 4 * index) voltage transfer

def setPresetCurrentOut (index : ℕ) (current : ℚ) (transfer : Transfer) : Outcome :=
  if numberOfPresets ≤ index then ⟨false, []⟩
  else s.writeCurrent mul (Register.m0I + 4 * index) current transfer

/-! ## Quantities -/

/-- The quantities with one register each. -/
inductive Single
  | voltageSet | currentSet | output | activePreset
  | year | month | day | hour | minute | second
  | vOutZero | vOutScale | vBackZero | vBackScale | iOutZero | iOutScale | iBackZero | iBackScale
  | takeOk | takeOut | powerOnBoot | buzzer | logo | language | brightness
  deriving DecidableEq

def Single.register : Single → ℕ
  | voltageSet => Register.voltageSet
  | currentSet => Register.currentSet
  | output => Register.output
  | activePreset => Register.preset
  | year => Register.year
  | month => Register.month
  | day => Register.day
  | hour => Register.hour
  | minute => Register.minute
  | second => Register.second
  | vOutZero => Register.vOutZero
  | vOutScale => Register.vOutScale
  | vBackZero => Register.vBackZero
  | vBackScale => Register.vBackScale
  | iOutZero => Register.iOutZero
  | iOutScale => Register.iOutScale
  | iBackZero => Register.iBackZero
  | iBackScale => Register.iBackScale
  | takeOk => Register.takeOk
  | takeOut => Register.takeOut
  | powerOnBoot => Register.powerOnBoot
  | buzzer => Register.buzzer
  | logo => Register.logo
  | language => Register.language
  | brightness => Register.brightness

/-- The fields of a preset. -/
inductive PresetField
  | voltage
  | current
  | overVoltage
  | overCurrent
  deriving DecidableEq

def PresetField.register : PresetField → ℕ
  | voltage => Register.m0V
  | current => Register.m0I
  | overVoltage => Register.m0Ovp
  | overCurrent => Register.m0Ocp

/-- What the setters set. -/
inductive Quantity
  | single (x : Single)
  | preset (index : ℕ) (field : PresetField)
  deriving DecidableEq

/-- The register of a quantity. -/
def Quantity.register : Quantity → ℕ
  | single x => x.register
  | preset index field => field.register + 4 * index

/-- The quantity of a register below the presets. -/
def Single.ofRegister : ℕ → Option Single
  | 8 => some voltageSet
  | 9 => some currentSet
  | 18 => some output
  | 19 => some activePreset
  | 48 => some year
  | 49 => some month
  | 50 => some day
  | 51 => some hour
  | 52 => some minute
  | 53 => some second
  | 55 => some vOutZero
  | 56 => some vOutScale
  | 57 => some vBackZero
  | 58 => some vBackScale
  | 59 => some iOutZero
  | 60 => some iOutScale
  | 61 => some iBackZero
  | 62 => some iBackScale
  | 66 => some takeOk
  | 67 => some takeOut
  | 68 => some powerOnBoot
  | 69 => some buzzer
  | 70 => some logo
  | 71 => some language
  | 72 => some brightness
  | _ => none

theorem Single.register_injective : Function.Injective Single.register := by
  have hleft : ∀ x : Single, ofRegister x.register = some x := fun x => by cases x <;> rfl
  intro x y h
  exact Option.some.inj ((hleft x).symm.trans ((congrArg ofRegister h).trans (hleft y)))

theorem Single.register_lt (x : Single) : x.register < Register.m0V := by
  cases x <;> decide

theorem PresetField.le_register (field : PresetField) :
    Register.m0V ≤ field.register ∧ field.register < Register.m0V + 4 := by
  cases field <;> decide

theorem PresetField.register_injective : Function.Injective PresetField.register := by
  intro x y h
  cases x <;> cases y <;> first | rfl | cases h

/-- Different quantities have different registers. -/
theorem Quantity.register_injective : Function.Injective Quantity.register := by
  intro x y h
  cases x with
  | single x =>
    cases y with
    | single y => exact congrArg single (Single.register_injective h)
    | preset index field =>
      have hx := x.register_lt
      have hy := field.le_register.1
      change x.register = field.register + 4 * index at h
      exact absurd h (Nat.ne_of_lt (Nat.lt_of_lt_of_le hx (Nat.le_trans hy (Nat.le_add_right ..))))
  | preset index field =>
    cases y with
    | single y =>
      have hx := field.le_register.1
      have hy := y.register_lt
      change field.register + 4 * index = y.register at h
      exact absurd h.symm
        (Nat.ne_of_lt (Nat.lt_of_lt_of_le hy (Nat.le_trans hx (Nat.le_add_right ..))))
    | preset index' field' =>
      obtain ⟨hlow, hhigh⟩ := field.le_register
      obtain ⟨hlow', hhigh'⟩ := field'.le_register
      change field.register + 4 * index = field'.register + 4 * index' at h
      have hfield : field.register = field'.register := by omega
      have hindex : index = index' := by omega
      rw [hindex, PresetField.register_injective hfield]

/-! ## Settings -/

/-- A setter with its arguments. -/
inductive Setting
  | voltageSet (voltage : ℚ)
  | currentSet (current : ℚ)
  | outputOn (on : Bool)
  | activePreset (index : ℕ)
  | clock (time : Tm)
  | date (year month day : ℕ)
  | time (hour minute second : ℕ)
  | takeOk (takeOk : Bool)
  | takeOut (takeOut : Bool)
  | powerOnBoot (powerOnBoot : Bool)
  | buzzerEnabled (buzzer : Bool)
  | logo (logo : Bool)
  | language (language : ℕ)
  | brightness (brightness : ℕ)
  | calibration (calibration : Calibration)
  | preset (index : ℕ) (preset : Preset)
  | presetVoltageOut (index : ℕ) (voltage : ℚ)
  | presetCurrentOut (index : ℕ) (current : ℚ)
  | presetOverVoltageProtection (index : ℕ) (voltage : ℚ)
  | presetOverCurrentProtection (index : ℕ) (current : ℚ)
  | overVoltageProtection (voltage : ℚ)
  | overCurrentProtection (current : ℚ)

namespace Setting

/-- The call of the setter. -/
def set : Setting → Transfer → Outcome
  | voltageSet v => s.setVoltageSet mul v
  | currentSet v => s.setCurrentSet mul v
  | outputOn b => setOutputOn b
  | activePreset index => setPreset index
  | clock t => setClock t
  | date year month day => setDate year month day
  | time hour minute second => setTime hour minute second
  | takeOk b => setTakeOk b
  | takeOut b => setTakeOut b
  | powerOnBoot b => setPowerOnBoot b
  | buzzerEnabled b => setBuzzerEnabled b
  | logo b => setLogo b
  | language n => setLanguage n
  | brightness n => setBrightness n
  | calibration c => setCalibration c
  | preset index p => s.storePreset mul index p
  | presetVoltageOut index v => s.setPresetVoltageOut mul index v
  | presetCurrentOut index v => s.setPresetCurrentOut mul index v
  | presetOverVoltageProtection index v => s.setPresetOverVoltageProtection mul index v
  | presetOverCurrentProtection index v => s.setPresetOverCurrentProtection mul index v
  | overVoltageProtection v => s.setOverVoltageProtection mul v
  | overCurrentProtection v => s.setOverCurrentProtection mul v

/-- What it sets. -/
def quantities : Setting → List Quantity
  | voltageSet _ => [.single .voltageSet]
  | currentSet _ => [.single .currentSet]
  | outputOn _ => [.single .output]
  | activePreset _ => [.single .activePreset]
  | clock _ => [.single .year, .single .month, .single .day, .single .hour, .single .minute,
      .single .second]
  | date .. => [.single .year, .single .month, .single .day]
  | time .. => [.single .hour, .single .minute, .single .second]
  | takeOk _ => [.single .takeOk]
  | takeOut _ => [.single .takeOut]
  | powerOnBoot _ => [.single .powerOnBoot]
  | buzzerEnabled _ => [.single .buzzer]
  | logo _ => [.single .logo]
  | language _ => [.single .language]
  | brightness _ => [.single .brightness]
  | calibration _ => [.single .vOutZero, .single .vOutScale, .single .vBackZero,
      .single .vBackScale, .single .iOutZero, .single .iOutScale, .single .iBackZero,
      .single .iBackScale]
  | preset index _ => [.preset index .voltage, .preset index .current, .preset index .overVoltage,
      .preset index .overCurrent]
  | presetVoltageOut index _ => [.preset index .voltage]
  | presetCurrentOut index _ => [.preset index .current]
  | presetOverVoltageProtection index _ => [.preset index .overVoltage]
  | presetOverCurrentProtection index _ => [.preset index .overCurrent]
  | overVoltageProtection _ => [.preset 0 .overVoltage]
  | overCurrentProtection _ => [.preset 0 .overCurrent]

/-- A number that the getters return for one of the values of a register. -/
def IsQuotient (m v : ℚ) : Prop := ∃ k : ℕ, k < 65536 ∧ v = div k m

/-- The arguments are in the range of the types of the setter, and its registers can
    represent them. -/
def Representable : Setting → Prop
  | voltageSet v | overVoltageProtection v => IsQuotient div s.vMulti v
  | currentSet v | overCurrentProtection v => IsQuotient div s.iMulti v
  | activePreset index => index < 2 ^ 8
  | clock t => (0 ≤ t.year + 1900 ∧ t.year + 1900 < 2 ^ 16) ∧ (0 ≤ t.mon + 1 ∧ t.mon + 1 < 2 ^ 16) ∧
      (0 ≤ t.mday ∧ t.mday < 2 ^ 16) ∧ (0 ≤ t.hour ∧ t.hour < 2 ^ 16) ∧
      (0 ≤ t.min ∧ t.min < 2 ^ 16) ∧ 0 ≤ t.sec ∧ t.sec < 2 ^ 16
  | date year month day => year < 2 ^ 16 ∧ month < 2 ^ 16 ∧ day < 2 ^ 16
  | time hour minute second => hour < 2 ^ 8 ∧ minute < 2 ^ 8 ∧ second < 2 ^ 8
  | language n => n < 2 ^ 16
  | brightness n => n < 2 ^ 8
  | calibration c => c.vOutZero < 2 ^ 16 ∧ c.vOutScale < 2 ^ 16 ∧ c.vBackZero < 2 ^ 16 ∧
      c.vBackScale < 2 ^ 16 ∧ c.iOutZero < 2 ^ 16 ∧ c.iOutScale < 2 ^ 16 ∧
      c.iBackZero < 2 ^ 16 ∧ c.iBackScale < 2 ^ 16
  | preset index p => index < 2 ^ 8 ∧ IsQuotient div s.vMulti p.voltage ∧
      IsQuotient div s.iMulti p.current ∧ IsQuotient div s.vMulti p.overVoltageProtection ∧
      IsQuotient div s.iMulti p.overCurrentProtection
  | presetVoltageOut index v | presetOverVoltageProtection index v =>
      index < 2 ^ 8 ∧ IsQuotient div s.vMulti v
  | presetCurrentOut index v | presetOverCurrentProtection index v =>
      index < 2 ^ 8 ∧ IsQuotient div s.iMulti v
  | _ => True

/-- The matching getter returns what was set. -/
def GetsBack (registers : ℕ → ℕ) : Setting → Prop
  | voltageSet v => (s.getVoltageSet div).on registers = v
  | currentSet v => (s.getCurrentSet div).on registers = v
  | outputOn b => getOutputOn.on registers = b
  -- it has no getter
  | activePreset index => registers Register.preset = index
  | clock t => getClock.on registers = t
  | date year month day =>
      (getClock.on registers).year = year - 1900 ∧ (getClock.on registers).mon = month - 1 ∧
        (getClock.on registers).mday = day
  | time hour minute second =>
      (getClock.on registers).hour = hour ∧ (getClock.on registers).min = minute ∧
        (getClock.on registers).sec = second
  | takeOk b => isTakeOk.on registers = b
  | takeOut b => isTakeOut.on registers = b
  | powerOnBoot b => isPowerOnBoot.on registers = b
  | buzzerEnabled b => isBuzzerEnabled.on registers = b
  | logo b => isLogo.on registers = b
  | language n => getLanguage.on registers = n
  | brightness n => getBrightness.on registers = n
  | calibration c => getCalibration.on registers = c
  | preset index p => (s.getPreset div index).map (·.on registers) = some p
  | presetVoltageOut index v => (s.getPresetVoltageOut div index).map (·.on registers) = some v
  | presetCurrentOut index v => (s.getPresetCurrentOut div index).map (·.on registers) = some v
  | presetOverVoltageProtection index v =>
      (s.getPresetOverVoltageProtection div index).map (·.on registers) = some v
  | presetOverCurrentProtection index v =>
      (s.getPresetOverCurrentProtection div index).map (·.on registers) = some v
  | overVoltageProtection v =>
      (s.getPresetOverVoltageProtection div 0).map (·.on registers) = some v
  | overCurrentProtection v =>
      (s.getPresetOverCurrentProtection div 0).map (·.on registers) = some v

/-- What is written, unless the setter refuses its arguments. -/
def write : Setting → Option (ℕ × List ℕ)
  | voltageSet v => some (Register.voltageSet, [s.voltageToValue mul v])
  | currentSet v => some (Register.currentSet, [s.currentToValue mul v])
  | outputOn b => some (Register.output, [if b then 1 else 0])
  | activePreset index =>
      if index < 1 ∨ numberOfPresets ≤ index - 1 then none else some (Register.preset, [index])
  | clock t => some (Register.year, tmToValues t)
  | date year month day => some (Register.year, [year, month, day])
  | time hour minute second => some (Register.hour, [hour, minute, second])
  | takeOk b => some (Register.takeOk, [if b then 1 else 0])
  | takeOut b => some (Register.takeOut, [if b then 1 else 0])
  | powerOnBoot b => some (Register.powerOnBoot, [if b then 1 else 0])
  | buzzerEnabled b => some (Register.buzzer, [if b then 1 else 0])
  | logo b => some (Register.logo, [if b then 1 else 0])
  | language n => some (Register.language, [n])
  | brightness n => some (Register.brightness, [n])
  | calibration c => some (Register.vOutZero, [c.vOutZero, c.vOutScale, c.vBackZero, c.vBackScale,
      c.iOutZero, c.iOutScale, c.iBackZero, c.iBackScale])
  | preset index p =>
      if numberOfPresets ≤ index then none
      else some (Register.m0V + 4 * index, [s.voltageToValue mul p.voltage,
        s.currentToValue mul p.current, s.voltageToValue mul p.overVoltageProtection,
        s.currentToValue mul p.overCurrentProtection])
  | presetVoltageOut index v =>
      if numberOfPresets ≤ index then none
      else some (Register.m0V + 4 * index, [s.voltageToValue mul v])
  | presetCurrentOut index v =>
      if numberOfPresets ≤ index then none
      else some (Register.m0I + 4 * index, [s.currentToValue mul v])
  | presetOverVoltageProtection index v =>
      if numberOfPresets ≤ index then none
      else some (Register.m0Ovp + 4 * index, [s.voltageToValue mul v])
  | presetOverCurrentProtection index v =>
      if numberOfPresets ≤ index then none
      else some (Register.m0Ocp + 4 * index, [s.currentToValue mul v])
  | overVoltageProtection v => some (Register.m0Ovp, [s.voltageToValue mul v])
  | overCurrentProtection v => some (Register.m0Ocp, [s.currentToValue mul v])

variable {s} {div mul} {q : Setting} {t : Transfer} {w : ℕ × List ℕ} {registers : ℕ → ℕ}

/-- Every setter refuses its arguments or writes successive registers. -/
theorem set_eq (q : Setting) (t : Transfer) : q.set mul s t =
    (q.write mul s).elim ⟨false, []⟩ fun w => writeHoldingRegisters w.1 w.2 t := by
  cases q with
  | activePreset index =>
    rw [set, setPreset, write]
    split_ifs
    · rfl
    · cases t <;> rfl
  | preset index _ | presetVoltageOut index _ | presetCurrentOut index _
  | presetOverVoltageProtection index _ | presetOverCurrentProtection index _ =>
    rw [set, write]
    rcases Nat.lt_or_ge index numberOfPresets with h | h
    · rw [if_neg (Nat.not_le.2 h)]
      exact (if_neg (Nat.not_le.2 h)).trans (by cases t <;> rfl)
    · rw [if_pos h]
      exact if_pos h
  | _ => cases t <;> rfl

/-- It writes the registers of what it sets. -/
theorem range'_write (h : q.write mul s = some w) :
    List.range' w.1 w.2.length = q.quantities.map Quantity.register := by
  cases q with
  | preset index _ =>
    rw [write] at h
    split_ifs at h
    cases h
    have hnext : ∀ n, Register.m0V + 4 * index + n = Register.m0V + n + 4 * index :=
      fun n => Nat.add_right_comm ..
    change [_, _ + 1, _ + 2, _ + 3] = _
    rw [hnext 1, hnext 2, hnext 3]
    rfl
  | activePreset index | presetVoltageOut index _ | presetCurrentOut index _
  | presetOverVoltageProtection index _ | presetOverCurrentProtection index _ =>
    rw [write] at h
    split_ifs at h
    cases h
    rfl
  | _ =>
    cases h
    rfl

/-- A set is successful when the setter has sent its values, and they were answered, if it
    was not by an exception. -/
theorem write_of_result (h : (q.set mul s t).result = true) (ht : t ≠ .exception) :
    t = .sent true ∧ ∃ w, q.write mul s = some w := by
  rw [set_eq] at h
  cases hw : q.write mul s with
  | none =>
    rw [hw] at h
    cases h
  | some w =>
    rw [hw] at h
    cases t with
    | refused => cases h
    | sent answered =>
      cases h
      exact ⟨rfl, w, rfl⟩
    | exception => exact absurd rfl ht

/-- A successful set writes all registers of what it sets. -/
theorem keys_of_write (hw : q.write mul s = some w) :
    (q.set mul s (.sent true)).written.map Prod.fst = q.quantities.map Quantity.register := by
  rw [set_eq, hw, ← range'_write hw]
  exact Cells.keys_block

theorem mem_written {a : ℕ} (h : a ∈ (q.set mul s t).written.map Prod.fst) :
    a ∈ q.quantities.map Quantity.register := by
  cases hw : q.write mul s with
  | none =>
    rw [set_eq, hw] at h
    cases h
  | some w =>
    rw [← keys_of_write hw]
    rw [set_eq, hw] at h ⊢
    cases t with
    | refused | exception => cases h
    | sent answered => exact h

variable (mul s) in
/-- The registers after the call of the setter. -/
def store (q : Setting) (t : Transfer) (registers : ℕ → ℕ) : ℕ → ℕ :=
  Cells.assign registers (q.set mul s t).written

theorem store_of_write (hw : q.write mul s = some w) :
    q.store mul s (.sent true) registers = Cells.assign registers (Cells.block w.1 w.2) := by
  rw [store, set_eq, hw]
  rfl

/-- A setter changes only the registers of what it sets. -/
theorem store_frame {a : ℕ} (h : a ∉ q.quantities.map Quantity.register) :
    q.store mul s t registers a = registers a :=
  Cells.assign_of_notMem fun ha => h (mem_written ha)

/-- The setters of different quantities commute. -/
theorem store_comm {q' : Setting} {t' : Transfer} (h : q.quantities.Disjoint q'.quantities) :
    q'.store mul s t' (q.store mul s t registers) =
      q.store mul s t (q'.store mul s t' registers) := by
  refine Cells.assign_comm fun a ha ha' => ?_
  obtain ⟨x, hx, rfl⟩ := List.mem_map.1 (mem_written ha)
  obtain ⟨y, hy, heq⟩ := List.mem_map.1 (mem_written ha')
  rw [Quantity.register_injective heq] at hy
  exact h hx hy

/-! ## Getting back what was set -/

/-- A getter of the registers that were written decodes what was written. -/
theorem on_block {τ : Type} (o : ℕ) (vs : List ℕ) (decode : List ℕ → τ) :
    (readOnce o vs.length decode).on (Cells.assign registers (Cells.block o vs)) = decode vs := by
  rw [on_readOnce, Cells.map_assign_block]

theorem readBoolean_block (o : ℕ) (b : Bool) : (readBoolean o).on
    (Cells.assign registers (Cells.block o [if b then 1 else 0])) = b := by
  refine Eq.trans (on_block o [_] fun values => valueAt values 0 != 0) ?_
  cases b <;> rfl

theorem intToUint16_cast {x : ℤ} (h₀ : 0 ≤ x) (h₁ : x < 2 ^ 16) : (intToUint16 x : ℤ) = x := by
  rw [intToUint16]
  omega

/-- `values_to_tm` undoes `tm_to_values`. -/
theorem valuesToTm_tmToValues {c : Tm} (h : (clock c).Representable div s) :
    valuesToTm (tmToValues c) 0 = c := by
  obtain ⟨⟨hy₀, hy₁⟩, ⟨hm₀, hm₁⟩, ⟨hd₀, hd₁⟩, ⟨hh₀, hh₁⟩, ⟨hn₀, hn₁⟩, hs₀, hs₁⟩ := h
  change Tm.mk (intToUint16 _ - 1900) (intToUint16 _ - 1) (intToUint16 _) (intToUint16 _)
    (intToUint16 _) (intToUint16 _) = c
  rw [intToUint16_cast hy₀ hy₁, intToUint16_cast hm₀ hm₁, intToUint16_cast hd₀ hd₁,
    intToUint16_cast hh₀ hh₁, intToUint16_cast hn₀ hn₁, intToUint16_cast hs₀ hs₁,
    add_sub_cancel_right, add_sub_cancel_right]

theorem getClock_on : getClock.on registers =
    ⟨registers Register.year - 1900, registers Register.month - 1, registers Register.day,
      registers Register.hour, registers Register.minute, registers Register.second⟩ := by
  rw [getClock, on_readOnce, valuesToTm_map (by decide)]

theorem getsBack_date {year month day : ℕ} : (date year month day).GetsBack div s
    (Cells.assign registers (Cells.block Register.year [year, month, day])) := by
  have hstored : ∀ k (hk : k < 3), _ :=
    fun k hk => @Cells.assign_block_of_lt _ registers Register.year [year, month, day] k hk
  rw [GetsBack, getClock_on]
  exact ⟨congrArg (fun n : ℕ => (n : ℤ) - 1900) (hstored 0 (by decide)),
    congrArg (fun n : ℕ => (n : ℤ) - 1) (hstored 1 (by decide)),
    congrArg Nat.cast (hstored 2 (by decide))⟩

theorem getsBack_time {hour minute second : ℕ} : (time hour minute second).GetsBack div s
    (Cells.assign registers (Cells.block Register.hour [hour, minute, second])) := by
  have hstored : ∀ k (hk : k < 3), _ :=
    fun k hk => @Cells.assign_block_of_lt _ registers Register.hour [hour, minute, second] k hk
  rw [GetsBack, getClock_on]
  exact ⟨congrArg Nat.cast (hstored 0 (by decide)), congrArg Nat.cast (hstored 1 (by decide)),
    congrArg Nat.cast (hstored 2 (by decide))⟩

/-- The value for a decimal near `k / m` is `k`, if the product did not fall below it. -/
theorem toUint16_mul_iff {m x : ℚ} {k : ℕ} (hm : Multiplier m) (hmul : RoundedProduct mul)
    (hk : k < 65536) (h : Near m k x) : toUint16 (mul x m) = k ↔ k = 0 ∨ (k : ℚ) ≤ mul x m := by
  have hk' : (k : ℚ) < 65536 := by exact_mod_cast hk
  have hk₀ : (0 : ℚ) ≤ k := Nat.cast_nonneg k
  have hnear := h.mul_close hm hk
  have hrange : |x * m| < 2 ^ 17 := by
    have hnear' := abs_lt.1 hnear
    rw [abs_lt]
    constructor <;> linarith [hnear'.1, hnear'.2]
  have hproduct := hmul.close hm hrange
  refine toUint16_eq_iff hk ?_
  calc |mul x m - k| = |(mul x m - x * m) + (x * m - k)| := by ring_nf
    _ ≤ |mul x m - x * m| + |x * m - k| := abs_add_le _ _
    _ < 1 := by linarith

/-- A quotient is read back when its product is not below the number it stands for. -/
theorem quotient_back_iff {m v : ℚ} (hm : Multiplier m) (hdiv : Rounded div)
    (hmul : RoundedProduct mul) (h : IsQuotient div m v) : div (toUint16 (mul v m)) m = v ↔
      ∀ k : ℕ, k < 65536 → v = div k m → k = 0 ∨ (k : ℚ) ≤ mul v m := by
  constructor
  · rintro heq k hk rfl
    have hnear := hdiv m hm k hk
    have hnear' := hdiv m hm _ (toUint16_lt (mul (div k m) m))
    rw [heq] at hnear'
    rw [← toUint16_mul_iff hm hmul hk hnear]
    exact Near.unique hm (toUint16_lt _) hk hnear' hnear
  · intro hbelow
    obtain ⟨k, hk, rfl⟩ := h
    rw [(toUint16_mul_iff hm hmul hk (hdiv m hm k hk)).2 (hbelow k hk rfl)]

variable (s) in
/-- The voltages and currents that a setter converts, with their multipliers. -/
def setpoints : Setting → List (ℚ × ℚ)
  | voltageSet v | overVoltageProtection v => [(s.vMulti, v)]
  | currentSet v | overCurrentProtection v => [(s.iMulti, v)]
  | presetVoltageOut index v | presetOverVoltageProtection index v =>
      if numberOfPresets ≤ index then [] else [(s.vMulti, v)]
  | presetCurrentOut index v | presetOverCurrentProtection index v =>
      if numberOfPresets ≤ index then [] else [(s.iMulti, v)]
  | preset index p =>
      if numberOfPresets ≤ index then []
      else [(s.vMulti, p.voltage), (s.iMulti, p.current), (s.vMulti, p.overVoltageProtection),
        (s.iMulti, p.overCurrentProtection)]
  | _ => []

variable (div mul s) in
/-- No quotient that it converts is multiplied to less than the number it stands for. -/
def NotBelow (q : Setting) : Prop :=
  ∀ p ∈ q.setpoints s, ∀ k : ℕ, k < 65536 → p.2 = div k p.1 → k = 0 ∨ (k : ℚ) ≤ mul p.2 p.1

theorem notBelow_nil (h : q.setpoints s = []) : q.NotBelow div mul s := by
  rw [NotBelow, h]
  exact fun p hp => absurd hp List.not_mem_nil

theorem notBelow_of_refused (h : q.write mul s = none) : q.NotBelow div mul s := by
  refine notBelow_nil ?_
  cases q with
  | preset index _ | presetVoltageOut index _ | presetCurrentOut index _
  | presetOverVoltageProtection index _ | presetOverCurrentProtection index _ =>
    rw [write] at h
    split_ifs at h with hindex
    exact if_pos hindex
  | activePreset index => rfl
  | _ => cases h

theorem notBelow_singleton {m v : ℚ} (h : q.setpoints s = [(m, v)]) :
    q.NotBelow div mul s ↔ ∀ k : ℕ, k < 65536 → v = div k m → k = 0 ∨ (k : ℚ) ≤ mul v m := by
  rw [NotBelow, h, List.forall_mem_singleton]

section

variable (hdiv : Rounded div) (hmul : RoundedProduct mul)
include hdiv hmul

theorem readVoltage_iff {o : ℕ} {v : ℚ} (hv : Multiplier s.vMulti)
    (h : IsQuotient div s.vMulti v) (hset : q.setpoints s = [(s.vMulti, v)]) :
    (s.readVoltage div o).on (Cells.assign registers (Cells.block o [s.voltageToValue mul v])) = v ↔
      q.NotBelow div mul s := by
  rw [notBelow_singleton hset, ← quotient_back_iff hv hdiv hmul h]
  exact iff_of_eq (congrArg (· = v) (on_block o [_] _))

theorem readCurrent_iff {o : ℕ} {v : ℚ} (hi : Multiplier s.iMulti)
    (h : IsQuotient div s.iMulti v) (hset : q.setpoints s = [(s.iMulti, v)]) :
    (s.readCurrent div o).on (Cells.assign registers (Cells.block o [s.currentToValue mul v])) = v ↔
      q.NotBelow div mul s := by
  rw [notBelow_singleton hset, ← quotient_back_iff hi hdiv hmul h]
  exact iff_of_eq (congrArg (· = v) (on_block o [_] _))

omit hdiv hmul in
theorem ofPreset_iff {τ : Type} {index : ℕ} {g : Getter τ} {v : τ}
    (hindex : ¬ numberOfPresets ≤ index) :
    (ofPreset index g).map (·.on registers) = some v ↔ g.on registers = v := by
  rw [ofPreset, if_neg hindex, Option.map_some, Option.some_inj]

theorem getPreset_iff {index : ℕ} {p : Preset} (hv : Multiplier s.vMulti)
    (hi : Multiplier s.iMulti) (hindex : ¬ numberOfPresets ≤ index)
    (hp : Representable div s (preset index p)) :
    (s.getPreset div index).map (·.on (Cells.assign registers (Cells.block
      (Register.m0V + 4 * index) [s.voltageToValue mul p.voltage, s.currentToValue mul p.current,
        s.voltageToValue mul p.overVoltageProtection,
        s.currentToValue mul p.overCurrentProtection]))) = some p ↔
      (preset index p).NotBelow div mul s := by
  obtain ⟨-, h₁, h₂, h₃, h₄⟩ := hp
  rw [getPreset, ofPreset, if_neg hindex, Option.map_some, Option.some_inj, NotBelow, setpoints,
    if_neg hindex, List.forall_mem_cons, List.forall_mem_cons, List.forall_mem_cons,
    List.forall_mem_singleton, ← quotient_back_iff hv hdiv hmul h₁,
    ← quotient_back_iff hi hdiv hmul h₂, ← quotient_back_iff hv hdiv hmul h₃,
    ← quotient_back_iff hi hdiv hmul h₄]
  refine (iff_of_eq (congrArg (· = p) (on_block _ [_, _, _, _] _))).trans ?_
  cases p
  exact iff_of_eq (Preset.mk.injEq ..)

/-- The getter returns what was written exactly if no quotient was below its number. -/
theorem getsBack_iff (hv : Multiplier s.vMulti) (hi : Multiplier s.iMulti)
    (hq : q.Representable div s) (hw : q.write mul s = some w) :
    q.GetsBack div s (Cells.assign registers (Cells.block w.1 w.2)) ↔ q.NotBelow div mul s := by
  cases q with
  | voltageSet v =>
    cases hw
    exact readVoltage_iff hdiv hmul hv hq rfl
  | currentSet v =>
    cases hw
    exact readCurrent_iff hdiv hmul hi hq rfl
  | overVoltageProtection v =>
    cases hw
    exact (ofPreset_iff (by decide)).trans (readVoltage_iff hdiv hmul hv hq rfl)
  | overCurrentProtection v =>
    cases hw
    exact (ofPreset_iff (by decide)).trans (readCurrent_iff hdiv hmul hi hq rfl)
  | outputOn b | takeOk b | takeOut b | powerOnBoot b | buzzerEnabled b | logo b =>
    cases hw
    exact iff_of_true (readBoolean_block _ b) (notBelow_nil rfl)
  | language n =>
    cases hw
    exact iff_of_true (on_block _ [n] _) (notBelow_nil rfl)
  | brightness n =>
    cases hw
    exact iff_of_true ((on_block _ [n] _).trans (Nat.mod_eq_of_lt hq)) (notBelow_nil rfl)
  | calibration c =>
    cases hw
    exact iff_of_true (on_block _ [_, _, _, _, _, _, _, _] _) (notBelow_nil rfl)
  | activePreset index =>
    rw [write] at hw
    split_ifs at hw
    cases hw
    -- there is no getter for it: the register itself is looked at
    refine iff_of_true ?_ (notBelow_nil rfl)
    exact @Cells.assign_block_of_lt _ registers _ [index] 0 Nat.one_pos
  | preset index p =>
    rw [write] at hw
    split_ifs at hw with hindex
    cases hw
    exact getPreset_iff hdiv hmul hv hi hindex hq
  | presetVoltageOut index v | presetOverVoltageProtection index v =>
    rw [write] at hw
    split_ifs at hw with hindex
    cases hw
    exact (ofPreset_iff hindex).trans (readVoltage_iff hdiv hmul hv hq.2 (if_neg hindex))
  | presetCurrentOut index v | presetOverCurrentProtection index v =>
    rw [write] at hw
    split_ifs at hw with hindex
    cases hw
    exact (ofPreset_iff hindex).trans (readCurrent_iff hdiv hmul hi hq.2 (if_neg hindex))
  | clock t =>
    cases hw
    refine iff_of_true ?_ (notBelow_nil rfl)
    exact (on_block _ [_, _, _, _, _, _] _).trans (valuesToTm_tmToValues hq)
  | date year month day =>
    cases hw
    exact iff_of_true getsBack_date (notBelow_nil rfl)
  | time hour minute second =>
    cases hw
    exact iff_of_true getsBack_time (notBelow_nil rfl)

end

/-! ## The laws -/

variable (div mul s) in
/-- The lens laws of a setter: the getter returns what was set, unless it was answered by an
    exception, the registers of other quantities are unchanged, and the setters of other
    quantities commute with it. -/
structure Lawful (q : Setting) : Prop where
  getsBack (registers : ℕ → ℕ) (t : Transfer) (ht : t ≠ .exception)
    (h : (q.set mul s t).result = true) : q.GetsBack div s (q.store mul s t registers)
  frame (registers : ℕ → ℕ) (t : Transfer) (a : ℕ)
    (h : a ∉ q.quantities.map Quantity.register) : q.store mul s t registers a = registers a
  comm (registers : ℕ → ℕ) (t : Transfer) (q' : Setting) (t' : Transfer)
    (h : q.quantities.Disjoint q'.quantities) :
    q'.store mul s t' (q.store mul s t registers) = q.store mul s t (q'.store mul s t' registers)

theorem lawful_iff_notBelow (hv : Multiplier s.vMulti) (hi : Multiplier s.iMulti)
    (hdiv : Rounded div) (hmul : RoundedProduct mul) (hq : q.Representable div s) :
    q.Lawful div mul s ↔ q.NotBelow div mul s := by
  constructor
  · intro h
    cases hw : q.write mul s with
    | none => exact notBelow_of_refused hw
    | some w =>
      -- the laws are about all registers and transfers: one that was answered is enough
      have hback := h.getsBack (fun _ => 0) (.sent true) (by decide) (by rw [set_eq, hw]; rfl)
      rw [store_of_write hw] at hback
      exact (getsBack_iff hdiv hmul hv hi hq hw).1 hback
  · intro h
    refine ⟨fun registers t ht hresult => ?_, fun _ _ _ => store_frame,
      fun _ _ _ _ => store_comm⟩
    obtain ⟨rfl, w, hw⟩ := write_of_result hresult ht
    rw [store_of_write hw]
    exact (getsBack_iff hdiv hmul hv hi hq hw).2 h

/-! ## The clock in two parts -/

/-- `tm` for a date and a time as they are displayed. -/
def tmOf (year month day hour minute second : ℕ) : Tm :=
  ⟨year - 1900, month - 1, day, hour, minute, second⟩

theorem intToUint16_of_eq {x : ℤ} {n : ℕ} (h : x = n) (hn : n < 2 ^ 16) : intToUint16 x = n := by
  rw [intToUint16]
  omega

section

variable {year month day hour minute second : ℕ}

theorem tmToValues_tmOf (hdate : (date year month day).Representable div s)
    (htime : (time hour minute second).Representable div s) :
    tmToValues (tmOf year month day hour minute second) =
      [year, month, day] ++ [hour, minute, second] := by
  obtain ⟨hyear, hmonth, hday⟩ := hdate
  obtain ⟨hhour, hminute, hsecond⟩ := htime
  have hlt : ∀ {n : ℕ}, n < 2 ^ 8 → n < 2 ^ 16 := fun h => Nat.lt_trans h (by decide)
  rw [tmToValues, tmOf, intToUint16_of_eq (sub_add_cancel ..) hyear,
    intToUint16_of_eq (sub_add_cancel ..) hmonth, intToUint16_of_eq rfl hday,
    intToUint16_of_eq rfl (hlt hhour), intToUint16_of_eq rfl (hlt hminute),
    intToUint16_of_eq rfl (hlt hsecond)]
  rfl

/-- The date and the time, in either order, are the clock. -/
theorem store_date_time (hdate : (date year month day).Representable div s)
    (htime : (time hour minute second).Representable div s) :
    (time hour minute second).store mul s (.sent true)
        ((date year month day).store mul s (.sent true) registers) =
      (clock (tmOf year month day hour minute second)).store mul s (.sent true) registers ∧
    (date year month day).store mul s (.sent true)
        ((time hour minute second).store mul s (.sent true) registers) =
      (clock (tmOf year month day hour minute second)).store mul s (.sent true) registers := by
  have hclock : (time hour minute second).store mul s (.sent true)
        ((date year month day).store mul s (.sent true) registers) =
      (clock (tmOf year month day hour minute second)).store mul s (.sent true) registers := by
    rw [store_of_write rfl, store_of_write rfl, store_of_write rfl, ← Cells.assign_append,
      tmToValues_tmOf hdate htime, Cells.block_append]
    rfl
  have hne : ∀ x ∈ [Quantity.single .year, .single .month, .single .day],
      x ∉ [Quantity.single .hour, .single .minute, .single .second] := by
    decide
  have hdisjoint : (date year month day).quantities.Disjoint (time hour minute second).quantities :=
    List.disjoint_left.2 fun x hx => hne x hx
  exact ⟨hclock, (store_comm hdisjoint).symm.trans hclock⟩

/-- The clock that was set is read back. -/
theorem getClock_store (hdate : (date year month day).Representable div s)
    (htime : (time hour minute second).Representable div s) :
    getClock.on ((clock (tmOf year month day hour minute second)).store mul s (.sent true)
      registers) = tmOf year month day hour minute second := by
  rw [store_of_write rfl, tmToValues_tmOf hdate htime]
  exact on_block _ [_, _, _, _, _, _] _

end

end Setting

open Setting

/-- **The lens laws.** A setter whose arguments its registers can represent obeys the
    lens laws exactly if none of the voltages and currents that it converts is multiplied
    to less than the number it stands for. Setting the date and setting
    the time, in either order, is setting the clock, which is then read back. -/
theorem lawful_iff (hv : Multiplier s.vMulti) (hi : Multiplier s.iMulti) (hdiv : Rounded div)
    (hmul : RoundedProduct mul) :
    (∀ q : Setting, q.Representable div s → (q.Lawful div mul s ↔ q.NotBelow div mul s)) ∧
    ∀ (registers : ℕ → ℕ) (year month day hour minute second : ℕ),
      (date year month day).Representable div s →
      (time hour minute second).Representable div s →
      (time hour minute second).store mul s (.sent true)
          ((date year month day).store mul s (.sent true) registers) =
        (clock (tmOf year month day hour minute second)).store mul s (.sent true) registers ∧
      (date year month day).store mul s (.sent true)
          ((time hour minute second).store mul s (.sent true) registers) =
        (clock (tmOf year month day hour minute second)).store mul s (.sent true) registers ∧
      getClock.on ((clock (tmOf year month day hour minute second)).store mul s (.sent true)
        registers) = tmOf year month day hour minute second := by
  refine ⟨fun q => lawful_iff_notBelow hv hi hdiv hmul, ?_⟩
  intro registers year month day hour minute second hdate htime
  obtain ⟨h₁, h₂⟩ := store_date_time hdate htime
  exact ⟨h₁, h₂, getClock_store hdate htime⟩

/-- On an RD6006P with exact quotients and products, 12.345 V come back. -/
theorem lawful_rd6006p :
    (voltageSet (12345 / 1000)).Lawful (· / ·) (· * ·)
        ⟨"RD6006P", 601 / 10, 6, 1000, 10000, 1000, 100⟩ ↔
      (voltageSet (12345 / 1000)).NotBelow (· / ·) (· * ·)
        ⟨"RD6006P", 601 / 10, 6, 1000, 10000, 1000, 100⟩ :=
  (lawful_iff (· / ·) (· * ·) _ (Or.inr (Or.inl rfl)) (Or.inr (Or.inr rfl)) rounded_exact
    roundedProduct_exact).1 _ ⟨12345, by norm_num, by norm_num⟩

/-- Exact division, but for `29 / 100`, which comes out as the double next to it. -/
def divAt29 (x y : ℚ) : ℚ := if x = 29 ∧ y = 100 then 5224175567749775 / 2 ^ 54 else x / y

/-- Exact multiplication, but for the product of that double and 100, which comes out as the
    double next to it, just below 29. -/
def mulAt29 (x y : ℚ) : ℚ :=
  if x = 5224175567749775 / 2 ^ 54 ∧ y = 100 then 29 - 1 / 2 ^ 48 else x * y

theorem rounded_divAt29 : Rounded divAt29 := by
  intro m hm k hk
  rw [divAt29]
  split_ifs with h
  · obtain ⟨hk, rfl⟩ := h
    rw [Near, hk, abs_le, max_eq_left (by norm_num)]
    norm_num
  · exact rounded_exact m hm k hk

theorem roundedProduct_mulAt29 : RoundedProduct mulAt29 := by
  intro m hm x hx
  rw [mulAt29]
  split_ifs with h
  · obtain ⟨rfl, rfl⟩ := h
    rw [abs_of_nonneg (a := (5224175567749775 / 2 ^ 54 * 100 : ℚ)) (by norm_num),
      max_eq_right (by norm_num), abs_le]
    norm_num
  · exact roundedProduct_exact m hm x hx

/-- On an RD6018, the double for 0.29 V can be represented, but is not returned: the
    register is set to 28. -/
theorem not_lawful_voltageSet :
    Rounded divAt29 ∧ RoundedProduct mulAt29 ∧
    (voltageSet (5224175567749775 / 2 ^ 54)).Representable divAt29
      ⟨"RD6018", 601 / 10, 181 / 10, 100, 100, 100, 100⟩ ∧
    ¬ (voltageSet (5224175567749775 / 2 ^ 54)).Lawful divAt29 mulAt29
      ⟨"RD6018", 601 / 10, 181 / 10, 100, 100, 100, 100⟩ := by
  refine ⟨rounded_divAt29, roundedProduct_mulAt29,
    ⟨29, by norm_num, (if_pos ⟨by norm_num, rfl⟩).symm⟩, fun h => ?_⟩
  have hback := h.getsBack (fun _ => 0) (.sent true) (by decide) rfl
  rw [store_of_write rfl] at hback
  have hquotient : divAt29 (toUint16 (mulAt29 (5224175567749775 / 2 ^ 54) 100)) 100 =
      5224175567749775 / 2 ^ 54 := hback
  have hvalue : toUint16 (mulAt29 (5224175567749775 / 2 ^ 54) 100) = 28 := by decide +kernel
  rw [hvalue, divAt29, if_neg (by norm_num)] at hquotient
  norm_num at hquotient

end RidenModbus

end RidenDongle
