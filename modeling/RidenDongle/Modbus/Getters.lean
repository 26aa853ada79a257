import RidenDongle.Modbus.Master
import RidenDongle.Modbus.Setpoint

/-!
# Getters

What the getters of `RidenModbus` make of the reads they do (`riden_modbus.cpp`).
A getter reads registers into an array of its own, which only the getters of booleans
initialise, and gives up at the first read that returns `false`; otherwise it converts
what the array holds (`Getter`).

The registers of a getter are read by the calls of `Master`, one after another:
their results are an infix of `Master.returned`. Whether the output of a getter was
computed from words that no response wrote is thus a property of the run of the
master (`always_gettersReal_iff`).
-/

namespace RidenDongle

/-- How a call goes, where one that fails leaves everything as it was: it returns `false`;
    or it is done, the registers are stored or written; or the power supply answers with
    an exception, and it returns `true` although nothing is stored or written. -/
inductive Exchange
  | failed
  | done
  | exception
  deriving DecidableEq

namespace Exchange

def result : Exchange → Bool
  | failed => false
  | _ => true

/-- The call that goes like this, with a power supply that holds `registers`. -/
def returned (e : Exchange) (registers : ℕ → ℕ) (call : ModbusCall) : Returned :=
  ⟨call, e.result, if e = done then some (call.carried registers) else none⟩

theorem result_iff {e : Exchange} (h : e ≠ exception) : e.result = true ↔ e = done := by
  cases e with
  | failed | done => decide
  | exception => exact absurd rfl h

end Exchange

/-- The reads of a getter, as offsets and numbers of registers, whether the array that
    they fill is `zeroed` before, and what is made of it. -/
structure Getter (τ : Type) where
  reads : List (ℕ × ℕ)
  decode : List ℕ → τ
  zeroed : Bool := false

/-- The array that the reads fill, if all of them return `true`: `locals` is what it
    held, which a read that stores nothing leaves in it. -/
def gather : List (ℕ × ℕ) → List ℕ → List Returned → Option (List ℕ)
  | [], _, _ => some []
  | _ :: _, _, [] => none
  | (_, numregs) :: reads, locals, r :: rs =>
    if r.result then
      (gather reads (locals.drop numregs) rs).map (r.stored.getD (locals.take numregs) ++ ·)
    else none

namespace Getter

variable {τ : Type} (g : Getter τ)

/-- The calls that the getter makes, if none of them fails. -/
def calls : List ModbusCall := g.reads.map fun q => .readHoldingRegisters q.1 q.2

/-- What the array holds before the reads. -/
def held (locals : List ℕ) : List ℕ :=
  if g.zeroed then g.reads.flatMap fun q => List.replicate q.2 0 else locals

/-- The output of the getter, if it returns `true`. -/
def run (locals : List ℕ) (rs : List Returned) : Option τ :=
  (gather g.reads (g.held locals) rs).map g.decode

/-- The same when all its reads go like this. -/
def outcome (e : Exchange) (registers : ℕ → ℕ) (locals : List ℕ) : Option τ :=
  g.run locals (g.calls.map (e.returned registers))

/-- The output of the getter, when the responses to its reads carry `registers`. -/
def on (registers : ℕ → ℕ) : τ := g.decode (g.calls.flatMap (ModbusCall.carried registers))

variable {g} {registers : ℕ → ℕ} {locals : List ℕ}

theorem gather_done (reads : List (ℕ × ℕ)) (locals : List ℕ) :
    gather reads locals ((reads.map fun q => ModbusCall.readHoldingRegisters q.1 q.2).map
        (Exchange.done.returned registers)) =
      some ((reads.map fun q => ModbusCall.readHoldingRegisters q.1 q.2).flatMap
        (ModbusCall.carried registers)) := by
  induction reads generalizing locals with
  | nil => rfl
  | cons q reads ih =>
    rw [List.map_cons, List.map_cons, gather,
      if_pos (show (Exchange.returned ..).result = true from rfl), ih, List.flatMap_cons]
    rfl

theorem outcome_done : g.outcome .done registers locals = some (g.on registers) := by
  rw [outcome, run, calls, gather_done]
  rfl

theorem outcome_failed (h : g.reads ≠ []) : g.outcome .failed registers locals = none := by
  obtain ⟨q, reads, hreads⟩ := List.exists_cons_of_ne_nil h
  rw [outcome, run, calls, hreads]
  rfl

theorem exists_outcome_exception : ∃ x, g.outcome .exception registers locals = some x := by
  have hgather (reads : List (ℕ × ℕ)) (locals : List ℕ) : ∃ ws, gather reads locals
      ((reads.map fun q => ModbusCall.readHoldingRegisters q.1 q.2).map
        (Exchange.exception.returned registers)) = some ws := by
    induction reads generalizing locals with
    | nil => exact ⟨[], rfl⟩
    | cons q reads ih =>
      obtain ⟨ws, hws⟩ := ih (locals.drop q.2)
      refine ⟨locals.take q.2 ++ ws, ?_⟩
      rw [List.map_cons, List.map_cons, gather,
        if_pos (show (Exchange.returned ..).result = true from rfl), hws]
      rfl
  obtain ⟨ws, hws⟩ := hgather g.reads (g.held locals)
  exact ⟨g.decode ws, by rw [outcome, run, calls, hws]; rfl⟩

end Getter

/-! ## The getters of the source -/

namespace Register
abbrev id : ℕ := 0
abbrev serialNumberHigh : ℕ := 1
abbrev firmware : ℕ := 3
abbrev systemTemperatureCelsiusSign : ℕ := 4
abbrev systemTemperatureFarhenheitSign : ℕ := 6
abbrev voltageOut : ℕ := 10
abbrev currentOut : ℕ := 11
abbrev powerOutH : ℕ := 12
abbrev voltageIn : ℕ := 14
abbrev keypad : ℕ := 15
abbrev protection : ℕ := 16
abbrev outputMode : ℕ := 17
abbrev output : ℕ := 18
abbrev currentRange : ℕ := 20
abbrev batteryMode : ℕ := 32
abbrev voltageBattery : ℕ := 33
abbrev probeTemperatureCelsiusSign : ℕ := 34
abbrev probeTemperatureFarhenheitSign : ℕ := 36
abbrev ahH : ℕ := 38
abbrev whH : ℕ := 40
abbrev subsetEnd : ℕ := 42
abbrev year : ℕ := 48
abbrev vOutZero : ℕ := 55
abbrev takeOk : ℕ := 66
abbrev takeOut : ℕ := 67
abbrev powerOnBoot : ℕ := 68
abbrev buzzer : ℕ := 69
abbrev logo : ℕ := 70
abbrev language : ℕ := 71
abbrev brightness : ℕ := 72
abbrev m9Ocp : ℕ := 119
end Register

inductive Protection
  | ovp
  | ocp
  | none
  deriving DecidableEq

inductive OutputMode
  | constantVoltage
  | constantCurrent
  | unknown
  deriving DecidableEq

/-- The fields of `tm` that are set. -/
structure Tm where
  year : ℤ
  mon : ℤ
  mday : ℤ
  hour : ℤ
  min : ℤ
  sec : ℤ
  deriving DecidableEq

structure Calibration where
  vOutZero : ℕ
  vOutScale : ℕ
  vBackZero : ℕ
  vBackScale : ℕ
  iOutZero : ℕ
  iOutScale : ℕ
  iBackZero : ℕ
  iBackScale : ℕ
  deriving DecidableEq

/-- The fields of `AllValues` that are not set if only the subset is wanted. -/
structure AllSettings where
  clock : Tm
  isTakeOk : Bool
  isTakeOut : Bool
  isPowerOnBoot : Bool
  isBuzzerEnabled : Bool
  isLogo : Bool
  language : ℕ
  brightness : ℕ
  calibration : Calibration
  presets : List RidenModbus.Preset

structure AllValues where
  systemTemperatureCelsius : ℚ
  systemTemperatureFahrenheit : ℚ
  voltageSet : ℚ
  currentSet : ℚ
  voltageOut : ℚ
  currentOut : ℚ
  powerOut : ℚ
  voltageIn : ℚ
  keypadLocked : Bool
  protection : Protection
  outputMode : OutputMode
  outputOn : Bool
  currentRange : ℕ
  isBatteryMode : Bool
  voltageBattery : ℚ
  probeTemperatureCelsius : ℚ
  probeTemperatureFahrenheit : ℚ
  ah : ℚ
  wh : ℚ
  settings : Option AllSettings

namespace RidenModbus

/-- `values[k]`. -/
def valueAt (values : List ℕ) (k : ℕ) : ℕ := values.getD k 0

/-- `(values[k] << 16) + values[k + 1]`, a `uint32_t`. -/
def longAt (values : List ℕ) (k : ℕ) : ℕ :=
  (valueAt values k * 2 ^ 16 + valueAt values (k + 1)) % 2 ^ 32

def valuesToTemperature (values : List ℕ) (k : ℕ) : ℚ :=
  (if valueAt values k = 0 then 1 else -1) * valueAt values (k + 1)

def valueToProtection : ℕ → Protection
  | 1 => .ovp
  | 2 => .ocp
  | _ => .none

def valueToOutputMode : ℕ → OutputMode
  | 0 => .constantVoltage
  | 1 => .constantCurrent
  | _ => .unknown

def valuesToTm (values : List ℕ) (k : ℕ) : Tm where
  year := valueAt values k - 1900
  mon := valueAt values (k + 1) - 1
  mday := valueAt values (k + 2)
  hour := valueAt values (k + 3)
  min := valueAt values (k + 4)
  sec := valueAt values (k + 5)

def valuesToCalibration (values : List ℕ) (k : ℕ) : Calibration where
  vOutZero := valueAt values k
  vOutScale := valueAt values (k + 1)
  vBackZero := valueAt values (k + 2)
  vBackScale := valueAt values (k + 3)
  iOutZero := valueAt values (k + 4)
  iOutScale := valueAt values (k + 5)
  iBackZero := valueAt values (k + 6)
  iBackScale := valueAt values (k + 7)

variable (div : ℚ → ℚ → ℚ) (s : RidenModbus)

def valueToVoltageIn (value : ℕ) : ℚ := div value s.vInMulti
def valuesToPower (values : List ℕ) (k : ℕ) : ℚ := div (longAt values k) s.pMulti
def valuesToAh (values : List ℕ) (k : ℕ) : ℚ := div (longAt values k) 1000
def valuesToWh (values : List ℕ) (k : ℕ) : ℚ := div (longAt values k) 1000

def presetAt (values : List ℕ) (k : ℕ) : Preset :=
  s.valuesToPreset div ⟨valueAt values k, valueAt values (k + 1), valueAt values (k + 2),
    valueAt values (k + 3)⟩

/-- A getter with one read. -/
def readOnce {τ : Type} (reg numregs : ℕ) (decode : List ℕ → τ) : Getter τ :=
  { reads := [(reg, numregs)], decode }

/-- A getter that reads one register straight into its output. -/
def readValue (reg : ℕ) : Getter ℕ := readOnce reg 1 (valueAt · 0)

def readVoltage (reg : ℕ) : Getter ℚ :=
  readOnce reg 1 fun values => s.valueToVoltage div (valueAt values 0)

def readCurrent (reg : ℕ) : Getter ℚ :=
  readOnce reg 1 fun values => s.valueToCurrent div (valueAt values 0)

def readPower (reg : ℕ) : Getter ℚ := readOnce reg 2 (s.valuesToPower div · 0)

def readBoolean (reg : ℕ) : Getter Bool where
  reads := [(reg, 1)]
  decode values := valueAt values 0 != 0
  zeroed := true

def readTemperature (reg : ℕ) : Getter ℚ := readOnce reg 2 (valuesToTemperature · 0)

def getId : Getter ℕ := readValue Register.id
def getSerialNumber : Getter ℕ := readOnce Register.serialNumberHigh 2 (longAt · 0)
def getFirmwareVersion : Getter ℕ := readValue Register.firmware
def getSystemTemperatureCelsius : Getter ℚ := readTemperature Register.systemTemperatureCelsiusSign
def getSystemTemperatureFahrenheit : Getter ℚ :=
  readTemperature Register.systemTemperatureFarhenheitSign
def getVoltageSet : Getter ℚ := s.readVoltage div Register.voltageSet
def getCurrentSet : Getter ℚ := s.readCurrent div Register.currentSet
def getVoltageOut : Getter ℚ := s.readVoltage div Register.voltageOut
def getCurrentOut : Getter ℚ := s.readCurrent div Register.currentOut
def getPowerOut : Getter ℚ := s.readPower div Register.powerOutH
def isKeypadLocked : Getter Bool := readBoolean Register.keypad
def getProtection : Getter Protection :=
  readOnce Register.protection 1 fun values => valueToProtection (valueAt values 0)
def getOutputMode : Getter OutputMode :=
  readOnce Register.outputMode 1 fun values => valueToOutputMode (valueAt values 0)
def getOutputOn : Getter Bool := readBoolean Register.output
def getCurrentRange : Getter ℕ := readValue Register.currentRange
def isBatteryMode : Getter Bool := readBoolean Register.batteryMode
def getVoltageBattery : Getter ℚ := s.readVoltage div Register.voltageBattery
def getProbeTemperatureCelsius : Getter ℚ := readTemperature Register.probeTemperatureCelsiusSign
def getProbeTemperatureFahrenheit : Getter ℚ :=
  readTemperature Register.probeTemperatureFarhenheitSign
def getAh : Getter ℚ := readOnce Register.ahH 2 (valuesToAh div · 0)
def getWh : Getter ℚ := readOnce Register.whH 2 (valuesToWh div · 0)
def getClock : Getter Tm := readOnce Register.year 6 (valuesToTm · 0)
def isTakeOk : Getter Bool := readBoolean Register.takeOk
def isTakeOut : Getter Bool := readBoolean Register.takeOut
def isPowerOnBoot : Getter Bool := readBoolean Register.powerOnBoot
def isBuzzerEnabled : Getter Bool := readBoolean Register.buzzer
def isLogo : Getter Bool := readBoolean Register.logo
def getLanguage : Getter ℕ := readValue Register.language
/-- The output is a `uint8_t`. -/
def getBrightness : Getter ℕ := readOnce Register.brightness 1 fun values => valueAt values 0 % 2 ^ 8
def getCalibration : Getter Calibration := readOnce Register.vOutZero 8 (valuesToCalibration · 0)

/-- A getter of a preset, which only reads for an index in range. -/
def ofPreset {τ : Type} (index : ℕ) (g : Getter τ) : Option (Getter τ) :=
  if numberOfPresets ≤ index then none else some g

def getPreset (index : ℕ) : Option (Getter Preset) :=
  ofPreset index (readOnce (Register.m0V + 4 * index) 4 (s.presetAt div · 0))

def getPresetVoltageOut (index : ℕ) : Option (Getter ℚ) :=
  ofPreset index (s.readVoltage div (Register.m0V + 4 * index))

def getPresetCurrentOut (index : ℕ) : Option (Getter ℚ) :=
  ofPreset index (s.readCurrent div (Register.m0I + 4 * index))

def getPresetOverVoltageProtection (index : ℕ) : Option (Getter ℚ) :=
  ofPreset index (s.readVoltage div (Register.m0Ovp + 4 * index))

def getPresetOverCurrentProtection (index : ℕ) : Option (Getter ℚ) :=
  ofPreset index (s.readCurrent div (Register.m0Ocp + 4 * index))

def allSettings (values : List ℕ) : AllSettings where
  clock := valuesToTm values Register.year
  isTakeOk := valueAt values Register.takeOk != 0
  isTakeOut := valueAt values Register.takeOut != 0
  isPowerOnBoot := valueAt values Register.powerOnBoot != 0
  isBuzzerEnabled := valueAt values Register.buzzer != 0
  isLogo := valueAt values Register.logo != 0
  language := valueAt values Register.language
  brightness := valueAt values Register.brightness % 2 ^ 8
  calibration := valuesToCalibration values Register.vOutZero
  -- M0 is ignored
  presets := (List.range numberOfPresets).map fun index =>
    s.presetAt div values (Register.m0V + 4 * (index + 1))

/-- `get_all_values`: 20 registers at a time. -/
def getAllValues (subset : Bool) : Getter AllValues where
  reads :=
    let total := (if subset then Register.subsetEnd else Register.m9Ocp) + 1
    (List.range ((total + 19) / 20)).map fun k => (20 * k, min 20 (total - 20 * k))
  decode values :=
    { systemTemperatureCelsius := valuesToTemperature values Register.systemTemperatureCelsiusSign
      systemTemperatureFahrenheit :=
        valuesToTemperature values Register.systemTemperatureFarhenheitSign
      voltageSet := s.valueToVoltage div (valueAt values Register.voltageSet)
      currentSet := s.valueToCurrent div (valueAt values Register.currentSet)
      voltageOut := s.valueToVoltage div (valueAt values Register.voltageOut)
      currentOut := s.valueToCurrent div (valueAt values Register.currentOut)
      powerOut := s.valuesToPower div values Register.powerOutH
      voltageIn := s.valueToVoltageIn div (valueAt values Register.voltageIn)
      keypadLocked := valueAt values Register.keypad != 0
      protection := valueToProtection (valueAt values Register.protection)
      outputMode := valueToOutputMode (valueAt values Register.outputMode)
      outputOn := valueAt values Register.output != 0
      currentRange := valueAt values Register.currentRange
      isBatteryMode := valueAt values Register.batteryMode != 0
      voltageBattery := s.valueToVoltage div (valueAt values Register.voltageBattery)
      probeTemperatureCelsius := valuesToTemperature values Register.probeTemperatureCelsiusSign
      probeTemperatureFahrenheit :=
        valuesToTemperature values Register.probeTemperatureFarhenheitSign
      ah := valuesToAh div values Register.ahH
      wh := valuesToWh div values Register.whH
      settings := if subset then none else some (s.allSettings div values) }

example : (getAllValues div s true).reads = [(0, 20), (20, 20), (40, 3)] := rfl

end RidenModbus

/-! ## Real outputs -/

variable {reads : List (ℕ × ℕ)} {locals ws : List ℕ} {rs : List Returned}

/-- An array that is filled: no read has failed, and what is in it depends on what it
    held only where a read has stored nothing. -/
theorem gather_eq_some (hlen : rs.length ≤ reads.length) (h : gather reads locals rs = some ws) :
    (∀ r ∈ rs, r.result = true) ∧
      ((∀ r ∈ rs, r.stored.isSome) → ws = (rs.map fun r => r.stored.getD []).flatten) := by
  induction reads generalizing locals rs ws with
  | nil =>
    rw [List.length_nil, Nat.le_zero, List.length_eq_zero_iff] at hlen
    subst hlen
    cases h
    exact ⟨fun _ hr => (nomatch hr), fun _ => rfl⟩
  | cons q reads ih =>
    cases rs with
    | nil => cases h
    | cons r rs =>
      rw [gather] at h
      split_ifs at h with hresult
      obtain ⟨ws', hws', rfl⟩ := Option.map_eq_some_iff.1 h
      obtain ⟨hresults, hstored⟩ := ih (Nat.le_of_succ_le_succ hlen) hws'
      refine ⟨fun r' hr' => ?_, fun hsome => ?_⟩
      · rcases List.mem_cons.1 hr' with rfl | hr'
        · exact hresult
        · exact hresults r' hr'
      · obtain ⟨words, hwords⟩ := Option.isSome_iff_exists.1 (hsome r List.mem_cons_self)
        rw [hstored fun r' hr' => hsome r' (List.mem_cons_of_mem r hr'), List.map_cons,
          List.flatten_cons, hwords, Option.getD_some, Option.getD_some]

namespace Master

variable {m : Master}

/-- The output of every getter that has returned `true` was computed from registers
    that the responses to its requests carried. -/
def GettersReal (m : Master) : Prop :=
  ∀ (τ : Type) (g : Getter τ) (rs : List Returned), rs <:+: m.returned →
    rs.map Returned.call <+: g.calls → ∀ locals x, g.run locals rs = some x →
      (∀ r ∈ rs, ∃ registers, r.stored = some (r.call.carried registers)) ∧
      x = g.decode (rs.map fun r => r.stored.getD []).flatten

/-- Getters are as real as the reads they do. -/
theorem ReadsReal.gettersReal (h : m.ReadsReal) : m.GettersReal := by
  intro τ g rs hrs hcalls locals x hx
  obtain ⟨ws, hws, rfl⟩ := Option.map_eq_some_iff.1 hx
  have hlen : rs.length ≤ g.reads.length := by
    have := hcalls.length_le
    rwa [List.length_map, Getter.calls, List.length_map] at this
  obtain ⟨hresults, hstored⟩ := gather_eq_some hlen hws
  have hread : ∀ r ∈ rs, r.call.isRead = true := by
    intro r hr
    have hmem : r.call ∈ g.calls := hcalls.subset (List.mem_map_of_mem hr)
    obtain ⟨q, -, hq⟩ := List.mem_map.1 hmem
    rw [← hq]
    rfl
  have hreal : ∀ r ∈ rs, ∃ registers, r.stored = some (r.call.carried registers) :=
    fun r hr => h r (hrs.subset hr) (hread r hr) (hresults r hr)
  refine ⟨hreal, congrArg g.decode (hstored fun r hr => ?_)⟩
  obtain ⟨registers, hregisters⟩ := hreal r hr
  rw [hregisters]
  rfl

/-- **A successful read is a real read.** Along a run, every read that returns `true`
    has the registers of a response to it, and every getter that returns `true` its
    output from such registers, exactly if the transaction of a read ends without a
    response only when the deadline has passed. -/
theorem always_gettersReal_iff (now : ℕ) (is : List Input) :
    Machine.Always step (fun m => m.ReadsReal ∧ m.GettersReal) (initial now) is ↔
      Machine.Guarded step EndsWithResponse (initial now) is := by
  have hreads : Machine.Always step ReadsReal (initial now) is ↔
      Machine.Guarded step EndsWithResponse (initial now) is :=
    Machine.always_iff_guarded (Q := Waits) (fun _ i h => h.step i)
      (fun _ i hq h => readsReal_step_iff hq h i) (waits_of_phase fun ⟨_, _, h⟩ => nomatch h)
      fun _ hr => (nomatch hr)
  rw [← hreads]
  exact ⟨fun h => h.mono fun _ h => h.1, fun h => h.mono fun _ h => ⟨h, h.gettersReal⟩⟩

/-- A read that the power supply answers with an exception returns `true`. -/
theorem not_gettersReal_exception :
    ¬ Machine.Always step (fun m => m.ReadsReal ∧ m.GettersReal) (initial 0)
      [.begin (.readHoldingRegisters 10 1) true, .poll .exception 10 true] := by
  intro h
  obtain ⟨registers, hstored⟩ :=
    h.last.1 ⟨.readHoldingRegisters 10 1, true, none⟩ (by decide) rfl rfl
  cases hstored

end Master

end RidenDongle
