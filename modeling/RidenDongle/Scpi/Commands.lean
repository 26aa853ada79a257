import RidenDongle.Modbus.Setters
import RidenDongle.Scpi.Basic

/-!
# SCPI commands

The handlers of `scpi_commands` that are defined in `riden_scpi.cpp`: parameters are
read from the line, checked, and handed to a setter of `RidenModbus`, or what a getter
returns is given as the response.

* The conversions of parameters are those of a `ScpiParser`. A function that fails to
  read or to convert a parameter pushes an error, as `SCPI_Parameter`, `SCPI_ParamTo…`
  and `SCPI_Param…` do.
* A handler does one transfer with the power supply, whose outcome is given (`Modbus`).
* `dispatch` pushes an execution error after a handler that fails without an error.

The field `written` of the context is ghost: the registers that were written.

`disciplined_iff` tells which commands push one error if they fail, and none otherwise.
-/

namespace RidenDongle

open RidenModbus (ScpiUnit Transfer Outcome Setting numberOfPresets)

inductive ScpiError
  | command
  | dataTypeError
  | missingParameter
  | executionError
  | illegalParameterValue
  | other (code : ℤ)
  deriving DecidableEq

/-- What a handler gives as a part of its response. -/
inductive Response
  | uInt8 (value : ℕ)
  | uInt16 (value : ℕ)
  | int32 (value : ℤ)
  | bool (value : Bool)
  | double (value : ℚ)
  | text (value : String)
  | mnemonic (value : String)
  deriving DecidableEq

/-- `scpi_choice_def_t`, without the end of the list. -/
abbrev ScpiChoices := List (String × ℤ)

/-- The conversions of a parameter; they fail with an error. -/
structure ScpiParser (P : Type*) where
  toUnsignedInt : P → Except ScpiError ℕ
  toInt : P → Except ScpiError ℤ
  toBool : P → Except ScpiError Bool
  toChoice : ScpiChoices → P → Except ScpiError ℤ
  toNumber : P → Except ScpiError (ScpiUnit × ℚ)

/-- `scpi_t`, while a command is executed: the parameters that were not read yet, of which
    some may not be parameters at all, the error queue and the response. -/
structure ScpiContext (P : Type*) where
  params : List (Except ScpiError P)
  errors : List ScpiError
  responses : List Response
  written : List (ℕ × ℕ)

/-- How the transfer of a handler goes, with a power supply that holds `registers`: a write
    as `transfer` says, and a read as `read` says; the array of a getter holds `locals`. -/
structure Modbus where
  transfer : Transfer
  read : Exchange
  registers : ℕ → ℕ
  locals : List ℕ

namespace ScpiContext

variable {P α β : Type*} (ctx : ScpiContext P)

/-- `SCPI_ErrorPush`. -/
def errorPush (e : ScpiError) : ScpiContext P := { ctx with errors := ctx.errors ++ [e] }

/-- `SCPI_Parameter`, of a mandatory parameter. -/
def parameter : Option P × ScpiContext P :=
  match ctx.params with
  | [] => (none, ctx.errorPush .missingParameter)
  | .error e :: params => (none, { ctx with params }.errorPush e)
  | .ok p :: params => (some p, { ctx with params })

/-- `SCPI_ParamTo…`. -/
def paramTo (x : Except ScpiError α) : Option α × ScpiContext P :=
  match x with
  | .ok a => (some a, ctx)
  | .error e => (none, ctx.errorPush e)

/-- `SCPI_Param…`. -/
def param (convert : P → Except ScpiError α) : Option α × ScpiContext P :=
  match ctx.parameter with
  | (some p, ctx') => ctx'.paramTo (convert p)
  | (none, ctx') => (none, ctx')

/-- Three parameters, up to the first that fails. -/
def params3 (convert : P → Except ScpiError α) : Option (α × α × α) × ScpiContext P :=
  match ctx.param convert with
  | (none, ctx₁) => (none, ctx₁)
  | (some a, ctx₁) =>
    match ctx₁.param convert with
    | (none, ctx₂) => (none, ctx₂)
    | (some b, ctx₂) =>
      match ctx₂.param convert with
      | (none, ctx₃) => (none, ctx₃)
      | (some c, ctx₃) => (some (a, b, c), ctx₃)

end ScpiContext

/-- The callback of a command. -/
abbrev Handler (P : Type*) := ScpiContext P → ScpiResult × ScpiContext P

/-- How the parser calls a callback. -/
def dispatch {P : Type*} (handler : Handler P) : Handler P := fun ctx =>
  let out := handler ctx
  if out.1 = .err ∧ out.2.errors.length = ctx.errors.length then
    (.err, out.2.errorPush .executionError)
  else out

namespace RidenScpi

/-! ## The handlers -/

variable {P α : Type*} {τ : Type} (parser : ScpiParser P) (div mul : ℚ → ℚ → ℚ)
  (s : RidenModbus) (modbus : Modbus)

/-- The end of a handler that sets something. -/
def finish (q : Setting) : Handler P := fun ctx =>
  let out := q.set mul s modbus.transfer
  let ctx := { ctx with written := ctx.written ++ out.written }
  if out.result then (.ok, ctx) else (.err, ctx.errorPush .command)

/-- A handler that reads its parameters, checks them, and sets something. -/
def command (read : ScpiContext P → Option α × ScpiContext P) (check : α → Option ScpiError)
    (set : α → Setting) : Handler P := fun ctx =>
  match read ctx with
  | (none, ctx) => (.err, ctx)
  | (some a, ctx) =>
    match check a with
    | some e => (.err, ctx.errorPush e)
    | none => finish mul s modbus (set a) ctx

/-- A handler that gets something. -/
def query (g : Getter τ) (respond : τ → List Response) : Handler P := fun ctx =>
  match g.outcome modbus.read modbus.registers modbus.locals with
  | some value => (.ok, { ctx with responses := ctx.responses ++ respond value })
  | none => (.err, ctx.errorPush .command)

/-- The check of a unit. -/
def checkUnit (expected : ScpiUnit) (value : ScpiUnit × ℚ) : Option ScpiError :=
  if value.1 ≠ .none ∧ value.1 ≠ expected then some .dataTypeError else none

def temperatureOptions : ScpiChoices := [("SYSTEM", 0), ("PROBE", 1)]

def languageOptions : ScpiChoices :=
  [("ENGLISH", 0), ("CHINESE", 1), ("GERMAN", 2), ("FRENCH", 3), ("RUSSIAN", 4)]

/-- `SCPI_ResultChoice`. -/
def resultChoice (options : ScpiChoices) (value : ℤ) : Response :=
  match options.find? fun option => option.2 = value with
  | some option => .mnemonic option.1
  | none => .int32 value

/-- The parameter is a `uint32_t`, and `set_preset` takes a `uint8_t`. -/
def rcl : Handler P :=
  command mul s modbus (·.param parser.toUnsignedInt)
    (fun profile => if profile < 1 ∨ numberOfPresets ≤ profile - 1 then some .illegalParameterValue
      else none)
    (fun profile => .activePreset (profile % 2 ^ 8))

def displayBrightness : Handler P :=
  command mul s modbus (·.param parser.toUnsignedInt)
    (fun brightness => if 5 < brightness then some .illegalParameterValue else none)
    (fun brightness => .brightness (brightness % 2 ^ 8))

def displayBrightnessQ : Handler P :=
  query modbus RidenModbus.getBrightness fun brightness => [.uInt8 brightness]

/-- The language is looked up, and if it is not found it may be a number. -/
def displayLanguage : Handler P := fun ctx =>
  match ctx.parameter with
  | (none, ctx) => (.err, ctx)
  | (some p, ctx) =>
    let (language, ctx) :=
      match ctx.paramTo (parser.toChoice languageOptions p) with
      | (some language, ctx) => (some language, ctx)
      | (none, ctx) => ctx.paramTo (parser.toInt p)
    match language with
    | none => (.err, ctx.errorPush .illegalParameterValue)
    | some language =>
      if language < 0 ∨ 4 < language then (.err, ctx.errorPush .illegalParameterValue)
      else finish mul s modbus (.language (RidenModbus.intToUint16 language)) ctx

def displayLanguageQ : Handler P :=
  query modbus RidenModbus.getLanguage fun language => [resultChoice languageOptions language]

/-- The parameters are `uint32_t`, and `set_date` takes `uint16_t`. -/
def systemDate : Handler P :=
  command mul s modbus (·.params3 parser.toUnsignedInt) (fun _ => none)
    (fun (year, month, day) => .date (year % 2 ^ 16) (month % 2 ^ 16) (day % 2 ^ 16))

def systemDateQ : Handler P :=
  query modbus RidenModbus.getClock fun clock =>
    [.uInt16 (RidenModbus.intToUint16 (clock.year + 1900)),
      .uInt16 (RidenModbus.intToUint16 (clock.mon + 1)),
      .uInt16 (RidenModbus.intToUint16 clock.mday)]

/-- The parameters are `uint32_t`, and `set_time` takes `uint8_t`. -/
def systemTime : Handler P :=
  command mul s modbus (·.params3 parser.toUnsignedInt) (fun _ => none)
    (fun (hour, minute, second) => .time (hour % 2 ^ 8) (minute % 2 ^ 8) (second % 2 ^ 8))

def systemTimeQ : Handler P :=
  query modbus RidenModbus.getClock fun clock =>
    [.uInt16 (RidenModbus.intToUint16 clock.hour), .uInt16 (RidenModbus.intToUint16 clock.min),
      .uInt16 (RidenModbus.intToUint16 clock.sec)]

def outputState : Handler P :=
  command mul s modbus (·.param parser.toBool) (fun _ => none) .outputOn

def outputStateQ : Handler P := query modbus RidenModbus.getOutputOn fun on => [.bool on]

/-- It pushes no error. -/
def outputModeQ : Handler P := fun ctx =>
  match RidenModbus.getOutputMode.outcome modbus.read modbus.registers modbus.locals with
  | some outputMode =>
    let text :=
      match outputMode with
      | .constantVoltage => "CV"
      | .constantCurrent => "CC"
      | .unknown => "XX"
    (.ok, { ctx with responses := ctx.responses ++ [.text text] })
  | none => (.err, ctx)

def sourceVoltage : Handler P :=
  command mul s modbus (·.param parser.toNumber) (checkUnit .volt) (fun value => .voltageSet value.2)

def sourceVoltageQ : Handler P :=
  query modbus (s.getVoltageSet div) fun voltage => [.double voltage]

def sourceVoltageProtectionTrippedQ : Handler P :=
  query modbus RidenModbus.getProtection fun protection => [.bool (protection = .ovp)]

def sourceCurrent : Handler P :=
  command mul s modbus (·.param parser.toNumber) (checkUnit .amper) (fun value => .currentSet value.2)

def sourceCurrentQ : Handler P :=
  query modbus (s.getCurrentSet div) fun current => [.double current]

def sourceCurrentProtectionTrippedQ : Handler P :=
  query modbus RidenModbus.getProtection fun protection => [.bool (protection = .ocp)]

def measureVoltageQ : Handler P :=
  query modbus (s.getVoltageOut div) fun voltage => [.double voltage]

def measureCurrentQ : Handler P :=
  query modbus (s.getCurrentOut div) fun current => [.double current]

def measurePowerQ : Handler P := query modbus (s.getPowerOut div) fun power => [.double power]

def measureTemperatureQ : Handler P := fun ctx =>
  match ctx.param (parser.toChoice temperatureOptions) with
  | (none, ctx) => (.err, ctx.errorPush .illegalParameterValue)
  | (some choice, ctx) =>
    query modbus (if choice = 0 then RidenModbus.getSystemTemperatureCelsius
      else RidenModbus.getProbeTemperatureCelsius) (fun temperature => [.double temperature]) ctx

def sourceVoltageLimit : Handler P :=
  command mul s modbus (·.param parser.toNumber) (checkUnit .volt)
    (fun value => .overVoltageProtection value.2)

def sourceCurrentLimit : Handler P :=
  command mul s modbus (·.param parser.toNumber) (checkUnit .amper)
    (fun value => .overCurrentProtection value.2)

def systemBeeperState : Handler P :=
  command mul s modbus (·.param parser.toBool) (fun _ => none) .buzzerEnabled

def systemBeeperStateQ : Handler P :=
  query modbus RidenModbus.isBuzzerEnabled fun on => [.bool on]

/-- The commands with a handler here. -/
inductive Command
  | rcl
  | displayBrightness
  | displayBrightnessQ
  | displayLanguage
  | displayLanguageQ
  | systemDate
  | systemDateQ
  | systemTime
  | systemTimeQ
  | outputState
  | outputStateQ
  | outputModeQ
  | sourceVoltage
  | sourceVoltageQ
  | sourceVoltageProtectionTrippedQ
  | sourceCurrent
  | sourceCurrentQ
  | sourceCurrentProtectionTrippedQ
  | measureVoltageQ
  | measureCurrentQ
  | measurePowerQ
  | measureTemperatureQ
  | sourceVoltageLimit
  | sourceCurrentLimit
  | systemBeeperState
  | systemBeeperStateQ
  deriving DecidableEq

namespace Command

/-- The callback in `scpi_commands`. -/
def callback : Command → Handler P
  | rcl => RidenScpi.rcl parser mul s modbus
  | displayBrightness => RidenScpi.displayBrightness parser mul s modbus
  | displayBrightnessQ => RidenScpi.displayBrightnessQ modbus
  | displayLanguage => RidenScpi.displayLanguage parser mul s modbus
  | displayLanguageQ => RidenScpi.displayLanguageQ modbus
  | systemDate => RidenScpi.systemDate parser mul s modbus
  | systemDateQ => RidenScpi.systemDateQ modbus
  | systemTime => RidenScpi.systemTime parser mul s modbus
  | systemTimeQ => RidenScpi.systemTimeQ modbus
  | outputState => RidenScpi.outputState parser mul s modbus
  | outputStateQ => RidenScpi.outputStateQ modbus
  | outputModeQ => RidenScpi.outputModeQ modbus
  | sourceVoltage => RidenScpi.sourceVoltage parser mul s modbus
  | sourceVoltageQ => RidenScpi.sourceVoltageQ div s modbus
  | sourceVoltageProtectionTrippedQ => RidenScpi.sourceVoltageProtectionTrippedQ modbus
  | sourceCurrent => RidenScpi.sourceCurrent parser mul s modbus
  | sourceCurrentQ => RidenScpi.sourceCurrentQ div s modbus
  | sourceCurrentProtectionTrippedQ => RidenScpi.sourceCurrentProtectionTrippedQ modbus
  | measureVoltageQ => RidenScpi.measureVoltageQ div s modbus
  | measureCurrentQ => RidenScpi.measureCurrentQ div s modbus
  | measurePowerQ => RidenScpi.measurePowerQ div s modbus
  | measureTemperatureQ => RidenScpi.measureTemperatureQ parser modbus
  | sourceVoltageLimit => RidenScpi.sourceVoltageLimit parser mul s modbus
  | sourceCurrentLimit => RidenScpi.sourceCurrentLimit parser mul s modbus
  | systemBeeperState => RidenScpi.systemBeeperState parser mul s modbus
  | systemBeeperStateQ => RidenScpi.systemBeeperStateQ modbus

/-- Whether it sets something; the others get something. -/
def sets : Command → Bool
  | rcl | displayBrightness | displayLanguage | systemDate | systemTime | outputState
  | sourceVoltage | sourceCurrent | sourceVoltageLimit | sourceCurrentLimit
  | systemBeeperState => true
  | _ => false

/-- Its register write or read succeeds. -/
def Transfers (c : Command) : Prop :=
  if c.sets then modbus.transfer = .sent true else modbus.read = .done

end Command

/-! ## What is accepted -/

/-- The first parameter converts to a value that is fine. -/
def Accepted (convert : P → Except ScpiError α) (fine : α → Prop) :
    List (Except ScpiError P) → Prop
  | .ok p :: _ => ∃ a, convert p = .ok a ∧ fine a
  | _ => False

/-- So do the first three. -/
def Accepted3 (convert : P → Except ScpiError α) : List (Except ScpiError P) → Prop
  | .ok p :: .ok q :: .ok r :: _ =>
    ∃ a b c, convert p = .ok a ∧ convert q = .ok b ∧ convert r = .ok c
  | _ => False

/-- The parameters are what the documentation asks for. -/
def Command.Accepts (params : List (Except ScpiError P)) : Command → Prop
  | .rcl => Accepted parser.toUnsignedInt (fun n => 1 ≤ n ∧ n ≤ numberOfPresets) params
  | .displayBrightness => Accepted parser.toUnsignedInt (fun n => n ≤ 5) params
  | .displayLanguage =>
      Accepted (parser.toChoice languageOptions) (fun n => 0 ≤ n ∧ n ≤ 4) params ∨
        Accepted parser.toInt (fun n => 0 ≤ n ∧ n ≤ 4) params
  | .systemDate | .systemTime => Accepted3 parser.toUnsignedInt params
  | .outputState | .systemBeeperState => Accepted parser.toBool (fun _ => True) params
  | .sourceVoltage | .sourceVoltageLimit =>
      Accepted parser.toNumber (fun value => value.1 = .none ∨ value.1 = .volt) params
  | .sourceCurrent | .sourceCurrentLimit =>
      Accepted parser.toNumber (fun value => value.1 = .none ∨ value.1 = .amper) params
  | .measureTemperatureQ => Accepted (parser.toChoice temperatureOptions) (fun _ => True) params
  | _ => True

/-- The discipline of the error queue: a command that takes effect pushes no error. Any
    other pushes one and gives no response, and writes nothing if it was not `accepted`. -/
def Disciplined (transfers accepted : Prop) (ctx : ScpiContext P)
    (out : ScpiResult × ScpiContext P) : Prop :=
  (out.1 = .ok ∧ transfers → out.2.errors = ctx.errors) ∧
  (¬ (out.1 = .ok ∧ transfers) → (∃ e, out.2.errors = ctx.errors ++ [e]) ∧
    out.2.responses = ctx.responses ∧ (¬ accepted → out.2.written = ctx.written))

/-! ## Reading parameters -/

section

variable (ctx : ScpiContext P) (convert : P → Except ScpiError α)

theorem parameter_cases :
    (∃ p ps, ctx.params = .ok p :: ps ∧ ctx.parameter = (some p, { ctx with params := ps })) ∨
    (∃ ps e, ctx.parameter = (none, { ctx with params := ps }.errorPush e) ∧
      ∀ p qs, ctx.params ≠ .ok p :: qs) := by
  cases ctx with
  | mk params errors responses written =>
    cases params with
    | nil => exact Or.inr ⟨_, _, rfl, fun p qs h => by cases h⟩
    | cons x ps =>
      cases x with
      | error e => exact Or.inr ⟨_, _, rfl, fun p qs h => by cases h⟩
      | ok p => exact Or.inl ⟨p, ps, rfl, rfl⟩

variable {ctx convert} in
theorem param_of_ok {p : P} {ps : List (Except ScpiError P)} {a : α} (h : ctx.params = .ok p :: ps)
    (ha : convert p = .ok a) : ctx.param convert = (some a, { ctx with params := ps }) := by
  rw [ScpiContext.param, ScpiContext.parameter, h]
  dsimp only
  rw [ha]
  rfl

variable {ctx convert} in
theorem params3_of_ok {p q r : P} {ps : List (Except ScpiError P)} {a b c : α}
    (h : ctx.params = .ok p :: .ok q :: .ok r :: ps) (ha : convert p = .ok a)
    (hb : convert q = .ok b) (hc : convert r = .ok c) :
    ctx.params3 convert = (some (a, b, c), { ctx with params := ps }) := by
  rw [ScpiContext.params3, param_of_ok h ha]
  dsimp only
  rw [param_of_ok (p := q) rfl hb]
  dsimp only
  rw [param_of_ok (p := r) rfl hc]

/-- A parameter converts, or one error is pushed. -/
theorem param_cases :
    (∃ p ps a, ctx.params = .ok p :: ps ∧ convert p = .ok a ∧
      ctx.param convert = (some a, { ctx with params := ps })) ∨
    (∃ ps e, ctx.param convert = (none, { ctx with params := ps }.errorPush e) ∧
      ¬ Accepted convert (fun _ => True) ctx.params) := by
  rw [ScpiContext.param]
  rcases parameter_cases ctx with ⟨p, ps, hparams, heq⟩ | ⟨ps, e, heq, hparams⟩
  · rw [heq]
    dsimp only
    cases hp : convert p with
    | ok a => exact Or.inl ⟨p, ps, a, hparams, hp, rfl⟩
    | error e =>
      refine Or.inr ⟨ps, e, rfl, fun h => ?_⟩
      rw [hparams] at h
      obtain ⟨a, ha, -⟩ := h
      rw [hp] at ha
      cases ha
  · rw [heq]
    refine Or.inr ⟨ps, e, rfl, fun h => ?_⟩
    cases hx : ctx.params with
    | nil =>
      rw [hx] at h
      exact h
    | cons x qs =>
      cases x with
      | error e' =>
        rw [hx] at h
        exact h
      | ok p => exact hparams p qs hx

theorem params3_cases :
    (∃ ps a, Accepted3 convert ctx.params ∧
      ctx.params3 convert = (some a, { ctx with params := ps })) ∨
    (∃ ps e, ctx.params3 convert = (none, { ctx with params := ps }.errorPush e)) := by
  rw [ScpiContext.params3]
  rcases param_cases ctx convert with ⟨p, ps, a, hp, ha, heq⟩ | ⟨ps, e, heq, -⟩
  swap
  · rw [heq]
    exact Or.inr ⟨ps, e, rfl⟩
  rw [heq]
  dsimp only
  rcases param_cases { ctx with params := ps } convert with
    ⟨q, qs, b, hq, hb, heq⟩ | ⟨qs, e, heq, -⟩
  swap
  · rw [heq]
    exact Or.inr ⟨qs, e, rfl⟩
  rw [heq]
  dsimp only
  rcases param_cases { ctx with params := qs } convert with
    ⟨r, rs, c, hr, hc, heq⟩ | ⟨rs, e, heq, -⟩
  swap
  · rw [heq]
    exact Or.inr ⟨rs, e, rfl⟩
  rw [heq]
  refine Or.inl ⟨rs, (a, b, c), ?_, rfl⟩
  change ps = _ at hq
  change qs = _ at hr
  rw [hp, hq, hr]
  exact ⟨a, b, c, ha, hb, hc⟩

variable {ctx convert} in
/-- Where three parameters are accepted, none of them is missing. -/
theorem Accepted3.params3 (h : Accepted3 convert ctx.params) :
    ∃ a ctx', ctx.params3 convert = (some a, ctx') := by
  obtain ⟨params, errors, responses, written⟩ := ctx
  dsimp only at h
  unfold Accepted3 at h
  split at h
  · obtain ⟨a, b, c, ha, hb, hc⟩ := h
    exact ⟨_, _, params3_of_ok rfl ha hb hc⟩
  · exact h.elim

end

/-! ## The discipline of the families -/

section

variable {parser div mul s modbus} {ctx ctx' : ScpiContext P} {handler : Handler P}
  {transfers accepted : Prop}

theorem dispatch_of_pushed {e : ScpiError} {es : List ScpiError}
    (h : (handler ctx).2.errors = ctx.errors ++ e :: es) :
    dispatch handler ctx = handler ctx := by
  refine if_neg fun hand => ?_
  have hlength := hand.2
  rw [h, List.length_append, List.length_cons] at hlength
  omega

theorem dispatch_of_ok (h : handler ctx = (.ok, ctx')) : dispatch handler ctx = (.ok, ctx') := by
  rw [dispatch, h]
  exact if_neg fun hand => by cases hand.1

theorem disciplined_ok (h : handler ctx = (.ok, ctx')) (htransfers : transfers)
    (herrors : ctx'.errors = ctx.errors) :
    Disciplined transfers accepted ctx (dispatch handler ctx) := by
  rw [dispatch_of_ok h]
  exact ⟨fun _ => herrors, fun hnot => absurd ⟨rfl, htransfers⟩ hnot⟩

/-- It succeeds without an error, although nothing was transferred. -/
theorem not_disciplined_ok (h : handler ctx = (.ok, ctx')) (htransfers : ¬ transfers)
    (herrors : ctx'.errors = ctx.errors) :
    ¬ Disciplined transfers accepted ctx (dispatch handler ctx) := by
  rw [dispatch_of_ok h]
  intro hdisciplined
  obtain ⟨⟨e, he⟩, -⟩ := hdisciplined.2 fun hand => htransfers hand.2
  exact List.cons_ne_nil e [] (List.append_right_eq_self.1 (he.symm.trans herrors))

/-- One error was pushed, by the handler or after it. -/
theorem disciplined_err {ctx'' : ScpiContext P} {e : ScpiError}
    (h : dispatch handler ctx = (.err, ctx''.errorPush e)) (herrors : ctx''.errors = ctx.errors)
    (hresponses : ctx''.responses = ctx.responses)
    (hwritten : ¬ accepted → ctx''.written = ctx.written) :
    Disciplined transfers accepted ctx (dispatch handler ctx) := by
  rw [h]
  refine ⟨fun hok => (nomatch hok.1), fun _ => ⟨⟨e, ?_⟩, hresponses, hwritten⟩⟩
  rw [← herrors]
  rfl

theorem dispatch_of_err {e : ScpiError} (h : handler ctx = (.err, ctx'.errorPush e))
    (herrors : ctx'.errors = ctx.errors) : dispatch handler ctx = (.err, ctx'.errorPush e) := by
  have herr : (handler ctx).2.errors = ctx.errors ++ [e] := by
    rw [h, ← herrors]
    rfl
  rw [dispatch_of_pushed herr, h]

/-- A setter that is called keeps the discipline, unless it is answered by an exception. -/
theorem disciplined_finish_iff {q : Setting} {w : ℕ × List ℕ} {ps : List (Except ScpiError P)}
    (h : handler ctx = finish mul s modbus q { ctx with params := ps })
    (hw : q.write mul s = some w) (haccepted : accepted) :
    Disciplined (modbus.transfer = .sent true) accepted ctx (dispatch handler ctx) ↔
      modbus.transfer ≠ .exception := by
  rw [finish, Setting.set_eq, hw] at h
  cases htransfer : modbus.transfer with
  | refused =>
    rw [htransfer] at h
    exact iff_of_true (disciplined_err (dispatch_of_err h rfl) rfl rfl
      fun hnot => absurd haccepted hnot) (by decide)
  | exception =>
    rw [htransfer] at h
    exact iff_of_false (not_disciplined_ok h (by decide) rfl) fun hne => hne rfl
  | sent answered =>
    rw [htransfer] at h
    cases answered with
    | false =>
      exact iff_of_true (disciplined_err (dispatch_of_err h rfl) rfl rfl
        fun hnot => absurd haccepted hnot) (by decide)
    | true => exact iff_of_true (disciplined_ok h rfl rfl) (by decide)

theorem command_of_none {read : ScpiContext P → Option α × ScpiContext P}
    {check : α → Option ScpiError} {set : α → Setting} {a : α} (hread : read ctx = (some a, ctx'))
    (ha : check a = none) :
    command mul s modbus read check set ctx = finish mul s modbus (set a) ctx' := by
  rw [command, hread]
  dsimp only
  rw [ha]

theorem command_of_some {read : ScpiContext P → Option α × ScpiContext P}
    {check : α → Option ScpiError} {set : α → Setting} {a : α} {e : ScpiError}
    (hread : read ctx = (some a, ctx')) (ha : check a = some e) :
    command mul s modbus read check set ctx = (.err, ctx'.errorPush e) := by
  rw [command, hread]
  dsimp only
  rw [ha]

theorem disciplined_command_iff {read : ScpiContext P → Option α × ScpiContext P}
    {check : α → Option ScpiError} {set : α → Setting}
    (hwrite : ∀ a, check a = none → ∃ w, (set a).write mul s = some w)
    (hread : (∃ ps a, read ctx = (some a, { ctx with params := ps }) ∧
        (check a = none ↔ accepted)) ∨
      ∃ ps e, read ctx = (none, { ctx with params := ps }.errorPush e) ∧ ¬ accepted) :
    Disciplined (modbus.transfer = .sent true) accepted ctx
        (dispatch (command mul s modbus read check set) ctx) ↔
      (accepted → modbus.transfer ≠ .exception) := by
  rcases hread with ⟨ps, a, hread, hcheck⟩ | ⟨ps, e, hread, hnot⟩
  · cases ha : check a with
    | none =>
      obtain ⟨w, hw⟩ := hwrite a ha
      have haccepted := hcheck.1 ha
      rw [disciplined_finish_iff (command_of_none hread ha) hw haccepted]
      exact ⟨fun h _ => h, fun h => h haccepted⟩
    | some e =>
      refine iff_of_true (disciplined_err (dispatch_of_err (command_of_some hread ha) rfl) rfl rfl
        fun _ => rfl) fun haccepted => ?_
      rw [hcheck.2 haccepted] at ha
      cases ha
  · have h : command mul s modbus read check set ctx =
        (.err, { ctx with params := ps }.errorPush e) := by
      rw [command, hread]
    exact iff_of_true (disciplined_err (dispatch_of_err h rfl) rfl rfl fun _ => rfl)
      fun haccepted => absurd haccepted hnot

theorem accepted_iff {convert : P → Except ScpiError α} {fine : α → Prop} {p : P}
    {ps : List (Except ScpiError P)} {a : α} (hparams : ctx.params = .ok p :: ps)
    (ha : convert p = .ok a) : Accepted convert fine ctx.params ↔ fine a := by
  rw [hparams, Accepted]
  constructor
  · rintro ⟨a', ha', hfine⟩
    rwa [Except.ok.inj (ha.symm.trans ha')]
  · exact fun hfine => ⟨a, ha, hfine⟩

theorem Accepted.mono {convert : P → Except ScpiError α} {fine : α → Prop}
    (h : Accepted convert fine ctx.params) : Accepted convert (fun _ => True) ctx.params := by
  generalize ctx.params = params at h
  cases params with
  | nil => exact h
  | cons x ps =>
    cases x with
    | error e => exact h
    | ok p =>
      obtain ⟨a, ha, -⟩ := h
      exact ⟨a, ha, trivial⟩

theorem disciplined_param_iff {convert : P → Except ScpiError α} {check : α → Option ScpiError}
    {set : α → Setting} {fine : α → Prop} (hfine : ∀ a, check a = none ↔ fine a)
    (hwrite : ∀ a, fine a → ∃ w, (set a).write mul s = some w) :
    Disciplined (modbus.transfer = .sent true) (Accepted convert fine ctx.params) ctx
        (dispatch (command mul s modbus (·.param convert) check set) ctx) ↔
      (Accepted convert fine ctx.params → modbus.transfer ≠ .exception) := by
  refine disciplined_command_iff (fun a ha => hwrite a ((hfine a).1 ha)) ?_
  rcases param_cases ctx convert with ⟨p, ps, a, hparams, ha, heq⟩ | ⟨ps, e, heq, hnot⟩
  · exact Or.inl ⟨ps, a, heq, (hfine a).trans (accepted_iff hparams ha).symm⟩
  · exact Or.inr ⟨ps, e, heq, fun h => hnot h.mono⟩

theorem disciplined_params3_iff {convert : P → Except ScpiError α} {set : α × α × α → Setting}
    (hwrite : ∀ a, ∃ w, (set a).write mul s = some w) :
    Disciplined (modbus.transfer = .sent true) (Accepted3 convert ctx.params) ctx
        (dispatch (command mul s modbus (·.params3 convert) (fun _ => none) set) ctx) ↔
      (Accepted3 convert ctx.params → modbus.transfer ≠ .exception) := by
  refine disciplined_command_iff (fun a _ => hwrite a) ?_
  rcases params3_cases ctx convert with ⟨ps, a, haccepted, heq⟩ | ⟨ps, e, heq⟩
  · exact Or.inl ⟨ps, a, heq, iff_of_true rfl haccepted⟩
  · refine Or.inr ⟨ps, e, heq, fun haccepted => ?_⟩
    obtain ⟨a, ctx', hread⟩ := haccepted.params3
    rw [heq] at hread
    cases hread

/-- A getter that is called keeps the discipline, unless it is answered by an exception: then
    there is a response all the same. -/
theorem disciplined_of_query_iff {g : Getter τ} {respond : τ → List Response}
    {ps : List (Except ScpiError P)} (hg : g.reads ≠ [])
    (h : handler ctx = query modbus g respond { ctx with params := ps }) :
    Disciplined (modbus.read = .done) accepted ctx (dispatch handler ctx) ↔
      modbus.read ≠ .exception := by
  rw [query] at h
  cases hread : modbus.read with
  | failed =>
    rw [hread, Getter.outcome_failed hg] at h
    exact iff_of_true (disciplined_err (dispatch_of_err h rfl) rfl rfl fun _ => rfl) (by decide)
  | done =>
    rw [hread, Getter.outcome_done] at h
    exact iff_of_true (disciplined_ok h rfl rfl) (by decide)
  | exception =>
    obtain ⟨value, hvalue⟩ :=
      @Getter.exists_outcome_exception _ g modbus.registers modbus.locals
    rw [hread, hvalue] at h
    exact iff_of_false (not_disciplined_ok h (by decide) rfl) fun hne => hne rfl

theorem disciplined_query_iff {g : Getter τ} {respond : τ → List Response} (hg : g.reads ≠ []) :
    Disciplined (modbus.read = .done) accepted ctx (dispatch (query modbus g respond) ctx) ↔
      modbus.read ≠ .exception :=
  have h : query modbus g respond ctx =
    query modbus g respond { ctx with params := ctx.params } := rfl
  disciplined_of_query_iff hg h

/-- A handler that pushed an error itself breaks the discipline, unless this is the only one
    and it has failed. -/
theorem not_disciplined_of_pushed {e : ScpiError} {es : List ScpiError}
    (herrors : (handler ctx).2.errors = ctx.errors ++ e :: es)
    (hone : es = [] → (handler ctx).1 = .ok ∧ transfers) :
    ¬ Disciplined transfers accepted ctx (dispatch handler ctx) := by
  rw [dispatch_of_pushed herrors]
  rintro ⟨heffect, hnone⟩
  by_cases h : (handler ctx).1 = .ok ∧ transfers
  · have hnil : ctx.errors ++ e :: es = ctx.errors := herrors.symm.trans (heffect h)
    exact List.cons_ne_nil e es (List.append_right_eq_self.1 hnil)
  · obtain ⟨⟨e', he'⟩, -⟩ := hnone h
    rw [herrors, List.append_cancel_left_eq, List.cons.injEq] at he'
    exact h (hone he'.2)

/-- A setter that is called behind an error keeps the discipline exactly if it is answered by
    an exception: then this error is the one that is owed. -/
theorem disciplined_finish_pushed_iff {q : Setting} {w : ℕ × List ℕ}
    {ps : List (Except ScpiError P)} {e : ScpiError}
    (h : handler ctx = finish mul s modbus q ({ ctx with params := ps }.errorPush e))
    (hw : q.write mul s = some w) (haccepted : accepted) :
    Disciplined (modbus.transfer = .sent true) accepted ctx (dispatch handler ctx) ↔
      modbus.transfer = .exception := by
  rw [finish, Setting.set_eq, hw] at h
  have htwo {ctx' : ScpiContext P} (hfailed : handler ctx = (.err, ctx'.errorPush .command))
      (herrors : ctx'.errors = ctx.errors ++ [e]) :
      (handler ctx).2.errors = ctx.errors ++ [e, .command] := by
    rw [hfailed, ScpiContext.errorPush, herrors]
    exact List.append_assoc ..
  cases htransfer : modbus.transfer with
  | refused =>
    rw [htransfer] at h
    exact iff_of_false (not_disciplined_of_pushed (htwo h rfl) fun hnil => by cases hnil)
      (by decide)
  | exception =>
    rw [htransfer] at h
    rw [dispatch_of_ok h]
    refine iff_of_true ⟨fun heffect => ?_, fun _ => ⟨⟨e, rfl⟩, rfl, ?_⟩⟩ rfl
    · cases heffect.2
    · exact fun hnot => absurd haccepted hnot
  | sent answered =>
    rw [htransfer] at h
    cases answered with
    | false =>
      exact iff_of_false (not_disciplined_of_pushed (htwo h rfl) fun hnil => by cases hnil)
        (by decide)
    | true =>
      have herrors : (handler ctx).2.errors = ctx.errors ++ [e] := by
        rw [h]
        rfl
      refine iff_of_false (not_disciplined_of_pushed herrors fun _ => ⟨?_, rfl⟩) (by decide)
      rw [h]
      rfl

/-! ## The handlers with bodies of their own -/

theorem disciplined_outputModeQ_iff :
    Disciplined (modbus.read = .done) accepted ctx (dispatch (outputModeQ modbus) ctx) ↔
      modbus.read ≠ .exception := by
  have hok {outputMode : OutputMode} (hmode : RidenModbus.getOutputMode.outcome
      modbus.read modbus.registers modbus.locals = some outputMode) : ∃ text,
        outputModeQ modbus ctx =
          (.ok, { ctx with responses := ctx.responses ++ [.text text] }) :=
    ⟨_, by rw [outputModeQ, hmode]⟩
  cases hread : modbus.read with
  | failed =>
    have h : outputModeQ modbus ctx = (.err, ctx) := by
      rw [outputModeQ, hread, Getter.outcome_failed (List.cons_ne_nil _ _)]
    have hdispatch : dispatch (outputModeQ modbus) ctx =
        (.err, ctx.errorPush .executionError) := by
      rw [dispatch, h]
      exact if_pos ⟨rfl, rfl⟩
    exact iff_of_true (disciplined_err hdispatch rfl rfl fun _ => rfl) (by decide)
  | done =>
    obtain ⟨text, h⟩ := hok (hread ▸ Getter.outcome_done)
    exact iff_of_true (disciplined_ok h rfl rfl) (by decide)
  | exception =>
    obtain ⟨outputMode, hmode⟩ := @Getter.exists_outcome_exception _ RidenModbus.getOutputMode
      modbus.registers modbus.locals
    obtain ⟨text, h⟩ := hok (hread ▸ hmode)
    exact iff_of_false (not_disciplined_ok h (by decide) rfl) fun hne => hne rfl

variable (parser modbus) in
theorem disciplined_measureTemperatureQ_iff :
    Disciplined (modbus.read = .done) accepted ctx
        (dispatch (measureTemperatureQ parser modbus) ctx) ↔
      Accepted (parser.toChoice temperatureOptions) (fun _ => True) ctx.params ∧
        modbus.read ≠ .exception := by
  rcases param_cases ctx (parser.toChoice temperatureOptions) with
    ⟨p, ps, a, hparams, ha, heq⟩ | ⟨ps, e, heq, hnot⟩
  · have h : measureTemperatureQ parser modbus ctx =
        query modbus (if a = 0 then RidenModbus.getSystemTemperatureCelsius
          else RidenModbus.getProbeTemperatureCelsius) (fun temperature => [.double temperature])
          { ctx with params := ps } := by
      rw [measureTemperatureQ, heq]
    have hreads : (if a = 0 then RidenModbus.getSystemTemperatureCelsius
        else RidenModbus.getProbeTemperatureCelsius).reads ≠ [] := by
      split_ifs <;> exact List.cons_ne_nil _ _
    rw [disciplined_of_query_iff hreads h, and_iff_right ((accepted_iff hparams ha).2 trivial)]
  · -- both the parser and the handler push an error
    refine iff_of_false ?_ fun hand => hnot hand.1
    have h : measureTemperatureQ parser modbus ctx =
        (.err, ({ ctx with params := ps }.errorPush e).errorPush .illegalParameterValue) := by
      rw [measureTemperatureQ, heq]
    have herrors : (measureTemperatureQ parser modbus ctx).2.errors =
        ctx.errors ++ [e, .illegalParameterValue] := by
      rw [h]
      exact List.append_assoc ..
    exact not_disciplined_of_pushed herrors fun hnil => by cases hnil

/-- What comes of the parameter once it was read. -/
theorem displayLanguage_of_parameter {p : P} {ps : List (Except ScpiError P)}
    (h : ctx.parameter = (some p, { ctx with params := ps })) {n : ℤ}
    (hn : parser.toChoice languageOptions p = .ok n) :
    displayLanguage parser mul s modbus ctx =
      if n < 0 ∨ 4 < n then
        (.err, { ctx with params := ps }.errorPush .illegalParameterValue)
      else finish mul s modbus (.language (RidenModbus.intToUint16 n))
        { ctx with params := ps } := by
  rw [displayLanguage, h]
  dsimp only
  rw [hn]
  rfl

/-- A number that is no choice of a language leaves an error before it is looked at. -/
theorem displayLanguage_of_error {p : P} {ps : List (Except ScpiError P)}
    (h : ctx.parameter = (some p, { ctx with params := ps })) {e : ScpiError}
    (he : parser.toChoice languageOptions p = .error e) {n : ℤ} (hn : parser.toInt p = .ok n) :
    displayLanguage parser mul s modbus ctx =
      if n < 0 ∨ 4 < n then
        (.err, ({ ctx with params := ps }.errorPush e).errorPush .illegalParameterValue)
      else finish mul s modbus (.language (RidenModbus.intToUint16 n))
        ({ ctx with params := ps }.errorPush e) := by
  rw [displayLanguage, h]
  dsimp only
  rw [he]
  dsimp only [ScpiContext.paramTo]
  rw [hn]

/-- The language is in range. -/
def InLanguages (n : ℤ) : Prop := 0 ≤ n ∧ n ≤ 4

theorem inLanguages_of_not_out {n : ℤ} (h : ¬ (n < 0 ∨ 4 < n)) : InLanguages n := by
  rw [InLanguages]
  omega

theorem not_inLanguages_of_out {n : ℤ} (h : n < 0 ∨ 4 < n) : ¬ InLanguages n := by
  rw [InLanguages]
  omega

/-- A parameter that is neither a choice of a language nor a number. -/
theorem not_disciplined_displayLanguage {p : P} {ps : List (Except ScpiError P)}
    (h : ctx.parameter = (some p, { ctx with params := ps })) {e e' : ScpiError}
    (he : parser.toChoice languageOptions p = .error e) (he' : parser.toInt p = .error e') :
    ¬ Disciplined transfers accepted ctx (dispatch (displayLanguage parser mul s modbus) ctx) := by
  -- one error from each of the parser's functions, and one from the handler
  have herrors : (displayLanguage parser mul s modbus ctx).2.errors =
      ctx.errors ++ [e, e', .illegalParameterValue] := by
    rw [displayLanguage, h]
    dsimp only
    rw [he]
    dsimp only [ScpiContext.paramTo]
    rw [he']
    simp [ScpiContext.errorPush]
  exact not_disciplined_of_pushed herrors fun hnil => by cases hnil

/-- A parameter that is no choice of a language leaves its error. If it is a number that the
    power supply does not take, this error is the one that is owed. -/
theorem disciplined_displayLanguage_of_error {p : P} {ps : List (Except ScpiError P)}
    (hparams : ctx.params = .ok p :: ps)
    (h : ctx.parameter = (some p, { ctx with params := ps })) {e : ScpiError}
    (he : parser.toChoice languageOptions p = .error e) :
    Disciplined (modbus.transfer = .sent true)
        (Command.displayLanguage.Accepts parser ctx.params) ctx
        (dispatch (displayLanguage parser mul s modbus) ctx) ↔
      (∃ n, parser.toInt p = .ok n ∧ InLanguages n) ∧ modbus.transfer = .exception := by
  cases hint : parser.toInt p with
  | error e' =>
    refine iff_of_false (not_disciplined_displayLanguage h he hint) ?_
    rintro ⟨⟨n, hn, -⟩, -⟩
    cases hn
  | ok n =>
    have heq := @displayLanguage_of_error _ parser mul s modbus ctx p ps h e he n hint
    have hn : (∃ n', Except.ok (ε := ScpiError) n = .ok n' ∧ InLanguages n') ↔ InLanguages n :=
      ⟨fun ⟨_, hn', hrange⟩ => Except.ok.inj hn' ▸ hrange, fun hrange => ⟨n, rfl, hrange⟩⟩
    rw [hn]
    split_ifs at heq with hrange
    · -- the number is no language either, and there are two errors
      have herrors : (displayLanguage parser mul s modbus ctx).2.errors =
          ctx.errors ++ [e, .illegalParameterValue] := by
        rw [heq]
        exact List.append_assoc ..
      exact iff_of_false (not_disciplined_of_pushed herrors fun hnil => by cases hnil)
        fun hand => not_inLanguages_of_out hrange hand.1
    · -- the number is a language, and is set
      have hlanguage := inLanguages_of_not_out hrange
      have haccepted : Command.displayLanguage.Accepts parser ctx.params := by
        refine Or.inr ?_
        rw [hparams]
        exact ⟨n, hint, hlanguage⟩
      rw [and_iff_right hlanguage]
      exact disciplined_finish_pushed_iff heq rfl haccepted

/-- A parameter that is a choice of a language. -/
theorem disciplined_displayLanguage_of_choice {p : P} {ps : List (Except ScpiError P)}
    (hparams : ctx.params = .ok p :: ps)
    (h : ctx.parameter = (some p, { ctx with params := ps })) {n : ℤ}
    (hn : parser.toChoice languageOptions p = .ok n) :
    Disciplined (modbus.transfer = .sent true)
        (Command.displayLanguage.Accepts parser ctx.params) ctx
        (dispatch (displayLanguage parser mul s modbus) ctx) ↔
      (InLanguages n → modbus.transfer ≠ .exception) := by
  have heq : displayLanguage parser mul s modbus ctx = _ := displayLanguage_of_parameter h hn
  split_ifs at heq with hrange
  · exact iff_of_true (disciplined_err (dispatch_of_err heq rfl) rfl rfl fun _ => rfl)
      fun hlanguage => absurd hlanguage (not_inLanguages_of_out hrange)
  · have hlanguage := inLanguages_of_not_out hrange
    have haccepted : Command.displayLanguage.Accepts parser ctx.params :=
      Or.inl ((accepted_iff hparams hn).2 hlanguage)
    rw [disciplined_finish_iff heq rfl haccepted]
    exact ⟨fun hne _ => hne, fun himp => himp hlanguage⟩

/-- What keeps the discipline of `DISPlay:LANGuage`: no parameter at all, the name of a
    language that the power supply takes, or the number of one that it does not take. -/
def LanguageKeeps (parser : ScpiParser P) (transfer : Transfer)
    (params : List (Except ScpiError P)) : Prop :=
  ∀ p ps, params = .ok p :: ps →
    (∃ n, parser.toChoice languageOptions p = .ok n ∧
      (InLanguages n → transfer ≠ .exception)) ∨
    ((∃ e, parser.toChoice languageOptions p = .error e) ∧
      (∃ n, parser.toInt p = .ok n ∧ InLanguages n) ∧ transfer = .exception)

theorem languageKeeps_iff {transfer : Transfer} {params : List (Except ScpiError P)} {p : P}
    {ps : List (Except ScpiError P)} (hparams : params = .ok p :: ps) :
    LanguageKeeps parser transfer params ↔
      (∃ n, parser.toChoice languageOptions p = .ok n ∧
        (InLanguages n → transfer ≠ .exception)) ∨
      ((∃ e, parser.toChoice languageOptions p = .error e) ∧
        (∃ n, parser.toInt p = .ok n ∧ InLanguages n) ∧ transfer = .exception) := by
  refine ⟨fun h => h p ps hparams, fun h p' ps' hparams' => ?_⟩
  rw [hparams] at hparams'
  cases hparams'
  exact h

variable (parser mul s modbus) in
theorem disciplined_displayLanguage_iff :
    Disciplined (modbus.transfer = .sent true)
        (Command.displayLanguage.Accepts parser ctx.params) ctx
        (dispatch (displayLanguage parser mul s modbus) ctx) ↔
      LanguageKeeps parser modbus.transfer ctx.params := by
  rcases parameter_cases ctx with ⟨p, ps, hparams, heq⟩ | ⟨ps, e, heq, hnot⟩
  · rw [languageKeeps_iff hparams]
    cases hp : parser.toChoice languageOptions p with
    | ok n =>
      rw [disciplined_displayLanguage_of_choice hparams heq hp]
      simp
    | error e =>
      rw [disciplined_displayLanguage_of_error hparams heq hp]
      simp
  · refine iff_of_true ?_ fun p ps h => absurd h (hnot p ps)
    have h : displayLanguage parser mul s modbus ctx =
        (.err, { ctx with params := ps }.errorPush e) := by
      rw [displayLanguage, heq]
    exact disciplined_err (dispatch_of_err h rfl) rfl rfl fun _ => rfl

/-! ## The discipline of all commands -/

end

theorem checkUnit_eq_none_iff {expected : ScpiUnit} {value : ScpiUnit × ℚ} :
    checkUnit expected value = none ↔ value.1 = .none ∨ value.1 = expected := by
  rw [checkUnit]
  split_ifs with h
  · exact iff_of_false (by simp) fun hor => hor.elim h.1 h.2
  · exact iff_of_true rfl (by rwa [not_and_or, not_not, not_not] at h)

/-- When a command keeps the discipline: its transfer is not answered by an exception, and a
    name is given where a name is looked up. -/
def Command.Keeps (c : Command) (params : List (Except ScpiError P)) : Prop :=
  if c = .displayLanguage then LanguageKeeps parser modbus.transfer params
  else if c = .measureTemperatureQ then
    Accepted (parser.toChoice temperatureOptions) (fun _ => True) params ∧
      modbus.read ≠ .exception
  else if c.sets then c.Accepts parser params → modbus.transfer ≠ .exception
  else modbus.read ≠ .exception

/-- **Error queue discipline.** A command pushes no error if it takes effect, and else
    one error, giving no response, and writing nothing if a parameter was rejected;
    except where the power supply answers with an exception, for `DISPlay:LANGuage` with a
    parameter that is not the name of a language, and for `MEASure:TEMPerature?` without
    the name of a sensor. -/
theorem disciplined_iff (c : Command) (ctx : ScpiContext P) :
    Disciplined (c.Transfers modbus) (c.Accepts parser ctx.params) ctx
      (dispatch (c.callback parser div mul s modbus) ctx) ↔ c.Keeps parser modbus ctx.params := by
  cases c with
  | displayLanguage => exact disciplined_displayLanguage_iff parser mul s modbus
  | measureTemperatureQ => exact disciplined_measureTemperatureQ_iff parser modbus
  | outputModeQ => exact disciplined_outputModeQ_iff
  | rcl =>
    refine disciplined_param_iff (fun profile => ?_) fun profile hfine => ⟨_, if_neg ?_⟩
    · split_ifs with hrange
      · refine iff_of_false (by simp) fun hfine => ?_
        omega
      · exact iff_of_true rfl (by omega)
    · obtain ⟨hlow, hhigh⟩ := hfine
      have hlast : profile ≤ 9 := hhigh
      have hcount : numberOfPresets = 9 := rfl
      omega
  | displayBrightness =>
    refine disciplined_param_iff (fun brightness => ?_) fun _ _ => ⟨_, rfl⟩
    split_ifs with hrange
    · exact iff_of_false (by simp) (by omega)
    · exact iff_of_true rfl (by omega)
  | systemDate | systemTime => exact disciplined_params3_iff fun _ => ⟨_, rfl⟩
  | outputState | systemBeeperState =>
    exact disciplined_param_iff (fun _ => iff_of_true rfl trivial) fun _ _ => ⟨_, rfl⟩
  | sourceVoltage | sourceCurrent | sourceVoltageLimit | sourceCurrentLimit =>
    exact disciplined_param_iff (fun _ => checkUnit_eq_none_iff) fun _ _ => ⟨_, rfl⟩
  | _ => exact disciplined_query_iff (List.cons_ne_nil _ _)

/-- A parser of parameters that are numbers: none is the name of a choice. -/
def numericParser : ScpiParser ℤ where
  toUnsignedInt n := if n < 0 then .error .dataTypeError else .ok n.toNat
  toInt := .ok
  toBool n := .ok (n != 0)
  toChoice _ _ := .error .dataTypeError
  toNumber n := .ok (.none, n)

/-- `DISPlay:LANGuage 3` is documented, and sets the language, but leaves an error. -/
theorem not_disciplined_language : ¬ Disciplined
    (Command.displayLanguage.Transfers ⟨.sent true, .failed, fun _ => 0, []⟩)
    (Command.displayLanguage.Accepts numericParser [.ok 3]) (P := ℤ) ⟨[.ok 3], [], [], []⟩
    (dispatch (Command.displayLanguage.callback numericParser (· / ·) (· * ·)
      ⟨"RD6006", 601 / 10, 6, 100, 1000, 100, 100⟩ ⟨.sent true, .failed, fun _ => 0, []⟩)
        ⟨[.ok 3], [], [], []⟩) := by
  intro h
  have hempty : [ScpiError.dataTypeError] = [] := h.1 ⟨rfl, rfl⟩
  cases hempty

end RidenScpi

end RidenDongle
