import RidenDongle.Http.Status
import RidenDongle.Scpi.Commands

/-!
# One power supply, many clients

What is set over one interface and read over another: the SCPI commands
(`riden_scpi.cpp`), the web page (`handle_set_v`, `handle_set_i`, `handle_toggle_out` and
`handle_status_get` in `riden_http_server.cpp`), and the clients of the bridge, which write
registers themselves.

* `Command.quantities`: what a command sets; `writesOnly_callback`: it writes nothing else.
* `Call`: a request over one of the interfaces; `Call.run`: its answer, and the registers of
  the power supply after it.
* `Wish`: what a call asks for; `Met`: the values of the register that meet the wish.
* `Shown`: the answer of a call shows the value of the register.
* `set_then_shown`: what was set and acknowledged, all interfaces show, until it is set again.

Doubles are the rationals they denote. The texts of numbers are a parameter (`NumberFormat`).
-/

namespace RidenDongle

open RidenModbus (Setting Quantity Transfer Near Represents NotSeparated)

/-! ## What the commands write -/

namespace RidenScpi

/-- What the command sets. -/
def Command.quantities : Command → List Quantity
  | rcl => [.single .activePreset]
  | displayBrightness => [.single .brightness]
  | displayLanguage => [.single .language]
  | systemDate => [.single .year, .single .month, .single .day]
  | systemTime => [.single .hour, .single .minute, .single .second]
  | outputState => [.single .output]
  | sourceVoltage => [.single .voltageSet]
  | sourceCurrent => [.single .currentSet]
  | sourceVoltageLimit => [.preset 0 .overVoltage]
  | sourceCurrentLimit => [.preset 0 .overCurrent]
  | systemBeeperState => [.single .buzzer]
  | _ => []

variable {P α : Type*} {τ : Type} {parser : ScpiParser P} {div mul : ℚ → ℚ → ℚ} {s : RidenModbus}
  {modbus : Modbus} {ctx : ScpiContext P}

/-- The registers are those of the quantities, and the values fit them. -/
def Writes (xs : List Quantity) (ws : List (ℕ × ℕ)) : Prop :=
  ∀ w ∈ ws, w.1 ∈ xs.map Quantity.register ∧ w.2 < 65536

/-- The handler writes these quantities only. -/
def WritesOnly (xs : List Quantity) (ctx : ScpiContext P) (out : ScpiResult × ScpiContext P) :
    Prop :=
  ∃ ws, out.2.written = ctx.written ++ ws ∧ Writes xs ws

theorem writesOnly_of_eq {xs : List Quantity} {out : ScpiResult × ScpiContext P}
    (h : out.2.written = ctx.written) : WritesOnly xs ctx out :=
  ⟨[], by rw [h, List.append_nil], nofun⟩

theorem WritesOnly.dispatch {xs : List Quantity} {handler : Handler P}
    (h : WritesOnly xs ctx (handler ctx)) : WritesOnly xs ctx (dispatch handler ctx) := by
  rw [RidenDongle.dispatch]
  split_ifs
  · exact h
  · exact h

/-- A setter writes what it sets, with values that fit if those of `write` do. -/
theorem writes_set {q : Setting} (hfit : ∀ w ∈ q.write mul s, ∀ v ∈ w.2, v < 65536) (t : Transfer) :
    Writes q.quantities (q.set mul s t).written := by
  intro w hw
  refine ⟨Setting.mem_written (List.mem_map_of_mem hw), ?_⟩
  rw [Setting.set_eq] at hw
  cases hq : q.write mul s with
  | none =>
    rw [hq] at hw
    cases hw
  | some block =>
    rw [hq] at hw
    cases t with
    | refused | exception => cases hw
    | sent answered =>
      have hvalue : w.2 ∈ (Cells.block block.1 block.2).map Prod.snd := List.mem_map_of_mem hw
      rw [Cells.values_block] at hvalue
      exact hfit block hq w.2 hvalue

theorem writesOnly_finish {q : Setting} (hfit : ∀ w ∈ q.write mul s, ∀ v ∈ w.2, v < 65536)
    {ctx' : ScpiContext P} (h : ctx'.written = ctx.written) :
    WritesOnly q.quantities ctx (finish mul s modbus q ctx') := by
  refine ⟨(q.set mul s modbus.transfer).written, ?_, writes_set hfit modbus.transfer⟩
  rw [finish, ← h]
  split_ifs <;> rfl

theorem writesOnly_command {xs : List Quantity} {read : ScpiContext P → Option α × ScpiContext P}
    {check : α → Option ScpiError} {set : α → Setting} (hread : (read ctx).2.written = ctx.written)
    (hset : ∀ a, (set a).quantities = xs)
    (hfit : ∀ a, ∀ w ∈ (set a).write mul s, ∀ v ∈ w.2, v < 65536) :
    WritesOnly xs ctx (command mul s modbus read check set ctx) := by
  rw [command]
  generalize read ctx = r at hread
  obtain ⟨a, ctx'⟩ := r
  cases a with
  | none => exact @writesOnly_of_eq _ ctx xs (.err, ctx') hread
  | some a =>
    dsimp only
    cases check a with
    | some e => exact @writesOnly_of_eq _ ctx xs (.err, ctx'.errorPush e) hread
    | none => exact hset a ▸ writesOnly_finish (hfit a) hread

theorem written_param (convert : P → Except ScpiError α) :
    (ctx.param convert).2.written = ctx.written := by
  rcases param_cases ctx convert with ⟨p, ps, a, -, -, heq⟩ | ⟨ps, e, heq, -⟩ <;> rw [heq]; rfl

theorem written_params3 (convert : P → Except ScpiError α) :
    (ctx.params3 convert).2.written = ctx.written := by
  rcases params3_cases ctx convert with ⟨ps, a, -, heq⟩ | ⟨ps, e, heq⟩ <;> rw [heq]; rfl

theorem writesOnly_query {xs : List Quantity} (g : Getter τ) (respond : τ → List Response) :
    WritesOnly xs ctx (query modbus g respond ctx) := by
  refine writesOnly_of_eq ?_
  rw [query]
  cases g.outcome modbus.read modbus.registers modbus.locals <;> rfl

theorem written_parameter : ctx.parameter.2.written = ctx.written := by
  rcases parameter_cases ctx with ⟨p, ps, -, heq⟩ | ⟨ps, e, heq, -⟩ <;> rw [heq]; rfl

theorem written_paramTo (x : Except ScpiError α) : (ctx.paramTo x).2.written = ctx.written := by
  cases x <;> rfl

/-- The language is written, however it was found. -/
theorem writesOnly_displayLanguage (ctx : ScpiContext P) :
    WritesOnly [.single .language] ctx (displayLanguage parser mul s modbus ctx) := by
  have hfit (language : ℤ) : ∀ w ∈ (Setting.language (RidenModbus.intToUint16 language)).write mul s,
      ∀ v ∈ w.2, v < 65536 := by
    rintro _ ⟨⟩ _ hv
    rw [List.mem_singleton.1 hv, RidenModbus.intToUint16]
    omega
  have hparameter := @written_parameter _ ctx
  rw [displayLanguage]
  generalize ctx.parameter = r at hparameter
  obtain ⟨p, ctx₁⟩ := r
  cases p with
  | none => exact @writesOnly_of_eq _ ctx _ (.err, ctx₁) hparameter
  | some p =>
    dsimp only
    have hchoice := (@written_paramTo _ _ ctx₁ (parser.toChoice languageOptions p)).trans hparameter
    generalize ctx₁.paramTo (parser.toChoice languageOptions p) = r at hchoice
    obtain ⟨choice, ctx₂⟩ := r
    cases choice with
    | none =>
      have hint := (@written_paramTo _ _ ctx₂ (parser.toInt p)).trans hchoice
      dsimp only
      generalize ctx₂.paramTo (parser.toInt p) = r at hint
      obtain ⟨number, ctx₃⟩ := r
      cases number with
      | none => exact writesOnly_of_eq hint
      | some language =>
        dsimp only
        split_ifs
        · exact writesOnly_of_eq hint
        · exact writesOnly_finish (hfit language) hint
    | some language =>
      dsimp only
      split_ifs
      · exact writesOnly_of_eq hchoice
      · exact writesOnly_finish (hfit language) hchoice

/-- A command writes what it sets, and nothing else. -/
theorem writesOnly_callback (c : Command) (ctx : ScpiContext P) :
    WritesOnly c.quantities ctx (dispatch (c.callback parser div mul s modbus) ctx) := by
  -- the setters write one register, the date and the time three, and the queries none
  refine WritesOnly.dispatch ?_
  cases c with
  | sourceVoltage | sourceCurrent | sourceVoltageLimit | sourceCurrentLimit =>
    refine writesOnly_command (written_param _) (fun _ => rfl) fun v => ?_
    rintro _ ⟨⟩ _ hv
    exact List.mem_singleton.1 hv ▸ toUint16_lt _
  | outputState | systemBeeperState =>
    refine writesOnly_command (written_param _) (fun _ => rfl) fun on => ?_
    rintro _ ⟨⟩ _ hv
    cases on <;> exact List.mem_singleton.1 hv ▸ by decide
  | rcl =>
    refine writesOnly_command (written_param _) (fun _ => rfl) fun n w hw _ hv => ?_
    rw [Setting.write] at hw
    split_ifs at hw
    · cases hw
    · cases hw
      rw [List.mem_singleton.1 hv]
      omega
  | displayBrightness =>
    refine writesOnly_command (written_param _) (fun _ => rfl) fun n => ?_
    rintro _ ⟨⟩ _ hv
    rw [List.mem_singleton.1 hv]
    omega
  | systemDate | systemTime =>
    refine writesOnly_command (written_params3 _) (fun _ => rfl) ?_
    rintro ⟨a, b, c⟩ _ ⟨⟩ _ hv
    simp only [List.mem_cons, List.not_mem_nil, or_false] at hv
    omega
  | displayLanguage => exact writesOnly_displayLanguage ctx
  | outputModeQ =>
    refine writesOnly_of_eq ?_
    rw [Command.callback, outputModeQ]
    cases RidenModbus.getOutputMode.outcome modbus.read modbus.registers modbus.locals <;> rfl
  | measureTemperatureQ =>
    refine writesOnly_of_eq ?_
    rw [Command.callback, measureTemperatureQ]
    have hchoice := @written_param _ _ ctx (parser.toChoice temperatureOptions)
    generalize ctx.param (parser.toChoice temperatureOptions) = r at hchoice
    obtain ⟨choice, ctx'⟩ := r
    cases choice with
    | none => exact hchoice
    | some choice =>
      dsimp only
      rw [query]
      generalize Getter.outcome _ modbus.read modbus.registers modbus.locals = value
      cases value <;> exact hchoice
  | _ => exact writesOnly_query _ _

end RidenScpi

namespace Panel

/-! ## Calls -/

/-- A request over one of the interfaces, and how its transfers go. The memory for a getter
    or a status held `locals` and `all`. What the power supply changes itself counts as
    written. -/
inductive Call (P : Type)
  | scpi (command : RidenScpi.Command) (params : List (Except ScpiError P)) (transfer : Transfer)
      (read : Exchange) (locals : List ℕ)
  | setV (v : ℚ) (transfer : Transfer)
  | setI (v : ℚ) (transfer : Transfer)
  | toggleOut (t : Transfers) (locals : ℕ → ℕ) (all : AllValues)
  | status (t : Transfers) (locals : ℕ → ℕ) (all : AllValues)
  | writeRegisters (offset : ℕ) (values : List UInt16)

/-- What the client gets; a client of the bridge gets what the power supply answers. -/
inductive Answer
  | scpi (result : ScpiResult) (responses : List Response)
  | http (reply : Reply)
  | bridge

/-- The end of `handle_set_v` and `handle_set_i`. -/
def setReply (out : RidenModbus.Outcome) : Reply :=
  if out.result then ⟨200, "text/plain", .text "OK"⟩
  else ⟨500, "text/plain", .text "Failed to set"⟩

variable {P : Type}

section

variable (parser : ScpiParser P) (div mul : ℚ → ℚ → ℚ) (s : RidenModbus) (connected : Bool)

/-- The answer, and the registers of the power supply. -/
def Call.run (registers : ℕ → ℕ) : Call P → Answer × (ℕ → ℕ)
  | .scpi command params transfer read locals =>
    let modbus : Modbus := ⟨transfer, read, registers, locals⟩
    let out := dispatch (command.callback parser div mul s modbus) ⟨params, [], [], []⟩
    (.scpi out.1 out.2.responses, Cells.assign registers out.2.written)
  | .setV v transfer =>
    let out := s.handleSetV mul connected v transfer
    (.http (setReply out), Cells.assign registers out.written)
  | .setI v transfer =>
    let out := s.handleSetI mul connected v transfer
    (.http (setReply out), Cells.assign registers out.written)
  | .toggleOut t locals all =>
    let out := RidenHttpServer.handleToggleOut div s connected registers t locals all
    (.http out.1, out.2)
  | .status t locals all =>
    (.http (RidenHttpServer.handleStatusGet div s connected registers t.status locals all),
      registers)
  | .writeRegisters offset values =>
    (.bridge, Cells.assign registers (Cells.block offset (values.map UInt16.toNat)))

/-- The registers of the power supply after the call. -/
def Call.after (registers : ℕ → ℕ) (c : Call P) : ℕ → ℕ :=
  (c.run parser div mul s connected registers).2

end

/-! ## Wishes -/

/-- What every interface shows. -/
inductive Knob
  | voltage
  | current
  | output
  deriving DecidableEq

def Knob.quantity : Knob → Quantity
  | voltage => .single .voltageSet
  | current => .single .currentSet
  | output => .single .output

def Knob.register (knob : Knob) : ℕ := knob.quantity.register

inductive Wish
  | voltage (v : ℚ)
  | current (v : ℚ)
  | output (on : Bool)
  deriving DecidableEq

def Wish.knob : Wish → Knob
  | voltage _ => .voltage
  | current _ => .current
  | output _ => .output

/-- The call asks for this; a toggle asks for the negation of the output that it has read. -/
def Call.Asks (parser : ScpiParser P) (registers : ℕ → ℕ) : Call P → Wish → Prop
  | .scpi .sourceVoltage params _ _ _, .voltage v =>
    RidenScpi.Accepted parser.toNumber (fun value => value.2 = v) params
  | .scpi .sourceCurrent params _ _ _, .current v =>
    RidenScpi.Accepted parser.toNumber (fun value => value.2 = v) params
  | .scpi .outputState params _ _ _, .output on =>
    RidenScpi.Accepted parser.toBool (fun value => value = on) params
  | .setV v' _, .voltage v => v' = v
  | .setI v' _, .current v => v' = v
  | .toggleOut t _ _, .output on => t.read = .done ∧ on = !(registers Register.output != 0)
  | _, _ => False

/-- The power supply answers no transfer of the call with an exception. -/
def Call.NoException : Call P → Prop
  | .scpi command _ transfer read _ =>
    if command.sets then transfer ≠ .exception else read ≠ .exception
  | .setV _ transfer => transfer ≠ .exception
  | .setI _ transfer => transfer ≠ .exception
  | .toggleOut t _ _ => t.write ≠ .exception ∧ RidenHttpServer.NoException t
  | .status t _ _ => RidenHttpServer.NoException t
  | .writeRegisters _ _ => True

/-- The register has room for it, and the product with the multiplier is not rounded to
    another whole number. -/
def Wish.InRange (mul : ℚ → ℚ → ℚ) (s : RidenModbus) : Wish → Prop
  | voltage v => (0 ≤ v * s.vMulti ∧ v * s.vMulti < 65536) ∧
      NotSeparated (v * s.vMulti) (mul v s.vMulti)
  | current v => (0 ≤ v * s.iMulti ∧ v * s.iMulti < 65536) ∧
      NotSeparated (v * s.iMulti) (mul v s.iMulti)
  | output _ => True

/-- With this value of the register, the wish is met. -/
def Wish.Met (s : RidenModbus) (r : ℕ) : Wish → Prop
  | voltage v => Represents s.vMulti v r
  | current v => Represents s.iMulti v r
  | output on => r = if on then 1 else 0

/-- The client is told that it worked. -/
def Answer.Acknowledged : Answer → Prop
  | scpi result _ => result = .ok
  | http reply => reply.code = 200
  | bridge => False

/-- The call does not set this; the power supply may set all of this when a preset is
    recalled. -/
def Knob.Spares (knob : Knob) : Call P → Prop
  | .scpi command _ _ _ _ => command ≠ .rcl ∧ knob.quantity ∉ command.quantities
  | .setV _ _ => knob ≠ voltage
  | .setI _ _ => knob ≠ current
  | .toggleOut _ _ _ => knob ≠ output
  | .status _ _ _ => True
  | .writeRegisters offset values => knob.register ∉ List.range' offset values.length

/-- The answer of the call is about this. -/
def Knob.Reads : Knob → Call P → Prop
  | .voltage, .scpi .sourceVoltageQ _ _ _ _ => True
  | .current, .scpi .sourceCurrentQ _ _ _ _ => True
  | .output, .scpi .outputStateQ _ _ _ _ => True
  | .voltage, .toggleOut _ _ _ => True
  | .current, .toggleOut _ _ _ => True
  | _, .status _ _ _ => True
  | _, _ => False

/-- The members of a status show this value of the register. -/
def Knob.ShownIn (s : RidenModbus) (r : ℕ) (ps : List (String × Json (List Char))) :
    Knob → Prop
  | voltage => RidenHttpServer.Spells (ps.lookup "set_v") (r / s.vMulti)
  | current => ∃ x, RidenHttpServer.Spells (ps.lookup "set_c") x ∧ |x - r / s.iMulti| < 1 / 1000 ∧
      (s.iMulti ≠ 10000 → x = r / s.iMulti)
  | output => ps.lookup "out_on" = some (.bool (r != 0))

/-- So does the answer. -/
def Knob.Shown (fmt : NumberFormat) (s : RidenModbus) (r : ℕ) : Knob → Answer → Prop
  | .voltage, .scpi _ responses => ∃ x, responses = [.double x] ∧ Near s.vMulti r x
  | .current, .scpi _ responses => ∃ x, responses = [.double x] ∧ Near s.iMulti r x
  | .output, .scpi _ responses => responses = [.bool (r != 0)]
  | knob, .http reply =>
    ∃ ps, Json.parse (RidenHttpServer.content fmt reply).toList = some (.object ps) ∧
      knob.ShownIn s r ps
  | _, .bridge => False

/-! ## What a call leaves -/

variable {parser : ScpiParser P} {div mul : ℚ → ℚ → ℚ} {s : RidenModbus} {connected : Bool}
  {registers : ℕ → ℕ}

/-- The values of the registers fit them. -/
def Fit (registers : ℕ → ℕ) : Prop := ∀ k, registers k < 65536

theorem fit_assign (h : Fit registers) {ws : List (ℕ × ℕ)} (hws : ∀ w ∈ ws, w.2 < 65536) :
    Fit (Cells.assign registers ws) := by
  induction ws generalizing registers with
  | nil => exact h
  | cons w ws ih =>
    obtain ⟨hw, hws⟩ := List.forall_mem_cons.1 hws
    refine ih (fun k => ?_) hws
    change Function.update registers w.1 w.2 k < 65536
    rw [Function.update_apply]
    split_ifs
    · exact hw
    · exact h k

theorem Knob.register_injective : Function.Injective Knob.register := by
  intro x y h
  have hquantity : x.quantity = y.quantity := Quantity.register_injective h
  cases x <;> cases y <;> first | rfl | cases hquantity

/-- At most the register of this was written. -/
def WritesKnob (knob : Knob) (ws : List (ℕ × ℕ)) : Prop :=
  ws = [] ∨ ∃ v < 65536, ws = [(knob.register, v)]

theorem WritesKnob.spares {knob : Knob} {ws : List (ℕ × ℕ)} (h : WritesKnob knob ws) :
    (∀ w ∈ ws, w.2 < 65536) ∧ ∀ x : Knob, x ≠ knob → x.register ∉ ws.map Prod.fst := by
  rcases h with rfl | ⟨v, hv, rfl⟩
  · exact ⟨nofun, fun _ _ => List.not_mem_nil⟩
  · refine ⟨List.forall_mem_singleton.2 hv, fun x hx hmem => hx ?_⟩
    exact Knob.register_injective (List.mem_singleton.1 hmem)

/-- What is written for a request over the web. -/
theorem writesKnob_httpSet {knob : Knob} {x : ℚ} (transfer : Transfer) :
    WritesKnob knob (RidenModbus.httpSet connected
      (RidenModbus.writeHoldingRegister knob.register (toUint16 x)) transfer).written := by
  rw [RidenModbus.httpSet]
  split_ifs
  · cases transfer with
    | refused | exception => exact .inl rfl
    | sent answered => exact .inr ⟨_, toUint16_lt _, rfl⟩
  · exact .inl rfl

theorem writesKnob_toggleOut (t : Transfers) (locals : ℕ → ℕ) (all : AllValues) :
    ∃ ws, WritesKnob .output ws ∧ (RidenHttpServer.handleToggleOut div s connected registers t
      locals all).2 = Cells.assign registers ws := by
  cases connected with
  | false => exact ⟨[], .inl rfl, rfl⟩
  | true =>
    cases hwrite : t.write with
    | failed =>
      rw [RidenHttpServer.handleToggleOut_of_failed hwrite]
      exact ⟨[], .inl rfl, rfl⟩
    | exception =>
      rw [RidenHttpServer.handleToggleOut_of_exception hwrite]
      exact ⟨[], .inl rfl, rfl⟩
    | done =>
      rw [RidenHttpServer.handleToggleOut_of_done hwrite]
      have hvalue : (if t.read = .done ∧ registers Register.output ≠ 0 then 0 else 1) < 65536 := by
        split_ifs <;> decide
      exact ⟨[(Register.output, _)], .inr ⟨_, hvalue, rfl⟩, rfl⟩

theorem fit_toggled (h : Fit registers) (t : Transfers) :
    Fit (RidenHttpServer.toggled registers t) := by
  intro k
  rw [RidenHttpServer.toggled, Function.update_apply]
  split_ifs
  · decide
  · decide
  · exact h k

/-- A call assigns values that fit to registers, of which those that it spares are none. -/
theorem exists_assign (c : Call P) (registers : ℕ → ℕ) : ∃ ws : List (ℕ × ℕ),
    c.after parser div mul s connected registers = Cells.assign registers ws ∧
    (∀ w ∈ ws, w.2 < 65536) ∧ ∀ knob : Knob, knob.Spares c → knob.register ∉ ws.map Prod.fst := by
  cases c with
  | scpi command params transfer read locals =>
    have honly : RidenScpi.WritesOnly command.quantities ⟨params, [], [], []⟩
        (dispatch (command.callback parser div mul s
          ⟨transfer, read, registers, locals⟩) ⟨params, [], [], []⟩) :=
      RidenScpi.writesOnly_callback command _
    obtain ⟨ws, hws, hwrites⟩ := honly
    refine ⟨ws, congrArg (Cells.assign registers) hws, fun w hw => (hwrites w hw).2, ?_⟩
    rintro knob ⟨-, hspares⟩ hmem
    obtain ⟨w, hw, hregister⟩ := List.mem_map.1 hmem
    have hmem := (hwrites w hw).1
    rw [hregister] at hmem
    obtain ⟨x, hx, heq⟩ := List.mem_map.1 hmem
    exact hspares (Quantity.register_injective heq ▸ hx)
  | setV v transfer =>
    have hwrites : WritesKnob .voltage (s.handleSetV mul connected v transfer).written :=
      writesKnob_httpSet transfer
    exact ⟨_, rfl, hwrites.spares.1, hwrites.spares.2⟩
  | setI v transfer =>
    have hwrites : WritesKnob .current (s.handleSetI mul connected v transfer).written :=
      writesKnob_httpSet transfer
    exact ⟨_, rfl, hwrites.spares.1, hwrites.spares.2⟩
  | toggleOut t locals all =>
    obtain ⟨ws, hwrites, heq⟩ := @writesKnob_toggleOut div s connected registers t locals all
    exact ⟨ws, heq, hwrites.spares.1, hwrites.spares.2⟩
  | status t locals all => exact ⟨[], rfl, nofun, fun _ _ => List.not_mem_nil⟩
  | writeRegisters offset values =>
    refine ⟨_, rfl, fun w hw => ?_, fun knob hspares => ?_⟩
    · -- the values of registers have 16 bits on the wire
      have hvalue : w.2 ∈ (Cells.block offset (values.map UInt16.toNat)).map Prod.snd :=
        List.mem_map_of_mem hw
      rw [Cells.values_block] at hvalue
      obtain ⟨v, -, hv⟩ := List.mem_map.1 hvalue
      exact hv ▸ v.toNat_lt
    · rw [Cells.keys_block, List.length_map]
      exact hspares

theorem Fit.after (h : Fit registers) (c : Call P) :
    Fit (c.after parser div mul s connected registers) := by
  obtain ⟨ws, heq, hfit, -⟩ :=
    @exists_assign P parser div mul s connected c registers
  rw [heq]
  exact fit_assign h hfit

theorem Knob.Spares.after {knob : Knob} {c : Call P} (h : knob.Spares c) (registers : ℕ → ℕ) :
    c.after parser div mul s connected registers knob.register = registers knob.register := by
  obtain ⟨ws, heq, -, hspares⟩ :=
    @exists_assign P parser div mul s connected c registers
  rw [heq]
  exact Cells.assign_of_notMem (hspares knob h)

/-- Calls that spare it leave it as it is, in any order. -/
theorem Knob.Spares.run {knob : Knob} {cs : List (Call P)} (h : ∀ c ∈ cs, knob.Spares c)
    (hfit : Fit registers) :
    Fit (Machine.run (Call.after parser div mul s connected) registers cs) ∧
      Machine.run (Call.after parser div mul s connected) registers cs knob.register =
        registers knob.register := by
  induction cs generalizing registers with
  | nil => exact ⟨hfit, rfl⟩
  | cons c cs ih =>
    obtain ⟨hc, hcs⟩ := List.forall_mem_cons.1 h
    obtain ⟨hfit', heq⟩ := ih hcs (hfit.after c)
    exact ⟨hfit', heq.trans (hc.after registers)⟩

/-! ## What is set -/

theorem dispatch_of_result {handler : Handler P} {ctx : ScpiContext P}
    (hok : (dispatch handler ctx).1 = .ok) :
    dispatch handler ctx = handler ctx ∧ (handler ctx).1 = .ok := by
  rw [dispatch] at hok ⊢
  split_ifs at hok ⊢ with herr
  exact ⟨rfl, hok⟩

/-- A command that takes effect has set what it was asked for. -/
theorem set_of_ok {α : Type} {modbus : Modbus} {ctx : ScpiContext P}
    {convert : P → Except ScpiError α} {check : α → Option ScpiError} {set : α → Setting}
    {fine : α → Prop} (haccepted : RidenScpi.Accepted convert fine ctx.params)
    (hok : (dispatch (RidenScpi.command mul s modbus (·.param convert) check set) ctx).1 = .ok) :
    ∃ a, fine a ∧ ((set a).set mul s modbus.transfer).result = true ∧
      (dispatch (RidenScpi.command mul s modbus (·.param convert) check set) ctx).2.written =
        ctx.written ++ ((set a).set mul s modbus.transfer).written := by
  obtain ⟨heq, hok⟩ := dispatch_of_result hok
  rw [heq]
  rcases RidenScpi.param_cases ctx convert with ⟨p, ps, a, hparams, ha, heq⟩ | ⟨ps, e, heq, hnot⟩
  · rw [hparams] at haccepted
    obtain ⟨a', ha', hfine⟩ := haccepted
    obtain rfl : a = a' := Except.ok.inj (ha.symm.trans ha')
    rw [RidenScpi.command, heq] at hok ⊢
    dsimp only at hok ⊢
    cases hcheck : check a with
    | some e =>
      rw [hcheck] at hok
      cases hok
    | none =>
      rw [hcheck, RidenScpi.finish] at hok
      rw [RidenScpi.finish]
      dsimp only at hok ⊢
      split_ifs at hok ⊢ with hresult
      exact ⟨a, hfine, hresult, rfl⟩
  · refine absurd ?_ hnot
    cases hparams : ctx.params with
    | nil =>
      rw [hparams] at haccepted
      exact haccepted.elim
    | cons x ps =>
      rw [hparams] at haccepted
      cases x with
      | error e => exact haccepted.elim
      | ok p =>
        obtain ⟨a, ha, -⟩ := haccepted
        exact ⟨a, ha, trivial⟩

/-- The setter for the wish. -/
def Wish.setting : Wish → Setting
  | voltage v => .voltageSet v
  | current v => .currentSet v
  | output on => .outputOn on

section

variable (hmul : RidenModbus.RoundedProduct mul)
include hmul

/-- A number in range, whose product is not rounded to another whole number, is set as it is. -/
theorem represents_toUint16 {m v : ℚ} (hm : RidenModbus.Multiplier m)
    (hrange : 0 ≤ v * m ∧ v * m < 65536) (hkept : NotSeparated (v * m) (mul v m)) :
    Represents m v (toUint16 (mul v m)) := by
  have hlt : |v * m| < 2 ^ 17 := by
    rw [abs_of_nonneg hrange.1]
    linarith [hrange.2]
  rw [RidenModbus.represents_iff hm.pos]
  exact (RidenModbus.toUint16_represents_iff hrange.1 hrange.2
    ((hmul.close hm hlt).trans (by norm_num))).2 hkept

/-- A setter that is successful meets the wish. -/
theorem Wish.met_of_result (hv : RidenModbus.Multiplier s.vMulti)
    (hi : RidenModbus.Multiplier s.iMulti) {w : Wish} (hrange : w.InRange mul s) {t : Transfer}
    (ht : t ≠ .exception) (h : (w.setting.set mul s t).result = true) :
    w.Met s (Cells.assign registers (w.setting.set mul s t).written w.knob.register) := by
  obtain ⟨rfl, -⟩ := Setting.write_of_result h ht
  have hvalue (value : ℕ) : Cells.assign registers [(w.knob.register, value)] w.knob.register =
      value := Function.update_self ..
  cases w with
  | voltage v =>
    have hwritten : ((Wish.voltage v).setting.set mul s (.sent true)).written =
        [((Wish.voltage v).knob.register, s.voltageToValue mul v)] := rfl
    rw [hwritten, hvalue]
    exact represents_toUint16 hmul hv hrange.1 hrange.2
  | current v =>
    have hwritten : ((Wish.current v).setting.set mul s (.sent true)).written =
        [((Wish.current v).knob.register, s.currentToValue mul v)] := rfl
    rw [hwritten, hvalue]
    exact represents_toUint16 hmul hi hrange.1 hrange.2
  | output on =>
    have hwritten : ((Wish.output on).setting.set mul s (.sent true)).written =
        [((Wish.output on).knob.register, if on then 1 else 0)] := rfl
    rw [hwritten, hvalue, Wish.Met]

omit hmul in
/-- A request over the web that is acknowledged has set what it was asked for. -/
theorem result_of_setReply {out : RidenModbus.Outcome} (h : (setReply out).code = 200) :
    out.result = true := by
  rw [setReply] at h
  split_ifs at h with hresult
  · exact hresult
  · cases h

theorem met_command (hv : RidenModbus.Multiplier s.vMulti)
    (hi : RidenModbus.Multiplier s.iMulti) {α : Type} {modbus : Modbus} {ctx : ScpiContext P}
    {convert : P → Except ScpiError α} {check : α → Option ScpiError} {set : α → Setting}
    {fine : α → Prop} {w : Wish} (hset : ∀ a, fine a → set a = w.setting)
    (haccepted : RidenScpi.Accepted convert fine ctx.params) (hwritten : ctx.written = [])
    (hrange : w.InRange mul s) (ht : modbus.transfer ≠ .exception)
    (hok : (dispatch (RidenScpi.command mul s modbus (·.param convert) check set) ctx).1 = .ok) :
    w.Met s (Cells.assign registers
      (dispatch (RidenScpi.command mul s modbus (·.param convert) check set) ctx).2.written
      w.knob.register) := by
  obtain ⟨a, ha, hresult, heq⟩ := set_of_ok haccepted hok
  rw [hset a ha] at hresult heq
  rw [heq, hwritten]
  exact Wish.met_of_result hmul hv hi hrange ht hresult

/-- A wish over the web. -/
theorem met_httpSet (hv : RidenModbus.Multiplier s.vMulti)
    (hi : RidenModbus.Multiplier s.iMulti) {w : Wish} (hrange : w.InRange mul s) {t : Transfer}
    (ht : t ≠ .exception)
    (hack : (setReply (RidenModbus.httpSet connected (w.setting.set mul s) t)).code = 200) :
    w.Met s (Cells.assign registers (RidenModbus.httpSet connected (w.setting.set mul s) t).written
      w.knob.register) := by
  have hresult := result_of_setReply hack
  rw [RidenModbus.httpSet] at hresult ⊢
  split_ifs at hresult ⊢
  exact Wish.met_of_result hmul hv hi hrange ht hresult

omit hmul in
/-- A toggle that is acknowledged leaves the negation of the output that it has read. -/
theorem met_toggleOut {t : Transfers} {locals : ℕ → ℕ} {all : AllValues} {on : Bool}
    (hread : t.read = .done) (hon : on = !(registers Register.output != 0))
    (ht : t.write ≠ .exception) (hack : (RidenHttpServer.handleToggleOut div s connected registers
      t locals all).1.code = 200) :
    (Wish.output on).Met s
      ((RidenHttpServer.handleToggleOut div s connected registers t locals all).2
        Register.output) := by
  cases connected with
  | false => cases hack
  | true =>
    cases hwrite : t.write with
    | failed =>
      rw [RidenHttpServer.handleToggleOut_of_failed hwrite] at hack
      cases hack
    | exception => exact absurd hwrite ht
    | done =>
      rw [RidenHttpServer.handleToggleOut_of_done hwrite, hon]
      have hvalue : RidenHttpServer.toggled registers t Register.output = _ :=
        Function.update_self ..
      refine hvalue.trans ?_
      by_cases hoff : registers Register.output = 0 <;> simp [hread, hoff]

/-- What was asked for and acknowledged is set, if the register has room for it. -/
theorem Call.Asks.met (hv : RidenModbus.Multiplier s.vMulti)
    (hi : RidenModbus.Multiplier s.iMulti) {q : Call P} {w : Wish}
    (hasks : q.Asks parser registers w) (hrange : w.InRange mul s) (hq : q.NoException)
    (hack : (q.run parser div mul s connected registers).1.Acknowledged) :
    w.Met s (q.after parser div mul s connected registers w.knob.register) := by
  unfold Call.Asks at hasks
  split at hasks
  · exact met_command hmul hv hi (fun a ha => congrArg Setting.voltageSet ha) hasks rfl hrange hq
      hack
  · exact met_command hmul hv hi (fun a ha => congrArg Setting.currentSet ha) hasks rfl hrange hq
      hack
  · exact met_command hmul hv hi (fun a ha => congrArg Setting.outputOn ha) hasks rfl hrange hq
      hack
  · subst hasks
    exact met_httpSet hmul hv hi hrange hq hack
  · subst hasks
    exact met_httpSet hmul hv hi hrange hq hack
  · exact met_toggleOut hasks.1 hasks.2 hq.1 hack
  · exact hasks.elim

end

/-! ## What is shown -/

/-- A query that is successful, and was not answered by an exception, has read the registers. -/
theorem responses_query {τ : Type} {g : Getter τ} {respond : τ → List Response}
    {modbus : Modbus} {ctx : ScpiContext P} (hg : g.reads ≠ []) (hread : modbus.read ≠ .exception)
    (hok : (dispatch (RidenScpi.query modbus g respond) ctx).1 = .ok) :
    (dispatch (RidenScpi.query modbus g respond) ctx).2.responses =
      ctx.responses ++ respond (g.on modbus.registers) := by
  obtain ⟨heq, hok⟩ := dispatch_of_result hok
  rw [heq]
  rw [RidenScpi.query] at hok ⊢
  cases hread' : modbus.read with
  | failed =>
    rw [hread', Getter.outcome_failed hg] at hok
    cases hok
  | done => rw [Getter.outcome_done]
  | exception => exact absurd hread' hread

theorem Knob.shownIn_of_reports {ps : List (String × Json (List Char))}
    (h : RidenHttpServer.Reports s registers ps) (knob : Knob) :
    knob.ShownIn s (registers knob.register) ps := by
  cases knob with
  | voltage => exact h.voltages _ List.mem_cons_self
  | current => exact h.currents _ List.mem_cons_self
  | output => exact h.outOn

section

variable {fmt : NumberFormat} {id : ℕ} (hs : RidenModbus.begin id = some s)
  (hdiv : RidenModbus.Rounded div) (hlong : ∀ k < 2 ^ 32, Near 1000 k (div k 1000))
include hs hdiv hlong

/-- A status shows the register. -/
theorem shown_status (hfit : Fit registers) {t : Transfers} {locals : ℕ → ℕ} {all : AllValues}
    (hstored : RidenHttpServer.NoException t)
    (hcode : (RidenHttpServer.handleStatusGet div s connected registers t.status locals all).code =
      200) (knob : Knob) : knob.Shown fmt s (registers knob.register)
      (.http (RidenHttpServer.handleStatusGet div s connected registers t.status locals all)) := by
  have hshown : ∃ ps, Json.parse (RidenHttpServer.content fmt (RidenHttpServer.handleStatusGet div s
      connected registers t.status locals all)).toList = some (.object ps) ∧
        knob.ShownIn s (registers knob.register) ps := by
    obtain ⟨rfl, hstatus⟩ := RidenHttpServer.statusRead_of_code hcode
    exact ⟨_, RidenHttpServer.parse_content hstatus hstored,
      knob.shownIn_of_reports (RidenHttpServer.reports_statusMembers hs hdiv hlong hfit)⟩
  cases knob <;> exact hshown

/-- So does the reply of the toggle, of what it does not set. -/
theorem shown_toggleOut (hfit : Fit registers) {t : Transfers} {locals : ℕ → ℕ} {all : AllValues}
    (ht : t.write ≠ .exception) (hstored : RidenHttpServer.NoException t)
    (hcode : (RidenHttpServer.handleToggleOut div s connected registers t locals all).1.code = 200)
    {knob : Knob} (hknob : knob ≠ .output) : knob.Shown fmt s (registers knob.register)
      (.http (RidenHttpServer.handleToggleOut div s connected registers t locals all).1) := by
  cases connected with
  | false => cases hcode
  | true =>
    cases hwrite : t.write with
    | failed =>
      rw [RidenHttpServer.handleToggleOut_of_failed hwrite] at hcode
      cases hcode
    | exception => exact absurd hwrite ht
    | done =>
      rw [RidenHttpServer.handleToggleOut_of_done hwrite] at hcode ⊢
      have hsame : RidenHttpServer.toggled registers t knob.register = registers knob.register :=
        Function.update_of_ne (fun h => hknob (Knob.register_injective h)) ..
      rw [← hsame]
      exact shown_status hs hdiv hlong (fit_toggled hfit t) hstored hcode knob

/-- The answer of a call that reads it shows the register. -/
theorem Knob.Reads.shown (hfit : Fit registers) {knob : Knob} {g : Call P} (hreads : knob.Reads g)
    (hg : g.NoException) (hack : (g.run parser div mul s connected registers).1.Acknowledged) :
    knob.Shown fmt s (registers knob.register)
      (g.run parser div mul s connected registers).1 := by
  obtain ⟨hv, hi⟩ := RidenModbus.multiplier_of_begin hs
  unfold Knob.Reads at hreads
  split at hreads
  · refine ⟨_, responses_query (List.cons_ne_nil _ _) hg hack, ?_⟩
    rw [RidenModbus.getVoltageSet, RidenModbus.readVoltage, RidenModbus.on_readOnce,
      RidenModbus.valueAt_map Nat.one_pos]
    exact hdiv _ hv _ (hfit _)
  · refine ⟨_, responses_query (List.cons_ne_nil _ _) hg hack, ?_⟩
    rw [RidenModbus.getCurrentSet, RidenModbus.readCurrent, RidenModbus.on_readOnce,
      RidenModbus.valueAt_map Nat.one_pos]
    exact hdiv _ hi _ (hfit _)
  · rename_i params transfer read locals
    have hread : (⟨transfer, read, registers, locals⟩ : Modbus).read ≠ .exception := hg
    have hresponses : _ = _ ++ [Response.bool (RidenModbus.getOutputOn.on registers)] :=
      responses_query (List.cons_ne_nil _ _) hread hack
    rw [RidenModbus.getOutputOn, RidenModbus.readBoolean_on] at hresponses
    exact hresponses
  · exact shown_toggleOut hs hdiv hlong hfit hg.1 hg.2 hack (by decide)
  · exact shown_toggleOut hs hdiv hlong hfit hg.1 hg.2 hack (by decide)
  · exact shown_status hs hdiv hlong hfit hg hack _
  · exact hreads.elim

variable (fmt) in
/-- What a client sets over one interface, in range and not answered by an exception, and is
    told that it worked, is what the answers over every interface show, until one of them sets
    it again; unless the power supply answers the read of it with an exception. -/
theorem set_then_shown (hmul : RidenModbus.RoundedProduct mul) (hfit : Fit registers) {q : Call P}
    {w : Wish} (hasks : q.Asks parser registers w) (hrange : w.InRange mul s)
    (hq : q.NoException) (hack : (q.run parser div mul s connected registers).1.Acknowledged)
    {cs : List (Call P)} (hcs : ∀ c ∈ cs, w.knob.Spares c) : ∃ r, w.Met s r ∧
      ∀ g : Call P, w.knob.Reads g → g.NoException →
        (g.run parser div mul s connected (Machine.run (Call.after parser div mul s connected)
          registers (q :: cs))).1.Acknowledged →
        w.knob.Shown fmt s r (g.run parser div mul s connected (Machine.run
          (Call.after parser div mul s connected) registers (q :: cs))).1 := by
  obtain ⟨hv, hi⟩ := RidenModbus.multiplier_of_begin hs
  obtain ⟨hfit', hsame⟩ := @Knob.Spares.run P parser div mul s connected _ w.knob cs hcs
    (@Fit.after P parser div mul s connected registers hfit q)
  refine ⟨_, hasks.met hmul hv hi hrange hq hack, fun g hreads hg hanswered => ?_⟩
  rw [← hsame]
  exact hreads.shown hs hdiv hlong hfit' hg hanswered

end

/-- A voltage that is set over the web is what a status reports, also when the current was set
    over the bridge and by a command in between; and an output that is toggled is what a query
    returns. -/
theorem set_then_shown_web :
    (∃ r, Represents 100 12 r ∧ Knob.voltage.Shown .halfUp RidenHttpServer.rd6006 r
      ((Call.status ⟨.done, .done, fun _ => .done⟩ (fun _ => 0)
        (RidenHttpServer.statusValues (· / ·) RidenHttpServer.rd6006 fun _ => 0)).run
          RidenScpi.numericParser (· / ·) (· * ·) RidenHttpServer.rd6006 true
          (Machine.run
            (Call.after RidenScpi.numericParser (· / ·) (· * ·) RidenHttpServer.rd6006 true)
            (fun k => min k 119) [.setV 12 (.sent true), .writeRegisters 9 [3000],
              .scpi .sourceCurrent [.ok 2] (.sent true) .failed []])).1) ∧
    ∃ r, r = 0 ∧ Knob.output.Shown .halfUp RidenHttpServer.rd6006 r
      ((Call.scpi .outputStateQ [] .refused .done []).run
          RidenScpi.numericParser (· / ·) (· * ·) RidenHttpServer.rd6006 true
          (Machine.run
            (Call.after RidenScpi.numericParser (· / ·) (· * ·) RidenHttpServer.rd6006 true)
            (fun k => min k 119) [.toggleOut ⟨.done, .done, fun _ => .done⟩ (fun _ => 0)
              (RidenHttpServer.statusValues (· / ·) RidenHttpServer.rd6006 fun _ => 0)])).1 := by
  have hs : RidenModbus.begin 60062 = some RidenHttpServer.rd6006 := rfl
  have hlong : ∀ k < 2 ^ 32, Near 1000 k ((k : ℚ) / 1000) := fun k _ => by
    rw [Near, sub_self, abs_zero]
    positivity
  have hfit : Fit fun k => min k 119 := fun k => (Nat.min_le_right k 119).trans_lt (by decide)
  have hstatus : RidenHttpServer.StatusRead ⟨.done, .done, fun _ => .done⟩ := fun _ _ => rfl
  have hstored : RidenHttpServer.NoException ⟨.done, .done, fun _ => .done⟩ :=
    fun _ _ h => by cases h
  constructor
  · have hasks : (Call.setV 12 (.sent true)).Asks RidenScpi.numericParser (fun k => min k 119)
        (.voltage 12) := rfl
    have hrange : (Wish.voltage 12).InRange (· * ·) RidenHttpServer.rd6006 :=
      ⟨by norm_num [RidenHttpServer.rd6006], fun _ _ => Iff.rfl⟩
    have hq : (Call.setV (P := ℤ) 12 (.sent true)).NoException := fun h => by cases h
    have hcs : ∀ c ∈ [.writeRegisters 9 [3000],
        .scpi .sourceCurrent [.ok 2] (.sent true) .failed []], Knob.voltage.Spares (P := ℤ) c := by
      rw [List.forall_mem_cons, List.forall_mem_singleton]
      exact ⟨(by decide : 8 ∉ List.range' 9 1), by decide, by decide⟩
    have hack : ((Call.setV 12 (.sent true)).run RidenScpi.numericParser (· / ·) (· * ·)
        RidenHttpServer.rd6006 true fun k => min k 119).1.Acknowledged := rfl
    obtain ⟨r, hmet, hshown⟩ := set_then_shown .halfUp hs RidenModbus.rounded_exact hlong
      RidenModbus.roundedProduct_exact hfit hasks hrange hq hack hcs
    exact ⟨r, hmet, hshown _ trivial hstored
      (congrArg Reply.code (RidenHttpServer.handleStatusGet_of_statusRead hstatus))⟩
  · have hasks : (Call.toggleOut ⟨.done, .done, fun _ => .done⟩ (fun _ => 0)
        (RidenHttpServer.statusValues (· / ·) RidenHttpServer.rd6006 fun _ => 0)).Asks
          RidenScpi.numericParser (fun k => min k 119) (.output false) := ⟨rfl, rfl⟩
    have hack : ((Call.toggleOut ⟨.done, .done, fun _ => .done⟩ (fun _ => 0)
        (RidenHttpServer.statusValues (· / ·) RidenHttpServer.rd6006 fun _ => 0)).run
          RidenScpi.numericParser (· / ·) (· * ·) RidenHttpServer.rd6006 true
          fun k => min k 119).1.Acknowledged := by
      have hdone : (⟨.done, .done, fun _ => .done⟩ : Transfers).write = .done := rfl
      have hreply := congrArg Prod.fst (@RidenHttpServer.handleToggleOut_of_done (· / ·)
        RidenHttpServer.rd6006 (fun k => min k 119) _ (fun _ => 0)
        (RidenHttpServer.statusValues (· / ·) RidenHttpServer.rd6006 fun _ => 0) hdone)
      exact congrArg Reply.code
        (hreply.trans (RidenHttpServer.handleStatusGet_of_statusRead hstatus))
    obtain ⟨r, hmet, hshown⟩ := set_then_shown .halfUp hs RidenModbus.rounded_exact hlong
      RidenModbus.roundedProduct_exact hfit hasks trivial ⟨by decide, hstored⟩ hack
      (fun _ h => absurd h List.not_mem_nil)
    exact ⟨r, hmet, hshown _ trivial (by decide : Exchange.done ≠ .exception) rfl⟩

end Panel

end RidenDongle
