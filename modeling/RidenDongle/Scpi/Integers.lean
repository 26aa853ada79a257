import RidenDongle.Scpi.Commands

/-!
# Integer parameters

What becomes of the numbers that `SYSTem:DATE`, `SYSTem:TIME`, `*RCL`,
`DISPlay:BRIGhtness` and `DISPlay:LANGuage` are given, as 32-bit integers, on the way to
the 8-bit and 16-bit parameters of the setters and from there to the registers.

`faithful_iff` tells when the registers hold the numbers, or nothing was written.
-/

namespace RidenDongle.RidenScpi

open RidenModbus (Setting Transfer numberOfPresets intToUint16)

/-- A command with the numbers that it is given. -/
inductive IntegerCommand
  | date (year month day : ℕ)
  | time (hour minute second : ℕ)
  | rcl (profile : ℕ)
  | brightness (brightness : ℕ)
  | language (language : ℤ)

namespace IntegerCommand

variable {P : Type*} (parser : ScpiParser P)

def command : IntegerCommand → Command
  | date .. => .systemDate
  | time .. => .systemTime
  | rcl _ => .rcl
  | brightness _ => .displayBrightness
  | language _ => .displayLanguage

/-- The numbers are what the parameters convert to. -/
def Given (params : List (Except ScpiError P)) : IntegerCommand → Prop
  | date a b c | time a b c =>
      ∃ p q r ps, params = .ok p :: .ok q :: .ok r :: ps ∧ parser.toUnsignedInt p = .ok a ∧
        parser.toUnsignedInt q = .ok b ∧ parser.toUnsignedInt r = .ok c
  | rcl n | brightness n =>
      ∃ p ps, params = .ok p :: ps ∧ parser.toUnsignedInt p = .ok n
  | language n =>
      ∃ p ps, params = .ok p :: ps ∧ (parser.toChoice languageOptions p = .ok n ∨
        (∃ e, parser.toChoice languageOptions p = .error e) ∧ parser.toInt p = .ok n)

/-- The numbers. -/
def numbers : IntegerCommand → List ℤ
  | date a b c | time a b c => [a, b, c]
  | rcl n | brightness n => [n]
  | language n => [n]

/-- The registers that they are for start here. -/
def register : IntegerCommand → ℕ
  | date .. => Register.year
  | time .. => Register.hour
  | rcl _ => Register.preset
  | brightness _ => Register.brightness
  | language _ => Register.language

/-- The handler turns the numbers down. -/
def Rejected : IntegerCommand → Prop
  | rcl n => n < 1 ∨ numberOfPresets < n
  | brightness n => 5 < n
  | language n => n < 0 ∨ 4 < n
  | _ => False

/-- The numbers are in the range of the parameters of the setter. -/
def Fits : IntegerCommand → Prop
  | date a b c => a < 2 ^ 16 ∧ b < 2 ^ 16 ∧ c < 2 ^ 16
  | time a b c => a < 2 ^ 8 ∧ b < 2 ^ 8 ∧ c < 2 ^ 8
  | _ => True

/-- The query for what was set, with its response. -/
def readBack : IntegerCommand → Option (Command × List Response)
  | date a b c => some (.systemDateQ, [.uInt16 a, .uInt16 b, .uInt16 c])
  | time a b c => some (.systemTimeQ, [.uInt16 a, .uInt16 b, .uInt16 c])
  | _ => none

variable (div mul : ℚ → ℚ → ℚ) (s : RidenModbus) (modbus : Modbus)

/-- If the command is successful, exactly the numbers were written, and are read back by
    a query afterwards whose read is done; otherwise nothing was written. -/
def Faithful (c : IntegerCommand) (ctx : ScpiContext P) : Prop :=
  let out := dispatch (c.command.callback parser div mul s modbus) ctx
  ∃ ws, out.2.written = ctx.written ++ ws ∧
    (out.1 = .ok → ws.map (fun w => (w.1, (w.2 : ℤ))) = Cells.block c.register c.numbers ∧
      ∀ q ∈ c.readBack, ∀ registers transfer locals ctx',
        dispatch (q.1.callback parser div mul s
            ⟨transfer, .done, Cells.assign registers ws, locals⟩) ctx' =
          (.ok, { ctx' with responses := ctx'.responses ++ q.2 })) ∧
    (out.1 ≠ .ok → ws = [])

/-- What the handler sets. -/
def setting : IntegerCommand → Setting
  | date a b c => .date (a % 2 ^ 16) (b % 2 ^ 16) (c % 2 ^ 16)
  | time a b c => .time (a % 2 ^ 8) (b % 2 ^ 8) (c % 2 ^ 8)
  | rcl n => .activePreset (n % 2 ^ 8)
  | brightness n => .brightness (n % 2 ^ 8)
  | language n => .language (intToUint16 n)

/-- The values that are written. -/
def stored : IntegerCommand → List ℕ
  | date a b c => [a % 2 ^ 16, b % 2 ^ 16, c % 2 ^ 16]
  | time a b c => [a % 2 ^ 8, b % 2 ^ 8, c % 2 ^ 8]
  | rcl n | brightness n => [n % 2 ^ 8]
  | language n => [intToUint16 n]

variable {parser div mul s modbus} {c : IntegerCommand} {ctx : ScpiContext P}

theorem mod_of_le_numberOfPresets {n : ℕ} (h : n ≤ numberOfPresets) : n % 2 ^ 8 = n :=
  Nat.mod_eq_of_lt (Nat.lt_of_le_of_lt h (by decide))

theorem write_setting (h : ¬ c.Rejected) : c.setting.write mul s = some (c.register, c.stored) := by
  cases c with
  | rcl n =>
    obtain ⟨hlow, hhigh⟩ := not_or.1 h
    refine if_neg ?_
    rw [mod_of_le_numberOfPresets (Nat.le_of_not_lt hhigh)]
    omega
  | _ => rfl

/-- What is written are the numbers, if they fit. -/
theorem stored_eq_iff (h : ¬ c.Rejected) : c.stored.map ((↑) : ℕ → ℤ) = c.numbers ↔ c.Fits := by
  have hmod : ∀ {a m : ℕ}, 0 < m → (((a % m : ℕ) : ℤ) = a ↔ a < m) := fun {a m} hm => by
    rw [Nat.cast_inj]
    exact ⟨fun heq => heq ▸ Nat.mod_lt a hm, Nat.mod_eq_of_lt⟩
  cases c with
  | date a b c | time a b c =>
    simp only [stored, numbers, Fits, List.map_cons, List.map_nil, List.cons.injEq, and_true,
      hmod (show 0 < 2 ^ 16 by decide), hmod (show 0 < 2 ^ 8 by decide)]
  | rcl n =>
    refine iff_of_true ?_ trivial
    exact congrArg (fun a : ℕ => [(a : ℤ)])
      (mod_of_le_numberOfPresets (Nat.le_of_not_lt (not_or.1 h).2))
  | brightness n =>
    refine iff_of_true ?_ trivial
    rw [Rejected] at h
    exact congrArg (fun a : ℕ => [(a : ℤ)]) (Nat.mod_eq_of_lt (by omega))
  | language n =>
    refine iff_of_true ?_ trivial
    rw [Rejected] at h
    exact congrArg (fun a : ℤ => [a]) (Setting.intToUint16_cast (by omega) (by omega))

/-- A command with the check of the numbers turns them down, or goes on to set them. -/
theorem cases_of_command {α : Type} {handler : Handler P}
    {read : ScpiContext P → Option α × ScpiContext P} {check : α → Option ScpiError}
    {set : α → Setting} {a : α} {e : ScpiError} {ctx' : ScpiContext P}
    (hhandler : handler = RidenScpi.command mul s modbus read check set)
    (hread : read ctx = (some a, ctx')) (hset : set a = c.setting)
    (hwritten : ctx'.written = ctx.written) (hrejected : c.Rejected → check a = some e)
    (haccepted : ¬ c.Rejected → check a = none) : ∃ ctx' : ScpiContext P,
    ((c.Rejected ∧ handler ctx = (.err, ctx')) ∨
      (¬ c.Rejected ∧ handler ctx = finish mul s modbus c.setting ctx')) ∧
    ctx'.written = ctx.written := by
  rw [hhandler]
  by_cases h : c.Rejected
  · exact ⟨_, Or.inl ⟨h, command_of_some hread (hrejected h)⟩, hwritten⟩
  · exact ⟨_, Or.inr ⟨h, hset ▸ command_of_none hread (haccepted h)⟩, hwritten⟩

/-- The handler turns the numbers down, or goes on to set them. -/
theorem callback_cases (h : c.Given parser ctx.params) : ∃ ctx' : ScpiContext P,
    ((c.Rejected ∧ c.command.callback parser div mul s modbus ctx = (.err, ctx')) ∨
      (¬ c.Rejected ∧
        c.command.callback parser div mul s modbus ctx = finish mul s modbus c.setting ctx')) ∧
    ctx'.written = ctx.written := by
  cases c with
  | date a b c =>
    obtain ⟨p, q, r, ps, hparams, ha, hb, hc⟩ := h
    have hhandler : systemDate parser mul s modbus = RidenScpi.command mul s modbus _ _ _ := rfl
    exact cases_of_command hhandler (params3_of_ok hparams ha hb hc) rfl rfl
      (e := .illegalParameterValue) False.elim fun _ => rfl
  | time a b c =>
    obtain ⟨p, q, r, ps, hparams, ha, hb, hc⟩ := h
    have hhandler : systemTime parser mul s modbus = RidenScpi.command mul s modbus _ _ _ := rfl
    exact cases_of_command hhandler (params3_of_ok hparams ha hb hc) rfl rfl
      (e := .illegalParameterValue) False.elim fun _ => rfl
  | rcl n =>
    obtain ⟨p, ps, hparams, ha⟩ := h
    -- the source compares the index that it has subtracted 1 from
    have hcheck : (n < 1 ∨ numberOfPresets ≤ n - 1) ↔ (rcl n).Rejected := by
      rw [Rejected]
      omega
    have hhandler : RidenScpi.rcl parser mul s modbus = RidenScpi.command mul s modbus _ _ _ := rfl
    exact cases_of_command hhandler (param_of_ok hparams ha) rfl rfl
      (fun hr => if_pos (hcheck.2 hr)) fun hr => if_neg (mt hcheck.1 hr)
  | brightness n =>
    obtain ⟨p, ps, hparams, ha⟩ := h
    have hhandler : displayBrightness parser mul s modbus = RidenScpi.command mul s modbus _ _ _ := rfl
    exact cases_of_command hhandler (param_of_ok hparams ha) rfl rfl
      (fun hr => if_pos hr) fun hr => if_neg hr
  | language n =>
    -- the names are looked up first, which pushes an error if the number is not one of them
    obtain ⟨p, ps, hparams, hn | ⟨⟨e, he⟩, hn⟩⟩ := h
    · have heq : displayLanguage parser mul s modbus ctx = _ := displayLanguage_of_parameter
        (by rw [ScpiContext.parameter, hparams]) hn
      split_ifs at heq with hrange
      · exact ⟨_, Or.inl ⟨hrange, heq⟩, rfl⟩
      · exact ⟨_, Or.inr ⟨hrange, heq⟩, rfl⟩
    · have heq : displayLanguage parser mul s modbus ctx = _ := displayLanguage_of_error
        (by rw [ScpiContext.parameter, hparams]) he hn
      split_ifs at heq with hrange
      · exact ⟨_, Or.inl ⟨hrange, heq⟩, rfl⟩
      · exact ⟨_, Or.inr ⟨hrange, heq⟩, rfl⟩

theorem dispatch_fst (handler : Handler P) (ctx : ScpiContext P) :
    (dispatch handler ctx).1 = (handler ctx).1 := by
  rw [dispatch]
  split_ifs with h
  · exact h.1.symm
  · rfl

theorem dispatch_written (handler : Handler P) (ctx : ScpiContext P) :
    (dispatch handler ctx).2.written = (handler ctx).2.written := by
  rw [dispatch]
  split_ifs <;> rfl

theorem systemDateQ_of_written {a b c : ℕ} (h : (date a b c).Fits) (registers : ℕ → ℕ)
    (transfer : Transfer) (locals : List ℕ) :
    systemDateQ
      ⟨transfer, .done, Cells.assign registers (Cells.block Register.year [a, b, c]), locals⟩ ctx =
        (.ok, { ctx with responses := ctx.responses ++ [.uInt16 a, .uInt16 b, .uInt16 c] }) := by
  obtain ⟨ha, hb, hc⟩ := h
  obtain ⟨hyear, hmonth, hday⟩ : (Setting.date a b c).GetsBack (· / ·)
      ⟨"", 0, 0, 100, 100, 100, 100⟩
      (Cells.assign registers (Cells.block Register.year [a, b, c])) :=
    Setting.getsBack_date
  rw [systemDateQ, query, Getter.outcome_done]
  dsimp only
  rw [hyear, hmonth, hday, Setting.intToUint16_of_eq (sub_add_cancel ..) ha,
    Setting.intToUint16_of_eq (sub_add_cancel ..) hb, Setting.intToUint16_of_eq rfl hc]

theorem systemTimeQ_of_written {a b c : ℕ} (h : (time a b c).Fits) (registers : ℕ → ℕ)
    (transfer : Transfer) (locals : List ℕ) :
    systemTimeQ
      ⟨transfer, .done, Cells.assign registers (Cells.block Register.hour [a, b, c]), locals⟩ ctx =
        (.ok, { ctx with responses := ctx.responses ++ [.uInt16 a, .uInt16 b, .uInt16 c] }) := by
  obtain ⟨ha, hb, hc⟩ := h
  obtain ⟨hhour, hminute, hsecond⟩ : (Setting.time a b c).GetsBack (· / ·)
      ⟨"", 0, 0, 100, 100, 100, 100⟩
      (Cells.assign registers (Cells.block Register.hour [a, b, c])) :=
    Setting.getsBack_time
  have hlt : ∀ {n : ℕ}, n < 2 ^ 8 → n < 2 ^ 16 := fun hn => Nat.lt_trans hn (by decide)
  rw [systemTimeQ, query, Getter.outcome_done]
  dsimp only
  rw [hhour, hminute, hsecond, Setting.intToUint16_of_eq rfl (hlt ha),
    Setting.intToUint16_of_eq rfl (hlt hb), Setting.intToUint16_of_eq rfl (hlt hc)]

/-- What was written is read back, if the numbers fit. -/
theorem readBack_of_fits (hfits : c.Fits) {q : Command × List Response} (hq : q ∈ c.readBack)
    (registers : ℕ → ℕ) (transfer : Transfer) (locals : List ℕ) (ctx' : ScpiContext P) :
    dispatch (q.1.callback parser div mul s
      ⟨transfer, .done, Cells.assign registers (Cells.block c.register c.stored), locals⟩) ctx' =
        (.ok, { ctx' with responses := ctx'.responses ++ q.2 }) := by
  refine dispatch_of_ok ?_
  cases c with
  | date a b c =>
    obtain rfl := Option.mem_some_iff.1 hq
    rw [stored, Nat.mod_eq_of_lt hfits.1, Nat.mod_eq_of_lt hfits.2.1, Nat.mod_eq_of_lt hfits.2.2]
    exact systemDateQ_of_written hfits registers transfer locals
  | time a b c =>
    obtain rfl := Option.mem_some_iff.1 hq
    rw [stored, Nat.mod_eq_of_lt hfits.1, Nat.mod_eq_of_lt hfits.2.1, Nat.mod_eq_of_lt hfits.2.2]
    exact systemTimeQ_of_written hfits registers transfer locals
  | _ => cases hq

variable (mul s) in
theorem finish_of_refused (q : Setting) (ctx : ScpiContext P) (h : modbus.transfer = .refused) :
    (finish mul s modbus q ctx).1 = .err ∧ (finish mul s modbus q ctx).2.written = ctx.written := by
  rw [finish, Setting.set_eq, h]
  cases q.write mul s with
  | none => exact ⟨rfl, List.append_nil _⟩
  | some w => exact ⟨rfl, List.append_nil _⟩

theorem finish_of_sent {q : Setting} {w : ℕ × List ℕ} {answered : Bool} (ctx : ScpiContext P)
    (hw : q.write mul s = some w)
    (h : modbus.transfer = .sent answered) :
    (finish mul s modbus q ctx).1 = (if answered then .ok else .err) ∧
      (finish mul s modbus q ctx).2.written = ctx.written ++ Cells.block w.1 w.2 := by
  rw [finish, Setting.set_eq, hw, h]
  cases answered <;> exact ⟨rfl, rfl⟩

theorem finish_of_exception {q : Setting} {w : ℕ × List ℕ} (ctx : ScpiContext P)
    (hw : q.write mul s = some w) (h : modbus.transfer = .exception) :
    (finish mul s modbus q ctx).1 = .ok ∧ (finish mul s modbus q ctx).2.written = ctx.written := by
  rw [finish, Setting.set_eq, hw, h]
  exact ⟨rfl, List.append_nil _⟩

theorem block_stored_ne_nil (c : IntegerCommand) : Cells.block c.register c.stored ≠ [] := by
  cases c <;> exact List.cons_ne_nil _ _

theorem block_numbers_ne_nil (c : IntegerCommand) : Cells.block c.register c.numbers ≠ [] := by
  cases c <;> exact List.cons_ne_nil _ _

/-- The registers hold the numbers if these fit. -/
theorem block_stored_eq_iff (h : ¬ c.Rejected) :
    (Cells.block c.register c.stored).map (fun w => (w.1, (w.2 : ℤ))) =
      Cells.block c.register c.numbers ↔ c.Fits := by
  rw [Cells.map_block, (Cells.block_injective _).eq_iff, stored_eq_iff h]

/-- **No silent truncation.** A command that is given integers writes exactly these and
    succeeds, or writes nothing, exactly if the handler turns them down, or nothing is
    sent, or the power supply answers, without an exception, and the numbers of a date are
    less than `2^16` and those of a time less than `2^8`. -/
theorem faithful_iff (h : c.Given parser ctx.params) :
    c.Faithful parser div mul s modbus ctx ↔
      c.Rejected ∨ modbus.transfer = .refused ∨ (modbus.transfer = .sent true ∧ c.Fits) := by
  rw [Faithful, dispatch_fst, dispatch_written]
  obtain ⟨ctx', ⟨hrejected, heq⟩ | ⟨haccepted, heq⟩, hwritten⟩ := callback_cases h
  · rw [heq]
    refine iff_of_true ⟨[], ?_, fun hok => (nomatch hok), fun _ => rfl⟩ (Or.inl hrejected)
    rw [List.append_nil]
    exact hwritten
  rw [heq, or_iff_right haccepted, ← hwritten]
  cases htransfer : modbus.transfer with
  | refused =>
    obtain ⟨hresult, hsame⟩ := finish_of_refused mul s c.setting ctx' htransfer
    rw [hresult, hsame]
    exact iff_of_true ⟨[], (List.append_nil _).symm, fun hok => (nomatch hok), fun _ => rfl⟩
      (Or.inl rfl)
  | exception =>
    -- the command succeeds, and nothing is written
    obtain ⟨hresult, hsame⟩ := finish_of_exception ctx' (write_setting haccepted) htransfer
    rw [hresult, hsame]
    refine iff_of_false ?_ (by simp)
    rintro ⟨ws, hws, hok, -⟩
    obtain rfl : ws = [] := List.append_right_eq_self.1 hws.symm
    exact block_numbers_ne_nil c (hok rfl).1.symm
  | sent answered =>
    obtain ⟨hresult, hset⟩ := finish_of_sent ctx' (write_setting haccepted) htransfer
    rw [hresult, hset]
    cases answered with
    | false =>
      -- the registers may have been written, but the command fails
      refine iff_of_false ?_ (by simp)
      rintro ⟨ws, hws, -, hnil⟩
      rw [List.append_cancel_left_eq, hnil (by decide)] at hws
      exact block_stored_ne_nil c hws
    | true =>
      constructor
      · rintro ⟨ws, hws, hok, -⟩
        obtain rfl := List.append_cancel_left hws
        exact Or.inr ⟨rfl, (block_stored_eq_iff haccepted).1 (hok rfl).1⟩
      · rintro (hrefused | ⟨-, hfits⟩)
        · cases hrefused
        · exact ⟨_, rfl, fun _ => ⟨(block_stored_eq_iff haccepted).2 hfits,
            fun q hq => readBack_of_fits hfits hq⟩, fun herr => absurd rfl herr⟩

/-- On an RD6006, a time is set and read back. -/
theorem faithful_time :
    (time 23 59 59).Faithful numericParser (· / ·) (· * ·)
        ⟨"RD6006", 601 / 10, 6, 100, 1000, 100, 100⟩ ⟨.sent true, .failed, fun _ => 0, []⟩
        ⟨[.ok 23, .ok 59, .ok 59], [], [], []⟩ ↔
      (time 23 59 59).Rejected ∨ Transfer.sent true = .refused ∨
        (Transfer.sent true = .sent true ∧ (time 23 59 59).Fits) :=
  faithful_iff ⟨23, 59, 59, [], rfl, rfl, rfl, rfl⟩

/-- The hour 280 is set as 24. -/
theorem not_faithful_hour : ¬ (time 280 0 0).Faithful numericParser (· / ·) (· * ·)
    ⟨"RD6006", 601 / 10, 6, 100, 1000, 100, 100⟩ ⟨.sent true, .failed, fun _ => 0, []⟩
    ⟨[.ok 280, .ok 0, .ok 0], [], [], []⟩ := by
  rintro ⟨ws, hws, hok, -⟩
  have hset : [(51, 24), (52, 0), (53, 0)] = ws := hws
  obtain rfl := hset
  have hwrong : [(51, (24 : ℤ)), (52, 0), (53, 0)] = [(51, 280), (52, 0), (53, 0)] := (hok rfl).1
  simp at hwrong

end IntegerCommand

end RidenDongle.RidenScpi
