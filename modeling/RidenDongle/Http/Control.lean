import RidenDongle.Modbus.Setters

/-!
# The control page

What the web page does to switch the output, and the status that it gets
(`handle_toggle_out` and `handle_status_get` in `riden_http_server.cpp`). The output is
read, its negation is written, and the reply is the status of the power supply, which
is read in chunks; each of these can fail on its own, or be answered by an exception
(`Transfers`). A failed write leaves the register unchanged.

`allOrNothing_iff` tells when the reply is true to what became of the output.
-/

namespace RidenDongle

/-- The fields of the status; the numbers are not formatted here. -/
structure Status where
  outOn : Bool
  setV : ℚ
  setC : ℚ
  outV : ℚ
  outC : ℚ
  battMode : Bool
  cvMode : Bool
  prot : String
  battV : ℚ
  extTC : Option ℚ
  intTC : ℚ
  ah : ℚ
  wh : ℚ
  maxV : ℚ
  maxC : ℚ

inductive Body
  | text (content : String)
  | status (content : Status)

/-- What `server.send` is called with. -/
structure Reply where
  code : ℕ
  contentType : String
  body : Body

/-- How the transfers with the power supply go: the read and the write of the output,
    and the reads of the status, by their first registers. -/
structure Transfers where
  read : Exchange
  write : Exchange
  status : ℕ → Exchange

/-- A write that leaves the register unchanged if it fails. -/
def Exchange.transfer : Exchange → RidenModbus.Transfer
  | failed => .refused
  | done => .sent true
  | exception => .exception

namespace RidenHttpServer

variable (div : ℚ → ℚ → ℚ) (s : RidenModbus)

def protectionToString : Protection → String
  | .ovp => "OVP"
  | .ocp => "OCP"
  | .none => "None"

def toStatus (v : AllValues) : Status where
  outOn := v.outputOn
  setV := v.voltageSet
  setC := v.currentSet
  outV := v.voltageOut
  outC := v.currentOut
  battMode := v.isBatteryMode
  cvMode := v.outputMode = .constantVoltage
  prot := protectionToString v.protection
  battV := v.voltageBattery
  extTC := if v.probeTemperatureCelsius < -50 then none else some v.probeTemperatureCelsius
  intTC := v.systemTemperatureCelsius
  ah := v.ah
  wh := v.wh
  maxV := s.vMax
  maxC := s.iMax

def notConnected : Reply := ⟨500, "text/plain", .text "Not connected to power supply"⟩

/-- `handle_status_get`; `locals` and `all` are what the array of registers and the values
    held. -/
def handleStatusGet (connected : Bool) (registers : ℕ → ℕ) (chunk : ℕ → Exchange) (locals : ℕ → ℕ)
    (all : AllValues) : Reply :=
  let out := s.getAllValuesInto div true registers chunk locals all
  if connected && out.1 then ⟨200, "application/json", .status (toStatus s out.2)⟩
  else notConnected

/-- `handle_toggle_out`, with the registers that it leaves. -/
def handleToggleOut (connected : Bool) (registers : ℕ → ℕ) (t : Transfers) (locals : ℕ → ℕ)
    (all : AllValues) : Reply × (ℕ → ℕ) :=
  if connected then
    -- without the state, the output counts as off; after an exception, it is read as off
    let getOutputOn := (RidenModbus.getOutputOn.outcome t.read registers []).getD false
    let out := RidenModbus.setOutputOn (!getOutputOn) t.write.transfer
    let registers := Cells.assign registers out.written
    if out.result then (handleStatusGet div s connected registers t.status locals all, registers)
    else (⟨500, "text/plain", .text "Failed to toggle output"⟩, registers)
  else (notConnected, registers)

/-- The output, as it is read from its register. -/
def IsOn (registers : ℕ → ℕ) : Prop := registers Register.output ≠ 0

/-- A reply with 200 says that the output was toggled, one with 500 that it was not; and the
    output is not switched on without knowing its state. -/
structure AllOrNothing (registers : ℕ → ℕ) (t : Transfers) (out : Reply × (ℕ → ℕ)) : Prop where
  toggled : out.1.code = 200 → (IsOn out.2 ↔ ¬ IsOn registers)
  unchanged : out.1.code = 500 → out.2 Register.output = registers Register.output
  known : t.read ≠ .done → ¬ IsOn registers → ¬ IsOn out.2

/-- The reads of all chunks of the status return `true`. -/
def StatusRead (t : Transfers) : Prop :=
  ∀ k, 20 * k ≤ Register.subsetEnd → (t.status (20 * k)).result = true

variable {div s} {connected : Bool} {registers : ℕ → ℕ} {t : Transfers} {locals : ℕ → ℕ}
  {all : AllValues}

theorem getAllValuesInto_subset_iff : (s.getAllValuesInto div true registers t.status locals all).1 =
    true ↔ StatusRead t := by
  rw [RidenModbus.getAllValuesInto_fst_iff]
  exact forall_congr' fun k => imp_congr Nat.lt_succ_iff Iff.rfl

theorem handleStatusGet_of_statusRead (h : StatusRead t) :
    handleStatusGet div s true registers t.status locals all = ⟨200, "application/json",
      .status (toStatus s (s.getAllValuesInto div true registers t.status locals all).2)⟩ := by
  rw [handleStatusGet, getAllValuesInto_subset_iff.2 h]
  rfl

theorem handleStatusGet_of_not_statusRead (h : ¬ StatusRead t) :
    handleStatusGet div s true registers t.status locals all = notConnected := by
  have hfalse : (s.getAllValuesInto div true registers t.status locals all).1 = false :=
    Bool.eq_false_iff.2 fun htrue => h (getAllValuesInto_subset_iff.1 htrue)
  rw [handleStatusGet, hfalse]
  rfl

theorem statusRead_of_code
    (h : (handleStatusGet div s connected registers t.status locals all).code = 200) :
    connected = true ∧ StatusRead t := by
  cases connected with
  | false => cases h
  | true =>
    refine ⟨rfl, ?_⟩
    by_contra hstatus
    rw [handleStatusGet_of_not_statusRead hstatus] at h
    cases h

theorem handleToggleOut_of_failed (hwrite : t.write = .failed) :
    handleToggleOut div s true registers t locals all =
      (⟨500, "text/plain", .text "Failed to toggle output"⟩, registers) := by
  rw [handleToggleOut, hwrite]
  rfl

theorem handleToggleOut_of_exception (hwrite : t.write = .exception) :
    handleToggleOut div s true registers t locals all =
      (handleStatusGet div s true registers t.status locals all, registers) := by
  rw [handleToggleOut, hwrite]
  rfl

/-- What is known of the output: nothing unless it was read. -/
theorem getD_outcome_getOutputOn (e : Exchange) :
    (RidenModbus.getOutputOn.outcome e registers []).getD false =
      (decide (e = .done) && RidenModbus.getOutputOn.on registers) := by
  cases e with
  | failed | exception => rfl
  | done => rw [Getter.outcome_done, Option.getD_some, decide_eq_true rfl, Bool.true_and]

/-- The registers after a write that was done. -/
def toggled (registers : ℕ → ℕ) (t : Transfers) : ℕ → ℕ :=
  Function.update registers Register.output
    (if t.read = .done ∧ registers Register.output ≠ 0 then 0 else 1)

/-- A write that is done leaves the negation of what was read in the register. -/
theorem handleToggleOut_of_done (hwrite : t.write = .done) :
    handleToggleOut div s true registers t locals all =
      (handleStatusGet div s true (toggled registers t) t.status locals all,
        toggled registers t) := by
  have hset : Cells.assign registers (RidenModbus.setOutputOn
      (!(RidenModbus.getOutputOn.outcome t.read registers []).getD false)
        (.sent true)).written = toggled registers t := by
    have hvalue : (if (!(RidenModbus.getOutputOn.outcome t.read registers []).getD false) = true
        then 1 else 0) = if t.read = .done ∧ registers Register.output ≠ 0 then 0 else 1 := by
      rw [getD_outcome_getOutputOn, RidenModbus.getOutputOn, RidenModbus.readBoolean_on]
      by_cases hread : t.read = .done <;> by_cases hoff : registers Register.output = 0 <;>
        simp [hread, hoff]
    rw [toggled, ← hvalue]
    rfl
  rw [← hset, handleToggleOut, hwrite]
  rfl

theorem isOn_toggled (hread : t.read = .done) :
    IsOn (toggled registers t) ↔ ¬ IsOn registers := by
  rw [IsOn, toggled, Function.update_self]
  split_ifs with h
  · exact iff_of_false (fun hne => hne rfl) fun hoff => hoff h.2
  · exact iff_of_true Nat.one_ne_zero fun hon => h ⟨hread, hon⟩

theorem toggled_of_not_read (hread : t.read ≠ .done) :
    toggled registers t Register.output = 1 := by
  rw [toggled, Function.update_self, if_neg fun h => hread h.1]

/-- A register that is toggled does not hold what it held. -/
theorem toggled_ne (hread : t.read = .done) :
    toggled registers t Register.output ≠ registers Register.output := by
  intro h
  have hiff : IsOn (toggled registers t) ↔ ¬ IsOn registers := isOn_toggled hread
  rw [IsOn, IsOn, h] at hiff
  exact iff_not_self hiff

theorem allOrNothing_of_unchanged {reply : Reply} {registers' : ℕ → ℕ} (hcode : reply.code = 500)
    (hsame : registers' = registers) : AllOrNothing registers t (reply, registers') where
  toggled h := absurd (h.symm.trans hcode) (by decide)
  unchanged _ := congrFun hsame _
  known _ h := by rwa [hsame]

/-- The write was answered by an exception: nothing has changed, which must not be reported
    as done. -/
theorem allOrNothing_exception_iff :
    AllOrNothing registers t (handleStatusGet div s true registers t.status locals all, registers) ↔
      ¬ StatusRead t := by
  constructor
  · intro h hstatus
    exact iff_not_self (h.toggled (congrArg Reply.code (handleStatusGet_of_statusRead hstatus)))
  · intro h
    exact allOrNothing_of_unchanged (congrArg Reply.code (handleStatusGet_of_not_statusRead h)) rfl

theorem allOrNothing_toggled_iff :
    AllOrNothing registers t (handleStatusGet div s true (toggled registers t) t.status locals all,
        toggled registers t) ↔
      (t.read = .done ∧ StatusRead t) ∨
        (t.read ≠ .done ∧ ¬ StatusRead t ∧ registers Register.output = 1) := by
  constructor
  · intro h
    by_cases hstatus : StatusRead t
    · refine Or.inl ⟨by_contra fun hread => ?_, hstatus⟩
      -- the output was off before, or it was not toggled; but it was switched on
      have hon : IsOn (toggled registers t) := by
        rw [IsOn, toggled_of_not_read hread]
        exact Nat.one_ne_zero
      have hoff := (h.toggled
        (congrArg Reply.code (handleStatusGet_of_statusRead hstatus))).1 hon
      exact h.known hread hoff hon
    · have hsame := h.unchanged (congrArg Reply.code (handleStatusGet_of_not_statusRead hstatus))
      by_cases hread : t.read = .done
      · exact absurd hsame (toggled_ne hread)
      · exact Or.inr ⟨hread, hstatus, hsame.symm.trans (toggled_of_not_read hread)⟩
  · rintro (⟨hread, hstatus⟩ | ⟨hread, hstatus, hone⟩)
    · have hcode : (handleStatusGet div s true (toggled registers t) t.status locals all).code =
          200 := congrArg Reply.code (handleStatusGet_of_statusRead hstatus)
      exact
        { toggled := fun _ => isOn_toggled hread
          unchanged := fun h => absurd (hcode.symm.trans h) (by decide)
          known := fun h => absurd hread h }
    · rw [handleStatusGet_of_not_statusRead hstatus]
      exact
        { toggled := fun h => absurd (show 500 = 200 from h) (by decide)
          unchanged := fun _ => (toggled_of_not_read hread).trans hone.symm
          known := fun _ h => absurd (hone.trans_ne Nat.one_ne_zero) h }

/-- **All or nothing.** The reply is true to what became of the output, and the output is
    not switched on without knowing its state, exactly if nothing was written and that was
    not reported as done; or the state was read before and the status after it; or neither
    was, and the register already held what was written. -/
theorem allOrNothing_iff (div : ℚ → ℚ → ℚ) (s : RidenModbus) (connected : Bool)
    (registers : ℕ → ℕ) (t : Transfers) (locals : ℕ → ℕ) (all : AllValues) :
    AllOrNothing registers t (handleToggleOut div s connected registers t locals all) ↔
      connected = false ∨ t.write = .failed ∨ (t.write = .exception ∧ ¬ StatusRead t) ∨
        (t.write = .done ∧ ((t.read = .done ∧ StatusRead t) ∨
          (t.read ≠ .done ∧ ¬ StatusRead t ∧ registers Register.output = 1))) := by
  cases connected with
  | false => exact iff_of_true (allOrNothing_of_unchanged rfl rfl) (Or.inl rfl)
  | true =>
    rw [or_iff_right Bool.true_eq_false_eq_False]
    cases hwrite : t.write with
    | failed =>
      rw [handleToggleOut_of_failed hwrite]
      exact iff_of_true (allOrNothing_of_unchanged rfl rfl) (Or.inl rfl)
    | exception =>
      rw [handleToggleOut_of_exception hwrite, allOrNothing_exception_iff]
      simp
    | done =>
      rw [handleToggleOut_of_done hwrite, allOrNothing_toggled_iff]
      simp

/-- The read of the output times out, and the output is switched on. -/
theorem not_allOrNothing_unread : ¬ AllOrNothing (fun _ => 0) ⟨.failed, .done, fun _ => .done⟩
    (handleToggleOut (· / ·) ⟨"RD6006", 601 / 10, 6, 100, 1000, 100, 100⟩ true (fun _ => 0)
      ⟨.failed, .done, fun _ => .done⟩ (fun _ => 0)
      ((RidenModbus.getAllValues (· / ·) ⟨"RD6006", 601 / 10, 6, 100, 1000, 100, 100⟩ true).on
        fun _ => 0)) :=
  fun h => h.known (by decide) (fun hon => hon rfl) Nat.one_ne_zero

end RidenHttpServer

end RidenDongle
