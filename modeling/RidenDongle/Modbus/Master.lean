import RidenDongle.Machine.Run
import Mathlib.Algebra.Group.Nat.Defs

/-!
# Calls to the power supply

`RidenModbus::read_holding_registers` and its two siblings (`riden_modbus.cpp`):
each waits until the Modbus master has no transaction, starts one, and waits
again until it has ended. A wait is left when `RidenModbus::timeout` has passed.

The master itself is the library's. It has at most one outstanding transaction;
of a read it keeps the destination, until the transaction ends in one of four
ways (`Event`). One poll of a waiting loop is one step: `delay(1)`, `task()` and
the look at the clock, which a number of milliseconds takes.

The fields `strayed` and `returned` are ghost: the calls that had returned when a
response was stored through their pointer, and what the calls returned, with
the words of the response to their request.
-/

namespace RidenDongle

/-- `RidenModbus::timeout`, in milliseconds. -/
abbrev modbusTimeout : ℕ := 500

/-- `millis()`, an `unsigned long`. -/
def millis (now : ℕ) : ℕ := now % 2 ^ 32

/-- What `modbus.task()` finds out about the outstanding transaction. -/
inductive Event
  /-- nothing yet -/
  | quiet
  /-- a normal response; of a read it carries the registers asked for, which are
      stored at its destination -/
  | response (registers : ℕ → ℕ)
  /-- an exception response -/
  | exception
  /-- a response that a raw callback takes for itself -/
  | consumed
  /-- the timeout of the library has passed -/
  | dropped

/-- The three calls. -/
inductive ModbusCall
  | readHoldingRegisters (offset numregs : ℕ)
  | writeHoldingRegister (offset value : ℕ)
  | writeHoldingRegisters (offset : ℕ) (value : List ℕ)
  deriving DecidableEq

namespace ModbusCall

def isRead : ModbusCall → Bool
  | .readHoldingRegisters _ _ => true
  | _ => false

/-- What a response carries for the call. -/
def carried (registers : ℕ → ℕ) : ModbusCall → List ℕ
  | .readHoldingRegisters offset numregs =>
    (List.range numregs).map fun k => registers (offset + k)
  | _ => []

end ModbusCall

/-- The outstanding transaction: of a read, the number of the call whose `value`
    it is to be stored to. -/
structure Transaction where
  target : Option ℕ
  deriving DecidableEq

/-- Where the code is: in no call, in the wait before the request of a call, or in
    the wait for its response. -/
inductive Phase
  | idle
  | before (call : ModbusCall) (waitUntil : ℕ)
  | after (call : ModbusCall) (waitUntil : ℕ)
  deriving DecidableEq

/-- What a call returned, and the registers that a response to its request carried. -/
structure Returned where
  call : ModbusCall
  result : Bool
  stored : Option (List ℕ)
  deriving DecidableEq

structure Master where
  initialized : Bool
  outstanding : Option Transaction
  phase : Phase
  now : ℕ
  /-- the number of calls made; the one in progress is the last -/
  calls : ℕ
  strayed : List ℕ
  returned : List Returned
  deriving DecidableEq

namespace Master

variable (m : Master)

/-- A master that was begun, before any call. -/
def initial (now : ℕ) : Master := ⟨true, none, .idle, now, 0, [], []⟩

/-- The call in progress returns `result`. -/
def finish (call : ModbusCall) (result : Bool) (stored : Option (List ℕ)) : Master :=
  { m with phase := .idle, returned := m.returned ++ [⟨call, result, stored⟩] }

/-- What is done when the first wait has succeeded: `readHreg` or `writeHreg`, and
    the second wait begins. `accepted` is what the library returns. -/
def request (call : ModbusCall) (accepted : Bool) : Master :=
  if accepted then
    { m with
      -- only a read keeps a pointer to the value
      outstanding := some ⟨if call.isRead then some m.calls else none⟩
      phase := .after call (millis (m.now + modbusTimeout)) }
  else m.finish call false none

/-- A call begins: it waits if there is an outstanding transaction. -/
def begin (call : ModbusCall) (accepted : Bool) : Master :=
  let m := { m with calls := m.calls + 1 }
  if !m.initialized then m.finish call false none
  else if m.outstanding.isSome then
    { m with phase := .before call (millis (m.now + modbusTimeout)) }
  else m.request call accepted

/-- The buffer that the outstanding transaction targets, if its call has returned. -/
def stray : List ℕ :=
  match m.outstanding, m.phase with
  | some ⟨some k⟩, .after _ _ => if k = m.calls then [] else [k]
  | some ⟨some k⟩, _ => [k]
  | _, _ => []

/-- `modbus.task()`. -/
def task (e : Event) : Master :=
  match e with
  | .quiet => m
  | .response _ => { m with outstanding := none, strayed := m.strayed ++ m.stray }
  | _ => { m with outstanding := none }

/-- What a response stores for the outstanding transaction, that of `call`. -/
def stored (call : ModbusCall) : Event → Option (List ℕ)
  | .response registers => if m.outstanding.isSome then some (call.carried registers) else none
  | _ => none

/-- A pass of the loop in `wait_for_inactive`, or `task()` outside of the calls.
    `accepted` is for the request that may follow. -/
def poll (e : Event) (elapsed : ℕ) (accepted : Bool) : Master :=
  let t := { m.task e with now := m.now + elapsed }
  match m.phase with
  | .idle => t
  | .before call waitUntil =>
    if millis t.now > waitUntil then t.finish call false none
    else if t.outstanding.isSome then t
    else t.request call accepted
  | .after call waitUntil =>
    if millis t.now > waitUntil then t.finish call false (m.stored call e)
    else if t.outstanding.isSome then t
    else t.finish call true (m.stored call e)

/-- A request of the bridge, which has no destination. -/
def rawRequest : Master :=
  if m.outstanding.isNone then { m with outstanding := some ⟨none⟩ } else m

inductive Input
  | begin (call : ModbusCall) (accepted : Bool)
  | poll (e : Event) (elapsed : ℕ) (accepted : Bool)
  | rawRequest

/-- The code is in one call at a time, and forwards bridged requests in none. -/
def step : Input → Master
  | .begin call accepted => if m.phase = .idle then m.begin call accepted else m
  | .poll e elapsed accepted => m.poll e elapsed accepted
  | .rawRequest => if m.phase = .idle then m.rawRequest else m

/-! ## Late responses -/

/-- The call in progress waits for the response. -/
def Awaiting : Prop := ∃ call waitUntil, m.phase = .after call waitUntil

/-- No outstanding transaction targets the value of a call that has returned, and
    no response was stored to one. -/
structure NoLate (m : Master) : Prop where
  outstanding : ∀ k, m.outstanding = some ⟨some k⟩ → k = m.calls ∧ m.Awaiting
  strayed : m.strayed = []

/-- A read that is given up when its deadline has passed has ended by then. -/
def EndsInTime (m : Master) : Input → Prop
  | .poll e elapsed _ => ∀ call waitUntil k, m.phase = .after call waitUntil →
      m.outstanding = some ⟨some k⟩ → waitUntil < millis (m.now + elapsed) → e ≠ .quiet
  | _ => True

variable {m} {call : ModbusCall} {waitUntil : ℕ}

/-- With no late transaction, a response is stored where it belongs. -/
theorem NoLate.stray_eq (h : m.NoLate) : m.stray = [] := by
  unfold stray
  split
  · rename_i k _ _ hout _
    exact if_pos (h.outstanding k hout).1
  · rename_i k hout hphase
    obtain ⟨call, waitUntil, hafter⟩ := (h.outstanding k hout).2
    exact absurd hafter (hphase call waitUntil)
  · rfl

theorem NoLate.task (h : m.NoLate) (e : Event) : (m.task e).NoLate := by
  cases e with
  | quiet => exact h
  | response registers =>
    refine ⟨fun k hk => (nomatch hk), ?_⟩
    change m.strayed ++ m.stray = []
    rw [h.strayed, h.stray_eq, List.append_nil]
  | exception => exact ⟨fun k hk => (nomatch hk), h.strayed⟩
  | consumed => exact ⟨fun k hk => (nomatch hk), h.strayed⟩
  | dropped => exact ⟨fun k hk => (nomatch hk), h.strayed⟩

theorem task_eq (e : Event) : (m.task e).phase = m.phase ∧ (m.task e).now = m.now ∧
    (m.task e).calls = m.calls ∧
    (e = .quiet → (m.task e).outstanding = m.outstanding) ∧
    (e ≠ .quiet → (m.task e).outstanding = none) := by
  cases e <;> simp [task]

/-- A poll leaves the transaction to `task`, or has the call make its request. -/
theorem poll_cases (m : Master) (e : Event) (elapsed : ℕ) (accepted : Bool) :
    ((m.poll e elapsed accepted).outstanding = (m.task e).outstanding ∧
      ∀ call waitUntil, (m.poll e elapsed accepted).phase = .before call waitUntil →
        m.phase = .before call waitUntil ∧ (m.task e).outstanding.isSome) ∨
    ∃ call waitUntil, m.phase = .before call waitUntil ∧ millis (m.now + elapsed) ≤ waitUntil ∧
      (m.task e).outstanding = none ∧ accepted = true ∧
      (m.poll e elapsed accepted).outstanding.isSome ∧ (m.poll e elapsed accepted).Awaiting := by
  obtain ⟨hphase, hnow, -, -⟩ := m.task_eq e
  cases hp : m.phase with
  | idle =>
    simp only [poll, hp]
    refine Or.inl ⟨trivial, fun call waitUntil hbefore => ?_⟩
    rw [show _ = m.phase from hphase, hp] at hbefore
    cases hbefore
  | before call waitUntil =>
    simp only [poll, hp]
    split_ifs with hlate hsome
    · exact Or.inl ⟨rfl, fun call waitUntil hbefore => by cases hbefore⟩
    · refine Or.inl ⟨rfl, fun call' waitUntil' hbefore => ?_⟩
      rw [show _ = m.phase from hphase, hp] at hbefore
      exact ⟨hbefore, hsome⟩
    · cases accepted with
      | false => exact Or.inl ⟨rfl, fun call waitUntil hbefore => by cases hbefore⟩
      | true =>
        exact Or.inr ⟨call, waitUntil, rfl, Nat.not_lt.1 hlate,
          Option.not_isSome_iff_eq_none.1 hsome, rfl, rfl, call, _, rfl⟩
  | after call waitUntil =>
    simp only [poll, hp]
    split_ifs
    · exact Or.inl ⟨rfl, fun call waitUntil hbefore => by cases hbefore⟩
    · refine Or.inl ⟨rfl, fun call' waitUntil' hbefore => ?_⟩
      rw [show _ = m.phase from hphase, hp] at hbefore
      cases hbefore
    · exact Or.inl ⟨rfl, fun call waitUntil hbefore => by cases hbefore⟩

theorem phase_poll_of_idle (hidle : m.phase = .idle) (e : Event) (elapsed : ℕ)
    (accepted : Bool) : (m.poll e elapsed accepted).phase = .idle := by
  simp only [poll, hidle]
  exact (m.task_eq e).1.trans hidle

/-- Outside of the second wait no transaction has a target. -/
theorem NoLate.no_target (h : m.NoLate) (hphase : ¬ m.Awaiting) (k : ℕ) :
    m.outstanding ≠ some ⟨some k⟩ :=
  fun hk => hphase (h.outstanding k hk).2

theorem noLate_of_no_target (hout : ∀ k, m.outstanding ≠ some ⟨some k⟩) (hs : m.strayed = []) :
    m.NoLate :=
  ⟨fun k hk => absurd hk (hout k), hs⟩

theorem NoLate.request (hout : ∀ k, m.outstanding ≠ some ⟨some k⟩) (hs : m.strayed = [])
    (accepted : Bool) : (m.request call accepted).NoLate := by
  cases accepted with
  | false => exact noLate_of_no_target hout hs
  | true =>
    refine ⟨fun k hk => ⟨?_, call, _, rfl⟩, hs⟩
    cases call with
    | readHoldingRegisters offset numregs =>
      have hk : some (⟨some m.calls⟩ : Transaction) = some ⟨some k⟩ := hk
      injection hk with hk
      injection hk with hk
      exact (Option.some.inj hk).symm
    | writeHoldingRegister | writeHoldingRegisters => cases hk

/-- A call that begins has no late transaction behind it. -/
theorem NoLate.begin (h : m.NoLate) (hidle : m.phase = .idle) (accepted : Bool) :
    (m.begin call accepted).NoLate := by
  have hout := h.no_target fun ⟨_, _, hafter⟩ => by rw [hidle] at hafter; cases hafter
  rw [Master.begin]
  dsimp only
  split_ifs
  · exact noLate_of_no_target hout h.strayed
  · exact noLate_of_no_target hout h.strayed
  · exact NoLate.request (m := { m with calls := m.calls + 1 }) hout h.strayed accepted

/-- A poll without a call leaves no late transaction behind. -/
theorem NoLate.poll_idle (h : m.NoLate) (hp : m.phase = .idle) (e : Event) (elapsed : ℕ)
    (accepted : Bool) : (m.poll e elapsed accepted).NoLate := by
  obtain ⟨hphase, -⟩ := m.task_eq e
  have ht : m.poll e elapsed accepted = { m.task e with now := m.now + elapsed } := by
    simp only [poll, hp]
  rw [ht]
  refine noLate_of_no_target ((h.task e).no_target ?_) (h.task e).strayed
  rintro ⟨_, _, hafter⟩
  rw [hphase, hp] at hafter
  cases hafter

/-- Nor does one that waits for the bus. -/
theorem NoLate.poll_before (h : m.NoLate) {call : ModbusCall} {waitUntil : ℕ}
    (hp : m.phase = .before call waitUntil) (e : Event) (elapsed : ℕ) (accepted : Bool) :
    (m.poll e elapsed accepted).NoLate := by
  obtain ⟨hphase, -⟩ := m.task_eq e
  have hnone := (h.task e).no_target fun ⟨_, _, hafter⟩ => by
    rw [hphase, hp] at hafter
    cases hafter
  simp only [poll, hp]
  split_ifs
  · exact noLate_of_no_target hnone (h.task e).strayed
  · exact noLate_of_no_target hnone (h.task e).strayed
  · exact NoLate.request (m := { m.task e with now := m.now + elapsed }) hnone (h.task e).strayed
      accepted

/-- A poll that waits for the response does if the read is given up with its transaction
    outstanding. -/
theorem NoLate.poll_after_iff (h : m.NoLate) {call : ModbusCall} {waitUntil : ℕ}
    (hp : m.phase = .after call waitUntil) (e : Event) (elapsed : ℕ) (accepted : Bool) :
    (m.poll e elapsed accepted).NoLate ↔ m.EndsInTime (.poll e elapsed accepted) := by
  obtain ⟨hphase, -, -, hquiet, hended⟩ := m.task_eq e
  have htask := h.task e
  simp only [poll, hp, EndsInTime]
  split_ifs with hlate hsome
  -- the call returns, and leaves its transaction behind unless this poll has ended it
  · constructor
    · intro hno call' waitUntil' k hafter hk _ he
      cases hafter
      have hstill : (m.task e).outstanding = some ⟨some k⟩ := (hquiet he).trans hk
      obtain ⟨_, _, hidle⟩ := (hno.outstanding k hstill).2
      cases hidle
    · intro hends
      refine noLate_of_no_target (fun k hk => ?_) htask.strayed
      have hk : (m.task e).outstanding = some ⟨some k⟩ := hk
      by_cases he : e = .quiet
      · exact hends call waitUntil k rfl ((hquiet he).symm.trans hk) hlate he
      · rw [hended he] at hk
        cases hk
  · refine iff_of_true ⟨fun k hk => ⟨?_, call, waitUntil, hphase.trans hp⟩, htask.strayed⟩ ?_
    · exact (htask.outstanding k hk).1
    · intro call' waitUntil' k hafter _ hlate'
      cases hafter
      exact absurd hlate' hlate
  · refine iff_of_true (noLate_of_no_target (fun k hk => hsome ?_) htask.strayed) ?_
    · have hk : (m.task e).outstanding = some ⟨some k⟩ := hk
      rw [hk]
      rfl
    · intro call' waitUntil' k hafter _ hlate'
      cases hafter
      exact absurd hlate' hlate

/-- What one poll makes of it: only a read that is given up with its transaction
    outstanding leaves one behind. -/
theorem noLate_poll_iff (h : m.NoLate) (e : Event) (elapsed : ℕ) (accepted : Bool) :
    (m.poll e elapsed accepted).NoLate ↔ m.EndsInTime (.poll e elapsed accepted) := by
  cases hp : m.phase with
  | idle =>
    refine iff_of_true (h.poll_idle hp e elapsed accepted) fun _ _ _ hafter => ?_
    rw [hp] at hafter
    cases hafter
  | before call waitUntil =>
    refine iff_of_true (h.poll_before hp e elapsed accepted) fun _ _ _ hafter => ?_
    rw [hp] at hafter
    cases hafter
  | after call waitUntil => exact h.poll_after_iff hp e elapsed accepted

/-- A step leaves no late transaction behind exactly if it ends in time. -/
theorem noLate_step_iff (h : m.NoLate) (i : Input) : (m.step i).NoLate ↔ m.EndsInTime i := by
  cases i with
  | poll e elapsed accepted => exact noLate_poll_iff h e elapsed accepted
  | begin call accepted =>
    refine iff_of_true ?_ trivial
    rw [step]
    split_ifs with hidle
    · exact h.begin hidle accepted
    · exact h
  | rawRequest =>
    refine iff_of_true ?_ trivial
    rw [step, rawRequest]
    split_ifs
    · exact noLate_of_no_target (fun k hk => by cases hk) h.strayed
    · exact h
    · exact h

/-- **No late response into a finished call.** Along a run, no transaction outlives
    the call whose value it targets, and no response is stored for one that has
    returned, exactly if every read that is given up at its deadline has ended. -/
theorem always_noLate_iff (now : ℕ) (is : List Input) :
    Machine.Always step NoLate (initial now) is ↔
      Machine.Guarded step EndsInTime (initial now) is :=
  Machine.always_iff_guarded (Q := fun _ => True) (fun _ _ _ => trivial)
    (fun _ i _ h => noLate_step_iff h i) trivial ⟨fun k hk => (by cases hk), rfl⟩

/-- A response that comes 600 ms after the request of a read. -/
theorem not_noLate_slowResponse :
    ¬ Machine.Always step NoLate (initial 0)
      [.begin (.readHoldingRegisters 0 1) true, .poll .quiet 501 true,
        .poll (.response fun _ => 1) 99 true] := by
  intro h
  exact absurd h.last.strayed (by decide)

/-! ## Real reads -/

/-- Every read that returned `true` had its registers stored by a response to it. -/
def ReadsReal (m : Master) : Prop :=
  ∀ r ∈ m.returned, r.call.isRead → r.result = true →
    ∃ registers, r.stored = some (r.call.carried registers)

/-- A transaction of a read that ends with no normal response does so when the
    deadline has passed. -/
def EndsWithResponse (m : Master) : Input → Prop
  | .poll e elapsed _ => ∀ call waitUntil, m.phase = .after call waitUntil → call.isRead →
      e = .exception ∨ e = .consumed ∨ e = .dropped → waitUntil < millis (m.now + elapsed)
  | _ => True

/-- The second wait is one for an outstanding transaction. -/
def Waits (m : Master) : Prop := m.Awaiting → m.outstanding.isSome

theorem ReadsReal.finish_false (h : m.ReadsReal) (call : ModbusCall) (stored : Option (List ℕ)) :
    (m.finish call false stored).ReadsReal := by
  intro r hr hcall hresult
  rcases List.mem_append.1 hr with hr | hr
  · exact h r hr hcall hresult
  · rw [List.mem_singleton.1 hr] at hresult
    cases hresult

theorem readsReal_finish_true_iff (h : m.ReadsReal) (stored : Option (List ℕ)) :
    (m.finish call true stored).ReadsReal ↔
      (call.isRead → ∃ registers, stored = some (call.carried registers)) := by
  constructor
  · intro hreal hcall
    exact hreal ⟨call, true, stored⟩ (List.mem_append_right _ (List.mem_singleton_self _)) hcall
      rfl
  · intro hstored r hr hcall hresult
    rcases List.mem_append.1 hr with hr | hr
    · exact h r hr hcall hresult
    · rw [List.mem_singleton.1 hr] at hcall ⊢
      exact hstored hcall

theorem waits_finish (result : Bool) (stored : Option (List ℕ)) :
    (m.finish call result stored).Waits := by
  rintro ⟨_, _, hafter⟩
  cases hafter

theorem Waits.request (accepted : Bool) : (m.request call accepted).Waits := by
  cases accepted with
  | false => exact waits_finish false none
  | true => exact fun _ => rfl

theorem ReadsReal.request (h : m.ReadsReal) (accepted : Bool) :
    (m.request call accepted).ReadsReal := by
  cases accepted with
  | false => exact h.finish_false call none
  | true => exact h

theorem waits_of_phase (hphase : ¬ m.Awaiting) : m.Waits := fun h => absurd h hphase

theorem task_returned (e : Event) : (m.task e).returned = m.returned := by
  cases e <;> rfl

theorem Waits.step (h : m.Waits) (i : Input) : (m.step i).Waits := by
  cases i with
  | begin call accepted =>
    rw [Master.step]
    split_ifs
    · rw [Master.begin]
      dsimp only
      split_ifs
      · exact waits_finish false none
      · exact waits_of_phase fun ⟨_, _, hafter⟩ => by cases hafter
      · exact Waits.request accepted
    · exact h
  | rawRequest =>
    rw [Master.step, rawRequest]
    split_ifs
    · exact fun _ => rfl
    · exact h
    · exact h
  | poll e elapsed accepted =>
    obtain ⟨hphase, -, -, -⟩ := m.task_eq e
    rw [Master.step]
    cases hp : m.phase with
    | idle =>
      simp only [poll, hp]
      refine waits_of_phase fun ⟨_, _, hafter⟩ => ?_
      rw [show _ = m.phase from hphase, hp] at hafter
      cases hafter
    | before call waitUntil =>
      simp only [poll, hp]
      split_ifs
      · exact waits_finish false none
      · refine waits_of_phase fun ⟨_, _, hafter⟩ => ?_
        rw [show _ = m.phase from hphase, hp] at hafter
        cases hafter
      · exact Waits.request accepted
    | after call waitUntil =>
      simp only [poll, hp]
      split_ifs with _ hsome
      · exact waits_finish false _
      · exact fun _ => hsome
      · exact waits_finish true _

theorem ReadsReal.begin (h : m.ReadsReal) (accepted : Bool) :
    (m.begin call accepted).ReadsReal := by
  rw [Master.begin]
  dsimp only
  split_ifs
  · exact ReadsReal.finish_false (m := { m with calls := m.calls + 1 }) h call none
  · exact h
  · exact ReadsReal.request (m := { m with calls := m.calls + 1 }) h accepted

theorem ReadsReal.task (h : m.ReadsReal) (e : Event) : (m.task e).ReadsReal := by
  rw [ReadsReal, task_returned]
  exact h

/-- Before the request, and outside of the calls, no read returns `true`. -/
theorem ReadsReal.poll (h : m.ReadsReal) (hphase : ¬ m.Awaiting) (e : Event) (elapsed : ℕ)
    (accepted : Bool) : (m.poll e elapsed accepted).ReadsReal := by
  have htask : ReadsReal { m.task e with now := m.now + elapsed } := h.task e
  cases hp : m.phase with
  | idle =>
    simp only [Master.poll, hp]
    exact htask
  | before call waitUntil =>
    simp only [Master.poll, hp]
    split_ifs
    · exact htask.finish_false call none
    · exact htask
    · exact htask.request accepted
  | after call waitUntil => exact absurd ⟨call, waitUntil, hp⟩ hphase

/-- What the end of its transaction does to a read. -/
theorem stored_iff (hout : m.outstanding.isSome) {e : Event} (he : e ≠ .quiet) :
    (call.isRead → ∃ registers, m.stored call e = some (call.carried registers)) ↔
      (call.isRead → ¬(e = .exception ∨ e = .consumed ∨ e = .dropped)) := by
  cases e with
  | quiet => exact absurd rfl he
  | response registers => exact iff_of_true (fun _ => ⟨registers, if_pos hout⟩) fun _ => by simp
  | exception | consumed | dropped => simp [stored]

/-- The second wait of a read ends with its words, exactly if its transaction ends with
    a response or too late. -/
theorem readsReal_poll_after_iff (h : m.ReadsReal) (hout : m.outstanding.isSome)
    (hp : m.phase = .after call waitUntil) (e : Event) (elapsed : ℕ) (accepted : Bool) :
    (m.poll e elapsed accepted).ReadsReal ↔ m.EndsWithResponse (.poll e elapsed accepted) := by
  have htask : ReadsReal { m.task e with now := m.now + elapsed } := h.task e
  have hends : m.EndsWithResponse (.poll e elapsed accepted) ↔ (call.isRead →
      e = .exception ∨ e = .consumed ∨ e = .dropped → waitUntil < millis (m.now + elapsed)) := by
    refine ⟨fun hall => hall call waitUntil hp, fun hone call' waitUntil' hafter => ?_⟩
    rw [hp] at hafter
    cases hafter
    exact hone
  obtain ⟨-, -, -, hquiet, hended⟩ := m.task_eq e
  simp only [Master.poll, hp]
  rw [hends]
  split_ifs with hlate hstill
  · exact iff_of_true (htask.finish_false call _) fun _ _ => hlate
  · refine iff_of_true htask fun _ he => absurd ?_ (Option.ne_none_iff_isSome.2 hstill)
    exact hended fun hq => by simp [hq] at he
  · have hne : e ≠ .quiet := fun hq => hstill ((hquiet hq).symm ▸ hout)
    rw [readsReal_finish_true_iff htask, stored_iff hout hne]
    exact forall_congr' fun _ => forall_congr' fun _ => (iff_false_intro hlate).symm

/-- A step has a read return `true` only with its words, exactly if its
    transaction ends with a response or too late. -/
theorem readsReal_step_iff (hq : m.Waits) (h : m.ReadsReal) (i : Input) :
    (m.step i).ReadsReal ↔ m.EndsWithResponse i := by
  cases i with
  | begin call accepted =>
    refine iff_of_true ?_ trivial
    rw [Master.step]
    split_ifs
    · exact h.begin accepted
    · exact h
  | rawRequest =>
    refine iff_of_true ?_ trivial
    rw [Master.step, rawRequest]
    split_ifs <;> exact h
  | poll e elapsed accepted =>
    by_cases hwait : m.Awaiting
    · obtain ⟨call, waitUntil, hp⟩ := hwait
      exact readsReal_poll_after_iff h (hq ⟨call, waitUntil, hp⟩) hp e elapsed accepted
    · exact iff_of_true (h.poll hwait e elapsed accepted) fun call waitUntil hp =>
        absurd ⟨call, waitUntil, hp⟩ hwait

end Master

end RidenDongle
