import RidenDongle.Modbus.Master

/-!
# The bridge

`RidenModbusBridge` (`riden_modbus_bridge.cpp`): requests of Modbus TCP clients are
forwarded to the power supply as raw requests of the Modbus master, and the raw
callback that is installed then (`raw`) takes the response for the client whose
request was forwarded last. The calls of `RidenModbus` use the same master.

* `exists_run_master`: with the bridge, the master runs as it does on its own, where
  what it finds out is what the raw callback has left for it.
* `always_correlated`: the runs in which no call makes its request while the callback
  is left over from a request that was dropped.

The fields `requests`, `serving`, `sent`, `errors`, `results` and `consumed` are
ghost: the requests forwarded, the number of the one that the outstanding
transaction forwards, the responses and the errors sent, what the callback of the
TCP side returned, and for which requests (`none` for a call of the dongle) the
callback of the RTU side kept a response from the master.
-/

namespace RidenDongle

/-- `Modbus::ResultCode`, as far as the bridge returns it. -/
inductive ResultCode
  | exSuccess
  | exGeneralFailure
  | exDeviceFailedToRespond
  | exPassthrough
  deriving DecidableEq

/-- A request of a Modbus TCP client: `frame_arg_t`, and the data. -/
structure TcpRequest where
  ip : ℕ
  transactionId : ℕ
  slaveId : ℕ
  data : List UInt8
  deriving DecidableEq

/-- A call of `modbus_tcp.rawResponce`, with the transaction id that was set for it. -/
structure Frame where
  ip : ℕ
  transactionId : ℕ
  slaveId : ℕ
  data : List UInt8
  /-- the forwarded request that `data` is the response to -/
  answers : Option ℕ
  deriving DecidableEq

/-- What comes over the serial line for the outstanding transaction, if anything. -/
inductive Wire
  | quiet
  /-- a normal response, with the registers that it carries if it is that of a read -/
  | response (registers : ℕ → ℕ) (data : List UInt8)
  | exception (data : List UInt8)
  /-- the timeout of the library has passed -/
  | dropped

structure Bridge where
  master : Master
  initialized : Bool
  /-- whether the raw callback of the master is the bridge's -/
  raw : Bool
  transactionId : ℕ
  slaveId : ℕ
  ip : ℕ
  /-- the request that `modbus_tcp_raw_callback` waits with -/
  waiting : Option TcpRequest
  requests : List TcpRequest
  serving : Option ℕ
  sent : List Frame
  errors : List (ℕ × Option UInt8)
  results : List ResultCode
  consumed : List (Option ℕ)
  deriving DecidableEq

namespace Bridge

variable (b : Bridge)

/-- The bridge and the master, both begun. -/
def initial (now : ℕ) : Bridge where
  master := .initial now
  initialized := true
  raw := false
  transactionId := 0
  slaveId := 0
  ip := 0
  waiting := none
  requests := []
  serving := none
  sent := []
  errors := []
  results := []
  consumed := []

/-! ## The callbacks -/

/-- `modbus_tcp_raw_callback`, behind its wait: `accepted` is whether the library
    takes the raw request. -/
def forward (source : TcpRequest) (accepted : Bool) : Bridge :=
  if !accepted then
    -- inform TCP-end that processing failed
    { b with
      errors := b.errors ++ [(source.slaveId, source.data.head?)]
      results := b.results ++ [.exDeviceFailedToRespond] }
  else
    { b with
      master := b.master.rawRequest
      requests := b.requests ++ [source]
      serving := some b.requests.length
      transactionId := source.transactionId
      slaveId := source.slaveId
      ip := source.ip
      raw := true
      results := b.results ++ [.exSuccess] }

/-- `modbus_tcp_raw_callback`: it waits until no transaction is active. -/
def modbusTcpRawCallback (source : TcpRequest) (accepted : Bool) : Bridge :=
  if !b.initialized then { b with results := b.results ++ [.exGeneralFailure] }
  else if b.master.outstanding.isSome then { b with waiting := some source }
  else b.forward source accepted

/-- `modbus_rtu_raw_callback`, and what it returns. -/
def modbusRtuRawCallback (data : List UInt8) (toServer : Bool) : ResultCode × Bridge :=
  if !b.initialized then (.exGeneralFailure, b)
  else
    -- stop intercepting raw data
    let b := { b with raw := false }
    if !toServer then
      (.exSuccess,
        { b with
          sent := b.sent ++ [⟨b.ip, b.transactionId, b.slaveId, data, b.serving⟩]
          transactionId := 0
          slaveId := 0
          ip := 0 })
    else (.exPassthrough, b)

/-- A response arrives, which is `e` to the master unless the raw callback keeps it:
    what `modbus.task()` finds out, and the bridge. Nothing arrives that no
    transaction asks for. -/
def arrive (data : List UInt8) (e : Event) : Event × Bridge :=
  if b.master.outstanding.isNone then (.quiet, b)
  else if b.raw then
    let called := b.modbusRtuRawCallback data false
    if called.1 = .exPassthrough then (e, called.2)
    else (.consumed, { called.2 with consumed := b.consumed ++ [b.serving] })
  else (e, b)

/-- What `modbus.task()` finds out, and the bridge. -/
def receive : Wire → Event × Bridge
  | .quiet => (.quiet, b)
  | .response registers data => b.arrive data (.response registers)
  | .exception data => b.arrive data .exception
  | .dropped => (.dropped, b)

/-! ## Steps -/

/-- The request that the outstanding transaction forwards, behind `e`. -/
def served (serving : Option ℕ) : Event → Option ℕ
  | .quiet => serving
  | _ => none

/-- The wait of `modbus_tcp_raw_callback` is over when no transaction is active. -/
def resume (accepted : Bool) : Bridge :=
  match b.waiting with
  | some source =>
    if b.master.outstanding.isSome then b
    else { b with waiting := none }.forward source accepted
  | none => b

/-- `modbus.task()`, in one of the waiting loops or outside of them. `accepted` is for
    the request that may follow. -/
def poll (w : Wire) (elapsed : ℕ) (accepted : Bool) : Bridge :=
  resume { (b.receive w).2 with
    master := b.master.poll (b.receive w).1 elapsed accepted
    serving := served b.serving (b.receive w).1 } accepted

inductive Input
  | begin (call : ModbusCall) (accepted : Bool)
  | tcpRequest (source : TcpRequest) (accepted : Bool)
  | poll (w : Wire) (elapsed : ℕ) (accepted : Bool)

/-- Whether the code is in none of the waiting loops. -/
def Idle : Prop := b.master.phase = .idle ∧ b.waiting = none

instance : Decidable b.Idle := inferInstanceAs (Decidable (_ ∧ _))

/-- The code is in one waiting loop at a time. -/
def step : Input → Bridge
  | .begin call accepted =>
    if b.Idle then { b with master := b.master.begin call accepted } else b
  | .tcpRequest source accepted => if b.Idle then b.modbusTcpRawCallback source accepted else b
  | .poll w elapsed accepted => b.poll w elapsed accepted

/-! ## The master -/

section

variable {b : Bridge}

/-- A request of the TCP side waits only while no call of the dongle is in progress. -/
def WaitsIdle (b : Bridge) : Prop := b.waiting.isSome → b.master.phase = .idle

theorem phase_rawRequest (m : Master) : m.rawRequest.phase = m.phase := by
  unfold Master.rawRequest
  split_ifs <;> rfl

theorem waiting_receive (w : Wire) : (b.receive w).2.waiting = b.waiting := by
  cases w with
  | quiet => rfl
  | dropped => rfl
  | response registers data | exception data =>
    simp only [receive, arrive, modbusRtuRawCallback]
    split_ifs <;> rfl

/-- What the callback of the TCP side does to the master: nothing, or a raw request. -/
theorem master_forward (source : TcpRequest) (accepted : Bool) :
    (b.forward source accepted).master = if accepted then b.master.rawRequest else b.master := by
  cases accepted <;> rfl

/-- To forward a request is one step of the master, or none. -/
theorem waitsIdle_forward (hidle : b.master.phase = .idle) (source : TcpRequest)
    (accepted : Bool) : (b.forward source accepted).WaitsIdle ∧
      ∃ js, (b.forward source accepted).master = Machine.run Master.step b.master js := by
  have hmaster := @master_forward b source accepted
  refine ⟨fun _ => ?_, if accepted then [.rawRequest] else [], ?_⟩
  · rw [hmaster]
    split_ifs
    · rw [phase_rawRequest, hidle]
    · exact hidle
  · rw [hmaster]
    split_ifs
    · exact (if_pos hidle).symm
    · rfl

/-- What the request that waits does after a poll: nothing to the master, or the steps
    that forward it. -/
theorem waitsIdle_resume (h : b.WaitsIdle) (accepted : Bool) :
    (b.resume accepted).WaitsIdle ∧
      ∃ js, (b.resume accepted).master = Machine.run Master.step b.master js := by
  rw [resume]
  cases hsource : b.waiting with
  | none => exact ⟨h, [], rfl⟩
  | some source =>
    dsimp only
    split_ifs
    · exact ⟨h, [], rfl⟩
    · have hidle : b.master.phase = .idle := h (by rw [hsource]; rfl)
      exact waitsIdle_forward (b := { b with waiting := none }) hidle source accepted

/-- A step of the bridge is some steps of the master. -/
theorem exists_run_master_step (h : b.WaitsIdle) (i : Input) :
    (b.step i).WaitsIdle ∧ ∃ js, (b.step i).master = Machine.run Master.step b.master js := by
  cases i with
  | begin call accepted =>
    rw [step]
    split_ifs with hidle
    · refine ⟨fun hsome => ?_, [.begin call accepted], ?_⟩
      · rw [hidle.2] at hsome
        cases hsome
      · exact (if_pos hidle.1).symm
    · exact ⟨h, [], rfl⟩
  | tcpRequest source accepted =>
    rw [step]
    split_ifs with hidle
    · rw [modbusTcpRawCallback]
      split_ifs
      · exact ⟨h, [], rfl⟩
      · exact ⟨fun _ => hidle.1, [], rfl⟩
      · exact waitsIdle_forward hidle.1 source accepted
    · exact ⟨h, [], rfl⟩
  | poll w elapsed accepted =>
    obtain ⟨u, hu⟩ : ∃ u, { (b.receive w).2 with
      master := b.master.poll (b.receive w).1 elapsed accepted
      serving := served b.serving (b.receive w).1 } = u := ⟨_, rfl⟩
    have hpoll : b.step (.poll w elapsed accepted) = u.resume accepted := by
      rw [← hu]
      rfl
    have hmaster : u.master =
        Machine.run Master.step b.master [.poll (b.receive w).1 elapsed accepted] := by
      rw [← hu]
      rfl
    -- a poll starts no call, so a request that waits finds the master as it was
    have hwaits : u.WaitsIdle := by
      intro hsome
      have hwaiting : u.waiting = b.waiting := by
        rw [← hu]
        exact waiting_receive w
      rw [hwaiting] at hsome
      rw [hmaster]
      exact Master.phase_poll_of_idle (h hsome) _ elapsed accepted
    obtain ⟨hresume, js, hjs⟩ := waitsIdle_resume hwaits accepted
    rw [hpoll]
    refine ⟨hresume, .poll (b.receive w).1 elapsed accepted :: js, ?_⟩
    rw [hjs, Machine.run_cons]
    exact congrArg (Machine.run Master.step · js) hmaster

/-- **The bridge and the master.** In every run of the bridge, the master runs as it
    does on its own. -/
theorem exists_run_master (now : ℕ) (is : List Input) :
    ∃ js, (Machine.run step (initial now) is).master =
      Machine.run Master.step (Master.initial now) js := by
  have hrun : ∀ b : Bridge, b.WaitsIdle → ∃ js, (Machine.run step b is).master =
      Machine.run Master.step b.master js := by
    induction is with
    | nil => exact fun b _ => ⟨[], rfl⟩
    | cons i is ih =>
      intro b hb
      obtain ⟨hwaits, js, hjs⟩ := exists_run_master_step hb i
      obtain ⟨ks, hks⟩ := ih (b.step i) hwaits
      exact ⟨js ++ ks, by rw [Machine.run_cons, hks, hjs, Machine.run_append]⟩
  exact hrun (initial now) fun hsome => by cases hsome

/-! ## Correlation -/

/-- The frame answers a request of the client that it is sent to, under the ids of
    that request. -/
def Answers (b : Bridge) (f : Frame) : Prop :=
  ∃ k source, f.answers = some k ∧ b.requests[k]? = some source ∧ f.ip = source.ip ∧
    f.transactionId = source.transactionId ∧ f.slaveId = source.slaveId

/-- Every frame answers its request, no request is answered by two, and no response
    to a call of the dongle was kept from the master. -/
structure Correlated (b : Bridge) : Prop where
  frames : ∀ f ∈ b.sent, b.Answers f
  once : (b.sent.map Frame.answers).Nodup
  own : none ∉ b.consumed

/-- No call makes its request while the raw callback is installed. When no
    transaction is active, that is one left over from a request that was dropped. -/
def KeepsHook (b : Bridge) : Input → Prop
  | .begin _ accepted =>
    b.Idle → b.master.outstanding = none → accepted = true → b.raw = false
  | .poll w elapsed accepted => ∀ call waitUntil, b.master.phase = .before call waitUntil →
      millis (b.master.now + elapsed) ≤ waitUntil → w = .dropped → accepted = true →
        b.raw = false
  | .tcpRequest _ _ => True

/-- The invariant: while the raw callback is installed, the saved fields are those of
    the request forwarded last, which was not answered; and it is not installed while
    a transaction of the dongle is active. -/
structure Linked (b : Bridge) : Prop where
  correlated : b.Correlated
  initialized : b.initialized = true
  waits : b.WaitsIdle
  before : ∀ call waitUntil, b.master.phase = .before call waitUntil →
    b.master.outstanding.isSome
  hook : b.raw = true → ∃ k source, k + 1 = b.requests.length ∧ b.requests[k]? = some source ∧
    b.ip = source.ip ∧ b.transactionId = source.transactionId ∧ b.slaveId = source.slaveId ∧
    some k ∉ b.sent.map Frame.answers
  serving : ∀ k, b.serving = some k → b.raw = true ∧ k + 1 = b.requests.length ∧
    b.master.outstanding.isSome
  own : b.serving = none → b.master.outstanding.isSome → b.raw = false

theorem linked_initial (now : ℕ) : (initial now).Linked where
  correlated := ⟨List.forall_mem_nil _, List.nodup_nil, List.not_mem_nil⟩
  initialized := rfl
  waits h := by cases h
  before _ _ h := by cases h
  hook h := by cases h
  serving _ h := by cases h
  own _ h := by cases h

/-- What a response makes of the bridge, if the raw callback takes it. -/
def answer (b : Bridge) (data : List UInt8) : Bridge :=
  { b with
    raw := false
    sent := b.sent ++ [⟨b.ip, b.transactionId, b.slaveId, data, b.serving⟩]
    transactionId := 0
    slaveId := 0
    ip := 0
    consumed := b.consumed ++ [b.serving] }

/-- What is received: nothing, that the transaction was dropped, a response for the
    master, or one that the raw callback takes. -/
theorem receive_cases (hinit : b.initialized = true) (w : Wire) :
    (w ≠ .dropped ∧ b.receive w = (.quiet, b)) ∨
    (w = .dropped ∧ b.receive w = (.dropped, b)) ∨
    (∃ e, e ≠ .quiet ∧ w ≠ .dropped ∧ b.raw = false ∧ b.receive w = (e, b)) ∨
    ∃ data, w ≠ .dropped ∧ b.raw = true ∧ b.master.outstanding.isSome ∧
      b.receive w = (.consumed, b.answer data) := by
  have harrive : ∀ data e, e ≠ .quiet → b.arrive data e = (.quiet, b) ∨
      (b.raw = false ∧ b.arrive data e = (e, b)) ∨
      (b.raw = true ∧ b.master.outstanding.isSome ∧
        b.arrive data e = (.consumed, b.answer data)) := by
    intro data e he
    by_cases hnone : b.master.outstanding.isNone
    · exact Or.inl (if_pos hnone)
    by_cases hraw : b.raw = true
    · refine Or.inr (Or.inr ⟨hraw, Option.isSome_iff_ne_none.2 fun h => hnone (by rw [h]; rfl), ?_⟩)
      rw [arrive, if_neg hnone, if_pos hraw]
      simp [modbusRtuRawCallback, hinit, answer]
    · refine Or.inr (Or.inl ⟨eq_false_of_ne_true hraw, ?_⟩)
      rw [arrive, if_neg hnone, if_neg hraw]
  cases w with
  | quiet => exact Or.inl ⟨by simp, rfl⟩
  | dropped => exact Or.inr (Or.inl ⟨rfl, rfl⟩)
  | response registers data =>
    rcases harrive data (.response registers) (by simp) with h | ⟨hraw, h⟩ | ⟨hraw, hsome, h⟩
    · exact Or.inl ⟨by simp, h⟩
    · exact Or.inr (Or.inr (Or.inl ⟨_, by simp, by simp, hraw, h⟩))
    · exact Or.inr (Or.inr (Or.inr ⟨data, by simp, hraw, hsome, h⟩))
  | exception data =>
    rcases harrive data .exception (by simp) with h | ⟨hraw, h⟩ | ⟨hraw, hsome, h⟩
    · exact Or.inl ⟨by simp, h⟩
    · exact Or.inr (Or.inr (Or.inl ⟨_, by simp, by simp, hraw, h⟩))
    · exact Or.inr (Or.inr (Or.inr ⟨data, by simp, hraw, hsome, h⟩))

/-- Where only the master and the transaction's request change. -/
theorem Linked.advance (h : b.Linked) {m : Master} {s : Option ℕ}
    (hwaits : b.waiting.isSome → m.phase = .idle)
    (hbefore : ∀ call waitUntil, m.phase = .before call waitUntil → m.outstanding.isSome)
    (hserving : ∀ k, s = some k → b.serving = some k ∧ m.outstanding.isSome)
    (hown : s = none → m.outstanding.isSome → b.raw = false) :
    Linked { b with master := m, serving := s } where
  correlated := ⟨h.correlated.frames, h.correlated.once, h.correlated.own⟩
  initialized := h.initialized
  waits := hwaits
  before := hbefore
  hook := h.hook
  serving k hk := by
    obtain ⟨hk, hsome⟩ := hserving k hk
    obtain ⟨hraw, hlast, -⟩ := h.serving k hk
    exact ⟨hraw, hlast, hsome⟩
  own := hown

/-- A response that the raw callback takes answers the request forwarded last. -/
theorem Linked.answer (h : b.Linked) (hraw : b.raw = true) (hsome : b.master.outstanding.isSome)
    (data : List UInt8) {m : Master} (hwaits : b.waiting.isSome → m.phase = .idle)
    (hbefore : ∀ call waitUntil, m.phase = .before call waitUntil → m.outstanding.isSome) :
    Linked { b.answer data with master := m, serving := none } := by
  obtain ⟨k, hk⟩ : ∃ k, b.serving = some k := by
    rw [← Option.isSome_iff_exists, Option.isSome_iff_ne_none]
    intro hnone
    rw [h.own hnone hsome] at hraw
    cases hraw
  obtain ⟨k', source, hlast, hsource, hip, htid, hslave, hnew⟩ := h.hook hraw
  obtain rfl : k' = k := by
    have := (h.serving k hk).2.1
    omega
  refine ⟨⟨fun f hf => ?_, ?_, ?_⟩, h.initialized, hwaits, hbefore,
    fun hfalse => (by cases hfalse), fun _ hfalse => (by cases hfalse), fun _ _ => rfl⟩
  · rcases List.mem_append.1 hf with hf | hf
    · exact h.correlated.frames f hf
    · rw [List.mem_singleton.1 hf]
      exact ⟨k', source, hk, hsource, hip, htid, hslave⟩
  · change ((b.sent ++ _).map Frame.answers).Nodup
    rw [List.map_append, List.nodup_append]
    refine ⟨h.correlated.once, List.pairwise_singleton _ _, fun a ha a' ha' heq => hnew ?_⟩
    have hlast : a' = b.serving := List.mem_singleton.1 ha'
    rw [← hk, ← hlast, ← heq]
    exact ha
  · intro hmem
    rcases List.mem_append.1 hmem with hmem | hmem
    · exact h.correlated.own hmem
    · rw [hk] at hmem
      cases List.mem_singleton.1 hmem

/-- A request is forwarded while no transaction is active. -/
theorem Linked.forward (h : b.Linked) (hidle : b.master.phase = .idle)
    (hnone : b.master.outstanding = none) (source : TcpRequest) (accepted : Bool) :
    (b.forward source accepted).Linked := by
  cases accepted with
  | false => exact ⟨⟨h.correlated.frames, h.correlated.once, h.correlated.own⟩, h.initialized,
      h.waits, h.before, h.hook, h.serving, h.own⟩
  | true =>
    have hphase : (b.forward source true).master.phase = .idle :=
      (phase_rawRequest b.master).trans hidle
    have hsome : (b.forward source true).master.outstanding.isSome := by
      change b.master.rawRequest.outstanding.isSome
      rw [Master.rawRequest, hnone]
      rfl
    have hrequests : (b.forward source true).requests = b.requests ++ [source] := rfl
    -- the requests answered so far come before the new one
    have hanswers : ∀ f ∈ b.sent, ∃ k source', f.answers = some k ∧
        (b.requests ++ [source])[k]? = some source' ∧ f.ip = source'.ip ∧
        f.transactionId = source'.transactionId ∧ f.slaveId = source'.slaveId ∧
        k < b.requests.length := by
      intro f hf
      obtain ⟨k, source', hk, hsource, hrest⟩ := h.correlated.frames f hf
      have hlt : k < b.requests.length := by
        by_contra hge
        rw [List.getElem?_eq_none (Nat.not_lt.1 hge)] at hsource
        cases hsource
      exact ⟨k, source', hk, by rw [List.getElem?_append_left hlt]; exact hsource, hrest.1,
        hrest.2.1, hrest.2.2, hlt⟩
    refine ⟨⟨fun f hf => ?_, h.correlated.once, h.correlated.own⟩, h.initialized,
      fun _ => hphase, fun call waitUntil hbefore => ?_, fun _ => ?_, fun k hk => ?_,
      fun hnone => by cases hnone⟩
    · obtain ⟨k, source', hk, hsource, hip, htid, hslave, -⟩ := hanswers f hf
      exact ⟨k, source', hk, hsource, hip, htid, hslave⟩
    · rw [hphase] at hbefore
      cases hbefore
    · refine ⟨b.requests.length, source, ?_, ?_, rfl, rfl, rfl, fun hmem => ?_⟩
      · rw [hrequests, List.length_append, List.length_singleton]
      · rw [hrequests, List.getElem?_concat_length]
      · obtain ⟨f, hf, hfk⟩ := List.mem_map.1 hmem
        obtain ⟨k, -, hk, -, -, -, -, hlt⟩ := hanswers f hf
        rw [hk] at hfk
        exact absurd (Option.some.inj hfk) hlt.ne
    · obtain rfl := Option.some.inj hk
      refine ⟨rfl, ?_, hsome⟩
      rw [hrequests, List.length_append, List.length_singleton]

theorem Linked.resume (h : b.Linked) (accepted : Bool) : (b.resume accepted).Linked := by
  unfold Bridge.resume
  cases hsource : b.waiting with
  | none => exact h
  | some source =>
    dsimp only
    split_ifs with hsome
    · exact h
    · refine Linked.forward (b := { b with waiting := none }) ?_ ?_ ?_ source accepted
      · exact ⟨⟨h.correlated.frames, h.correlated.once, h.correlated.own⟩, h.initialized,
          fun hfalse => (by cases hfalse), h.before, h.hook, h.serving, h.own⟩
      · exact h.waits (by rw [hsource]; rfl)
      · exact Option.not_isSome_iff_eq_none.1 hsome

theorem Linked.poll (h : b.Linked) (w : Wire) (elapsed : ℕ) (accepted : Bool)
    (hok : b.KeepsHook (.poll w elapsed accepted)) : (b.poll w elapsed accepted).Linked := by
  refine Linked.resume ?_ accepted
  have hwaits : ∀ e, b.waiting.isSome → (b.master.poll e elapsed accepted).phase = .idle :=
    fun e hsome => Master.phase_poll_of_idle (h.waits hsome) e elapsed accepted
  have hbefore : ∀ e call waitUntil,
      (b.master.poll e elapsed accepted).phase = .before call waitUntil →
        (b.master.poll e elapsed accepted).outstanding.isSome := by
    intro e call waitUntil hphase
    rcases b.master.poll_cases e elapsed accepted with ⟨hout, hstill⟩ | ⟨_, _, -, -, -, -, hsome, -⟩
    · rw [hout]
      exact (hstill call waitUntil hphase).2
    · exact hsome
  rcases receive_cases h.initialized w with ⟨-, heq⟩ | ⟨hw, heq⟩ | ⟨e, he, -, hraw, heq⟩ |
    ⟨data, -, hraw, hsome, heq⟩ <;> rw [heq]
  · -- the transaction stays as it is
    refine h.advance (hwaits _) (hbefore _) (fun k hk => ⟨hk, ?_⟩) fun hk hsome => ?_
    all_goals
      rcases b.master.poll_cases .quiet elapsed accepted with
        ⟨hout, -⟩ | ⟨call, waitUntil, hphase, -, hnone, -⟩
    · rw [hout]
      exact (h.serving k hk).2.2
    · have hsome := h.before call waitUntil hphase
      rw [show b.master.outstanding = none from hnone] at hsome
      cases hsome
    · rw [hout] at hsome
      exact h.own hk hsome
    · have hsome := h.before call waitUntil hphase
      rw [show b.master.outstanding = none from hnone] at hsome
      cases hsome
  · -- the transaction is given up, and the call that has waited may make its request
    refine h.advance (hwaits _) (hbefore _) (fun k hk => by cases hk) fun _ hsome => ?_
    rcases b.master.poll_cases .dropped elapsed accepted with
      ⟨hout, -⟩ | ⟨call, waitUntil, hphase, htime, -, haccepted, -⟩
    · rw [hout] at hsome
      cases hsome
    · exact hok call waitUntil hphase htime hw haccepted
  · refine h.advance (hwaits _) (hbefore _) (fun k hk => ?_) fun _ _ => hraw
    cases e <;> first | exact absurd rfl he | cases hk
  · exact h.answer hraw hsome data (hwaits _) (hbefore _)

/-- A call that begins makes its request at once, waits, or fails. -/
theorem Linked.begin (h : b.Linked) (hidle : b.Idle) (call : ModbusCall) (accepted : Bool)
    (hok : b.KeepsHook (.begin call accepted)) :
    Linked { b with master := b.master.begin call accepted } := by
  have hcases : ((b.master.begin call accepted).outstanding = b.master.outstanding ∧
      ∀ call' waitUntil, (b.master.begin call accepted).phase = .before call' waitUntil →
        b.master.outstanding.isSome) ∨
      (b.master.outstanding = none ∧ accepted = true ∧
        (b.master.begin call accepted).Awaiting) := by
    unfold Master.begin
    dsimp only
    split_ifs with hinit hsome
    · exact Or.inl ⟨rfl, fun _ _ hbefore => by cases hbefore⟩
    · exact Or.inl ⟨rfl, fun _ _ _ => hsome⟩
    · cases accepted with
      | false => exact Or.inl ⟨rfl, fun _ _ hbefore => by cases hbefore⟩
      | true => exact Or.inr ⟨Option.not_isSome_iff_eq_none.1 hsome, rfl, call, _, rfl⟩
  have hwaits : ∀ m : Master, b.waiting.isSome → m.phase = .idle := by
    intro m hsome
    rw [hidle.2] at hsome
    cases hsome
  rcases hcases with ⟨hout, hbefore⟩ | ⟨hnone, haccepted, call', waitUntil', hafter⟩
  · refine h.advance (hwaits _) (fun call' waitUntil hphase => ?_) (fun k hk => ⟨hk, ?_⟩)
      fun hk hsome => ?_
    · rw [hout]
      exact hbefore call' waitUntil hphase
    · rw [hout]
      exact (h.serving k hk).2.2
    · rw [hout] at hsome
      exact h.own hk hsome
  · -- the request is made at once, so no request over TCP is being served
    have hfree : b.serving = none := by
      cases hk : b.serving with
      | none => rfl
      | some k =>
        have hsome := (h.serving k hk).2.2
        rw [hnone] at hsome
        cases hsome
    refine h.advance (hwaits _) (fun call'' waitUntil hphase => ?_) (fun k hk => ?_)
      fun _ _ => hok hidle hnone haccepted
    · rw [hafter] at hphase
      cases hphase
    · rw [hfree] at hk
      cases hk

theorem Linked.step (h : b.Linked) (i : Input) (hok : b.KeepsHook i) : (b.step i).Linked := by
  cases i with
  | begin call accepted =>
    rw [Bridge.step]
    split_ifs with hidle
    · exact h.begin hidle call accepted hok
    · exact h
  | tcpRequest source accepted =>
    rw [Bridge.step]
    split_ifs with hidle
    · rw [modbusTcpRawCallback]
      split_ifs with hinit hsome
      · exact absurd h.initialized (by simpa using hinit)
      · exact ⟨⟨h.correlated.frames, h.correlated.once, h.correlated.own⟩, h.initialized,
          fun _ => hidle.1, h.before, h.hook, h.serving, h.own⟩
      · exact h.forward hidle.1 (Option.not_isSome_iff_eq_none.1 hsome) source accepted
    · exact h
  | poll w elapsed accepted => exact h.poll w elapsed accepted hok

/-- **Bridge correlation.** In a run in which no call makes its request while the raw
    callback is left over from a request that was dropped, every frame answers the
    request of the client that it is sent to, no request is answered twice, and all
    responses to the calls of the dongle reach the master. -/
theorem always_correlated (now : ℕ) (is : List Input)
    (h : Machine.Guarded step KeepsHook (initial now) is) :
    Machine.Always step Correlated (initial now) is :=
  (h.always (linked_initial now) fun _ i hi hok => hi.step i hok).mono fun _ hi => hi.correlated

/-- A request that is answered, and then a read of the dongle. -/
theorem always_correlated_read :
    Machine.Always step Correlated (initial 0)
      [.tcpRequest ⟨1, 7, 1, [3, 0, 0, 0, 1]⟩ true,
        .poll (.response (fun _ => 1) [3, 2, 0, 1]) 20 true,
        .begin (.readHoldingRegisters 10 1) true,
        .poll (.response (fun _ => 5) [3, 2, 0, 5]) 20 true] := by
  refine always_correlated 0 _ ⟨trivial, fun _ _ hbefore => ?_, fun _ _ _ => rfl,
    fun _ _ hbefore => ?_, trivial⟩
  · cases hbefore
  · cases hbefore

/-- A request that the power supply does not answer, and then a read of the dongle:
    the response to the read is sent to the client. -/
theorem not_correlated_dropped :
    ¬ Machine.Always step Correlated (initial 0)
      [.tcpRequest ⟨1, 7, 1, [3, 0, 0, 0, 1]⟩ true, .poll .dropped 1000 true,
        .begin (.readHoldingRegisters 10 1) true,
        .poll (.response (fun _ => 5) [3, 2, 0, 5]) 20 true] := by
  intro h
  exact absurd h.last.own (by decide)

end

end Bridge

end RidenDongle
