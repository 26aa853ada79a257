import RidenDongle.Vxi.Rotation

/-!
# Discovery

How a client comes to the VXI server: it asks the bind server for the port, by a
datagram or on a connection, and connects to that port.

* `GetPort`: the request for the port, and `replied_getPort`: what it is answered
  while the VXI server is available.
* `accepted_told`: the next connection to the VXI server is accepted on the port that
  was told, whatever happens in between, after requests that fit in the arrays.
-/

namespace RidenDongle

open Memory

/-! ## The request for the port -/

/-- A GETPORT request: a call to PORTMAP, of RPC version 2. -/
structure GetPort where
  xid : ℕ
  programVersion : ℕ
  credentialsL : ℕ
  credentialsH : ℕ
  verifierL : ℕ
  verifierH : ℕ
  getportProgram : ℕ
  getportVersion : ℕ
  getportProtocol : ℕ
  getportPort : ℕ
  xid_lt : xid < 2 ^ 32

namespace GetPort

variable (q : GetPort)

def words : List ℕ :=
  [q.xid, 0, 2, Rpc.portmap, q.programVersion, Rpc.getPort, q.credentialsL, q.credentialsH,
    q.verifierL, q.verifierH, q.getportProgram, q.getportVersion, q.getportProtocol, q.getportPort]

/-- The request, which is a datagram as it is. -/
def body : List UInt8 := wordsBytes q.words

theorem length_body : q.body.length = 56 := length_wordsBytes _

/-- The record that carries the request on a connection. -/
def record (frag : Bool) : Record where
  frag
  body := q.body
  length_lt := q.length_body.trans_lt (by decide)

variable {q} {k w : ℕ} {m : Memory}

/-- A word of the request, wherever it is in a buffer. -/
theorem word_body {a : ℕ} (hk : q.words[k]? = some w) (hw : w < 2 ^ 32) :
    (m.write a q.body).word (a + 4 * k) = w := by
  obtain ⟨hk', rfl⟩ := List.getElem?_eq_some_iff.1 hk
  have hword := @word_write_wordsBytes m a k [] q.words hk'
  rw [List.append_nil] at hword
  exact hword.trans (Nat.mod_eq_of_lt hw)

/-- The status and the port that such a request gets, wherever it is. -/
theorem bindStatus_body {a : ℕ} : bindStatus (m.write a q.body) a = Rpc.success := by
  have hprogram : (m.write a q.body).word (a + RpcRequest.program) = Rpc.portmap :=
    word_body (k := 3) rfl (by decide)
  have hprocedure : (m.write a q.body).word (a + RpcRequest.procedure) = Rpc.getPort :=
    word_body (k := 5) rfl (by decide)
  rw [bindStatus, hprogram, hprocedure, if_neg (not_not.2 rfl), if_neg (not_not.2 rfl)]

theorem bindPort_body {p : VxiPort} {a : ℕ} : bindPort p (m.write a q.body) a = p.port := by
  rw [bindPort, bindStatus_body, if_pos rfl]

end GetPort

/-- How a request gets to the bind server. -/
inductive Carrier
  /-- as a datagram, with a connection that may wait too -/
  | udp (waiting : Option (List UInt8))
  /-- on a connection, with what comes behind it -/
  | tcp (frag : Bool) (rest : List UInt8)

namespace Carrier

/-- What `RPC_Bind_Server::loop` finds. -/
def datagram (q : GetPort) : Carrier → List UInt8
  | udp _ => q.body
  | tcp .. => []

def connection (q : GetPort) : Carrier → Option (List UInt8)
  | udp waiting => waiting
  | tcp frag rest => some ((q.record frag).bytes ++ rest)

/-- The reply, as it is carried back. -/
def carry (body : List UInt8) : Carrier → List UInt8
  | udp _ => body
  | tcp .. => onTcp body

end Carrier

/-- While the VXI server is available, a request for its port is answered with it. -/
theorem replied_getPort {p : VxiPort} (hav : p.available = true) (hport : p.port ≠ 0)
    (s : BindServer) (q : GetPort) (c : Carrier) :
    (s.loop p (c.datagram q) (c.connection q)).2 =
      some (c.carry (replyBody q.xid Rpc.success [p.port] [])) := by
  cases c with
  | udp waiting =>
    have hne : q.body ≠ [] := List.ne_nil_of_length_eq_add_one q.length_body
    have hm : (getBindPacketUdp s.udpReadBuffer q.body).2 = s.udpReadBuffer.write 0 q.body := by
      rw [getBindPacketUdp, List.take_of_length_le (by rw [q.length_body]; decide)]
    have hxid : (s.udpReadBuffer.write 0 q.body).word RpcRequest.xid = q.xid :=
      GetPort.word_body (k := 0) (a := 0) rfl q.xid_lt
    change (s.loop p q.body waiting).2 = _
    rw [BindServer.replied_loopUdp hav hport hne hm, hxid, GetPort.bindStatus_body,
      GetPort.bindPort_body]
    rfl
  | tcp frag rest =>
    obtain ⟨r, hr⟩ :
        ∃ r, getBindPacketTcp s.tcpReadBuffer ((q.record frag).bytes ++ rest) = r := ⟨_, rfl⟩
    have hbody : (q.record frag).body.length = 56 := q.length_body
    have hlen : r.len > 0 := by
      rw [← hr, getBindPacketTcp, getTcpPacket_len, Record.prefixLength_bytes, hbody]
      decide
    obtain ⟨m, hm⟩ : ∃ m : Memory, r.buffer = m.write (packet 0) q.body := by
      refine ⟨(s.tcpReadBuffer.setWord 0 0).write 0 (((q.record frag).bytes ++ rest).take 4), ?_⟩
      rw [← hr, getBindPacketTcp, getTcpPacket_buffer, Record.received_bytes, hbody,
        if_pos (by decide), @List.take_of_length_le _ _ (q.record frag).body (by rw [hbody]; decide)]
      rfl
    have hxid : r.buffer.word (packet RpcRequest.xid) = q.xid := by
      rw [hm]
      exact GetPort.word_body (k := 0) rfl q.xid_lt
    change (s.loop p [] (some ((q.record frag).bytes ++ rest))).2 = _
    rw [BindServer.replied_loopTcp hav hport hr hlen, hxid, hm, GetPort.bindStatus_body,
      GetPort.bindPort_body]
    rfl

/-! ## The port that was told -/

namespace Rotation

variable {σ : Type*} {h : ScpiHandler σ} {r : Rotation σ} {portMin portMax port : ℕ}

/-- No client comes to the VXI server: none is accepted, and one that is gone does not
    come back. -/
def Waits (r : Rotation σ) : VxiListener.Input → Prop
  | .loop _ new => accepts r.listener new = false
  | .hangUp held => held = true → r.listener.holds = true
  | _ => True

/-- The VXI server listens on the port, for the next client. -/
structure Awaits (port : ℕ) (accepted : List ℕ) (r : Rotation σ) : Prop where
  listening : r.listener.listening = some port
  holds : r.listener.holds = false
  accepted : r.accepted = accepted

theorem Awaits.step {accepted : List ℕ} (hr : r.Awaits port accepted) {i : VxiListener.Input}
    (hi : r.Waits i) : (r.step h i).Awaits port accepted := by
  cases i with
  | loop stack new =>
    -- nobody is there to be served, and nobody is accepted
    have haccepts : accepts r.listener new = false := hi
    have hloop : r.listener.loop h stack new = { r.listener with client := new } := by
      rcases r.listener.loop_cases h stack new with ⟨-, heq⟩ | ⟨hheld, -⟩
      · exact heq
      · rw [hr.holds] at hheld
        cases hheld
    have hnew : new.elim false VxiClient.held = false := by
      rwa [accepts, hr.holds, Bool.not_false, Bool.true_and] at haccepts
    refine ⟨?_, ?_, ?_⟩
    · change (r.listener.loop h stack new).listening = _
      rw [hloop]
      exact hr.listening
    · change (r.listener.loop h stack new).holds = _
      rw [hloop]
      exact hnew
    · change (if accepts r.listener new then _ else r.accepted) = _
      rw [haccepts]
      exact hr.accepted
  | arrive bs =>
    refine ⟨hr.listening, ?_, hr.accepted⟩
    have hholds := hr.holds
    change (r.listener.client.map _).elim _ _ = _
    rw [VxiListener.holds] at hholds
    cases hc : r.listener.client with
    | none => rfl
    | some c => rwa [hc] at hholds
  | hangUp held =>
    refine ⟨hr.listening, ?_, hr.accepted⟩
    have hheld : held = false := eq_false_of_ne_true fun hh => by
      have := hi hh
      rw [hr.holds] at this
      cases this
    change (r.listener.client.map _).elim _ _ = _
    rw [hheld]
    cases r.listener.client <;> rfl
  | disconnectClient ip =>
    -- nobody is connected whom the web page could disconnect
    have hsame : r.listener.disconnectClient h ip = r.listener := by
      refine VxiListener.disconnectClient_of_not ?_
      rintro ⟨c, hc, hheld, -⟩
      have hholds := hr.holds
      rw [VxiListener.holds, hc, Option.elim_some, hheld] at hholds
      cases hholds
    exact ⟨by rw [← hr.listening]; exact congrArg _ hsame,
      by rw [← hr.holds]; exact congrArg _ hsame, hr.accepted⟩
  | bindLoop udp tcp => exact ⟨hr.listening, hr.holds, hr.accepted⟩

/-- The next client is accepted on that port. -/
theorem Awaits.accepts {accepted : List ℕ} (hr : r.Awaits port accepted) (stack : List UInt8)
    {c : VxiClient} (hc : c.held = true) :
    (r.step h (.loop stack (some c))).accepted = accepted ++ [port] := by
  have haccepts : Rotation.accepts r.listener (some c) = true := by
    rw [Rotation.accepts, hr.holds, Option.elim_some, hc]
    rfl
  change (if Rotation.accepts r.listener (some c) then _ else r.accepted) = _
  rw [haccepts, if_pos rfl, hr.listening, hr.accepted]
  rfl

section

variable {parse : RidenScpi UInt8 UInt8 → List UInt8 → Execution UInt8}
  {stray : Rotation (RidenScpi UInt8 UInt8) → VxiListener.Input → Rotation (RidenScpi UInt8 UInt8)}
  {r : Rotation (RidenScpi UInt8 UInt8)} {accepted : List ℕ}

/-- While nobody is connected there is no request that could leave the arrays. -/
theorem Awaits.bounded (hr : r.Awaits port accepted) (i : VxiListener.Input) :
    r.Bounded parse i := by
  cases i with
  | loop stack new =>
    rintro c _ hc hheld - - -
    have hholds := hr.holds
    rw [VxiListener.holds, hc, Option.elim_some, hheld] at hholds
    cases hholds
  | arrive | hangUp | disconnectClient | bindLoop => trivial

/-- So it goes on waiting, inside the arrays. -/
theorem Awaits.run (hr : r.Awaits port accepted) (hsound : r.Sound) {js : List VxiListener.Input}
    (hjs : Machine.Guarded (straying parse stray) Waits r js) :
    (Machine.run (straying parse stray) r js).Awaits port accepted ∧
      (Machine.run (straying parse stray) r js).Sound := by
  refine hjs.run (P := fun r => r.Awaits port accepted ∧ r.Sound) ⟨hr, hsound⟩ fun r i hr hi => ?_
  have hb : r.Bounded parse i := hr.1.bounded i
  rw [hr.2.straying hb]
  exact ⟨hr.1.step hi, (hr.2.step hb).2⟩

/-- The states that the servers reach by requests that fit in the arrays. -/
theorem reached {server : VxiServer (RidenScpi UInt8 UInt8)} (hs : server.InArrays)
    (hq : server.scpi.HoldsPart) {bind : BindServer} (hmin : 1 ≤ portMin ∧ portMin ≤ 65535)
    (hmax : 1 ≤ portMax ∧ portMax ≤ 65535) {is : List VxiListener.Input}
    (his : Machine.Guarded (straying parse stray) (Bounded parse)
      (start server bind portMin portMax) is) :
    (Machine.run (straying parse stray) (start server bind portMin portMax) is).listener.Advertised
        portMin portMax ∧
      (Machine.run (straying parse stray) (start server bind portMin portMax) is).Sound := by
  have hsound := sound_start hs hq bind portMin portMax
  have hplain := (Machine.guarded_strayStep_iff hsound fun _ _ hr hb => hr.step hb).1 his
  have hreached : Machine.run (straying parse stray) (start server bind portMin portMax) is =
      Machine.run (step (scpiHandler parse)) (start server bind portMin portMax) is :=
    hplain.run_strayStep hsound fun _ _ hr hb => hr.step hb
  rw [hreached]
  refine ⟨?_, hplain.run hsound fun _ _ hr hb => (hr.step hb).2⟩
  rw [listener_run]
  exact (Machine.always_of_step (VxiListener.invariant_start server bind portMin portMax)
    (fun _ i hi => VxiListener.Invariant.step hi hmin hmax i) is).last.advertised

/-- **The port that was told is the one to connect to.** In every state that the servers
    reach by requests that fit in the arrays, a request for the port, on whatever carrier,
    is answered with a port while nobody is connected, and the next client is accepted on
    that port, whatever happens before it comes. -/
theorem accepted_told (parse : RidenScpi UInt8 UInt8 → List UInt8 → Execution UInt8)
    (stray : Rotation (RidenScpi UInt8 UInt8) → VxiListener.Input →
      Rotation (RidenScpi UInt8 UInt8))
    {server : VxiServer (RidenScpi UInt8 UInt8)} (hs : server.InArrays)
    (hq : server.scpi.HoldsPart) (bind : BindServer) (hmin : 1 ≤ portMin ∧ portMin ≤ 65535)
    (hmax : 1 ≤ portMax ∧ portMax ≤ 65535) {is : List VxiListener.Input}
    (his : Machine.Guarded (straying parse stray) (Bounded parse)
      (start server bind portMin portMax) is)
    (hr : Machine.run (straying parse stray) (start server bind portMin portMax) is = r)
    (hholds : r.listener.holds = false) (q : GetPort) (c : Carrier) {js : List VxiListener.Input}
    (hjs : Machine.Guarded (straying parse stray) Waits
      (straying parse stray r (.bindLoop (c.datagram q) (c.connection q))) js)
    (stack : List UInt8) (client : VxiClient) (hclient : client.held = true) :
    ∃ reply port, r.listener.listening = some port ∧
      (straying parse stray r (.bindLoop (c.datagram q) (c.connection q))).listener.replies =
        r.listener.replies ++ [reply] ∧
      reply.bytes = c.carry (replyBody q.xid Rpc.success [port] []) ∧
      (Machine.run (straying parse stray) r (.bindLoop (c.datagram q) (c.connection q) :: js ++
        [.loop stack (some client)])).accepted = r.accepted ++ [port] := by
  obtain ⟨hinv, hsound⟩ := reached hs hq hmin hmax his
  rw [hr] at hinv hsound
  -- the answer is that of a bind server with a port to tell
  have hport : r.listener.port.port ≠ 0 := by
    have := hinv.range
    change r.listener.vxiPort.data ≠ 0
    omega
  have hreply := replied_getPort (p := r.listener.port) (by simpa [VxiListener.port] using hholds)
    hport r.listener.bind q c
  have hb : r.Bounded parse (.bindLoop (c.datagram q) (c.connection q)) := trivial
  have htold : straying parse stray r (.bindLoop (c.datagram q) (c.connection q)) =
      r.step (scpiHandler parse) (.bindLoop (c.datagram q) (c.connection q)) :=
    hsound.straying hb
  refine ⟨⟨(c.datagram q).isEmpty, c.carry (replyBody q.xid Rpc.success
    [r.listener.vxiPort.data] []), r.listener.listening, r.listener.holds⟩,
    r.listener.vxiPort.data, hinv.listening, ?_, rfl, ?_⟩
  · rw [htold]
    change r.listener.replies ++ Option.toList (Option.map _ _) = _
    rw [hreply]
    rfl
  · -- from then on the servers wait, and the port stays
    have hawaits : (r.step (scpiHandler parse)
        (.bindLoop (c.datagram q) (c.connection q))).Awaits r.listener.vxiPort.data r.accepted :=
      ⟨hinv.listening, hholds, rfl⟩
    rw [htold] at hjs
    obtain ⟨hwaits, hwsound⟩ := hawaits.run (hsound.step hb).2 hjs
    rw [List.cons_append, Machine.run_cons, Machine.run_append, htold, Machine.run_cons,
      Machine.run_nil, hwsound.straying (hwaits.bounded _)]
    exact hwaits.accepts stack hclient

end

/-- A request for the port of the VXI program. -/
def getPort : GetPort where
  xid := 1
  programVersion := 2
  credentialsL := 0
  credentialsH := 0
  verifierL := 0
  verifierH := 0
  getportProgram := Rpc.vxi11Core
  getportVersion := 1
  getportProtocol := 6
  getportPort := 0
  xid_lt := by decide

/-- A client that asks first, and is not there yet when `loop` looks for it. -/
theorem accepted_told_late :
    (Machine.run (straying (fun _ _ => ⟨[], false⟩) fun r _ => r) twoPorts
      [.bindLoop getPort.body none, .loop [] none, .loop [] (some ⟨1, true, true, []⟩)]).accepted =
        [9009] := by
  have hwaits : ∀ r : Rotation (RidenScpi UInt8 UInt8), r.Waits (.loop [] none) :=
    fun r => Bool.and_false _
  have hnone : Machine.Guarded (straying (fun _ _ => ⟨[], false⟩) fun r _ => r)
      (Bounded fun _ _ => ⟨[], false⟩) twoPorts [] := trivial
  have hlate : Machine.Guarded (straying (fun _ _ => ⟨[], false⟩) fun r _ => r) Waits
      (straying (fun _ _ => ⟨[], false⟩) (fun r _ => r) twoPorts (.bindLoop getPort.body none))
      [.loop [] none] := ⟨hwaits _, trivial⟩
  obtain ⟨_, port, hlisten, -, -, haccepted⟩ := accepted_told (fun _ _ => ⟨[], false⟩)
    (fun r _ => r) (VxiServer.inArrays_start (fun _ => 0) fun _ => 0) RidenScpi.holdsPart_initial
    ⟨fun _ => 0, .ofMemory fun _ => 0, fun _ => 0, .ofMemory fun _ => 0⟩
    (show 1 ≤ 9009 ∧ 9009 ≤ 65535 by decide) (show 1 ≤ 9010 ∧ 9010 ≤ 65535 by decide)
    hnone rfl rfl getPort (.udp none) hlate [] ⟨1, true, true, []⟩ rfl
  obtain rfl : 9009 = port := Option.some.inj hlisten
  exact haccepted

end Rotation

end RidenDongle
