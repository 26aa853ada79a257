import RidenDongle.Main.Bounds

/-!
# Isolation of the answers

Whether what is delivered to a connection answers the commands of that connection,
over runs of the main loop.

* `Kept`: the invariant of the SCPI side: what is in `write_buffer` is output of the
  connection that can have it delivered next.
* `sent_vxiLoop_devRead`: the reply to a DEV_READ has what is delivered as its data.
* `always_answered`: the runs in which that buffer is empty whenever another
  connection takes over.
-/

namespace RidenDongle

/-- What a connection has parsed is output of it. -/
theorem Execution.mem_by {ex : Execution UInt8} {conn : Conn} {b : Conn × UInt8}
    (hb : b ∈ (ex.by conn).output.flatten) : b.1 = conn := by
  obtain ⟨data, hdata, hb⟩ := List.mem_flatten.1 hb
  obtain ⟨bs, -, rfl⟩ := List.mem_map.1 hdata
  obtain ⟨x, -, rfl⟩ := List.mem_map.1 hb
  rfl

/-! ## The SCPI side -/

/-- What is read was in the buffer, ready, and under external control. -/
theorem RidenScpi.mem_read {s : Scpi} {maxLen : ℕ} {b : Conn × UInt8}
    (hb : b ∈ (s.read maxLen).2.1) :
    s.externalControl = true ∧ s.externalOutputReady = true ∧ b ∈ s.writeBuffer := by
  unfold RidenScpi.read at hb
  split_ifs at hb with hext hlen hready
  · cases hb
  · cases hb
  · cases hb
  · exact ⟨by simpa using hext, by simpa using hready, hb⟩

/-- What was sent to a raw client is output of it. What is in `write_buffer` is
    output of the VXI connection that is in control, and nothing while a raw client
    is. -/
structure Kept (s : Scpi) (vxiId : ℕ) : Prop where
  part : s.HoldsPart
  sent : ∀ a ∈ s.sent, ∀ b ∈ a.2, b.1 = Conn.raw a.1
  pending : s.externalControl = true → ∀ b ∈ s.writeBuffer, b.1 = Conn.vxi vxiId
  idle : s.externalControl = false → s.client.isSome → s.writeBuffer = []

namespace Kept

variable {s s' : Scpi} {vxiId vxiId' : ℕ}

/-- Where the output is the same, and there is no new raw client. -/
theorem of_eq (h : Kept s vxiId) (hpart : s'.HoldsPart) (hsent : s'.sent = s.sent)
    (hbuffer : s'.writeBuffer = s.writeBuffer) (hext : s'.externalControl = s.externalControl)
    (hclient : s'.client.isSome → s.client.isSome) : Kept s' vxiId where
  part := hpart
  sent := by rw [hsent]; exact h.sent
  pending := by rw [hbuffer, hext]; exact h.pending
  idle := by
    rw [hbuffer, hext]
    exact fun hext hsome => h.idle hext (hclient hsome)

theorem stopClient (h : Kept s vxiId) : Kept s.stopClient vxiId :=
  h.of_eq h.part rfl rfl rfl fun hsome => absurd hsome Bool.false_ne_true

theorem dropDisconnected (h : Kept s vxiId) : Kept s.dropDisconnected vxiId := by
  rcases RidenScpi.dropDisconnected_eq_or s with heq | heq <;> rw [heq]
  · exact h
  · exact h.stopClient

theorem disconnectClient (h : Kept s vxiId) (ip : ℕ) : Kept (s.disconnectClient ip) vxiId := by
  rcases RidenScpi.disconnectClient_eq_or s ip with heq | heq <;> rw [heq]
  · exact h
  · exact h.stopClient

theorem arrive (h : Kept s vxiId) (bs : List Labelled) : Kept (s.arrive bs) vxiId :=
  h.of_eq h.part rfl rfl rfl fun hsome => by rwa [RidenScpi.arrive, Option.isSome_map] at hsome

theorem hangUp (h : Kept s vxiId) : Kept s.hangUp vxiId :=
  h.of_eq h.part rfl rfl rfl fun hsome => by rwa [RidenScpi.hangUp, Option.isSome_map] at hsome

/-- A new raw client starts with an empty buffer. -/
theorem accept (h : Kept s vxiId) (new : Option (RawClient Labelled)) :
    Kept (s.accept new) vxiId := by
  have hpart := h.part.accept new
  cases new with
  | none => exact h
  | some c =>
    rw [RidenScpi.accept] at hpart ⊢
    split_ifs at hpart ⊢
    · exact ⟨hpart, h.sent, fun _ => List.forall_mem_nil _, fun _ _ => rfl⟩
    · exact h

/-- A line of a raw client is answered to it. -/
theorem scpiInput (h : Kept s vxiId) {c : RawClient Labelled} (hc : s.client = some c)
    (hext : s.externalControl = false) (hsame : s.SameOutput s') {rest : List Labelled}
    (hclient : s'.client = some { c with unread := rest }) (ex : Execution UInt8) :
    Kept (s'.scpiInput (ex.by (.raw c.id))) vxiId := by
  have hempty : s'.writeBuffer = [] := hsame.writeBuffer.trans (h.idle hext (by rw [hc]; rfl))
  have hext' : s'.externalControl = false := hsame.externalControl.trans hext
  have hcontrol : (s'.scpiInput (ex.by (.raw c.id))).externalControl = false :=
    (RidenScpi.scpiInput_externalControl ..).trans hext'
  have hpart : (s'.scpiInput (ex.by (.raw c.id))).HoldsPart :=
    ⟨List.forall_mem_nil _, Nat.zero_le _⟩
  rcases RidenScpi.scpiInput_output s' (ex.by (.raw c.id)) with
    ⟨hsent, hbuffer, hwhy⟩ | ⟨c', hc', -, hsent, hbuffer⟩
  · refine ⟨hpart, by rw [hsent, hsame.sent]; exact h.sent, fun htrue => ?_, fun _ hsome => ?_⟩
    · rw [hcontrol] at htrue
      cases htrue
    · rcases hwhy with hout | htrue | hnone
      · rw [hbuffer, hout, hempty, List.flatten_nil, List.append_nil]
      · rw [hext'] at htrue
        cases htrue
      · rw [hnone] at hsome
        cases hsome
  · rw [hclient] at hc'
    obtain rfl := Option.some.inj hc'
    refine ⟨hpart, fun a ha => ?_, fun htrue => ?_, fun _ _ => hbuffer⟩
    · rw [hsent, hsame.sent] at ha
      rcases List.mem_append.1 ha with ha | ha
      · exact h.sent a ha
      · rw [List.mem_singleton.1 ha, hempty, List.nil_append]
        exact fun b hb => Execution.mem_by hb
    · rw [hcontrol] at htrue
      cases htrue

theorem loop (h : Kept s vxiId) (new : Option (RawClient Labelled)) (ex : Execution UInt8) :
    Kept (s.loop new fun id => ex.by (.raw id)) vxiId := by
  have hpart := (h.part.loop new fun id => ex.by (.raw id)).1
  cases hext : s.externalControl with
  | true =>
    have hloop : s.loop new (fun id => ex.by (.raw id)) = s.stopClient := if_pos hext
    rw [hloop]
    exact h.stopClient
  | false =>
    have ht := h.accept new
    have hcontrol : (s.accept new).externalControl = false :=
      (RidenScpi.externalControl_accept s new).trans hext
    cases hc : (s.accept new).client with
    | none =>
      rw [RidenScpi.loop_of_accept_none hext hc]
      exact ht
    | some c =>
      rcases RidenScpi.loop_cases h.part hext new fun id => ex.by (.raw id) with
        ⟨-, hsame, -⟩ | ⟨c, l, u, hc, -, -, hsame, ⟨rest, hu⟩, heq⟩
      · exact ht.of_eq hpart hsame.sent hsame.writeBuffer hsame.externalControl
          fun _ => by rw [hc]; rfl
      · rw [heq]
        exact (ht.scpiInput hc hcontrol hsame hu ex).dropDisconnected

/-- A VXI connection takes over, when there is no output of another. -/
theorem claimExternalControl (h : Kept s vxiId)
    (hempty : s.externalControl = false → s.writeBuffer = []) :
    Kept s.claimExternalControl.2 vxiId where
  part := h.part
  sent := h.sent
  pending _ := by
    cases hext : s.externalControl with
    | true => exact h.pending hext
    | false =>
      change ∀ b ∈ s.writeBuffer, _
      rw [hempty hext]
      exact List.forall_mem_nil _
  idle hext := by cases hext

/-- A raw client takes over, when there is no output of the VXI connection. -/
theorem releaseExternalControl (h : Kept s vxiId)
    (hempty : s.externalControl = true → s.client.isSome → s.writeBuffer = []) :
    Kept s.releaseExternalControl vxiId where
  part := h.part
  sent := h.sent
  pending hext := by cases hext
  idle _ hsome := by
    cases hext : s.externalControl with
    | true => exact hempty hext hsome
    | false => exact h.idle hext hsome

theorem read (h : Kept s vxiId) (maxLen : ℕ) : Kept (s.read maxLen).2.2 vxiId := by
  unfold RidenScpi.read
  split_ifs
  · exact h
  · exact h
  · exact h
  · exact ⟨h.part, h.sent, fun _ => List.forall_mem_nil _, fun _ _ => rfl⟩

/-- What is read is output of the VXI connection. -/
theorem mem_read (h : Kept s vxiId) {maxLen : ℕ} {b : Conn × UInt8}
    (hb : b ∈ (s.read maxLen).2.1) : b.1 = Conn.vxi vxiId := by
  obtain ⟨hext, -, hmem⟩ := RidenScpi.mem_read hb
  exact h.pending hext b hmem

/-- A write takes control, and its output is put behind what is there. -/
theorem write (h : Kept s vxiId) {data : List Labelled}
    (hempty : data ≠ [] → data.length ≤ scpiInputBufferLength → s.externalControl = false →
      s.writeBuffer = []) (ex : Execution UInt8) :
    Kept (s.write data (ex.by (.vxi vxiId))) vxiId := by
  rw [RidenScpi.write]
  split_ifs with hzero hlong
  · exact h
  · exact h
  obtain ⟨u, hu⟩ : ∃ u, { s with
    inputBuffer := data, inputLength := data.length, externalControl := true } = u := ⟨_, rfl⟩
  have hbuffer : u.writeBuffer = s.writeBuffer := by rw [← hu]
  have hsent : u.sent = s.sent := by rw [← hu]
  have hext : u.externalControl = true := by rw [← hu]
  have hcontrol : (u.scpiInput (ex.by (.vxi vxiId))).externalControl = true :=
    (RidenScpi.scpiInput_externalControl ..).trans hext
  have hpending : ∀ b ∈ s.writeBuffer, b.1 = Conn.vxi vxiId := by
    cases hold : s.externalControl with
    | true => exact h.pending hold
    | false =>
      rw [hempty (fun hnil => hzero (by rw [hnil]; rfl)) (Nat.not_lt.1 hlong) hold]
      exact List.forall_mem_nil _
  rw [hu]
  -- the control is external now, so that nothing is sent to a raw client
  rcases RidenScpi.scpiInput_output u (ex.by (.vxi vxiId)) with
    ⟨hsent', hbuffer', -⟩ | ⟨c, -, hfalse, -⟩
  · refine ⟨⟨List.forall_mem_nil _, Nat.zero_le _⟩, ?_, fun _ b hb => ?_, fun hfalse => ?_⟩
    · rw [hsent', hsent]
      exact h.sent
    · rw [hbuffer', hbuffer] at hb
      rcases List.mem_append.1 hb with hb | hb
      · exact hpending b hb
      · exact Execution.mem_by hb
    · rw [hcontrol] at hfalse
      cases hfalse
  · rw [hext] at hfalse
    cases hfalse

/-- Another connection to the VXI server. -/
theorem reconnect (h : Kept s vxiId) (hempty : s.externalControl = true → s.writeBuffer = []) :
    Kept s vxiId' where
  part := h.part
  sent := h.sent
  pending hext := by
    rw [hempty hext]
    exact List.forall_mem_nil _
  idle := h.idle

end Kept

/-! ## The reply to a DEV_READ -/

/-- The reply to a DEV_READ has as its data what the SCPI side gives to be read. -/
theorem VxiServer.sent_handleReceived_read {σ : Type*} {h : ScpiHandler σ} {v : VxiServer σ}
    (stack : List UInt8) {r : Received} (hproc : r.procedure = some Rpc.vxi11DevRead)
    {data : List UInt8} (hdata : (h.read 256 v.scpi).2.1 = data) (h₀ : (0 : UInt8) ∉ data) :
    ∃ header, header.length = packet ReadResponse.dataLen ∧
      (v.handleReceived h stack r).1.sent = v.sent ++ [header ++ Memory.wordBytes data.length ++
        data ++ List.replicate (padding data.length) 0] := by
  have hserved : r.len > 0 ∧ r.buffer.word (packet RpcRequest.program) = Rpc.vxi11Core := by
    by_contra hnot
    rw [Received.procedure, if_neg hnot] at hproc
    cases hproc
  rw [Received.procedure, if_pos hserved, Option.some_inj] at hproc
  obtain ⟨v', hv'⟩ : ∃ v', v.receive r.buffer = v' := ⟨_, rfl⟩
  have hscpi : v'.scpi = v.scpi := by rw [← hv']; rfl
  have hsent : v'.sent = v.sent := by rw [← hv']; rfl
  have hfst : ∀ (v' : VxiServer σ) (close : Bool),
      ((v', close, r.tcp) : VxiServer σ × Bool × List UInt8).1.sent = v'.sent := fun _ _ => rfl
  have hhandled : (v'.handlePacket h stack).1 = v'.read h stack := by
    rw [handlePacket_read stack (by rw [← hv']; exact hserved.2) (by rw [← hv']; exact hproc)]
  rw [← hscpi] at hdata
  obtain ⟨header, hheader, hpacket⟩ := @sent_readResponse σ v' stack data v'.readBuffer.bytes
  refine ⟨header, hheader, ?_⟩
  rw [handleReceived_of_pos hserved.1, hfst, hv', hhandled, (read_eq hdata h₀).2, hsent, hpacket]

/-- What a DEV_READ brings is output of its connection, and all the data that the one
    packet has which is sent. -/
structure Delivery.Answers (a : Delivery) : Prop where
  own : ∀ b ∈ a.output, b.1 = a.conn
  sent : ∃ header, header.length = packet ReadResponse.dataLen ∧
    a.packets = [header ++ Memory.wordBytes a.output.length ++ a.output.map Prod.snd ++
      List.replicate (padding a.output.length) 0]

/-! ## The main loop -/

namespace Dongle

variable {d : Dongle}

/-- What is delivered to a connection is output of it: to a raw client, and as the
    data of a DEV_READ. -/
def Answered (d : Dongle) : Prop :=
  (∀ a ∈ d.scpi.sent, ∀ b ∈ a.2, b.1 = Conn.raw a.1) ∧ ∀ a ∈ d.delivered, a.Answers

/-- Whether the request that the VXI server receives takes control from the raw
    socket server. -/
def TakesControl (d : Dongle) : Prop :=
  d.scpi.externalControl = false ∧ (d.procedure = some Rpc.vxi11CreateLink ∨
    d.procedure = some Rpc.vxi11DevWrite ∧ d.kept ≠ [] ∧
      d.kept.length ≤ scpiInputBufferLength)

/-- What is delivered as the data of a DEV_READ is what is sent, if there is no NUL in
    it. -/
theorem sent_vxiLoop_devRead (hproc : d.procedure = some Rpc.vxi11DevRead)
    {data : List UInt8} (hdata : (d.scpi.read 256).2.1.map Prod.snd = data)
    (h₀ : (0 : UInt8) ∉ data) (stack : List UInt8) (new : Option Peer) (ex : Execution UInt8) :
    ∃ header, header.length = packet ReadResponse.dataLen ∧
      (d.vxiLoop stack new ex).listener.server.sent = d.listener.server.sent ++
        [header ++ Memory.wordBytes data.length ++ data ++
          List.replicate (padding data.length) 0] := by
  have hactive : d.active = true := by
    by_contra hnot
    rw [procedure, if_neg hnot] at hproc
    cases hproc
  rw [procedure, if_pos hactive] at hproc
  obtain ⟨c, -, hlisten⟩ := vxiLoop_of_active stack new ex hactive
  rw [hlisten, VxiListener.server_handled]
  exact VxiServer.sent_handleReceived_read (h := d.handler ex) stack hproc hdata h₀

/-- There is no output left when a VXI connection is accepted while another was in
    control, when one takes control, and when the web page gives control back to a
    raw client. What a DEV_READ finds has no NUL. -/
def KeepsAnswers (d : Dongle) : Input → Prop
  | .vxiLoop _ new _ => d.turn = .vxi →
      (d.listener.holds = false → new.isSome → d.scpi.externalControl = true →
        d.scpi.writeBuffer = []) ∧ (d.TakesControl → d.scpi.writeBuffer = []) ∧
      (d.procedure = some Rpc.vxi11DevRead → d.scpi.externalControl = true →
        d.scpi.externalOutputReady = true → ∀ b ∈ d.scpi.writeBuffer, b.2 ≠ 0)
  | .httpLoop (some (.vxi11, ip)) => d.turn = .http → d.disconnectsVxi ip →
      d.scpi.client.isSome → d.scpi.writeBuffer = []
  | _ => True

/-- A DEV_READ that finds output of its connection, without a NUL. -/
theorem answers_vxiLoop (hkept : Kept d.scpi d.vxiId) (hproc : d.procedure = some Rpc.vxi11DevRead)
    (hnul : d.scpi.externalControl = true → d.scpi.externalOutputReady = true →
      ∀ b ∈ d.scpi.writeBuffer, b.2 ≠ 0)
    (stack : List UInt8) (new : Option Peer) (ex : Execution UInt8) :
    Delivery.Answers ⟨.vxi d.vxiId, (d.scpi.read 256).2.1,
      (d.vxiLoop stack new ex).listener.server.sent.drop d.listener.server.sent.length⟩ where
  own _ hb := hkept.mem_read hb
  sent := by
    have h₀ : (0 : UInt8) ∉ (d.scpi.read 256).2.1.map Prod.snd := fun hzero => by
      obtain ⟨b, hb, hb₀⟩ := List.mem_map.1 hzero
      obtain ⟨hext, hready, hmem⟩ := RidenScpi.mem_read hb
      exact hnul hext hready b hmem hb₀
    obtain ⟨header, hheader, hsent⟩ := sent_vxiLoop_devRead hproc rfl h₀ stack new ex
    refine ⟨header, hheader, ?_⟩
    dsimp only
    rw [hsent, List.drop_left, List.length_map]

/-- The invariant: when the VXI server is served, there is no raw client if it is in
    control. -/
structure Apart (d : Dongle) : Prop where
  kept : Kept d.scpi d.vxiId
  delivered : ∀ a ∈ d.delivered, a.Answers
  alone : d.turn = .vxi → d.scpi.externalControl = true → d.scpi.client = none

theorem Apart.answered (h : d.Apart) : d.Answered := ⟨h.kept.sent, h.delivered⟩

theorem apart_initial (readBuffer sendBuffer : Memory) (bind : BindServer) (portMin portMax : ℕ) :
    (initial readBuffer sendBuffer bind portMin portMax).Apart where
  kept := ⟨⟨List.forall_mem_nil _, Nat.zero_le _⟩, List.forall_mem_nil _,
    fun _ => List.forall_mem_nil _, fun _ _ => rfl⟩
  delivered := List.forall_mem_nil _
  alone h := by cases h

theorem Apart.scpiLoop (h : d.Apart) (new : Option Peer) (ex : Execution UInt8) :
    (d.scpiLoop new ex).Apart where
  kept := h.kept.loop (new.map d.rawClient) ex
  delivered := h.delivered
  alone _ hext := by
    have hsame : (d.scpiLoop new ex).scpi.externalControl = d.scpi.externalControl :=
      RidenScpi.externalControl_loop d.scpi (new.map d.rawClient) fun id => ex.by (.raw id)
    have hloop : (d.scpiLoop new ex).scpi = d.scpi.stopClient := if_pos (hsame.symm.trans hext)
    rw [hloop]
    rfl

/-- The SCPI side behind `vxi_server.loop()`, for the connection that it served. -/
theorem Apart.kept_vxiLoop (h : d.Apart) (hturn : d.turn = .vxi) (stack : List UInt8)
    (new : Option Peer) (ex : Execution UInt8) (hok : d.TakesControl → d.scpi.writeBuffer = []) :
    Kept (d.vxiLoop stack new ex).scpi d.vxiId := by
  have hscpi := @scpi_vxiLoop d stack new ex
  cases hp : d.procedure with
  | none =>
    rw [hp] at hscpi
    rw [hscpi]
    exact h.kept
  | some p =>
    rw [hp] at hscpi
    dsimp only at hscpi
    rw [hscpi]
    -- the four procedures, and any other
    split_ifs with hlink hread hwrite hdestroy
    · exact h.kept.claimExternalControl fun hext =>
        hok ⟨hext, Or.inl (hp.trans (congrArg some hlink))⟩
    · exact h.kept.read 256
    · refine h.kept.write (fun hne hlen hext => ?_) ex
      refine hok ⟨hext, Or.inr ⟨hp.trans (congrArg some hwrite), fun hnil => hne ?_, ?_⟩⟩
      · rw [← List.length_eq_zero_iff, length_writeData, hnil]
        rfl
      · rw [← length_writeData]
        exact hlen
    · refine h.kept.releaseExternalControl fun hext hsome => ?_
      rw [h.alone hturn hext] at hsome
      cases hsome
    · exact h.kept

theorem Apart.vxiLoop (h : d.Apart) (hturn : d.turn = .vxi) (stack : List UInt8)
    (new : Option Peer) (ex : Execution UInt8) (hok : d.KeepsAnswers (.vxiLoop stack new ex)) :
    (d.vxiLoop stack new ex).Apart where
  kept := by
    obtain ⟨hnew, htakes, -⟩ := hok hturn
    have hkept := h.kept_vxiLoop hturn stack new ex htakes
    have hid : (d.vxiLoop stack new ex).vxiId =
      if d.listener.holds || new.isNone then d.vxiId else d.conns := rfl
    rw [hid]
    -- the connection stays, or another one is accepted after it
    split_ifs with hsame
    · exact hkept
    · simp only [Bool.or_eq_true, Option.isNone_iff_eq_none, not_or, Bool.not_eq_true] at hsame
      have hactive : d.active = false := active_of_holds hsame.1
      have hscpi := @scpi_vxiLoop d stack new ex
      rw [show d.procedure = none from if_neg (by rw [hactive]; decide)] at hscpi
      rw [hscpi] at hkept ⊢
      exact hkept.reconnect (hnew hsame.1 (Option.isSome_iff_ne_none.2 hsame.2))
  delivered a ha := by
    rcases List.mem_append.1 ha with ha | ha
    · exact h.delivered a ha
    · split_ifs at ha with hproc
      · rw [List.mem_singleton.1 ha]
        exact answers_vxiLoop h.kept hproc ((hok hturn).2.2 hproc) stack new ex
      · cases ha
  alone hturn' := by cases hturn'

theorem Apart.httpLoop (h : d.Apart) (disconnect : Option (Protocol × ℕ)) (hturn : d.turn = .http)
    (hok : d.KeepsAnswers (.httpLoop disconnect)) : (d.httpLoop disconnect).Apart := by
  classical
  rcases disconnect with - | ⟨_ | _, ip⟩
  · exact ⟨h.kept, h.delivered, fun hturn' => by cases hturn'⟩
  · exact ⟨h.kept.disconnectClient ip, h.delivered, fun hturn' => by cases hturn'⟩
  · refine ⟨?_, h.delivered, fun hturn' => by cases hturn'⟩
    rw [scpi_httpLoop_vxi11]
    split_ifs with hdisc
    · exact h.kept.releaseExternalControl fun _ => hok hturn hdisc
    · exact h.kept

theorem Apart.step (h : d.Apart) (i : Input) (hok : d.KeepsAnswers i) : (d.step i).Apart := by
  cases i with
  | scpiLoop new ex =>
    rw [Dongle.step]
    split_ifs
    · exact h.scpiLoop new ex
    · exact h
  | vxiLoop stack new ex =>
    rw [Dongle.step]
    split_ifs with hturn
    · exact h.vxiLoop hturn stack new ex hok
    · exact h
  | httpLoop disconnect =>
    rw [Dongle.step]
    split_ifs with hturn
    · exact h.httpLoop disconnect hturn hok
    · exact h
  | rawArrive bs =>
    rw [Dongle.step, Dongle.rawArrive]
    cases hc : d.scpi.client with
    | none => exact h
    | some c =>
      refine ⟨h.kept.arrive _, h.delivered, fun hturn hext => ?_⟩
      have hnone := h.alone hturn hext
      rw [hc] at hnone
      cases hnone
  | rawHangUp held =>
    rw [Dongle.step, Dongle.rawHangUp]
    split_ifs
    · refine ⟨h.kept.hangUp, h.delivered, fun hturn hext => ?_⟩
      change d.scpi.client.map _ = none
      rw [h.alone hturn hext, Option.map_none]
    · exact ⟨h.kept.stopClient, h.delivered, fun _ _ => rfl⟩
  | vxiArrive bs => exact ⟨h.kept, h.delivered, h.alone⟩
  | vxiHangUp held => exact ⟨h.kept, h.delivered, h.alone⟩

/-- **Response isolation.** In a run of the main loop in which no output is left
    whenever another connection takes over, what is read has no NUL and everything fits in
    the arrays, everything that is delivered to a connection was output for a command of
    it. -/
theorem always_answered (stray : Dongle → Input → Dongle) (readBuffer sendBuffer : Memory)
    (bind : BindServer) (portMin portMax : ℕ) (is : List Input)
    (h : Machine.Guarded (straying stray) (fun d i => d.KeepsAnswers i ∧ d.Bounded i)
      (initial readBuffer sendBuffer bind portMin portMax) is) :
    Machine.Always (straying stray) Answered
      (initial readBuffer sendBuffer bind portMin portMax) is :=
  always_straying h (sound_initial readBuffer sendBuffer bind portMin portMax)
    (apart_initial readBuffer sendBuffer bind portMin portMax) (fun _ i hi hok => hi.step i hok)
    fun _ hi => hi.answered

/-- A raw client that has its query answered, while a VXI client connects. -/
theorem always_answered_query :
    Machine.Always (straying fun d _ => d) Answered (initial (fun _ => 0) (fun _ => 0)
        ⟨fun _ => 0, .ofMemory fun _ => 0, fun _ => 0, .ofMemory fun _ => 0⟩ 9009 9010)
      [.scpiLoop (some ⟨1, true, [42, 10]⟩) ⟨[[49, 10]], false⟩,
        .vxiLoop [] (some ⟨2, true, []⟩) ⟨[], false⟩, .httpLoop (some (.vxi11, 2))] := by
  refine always_answered _ _ _ _ _ _ _ ((guarded_straying_iff (sound_initial ..)).2 ?_)
  refine ⟨⟨trivial, fun _ => ?_⟩, ⟨fun _ => ⟨fun _ _ hext => ?_, fun _ => rfl, fun _ _ _ => ?_⟩,
    fun _ hactive => absurd hactive (by decide)⟩, ⟨fun _ _ _ => rfl, trivial⟩, trivial⟩
  · refine ⟨fun _ c hc l ls hlines => ?_, fun _ id l _ => (by decide : 0 + 2 ≤ 256)⟩
    obtain rfl := Option.some.inj hc
    obtain rfl := (List.cons.inj hlines).1
    exact (by decide : 2 ≠ 256)
  · cases hext
  · exact List.forall_mem_nil _

/-- The output of a write of one byte waits to be read. -/
theorem write_query (s : Scpi) {data : List Labelled} (hdata : data.length = 1)
    (x : Conn × UInt8) : (s.write data ⟨[[x]], false⟩).externalControl = true ∧
      (s.write data ⟨[[x]], false⟩).externalOutputReady = true ∧
      (s.write data ⟨[[x]], false⟩).writeBuffer = s.writeBuffer ++ [x] := by
  rw [RidenScpi.write_eq_scpiInput _ _ (List.ne_nil_of_length_pos (hdata ▸ Nat.one_pos))
    (hdata ▸ by decide)]
  exact ⟨rfl, rfl, rfl⟩

/-- The client has sent a DEV_READ, which is served next. -/
theorem procedure_readRecord {ip : ℕ}
    (hclient : d.listener.client = some ⟨ip, true, true, readRecord.bytes⟩) :
    d.procedure = some Rpc.vxi11DevRead := by
  have hactive : d.active = true := active_iff.2 ⟨_, hclient, rfl, rfl⟩
  have hunread : d.unread = readRecord.bytes ++ [] := by
    rw [unread, if_pos hactive, hclient, List.append_nil]
    rfl
  have hlen : readRecord.body.length = 64 := Memory.length_wordsBytes _
  rw [procedure, if_pos hactive, received, hunread]
  exact procedure_record (List.append_nil _).symm (by omega) (by omega) rfl rfl (by decide) _ []

/-- What a DEV_READ reads is delivered to its connection. -/
theorem mem_delivered (hproc : d.procedure = some Rpc.vxi11DevRead) (stack : List UInt8)
    (new : Option Peer) (ex : Execution UInt8) : ∃ a ∈ (d.vxiLoop stack new ex).delivered,
      a.conn = .vxi d.vxiId ∧ a.output = (d.scpi.read 256).2.1 := by
  refine ⟨⟨.vxi d.vxiId, (d.scpi.read 256).2.1,
    (d.vxiLoop stack new ex).listener.server.sent.drop d.listener.server.sent.length⟩,
    List.mem_append_right _ ?_, rfl, rfl⟩
  rw [if_pos hproc]
  exact List.mem_singleton_self _

/-- A connection is accepted, and nothing of it is handled yet. -/
theorem vxiLoop_accept (hholds : d.listener.holds = false) (stack : List UInt8) (p : Peer)
    (ex : Execution UInt8) : (d.vxiLoop stack (some p) ex).scpi = d.scpi ∧
      (d.vxiLoop stack (some p) ex).vxiId = d.conns ∧
      (d.vxiLoop stack (some p) ex).listener.client =
        some ⟨p.ip, true, p.connected, p.unread⟩ := by
  have hactive : d.active = false := active_of_holds hholds
  refine ⟨?_, if_neg (by rw [hholds]; exact Bool.false_ne_true), ?_⟩
  · rw [scpi_vxiLoop, show d.procedure = none from if_neg (by rw [hactive]; decide)]
  · have hclient := (VxiListener.loop_of_inactive (h := d.handler ex) stack
      (some ⟨p.ip, true, p.connected, p.unread⟩) (connected_of_inactive hactive)).2
    rw [hholds, if_neg Bool.false_ne_true] at hclient
    exact hclient

/-- Under external control no raw client is served. -/
theorem scpi_scpiLoop_of_externalControl (hext : d.scpi.externalControl = true)
    (new : Option Peer) (ex : Execution UInt8) :
    (d.scpiLoop new ex).scpi = d.scpi.stopClient := if_pos hext

/-- A VXI client that reads while the answer of an earlier one is left. -/
theorem not_answered_of_left {n : ℕ} (hturn : d.turn = .scpi) (hholds : d.listener.holds = false)
    (hext : d.scpi.externalControl = true) (hready : d.scpi.externalOutputReady = true)
    (hbuffer : d.scpi.writeBuffer = [(.vxi n, 49)]) (hn : n < d.conns) :
    ¬ Machine.Always step Answered d
      [.scpiLoop none ⟨[], false⟩, .vxiLoop [] (some ⟨3, true, readRecord.bytes⟩) ⟨[], false⟩,
        .httpLoop none, .scpiLoop none ⟨[], false⟩,
        .vxiLoop (List.replicate 256 0) none ⟨[], false⟩] := by
  obtain ⟨d₁, hd₁⟩ : ∃ d₁, d.scpiLoop none ⟨[], false⟩ = d₁ := ⟨_, rfl⟩
  have hscpi₁ : d₁.scpi = d.scpi.stopClient :=
    hd₁ ▸ scpi_scpiLoop_of_externalControl hext none ⟨[], false⟩
  have hturn₁ : d₁.turn = .vxi := by rw [← hd₁]; rfl
  have hholds₁ : d₁.listener.holds = false := by rw [← hd₁]; exact hholds
  -- the next connection is accepted, and the answer of the earlier one is still there
  obtain ⟨d₂, hd₂⟩ :
      ∃ d₂, d₁.vxiLoop [] (some ⟨3, true, readRecord.bytes⟩) ⟨[], false⟩ = d₂ := ⟨_, rfl⟩
  obtain ⟨hscpi₂, hid₂, hclient₂⟩ :=
    vxiLoop_accept hholds₁ [] ⟨3, true, readRecord.bytes⟩ ⟨[], false⟩
  rw [hd₂] at hscpi₂ hid₂ hclient₂
  have hturn₂ : d₂.turn = .http := by rw [← hd₂]; rfl
  obtain ⟨d₃, hd₃⟩ : ∃ d₃, d₂.httpLoop none = d₃ := ⟨_, rfl⟩
  have hscpi₃ : d₃.scpi = d.scpi.stopClient := by rw [← hd₃]; exact hscpi₂.trans hscpi₁
  have hturn₃ : d₃.turn = .scpi := by rw [← hd₃]; rfl
  obtain ⟨d₄, hd₄⟩ : ∃ d₄, d₃.scpiLoop none ⟨[], false⟩ = d₄ := ⟨_, rfl⟩
  have hscpi₄ : d₄.scpi = d.scpi.stopClient.stopClient := by
    rw [← hscpi₃, ← hd₄]
    exact scpi_scpiLoop_of_externalControl (by rw [hscpi₃]; exact hext) none ⟨[], false⟩
  have hturn₄ : d₄.turn = .vxi := by rw [← hd₄]; rfl
  have hid₄ : d₄.vxiId = d.conns + 1 := by
    rw [← hd₄, ← hd₃]
    exact hid₂.trans (by rw [← hd₁]; rfl)
  have hclient₄ : d₄.listener.client = some ⟨3, true, true, readRecord.bytes⟩ := by
    rw [← hd₄, ← hd₃]
    exact hclient₂
  have hread₄ : (d₄.scpi.read 256).2.1 = [(.vxi n, 49)] := by
    have hread := @RidenScpi.read_ok _ _ d.scpi.stopClient.stopClient 256 hext hready
      (show d.scpi.writeBuffer.length ≤ 256 by rw [hbuffer]; exact (by decide : 1 ≤ 256))
    rw [hscpi₄, hread]
    exact hbuffer
  obtain ⟨a, ha, hconn, houtput⟩ :=
    mem_delivered (procedure_readRecord hclient₄) (List.replicate 256 0) none ⟨[], false⟩
  rw [hread₄] at houtput
  intro h
  have hlast := h.last.2
  rw [run_scpiLoop hturn, hd₁, run_vxiLoop _ _ _ hturn₁, hd₂, run_httpLoop hturn₂, hd₃,
    run_scpiLoop hturn₃, hd₄, run_vxiLoop _ _ _ hturn₄, Machine.run_nil] at hlast
  have hown := (hlast a ha).own _ (houtput ▸ List.mem_singleton_self _)
  rw [hconn, hid₄] at hown
  injection hown with hnum
  omega

/-- A VXI client that drops the connection with an answer unread, and another that
    reads. -/
theorem not_answered_of_query (hturn : d.turn = .vxi)
    (hproc : d.procedure = some Rpc.vxi11DevWrite) (hkept : d.kept.length = 1)
    (hempty : d.scpi.writeBuffer = []) (hid : d.vxiId < d.conns) :
    ¬ Machine.Always step Answered d
      ([.vxiLoop [] none ⟨[[49]], false⟩, .httpLoop none, .vxiHangUp false] ++
        [.scpiLoop none ⟨[], false⟩, .vxiLoop [] (some ⟨3, true, readRecord.bytes⟩) ⟨[], false⟩,
          .httpLoop none, .scpiLoop none ⟨[], false⟩,
          .vxiLoop (List.replicate 256 0) none ⟨[], false⟩]) := by
  intro h
  have htail := h.append_right
  obtain ⟨d₁, hd₁⟩ : ∃ d₁, d.vxiLoop [] none ⟨[[49]], false⟩ = d₁ := ⟨_, rfl⟩
  have hscpi₁ : d₁.scpi = d.scpi.write d.writeData ⟨[[(.vxi d.vxiId, 49)]], false⟩ := by
    rw [← hd₁, scpi_vxiLoop_write _ _ _ hproc]
    rfl
  have hturn₁ : d₁.turn = .http := by rw [← hd₁]; rfl
  have hconns₁ : d₁.conns = d.conns + 1 := by rw [← hd₁]; rfl
  obtain ⟨hext, hready, hbuffer⟩ :=
    write_query d.scpi (length_writeData.trans hkept) (.vxi d.vxiId, 49)
  rw [← hscpi₁] at hext hready hbuffer
  rw [hempty, List.nil_append] at hbuffer
  rw [run_vxiLoop _ _ _ hturn, hd₁, run_httpLoop hturn₁, Machine.run_cons,
    Machine.run_nil] at htail
  refine not_answered_of_left (d := (d₁.httpLoop none).vxiHangUp false) rfl ?_ hext hready hbuffer
    ?_ htail
  · change (d₁.listener.client.map _).elim _ _ = _
    cases d₁.listener.client <;> rfl
  · change d.vxiId < d₁.conns
    rw [hconns₁]
    omega

/-- A VXI client drops the connection after a query that it does not read the answer
    of, and the next one reads. -/
theorem not_answered_unread :
    ¬ Machine.Always (straying step) Answered (initial (fun _ => 0) (fun _ => 0)
        ⟨fun _ => 0, .ofMemory fun _ => 0, fun _ => 0, .ofMemory fun _ => 0⟩ 9009 9010)
      ([.scpiLoop none ⟨[], false⟩,
          .vxiLoop [] (some ⟨2, true, (star.record true).bytes⟩) ⟨[], false⟩, .httpLoop none,
          .scpiLoop none ⟨[], false⟩] ++
        ([.vxiLoop [] none ⟨[[49]], false⟩, .httpLoop none, .vxiHangUp false] ++
        [.scpiLoop none ⟨[], false⟩, .vxiLoop [] (some ⟨3, true, readRecord.bytes⟩) ⟨[], false⟩,
          .httpLoop none, .scpiLoop none ⟨[], false⟩,
          .vxiLoop (List.replicate 256 0) none ⟨[], false⟩])) := by
  rw [straying_step]
  intro h
  have htail := h.append_right
  obtain ⟨d, hd⟩ : ∃ d, Machine.run step (initial (fun _ => 0) (fun _ => 0)
    ⟨fun _ => 0, .ofMemory fun _ => 0, fun _ => 0, .ofMemory fun _ => 0⟩ 9009 9010)
    [.scpiLoop none ⟨[], false⟩,
      .vxiLoop [] (some ⟨2, true, (star.record true).bytes⟩) ⟨[], false⟩, .httpLoop none,
      .scpiLoop none ⟨[], false⟩] = d := ⟨_, rfl⟩
  have hactive : d.active = true := by rw [← hd]; rfl
  have hreceived : d.received = getVxiPacket (fun _ => 0) ((star.record true).bytes ++ []) := by
    have hunread : d.unread = (star.record true).bytes := by rw [← hd]; rfl
    have hbuffer : d.listener.server.readBuffer.bytes = fun _ => 0 := by rw [← hd]; rfl
    rw [received, hunread, hbuffer, List.append_nil]
  obtain ⟨hproc, hkept⟩ := received_devWrite star true (fun _ => 0) [] (by decide)
  rw [hd] at htail
  refine not_answered_of_query (d := d) ?_ ?_ ?_ ?_ ?_ htail
  · rw [← hd]; rfl
  · rw [procedure, if_pos hactive, hreceived, hproc]
  · rw [kept, hreceived, hkept]
    decide
  · rw [← hd]; rfl
  · rw [← hd]; decide

end Dongle

end RidenDongle
