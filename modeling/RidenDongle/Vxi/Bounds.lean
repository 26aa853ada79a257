import RidenDongle.Scpi.Output
import RidenDongle.Vxi.Read
import RidenDongle.Vxi.Reply

/-!
# Staying inside the arrays

What the VXI server needs for a request to stay inside `vxi_read_buffer`,
`vxi_send_buffer` and the buffers of `RidenScpi`. A request that leaves them overwrites
what lies next to them, and nothing is known of what the server does from then on.

* `Inside`: every access to the packet buffers was inside, and
  `inside_handlePacket_iff`: the requests that are handled so.
* `InArrays`, `Bounded`: the same together with the buffers of `RidenScpi`.
* `oneReply_iff`: the requests of which it is known that they are answered once.
-/

namespace RidenDongle

open Memory

namespace VxiServer

variable {σ : Type*} {h : ScpiHandler σ} {v : VxiServer σ} {stack : List UInt8}

/-! ## The packet buffers -/

/-- Everything that was recorded of the accesses lies in the two buffers, and so do the
    packets that were sent. -/
structure Inside (v : VxiServer σ) : Prop where
  loads : ∀ a ∈ v.readBuffer.loads, a < vxiReadSize
  stores : ∀ a ∈ v.readBuffer.stores, a < vxiReadSize
  responses : ∀ a ∈ v.sendBuffer.stores, a < vxiSendSize
  packets : ∀ p ∈ v.sent, p.length ≤ vxiSendSize

theorem inside_iff : v.Inside ↔ (∀ a ∈ v.readBuffer.loads, a < vxiReadSize) ∧
    (∀ a ∈ v.readBuffer.stores, a < vxiReadSize) ∧ (∀ a ∈ v.sendBuffer.stores, a < vxiSendSize) ∧
      ∀ p ∈ v.sent, p.length ≤ vxiSendSize :=
  ⟨fun hv => ⟨hv.loads, hv.stores, hv.responses, hv.packets⟩, fun hv => ⟨hv.1, hv.2.1, hv.2.2.1,
    hv.2.2.2⟩⟩

instance (v : VxiServer σ) : Decidable v.Inside := decidable_of_iff _ inside_iff.symm

theorem inside_start (m r : Memory) (scpi : σ) : (start m r scpi).Inside :=
  ⟨List.forall_mem_nil _, List.forall_mem_nil _, List.forall_mem_nil _, List.forall_mem_nil _⟩

/-- What leaves the buffers as they are. -/
theorem Inside.of_eq {v' : VxiServer σ} (hv : v.Inside) (hread : v'.readBuffer = v.readBuffer)
    (hsend : v'.sendBuffer = v.sendBuffer) (hsent : v'.sent = v.sent) : v'.Inside where
  loads := by rw [hread]; exact hv.loads
  stores := by rw [hread]; exact hv.stores
  responses := by rw [hsend]; exact hv.responses
  packets := by rw [hsent]; exact hv.packets

theorem Inside.receive (hv : v.Inside) (m : Memory) : (v.receive m).Inside :=
  ⟨hv.loads, hv.stores, hv.responses, hv.packets⟩

theorem Inside.respond (hv : v.Inside) {field : ℕ} (w : ℕ)
    (hfield : packet field + 4 ≤ vxiSendSize) : (v.respond field w).Inside := by
  refine ⟨hv.loads, hv.stores, fun a ha => ?_, hv.packets⟩
  rw [sendBuffer_respond, Traced.stores_setWord, List.mem_append, List.mem_range'_1] at ha
  rcases ha with ha | ha
  · exact hv.responses a ha
  · omega

theorem length_sendVxiPacket {t : Traced} {len : ℕ} {request : Memory} :
    (sendVxiPacket request t len).2.length = len + padding len + 4 := by
  rw [sendVxiPacket, sendTcpPacket_sent, Memory.length_read]

theorem Inside.send (hv : v.Inside) {len : ℕ} (hlen : 20 ≤ len) (hle : len ≤ 252) :
    (v.send len).Inside := by
  refine ⟨hv.loads, hv.stores, fun a ha => ?_, fun p hp => ?_⟩
  · change a ∈ (sendVxiPacket v.readBuffer.bytes v.sendBuffer len).1.stores at ha
    simp only [sendVxiPacket, stores_sendTcpPacket, List.mem_append, List.mem_range'_1,
      padding] at ha
    rcases ha with ((ha | ha) | ha) | ha
    · exact hv.responses a ha
    all_goals
      simp only [packet, vxiSendSize] at *
      omega
  · rw [sent_send, List.mem_append, List.mem_singleton] at hp
    rcases hp with hp | rfl
    · exact hv.packets p hp
    · rw [length_sendVxiPacket, padding, vxiSendSize]
      omega

/-! ### The procedures -/

/-- Everything but the request itself fits. -/
theorem inside_createLink_iff (hv : v.Inside) :
    (v.createLink h).Inside ↔ ((h.claimControl v.scpi).1 = true → NameFits v maxReceiveSize) := by
  cases hclaim : (h.claimControl v.scpi).1 with
  | false =>
    refine iff_of_true ?_ fun h' => absurd h' Bool.false_ne_true
    have hv' : ({ v with scpi := (h.claimControl v.scpi).2 } : VxiServer σ).Inside :=
      hv.of_eq rfl rfl rfl
    simp only [createLink, hclaim, Bool.not_false, if_true]
    exact (((((hv'.respond _ (by decide)).respond _ (by decide)).respond _ (by decide)).respond _
      (by decide)).respond _ (by decide)).send (by decide) (by decide)
  | true =>
    rw [NameFits, show vxiReadSize - packet CreateRequest.data = 196 from rfl,
      show CreateRequest.data = 56 from rfl, show maxReceiveSize = 252 from rfl]
    -- the terminator is the one store of which the request tells the place
    constructor
    · intro hi _
      have := hi.stores (60 + v.request CreateRequest.dataLen) (by
        rw [readBuffer_createLink hclaim, Traced.stores_store]
        exact List.mem_append_right _ (List.mem_singleton_self _))
      simp only [vxiReadSize] at this
      omega
    · intro hfits
      have hname := hfits rfl
      have hv' : ({ v with
          scpi := (h.claimControl v.scpi).2
          readBuffer := v.readBuffer.store (60 + v.request CreateRequest.dataLen) 0 } :
          VxiServer σ).Inside := by
        refine ⟨hv.loads, fun a ha => ?_, hv.responses, hv.packets⟩
        rcases List.mem_append.1 ha with ha | ha
        · exact hv.stores a ha
        · rw [List.mem_singleton.1 ha, vxiReadSize]
          omega
      simp only [createLink, hclaim, Bool.not_true, Bool.false_eq_true, if_false]
      exact (((((hv'.respond _ (by decide)).respond _ (by decide)).respond _ (by decide)).respond _
        (by decide)).respond _ (by decide)).send (by decide) (by decide)

theorem inside_write_iff (hv : v.Inside) :
    (v.write h).Inside ↔ DataFits v maxReceiveSize := by
  constructor
  · intro hi
    refine dataFits_of_accesses hi.loads fun a ha => ⟨?_, hi.stores a ha⟩
    exact (hi.stores a ha).le
  · intro hfits
    have hv' : ({ v with readBuffer := (v.write h).readBuffer, scpi := (v.write h).scpi } :
        VxiServer σ).Inside := by
      refine ⟨fun a ha => ?_, fun a ha => ?_, hv.responses, hv.packets⟩
      · rcases mem_loads_write (h := h) hfits ha with ha | ha
        · exact hv.loads a ha
        · exact ha.2
      · rcases mem_stores_write (h := h) le_rfl hfits ha with ha | ha
        · exact hv.stores a ha
        · exact ha.2.2
    exact (((hv'.respond Rpc.success (show packet RpcResponse.rpcStatus + 4 ≤ _ by decide)).respond
      Rpc.noError (show packet WriteResponse.error + 4 ≤ _ by decide)).respond
      (v.request WriteRequest.dataLen) (show packet WriteResponse.size + 4 ≤ _ by decide)).send
      (show 20 ≤ WriteResponse.sizeof by decide) (by decide)

theorem Inside.destroyLink (hv : v.Inside) : (v.destroyLink h).Inside :=
  (((hv.respond _ (by decide)).respond _ (by decide)).send (by decide) (by decide)).of_eq rfl rfl rfl

theorem Inside.refuse (hv : v.Inside) (rc : ℕ) : (v.refuse rc).Inside :=
  (hv.respond _ (by decide)).send (by decide) (by decide)

/-- The array `outbuffer` of `read`, with what the SCPI side gives in it, and the memory
    behind it. -/
def outbuffer (h : ScpiHandler σ) (v : VxiServer σ) (stack : List UInt8) : List UInt8 :=
  (h.read 256 v.scpi).2.1 ++ stack.drop (h.read 256 v.scpi).2.1.length

/-- The send buffer has room for what the SCPI side gives, and for what `strcpy` takes
    for it: the bytes of `outbuffer` up to a NUL. -/
def AnswerFits (h : ScpiHandler σ) (v : VxiServer σ) (stack : List UInt8) : Prop :=
  (h.read 256 v.scpi).2.1.length ≤ readDataSize ∧
    ∃ z, z < readDataSize ∧ (v.outbuffer h stack)[z]? = some 0

/-- What a read stores in the send buffer. -/
theorem stores_read_outbuffer : (v.read h stack).sendBuffer.stores =
    v.sendBuffer.stores ++ List.range' 24 16 ++
      List.range' 40 ((nulString (v.outbuffer h stack)).length + 1) ++ List.range' 4 20 ++
      List.range' (40 + (h.read 256 v.scpi).2.1.length) (padding (h.read 256 v.scpi).2.1.length) ++
      List.range' 0 4 := by
  have hbuffer : (v.read h stack).sendBuffer = (sendVxiPacket v.readBuffer.bytes
      (v.pendingResponse stack (h.read 256 v.scpi).2.1)
      (ReadResponse.sizeof + (h.read 256 v.scpi).2.1.length)).1 := rfl
  rw [hbuffer, sendVxiPacket, stores_sendTcpPacket, padding_readResponse,
    show packet (ReadResponse.sizeof + (h.read 256 v.scpi).2.1.length) =
      40 + (h.read 256 v.scpi).2.1.length by simp only [packet, ReadResponse.sizeof]; omega]
  simp [pendingResponse, outbuffer, List.range', packet, RpcResponse.rpcStatus, ReadResponse.error,
    ReadResponse.reason, ReadResponse.dataLen, ReadResponse.data]

/-- A C string ends at a NUL, or before. -/
theorem length_nulString_le {bs : List UInt8} {z : ℕ} (h : bs[z]? = some 0) :
    (nulString bs).length ≤ z := by
  obtain ⟨hz, -⟩ := List.getElem?_eq_some_iff.1 h
  exact Nat.le_of_lt_succ ((length_nulString_lt hz).2 ⟨z, Nat.lt_succ_self z, h⟩)

theorem Inside.read (hv : v.Inside) (hfits : v.AnswerFits h stack) : (v.read h stack).Inside := by
  obtain ⟨hlen, z, hz, hnul⟩ := hfits
  have hk := length_nulString_le hnul
  rw [show readDataSize = 216 from rfl] at hlen hz
  refine ⟨hv.loads, hv.stores, fun a ha => ?_, fun p hp => ?_⟩
  · rw [stores_read_outbuffer] at ha
    simp only [List.mem_append, List.mem_range'_1, padding] at ha
    simp only [vxiSendSize]
    rcases ha with ((((ha | ha) | ha) | ha) | ha) | ha
    · exact hv.responses a ha
    all_goals omega
  · rw [sent_read_eq rfl, List.mem_append, List.mem_singleton] at hp
    rcases hp with hp | rfl
    · exact hv.packets p hp
    · rw [length_sendVxiPacket, padding, ReadResponse.sizeof, vxiSendSize]
      omega

/-- A read that stays inside the send buffer fits there. The array has 256 bytes. -/
theorem answerFits_of_inside (hstack : 256 ≤ stack.length) (hi : (v.read h stack).Inside) :
    v.AnswerFits h stack := by
  have hpacket := hi.packets _ (by
    rw [sent_read_eq rfl]
    exact List.mem_append_right _ (List.mem_singleton_self _))
  rw [length_sendVxiPacket, padding, ReadResponse.sizeof, vxiSendSize] at hpacket
  have hnul := hi.responses (40 + (nulString (v.outbuffer h stack)).length) (by
    rw [stores_read_outbuffer]
    simp only [List.mem_append, List.mem_range'_1]
    omega)
  rw [vxiSendSize] at hnul
  rw [AnswerFits, show readDataSize = 216 from rfl]
  refine ⟨by omega, (length_nulString_lt ?_).1 (by omega)⟩
  rw [outbuffer, List.length_append, List.length_drop]
  omega

/-- What the request in the buffer needs for its handler to stay inside both buffers. -/
def BuffersFit (h : ScpiHandler σ) (v : VxiServer σ) (stack : List UInt8) : Prop :=
  RequestFits h v maxReceiveSize ∧
    (v.request RpcRequest.program = Rpc.vxi11Core →
      v.request RpcRequest.procedure = Rpc.vxi11DevRead → v.AnswerFits h stack)

theorem Inside.handlePacket (hv : v.Inside) (hfits : v.BuffersFit h stack) :
    (v.handlePacket h stack).1.Inside := by
  rw [VxiServer.handlePacket]
  split_ifs with hprogram hcreate hread hwrite hdestroy
  · exact hv.refuse _
  · exact (inside_createLink_iff hv).2 ((hfits.1 (not_not.1 hprogram)).1 hcreate)
  · exact hv.read (hfits.2 (not_not.1 hprogram) hread)
  · exact (inside_write_iff hv).2 ((hfits.1 (not_not.1 hprogram)).2 hwrite)
  · exact hv.destroyLink
  · exact hv.refuse _

/-- That is all that it needs. -/
theorem inside_handlePacket_iff (hv : v.Inside) (hstack : 256 ≤ stack.length) :
    (v.handlePacket h stack).1.Inside ↔ v.BuffersFit h stack := by
  refine ⟨fun hi => ⟨fun hprogram => ⟨fun hcreate => ?_, fun hwrite => ?_⟩, fun hprogram hread => ?_⟩,
    hv.handlePacket⟩
  · rw [handlePacket_createLink stack hprogram hcreate] at hi
    exact (inside_createLink_iff hv).1 hi
  · rw [handlePacket_write stack hprogram hwrite] at hi
    exact (inside_write_iff hv).1 hi
  · rw [handlePacket_read stack hprogram hread] at hi
    exact answerFits_of_inside hstack hi

end VxiServer

/-! ## The buffers of `RidenScpi` -/

section

variable {α β : Type*} [Octet α]

/-- The handler is `RidenScpi` behind its interface, where `write` is the call of
    `RidenScpi::write` with the data of a DEV_WRITE. -/
structure ScpiHandler.Drives (h : ScpiHandler (RidenScpi α β))
    (write : RidenScpi α β → List UInt8 → RidenScpi.Input α β) : Prop where
  write : ∀ data s, h.write data s = RidenScpi.step s (write s data)
  read : ∀ maxLen s, (h.read maxLen s).2.2 = RidenScpi.step s (.read maxLen)
  claimControl : ∀ s, h.claimControl s = (true, RidenScpi.step s .claimExternalControl)
  releaseControl : ∀ s, h.releaseControl s = RidenScpi.step s .releaseExternalControl

/-- The call for the data of a DEV_WRITE, with what the parser does with them. -/
def parsed (parse : RidenScpi UInt8 UInt8 → List UInt8 → Execution UInt8)
    (s : RidenScpi UInt8 UInt8) (data : List UInt8) : RidenScpi.Input UInt8 UInt8 :=
  .write data (parse s data)

theorem drives_scpiHandler (parse : RidenScpi UInt8 UInt8 → List UInt8 → Execution UInt8) :
    (scpiHandler parse).Drives (parsed parse) :=
  ⟨fun _ _ => rfl, fun _ _ => rfl, fun _ => rfl, fun _ => rfl⟩

namespace VxiServer

variable {h : ScpiHandler (RidenScpi α β)} {v : VxiServer (RidenScpi α β)} {stack : List UInt8}
  {write : RidenScpi α β → List UInt8 → RidenScpi.Input α β}

/-- The data of a DEV_WRITE, as far as the right trim keeps it. -/
def line {σ : Type*} (v : VxiServer σ) : List UInt8 :=
  (v.readBuffer.bytes.read (packet WriteRequest.data)
    (v.request WriteRequest.dataLen)).rdropWhile isspace

/-- What `RidenScpi` is asked for by the request in the buffer, if anything. -/
def call (write : RidenScpi α β → List UInt8 → RidenScpi.Input α β)
    (v : VxiServer (RidenScpi α β)) : Option (RidenScpi.Input α β) :=
  if v.request RpcRequest.program ≠ Rpc.vxi11Core then none
  else if v.request RpcRequest.procedure = Rpc.vxi11CreateLink then some .claimExternalControl
  else if v.request RpcRequest.procedure = Rpc.vxi11DevRead then some (.read 256)
  else if v.request RpcRequest.procedure = Rpc.vxi11DevWrite then some (write v.scpi v.line)
  else if v.request RpcRequest.procedure = Rpc.vxi11DestroyLink then some .releaseExternalControl
  else none

/-- It does that. -/
theorem scpi_handlePacket_call (hd : h.Drives write) : (v.handlePacket h stack).1.scpi =
    (v.call write).elim v.scpi (RidenScpi.step v.scpi) := by
  rw [handlePacket, call]
  split_ifs with hprogram hcreate hread hwrite hdestroy
  · rfl
  · have hclaim : (h.claimControl v.scpi).1 = true := by rw [hd.claimControl]
    exact (scpi_createLink hclaim).trans (congrArg Prod.snd (hd.claimControl v.scpi))
  · exact hd.read 256 v.scpi
  · exact scpi_write.trans (hd.write v.line v.scpi)
  · exact hd.releaseControl v.scpi
  · rfl

/-- Everything that was stored lies in the packet buffers and in those of `RidenScpi`. -/
def InArrays (v : VxiServer (RidenScpi α β)) : Prop := v.Inside ∧ v.scpi.InArrays

instance (v : VxiServer (RidenScpi α β)) : Decidable v.InArrays :=
  inferInstanceAs (Decidable (_ ∧ _))

omit [Octet α] in
theorem inArrays_start (m r : Memory) :
    (start m r (.initial : RidenScpi α β)).InArrays :=
  ⟨inside_start m r _, RidenScpi.inArrays_initial⟩

/-- What the request in the buffer needs for that: it fits in the packet buffers, and
    what it asks of `RidenScpi` in those of `RidenScpi`. -/
def Bounded (h : ScpiHandler (RidenScpi α β))
    (write : RidenScpi α β → List UInt8 → RidenScpi.Input α β) (v : VxiServer (RidenScpi α β))
    (stack : List UInt8) : Prop :=
  v.BuffersFit h stack ∧ ∀ i ∈ v.call write, v.scpi.Fits i

/-- The call of `RidenScpi` stays inside its buffers exactly if it fits. -/
theorem inArrays_scpi_iff (hd : h.Drives write) (hq : v.scpi.HoldsPart) (hs : v.scpi.InArrays) :
    (v.handlePacket h stack).1.scpi.InArrays ↔ ∀ i ∈ v.call write, v.scpi.Fits i := by
  rw [scpi_handlePacket_call hd]
  cases v.call write with
  | none => exact iff_of_true hs fun i hi => nomatch hi
  | some i =>
    rw [Option.elim_some, RidenScpi.inArrays_step_iff hq hs]
    exact ⟨fun h' j hj => Option.mem_some_iff.1 hj ▸ h', fun h' => h' i rfl⟩

theorem holdsPart_handlePacket (hd : h.Drives write) (hq : v.scpi.HoldsPart) :
    (v.handlePacket h stack).1.scpi.HoldsPart := by
  rw [scpi_handlePacket_call hd]
  cases v.call write with
  | none => exact hq
  | some i => exact (RidenScpi.step_inputs hq i).1

theorem InArrays.handlePacket (hv : v.InArrays) (hd : h.Drives write) (hq : v.scpi.HoldsPart)
    (hb : v.Bounded h write stack) : (v.handlePacket h stack).1.InArrays :=
  ⟨hv.1.handlePacket hb.1, (inArrays_scpi_iff hd hq hv.2).2 hb.2⟩

theorem inArrays_handlePacket_iff (hv : v.InArrays) (hd : h.Drives write) (hq : v.scpi.HoldsPart)
    (hstack : 256 ≤ stack.length) :
    (v.handlePacket h stack).1.InArrays ↔ v.Bounded h write stack :=
  and_congr (inside_handlePacket_iff hv.1 hstack) (inArrays_scpi_iff hd hq hv.2)

/-- The SCPI side always gives control, and so the name of a CREATE_LINK has to fit. -/
theorem bounded_createLink_iff (hd : h.Drives write)
    (hprogram : v.request RpcRequest.program = Rpc.vxi11Core)
    (hprocedure : v.request RpcRequest.procedure = Rpc.vxi11CreateLink) :
    v.Bounded h write stack ↔ NameFits v maxReceiveSize := by
  have hclaim : (h.claimControl v.scpi).1 = true := by rw [hd.claimControl]
  rw [Bounded, BuffersFit, call, if_neg (not_not.2 hprogram), if_pos hprocedure]
  constructor
  · exact fun hb => (hb.1.1 hprogram).1 hprocedure hclaim
  · intro hname
    refine ⟨⟨fun _ => ⟨fun _ _ => hname, fun hw => ?_⟩, fun _ hr => ?_⟩, fun i hi => ?_⟩
    · exact absurd (hprocedure.symm.trans hw) (by decide)
    · exact absurd (hprocedure.symm.trans hr) (by decide)
    · obtain rfl := Option.mem_some_iff.1 hi
      exact ⟨trivial, trivial⟩

/-- What a DEV_READ needs. -/
theorem bounded_read_iff (hprogram : v.request RpcRequest.program = Rpc.vxi11Core)
    (hprocedure : v.request RpcRequest.procedure = Rpc.vxi11DevRead) :
    v.Bounded h write stack ↔ v.AnswerFits h stack := by
  rw [Bounded, BuffersFit, call, if_neg (not_not.2 hprogram), if_neg (by rw [hprocedure]; decide),
    if_pos hprocedure]
  constructor
  · exact fun hb => hb.1.2 hprogram hprocedure
  · intro hfits
    refine ⟨⟨fun _ => ⟨fun hc => ?_, fun hw => ?_⟩, fun _ _ => hfits⟩, fun i hi => ?_⟩
    · exact absurd (hprocedure.symm.trans hc) (by decide)
    · exact absurd (hprocedure.symm.trans hw) (by decide)
    · obtain rfl := Option.mem_some_iff.1 hi
      exact ⟨trivial, trivial⟩

/-- So does `loop`, where the request that it has received does. -/
theorem inArrays_handleReceived (hv : v.InArrays) (hd : h.Drives write) (hq : v.scpi.HoldsPart)
    {r : Received} (hb : r.len > 0 → (v.receive r.buffer).Bounded h write stack) :
    (v.handleReceived h stack r).1.InArrays ∧ (v.handleReceived h stack r).1.scpi.HoldsPart := by
  have hreceive : (v.receive r.buffer).InArrays := ⟨hv.1.receive r.buffer, hv.2⟩
  have hpart : (v.receive r.buffer).scpi.HoldsPart := hq
  refine of_handleReceived (P := fun v => v.InArrays ∧ v.scpi.HoldsPart) (fun hlen => ?_)
    fun _ => ⟨hreceive, hpart⟩
  exact ⟨hreceive.handlePacket hd hpart (hb hlen), holdsPart_handlePacket hd hpart⟩

theorem not_inArrays_handleReceived (hv : v.InArrays) (hd : h.Drives write)
    (hq : v.scpi.HoldsPart) (hstack : 256 ≤ stack.length) {r : Received} (hlen : r.len > 0)
    (hb : ¬(v.receive r.buffer).Bounded h write stack) :
    ¬(v.handleReceived h stack r).1.InArrays := by
  have hreceive : (v.receive r.buffer).InArrays := ⟨hv.1.receive r.buffer, hv.2⟩
  have hpart : (v.receive r.buffer).scpi.HoldsPart := hq
  refine of_handleReceived (P := fun v => ¬v.InArrays) (fun _ => ?_) fun hzero => absurd hlen hzero
  rwa [inArrays_handlePacket_iff hreceive hd hpart hstack]

end VxiServer

end

namespace VxiServer

variable {α β : Type*} [Octet α] {h : ScpiHandler (RidenScpi α β)}
  {v : VxiServer (RidenScpi α β)} {write : RidenScpi α β → List UInt8 → RidenScpi.Input α β}
  {m : Memory} {nameLen : ℕ} {rest stack : List UInt8}

/-- A CREATE_LINK as it is received. -/
theorem bounded_linkRecord_iff (hd : h.Drives write) (hname : nameLen < 2 ^ 32) :
    (v.receive (getVxiPacket m ((linkRecord nameLen).bytes ++ rest)).buffer).Bounded h write
      stack ↔ nameLen < 196 := by
  have hlen : (linkRecord nameLen).body.length = 56 := length_wordsBytes _
  have hword : ∀ k x, [1, 0, 2, Rpc.vxi11Core, 1, Rpc.vxi11CreateLink, 0, 0, 0, 0, 0, 0, 0,
      nameLen][k]? = some x → x < 2 ^ 32 →
        (getVxiPacket m ((linkRecord nameLen).bytes ++ rest)).buffer.word (packet (4 * k)) = x :=
    fun k x hk hx => word_getVxiPacket (List.append_nil _).symm (by omega) (by omega) hk hx
  generalize getVxiPacket m ((linkRecord nameLen).bytes ++ rest) = r at hword
  have hprogram : (v.receive r.buffer).request RpcRequest.program = Rpc.vxi11Core :=
    hword 3 _ rfl (by decide)
  have hprocedure : (v.receive r.buffer).request RpcRequest.procedure = Rpc.vxi11CreateLink :=
    hword 5 _ rfl (by decide)
  have hsize : (v.receive r.buffer).request CreateRequest.dataLen = nameLen :=
    hword 13 _ rfl hname
  rw [bounded_createLink_iff hd hprogram hprocedure, NameFits, hsize,
    show vxiReadSize - packet CreateRequest.data = 196 from rfl,
    show CreateRequest.data = 56 from rfl, show maxReceiveSize = 252 from rfl]
  omega

end VxiServer

/-! ## One reply -/

namespace VxiServer

/-- The request is answered with one reply, in the server and the end of the connection
    `r` that come of it. -/
structure RepliesOnce {σ : Type*} (h : ScpiHandler σ) (v : VxiServer σ)
    (r : VxiServer σ × Bool) : Prop where
  sent : ∃ data, data.length = (v.output h).length ∧ nulString (v.output h) <+: data ∧
    (replyBody (v.request RpcRequest.xid) v.status (v.fields h) data).length % 4 = 0 ∧
    r.1.sent = v.sent ++
      [onTcp (replyBody (v.request RpcRequest.xid) v.status (v.fields h) data)]
  closes : r.2 = true ↔
    v.status = Rpc.success ∧ v.request RpcRequest.procedure = Rpc.vxi11DestroyLink

theorem repliesOnce_handlePacket {σ : Type*} (h : ScpiHandler σ) (v : VxiServer σ)
    (stack : List UInt8) : v.RepliesOnce h (v.handlePacket h stack) := by
  obtain ⟨⟨data, hlen, hdata, hsent⟩, hclose⟩ := v.replied_handlePacket h stack
  exact ⟨⟨data, hlen, hdata, length_replyBody_mod .., hsent⟩, hclose⟩

variable {α β : Type*}

/-- What becomes of a request: what the handler makes of it, or anything at all, if the
    handler leaves the arrays. -/
def outcome (h : ScpiHandler (RidenScpi α β)) (v : VxiServer (RidenScpi α β))
    (stack : List UInt8) (stray : VxiServer (RidenScpi α β) × Bool) :
    VxiServer (RidenScpi α β) × Bool :=
  if (v.handlePacket h stack).1.InArrays then v.handlePacket h stack else stray

/-- A request is known to be answered exactly if it leaves no array. -/
theorem repliesOnce_iff (h : ScpiHandler (RidenScpi α β)) (v : VxiServer (RidenScpi α β))
    (stack : List UInt8) : (∀ stray, v.RepliesOnce h (v.outcome h stack stray)) ↔
      (v.handlePacket h stack).1.InArrays := by
  constructor
  · intro hr
    by_contra hnot
    -- nothing is sent
    obtain ⟨_, -, -, -, hsent⟩ := (hr (v, false)).sent
    rw [outcome, if_neg hnot] at hsent
    exact List.cons_ne_nil _ _ (List.append_right_eq_self.1 hsent.symm)
  · intro hin stray
    rw [outcome, if_pos hin]
    exact repliesOnce_handlePacket h v stack

end VxiServer

/-- So is a bind request, as a datagram or on a connection. -/
structure BindServer.RepliesOnce (s : BindServer) (p : VxiPort) (datagram tcp : List UInt8)
    (waiting : Option (List UInt8)) : Prop where
  udp : ∀ m, (getBindPacketUdp s.udpReadBuffer datagram).2 = m → datagram ≠ [] →
    (s.loop p datagram waiting).2 =
      some (replyBody (m.word RpcRequest.xid) (bindStatus m 0) [bindPort p m 0] [])
  tcp : ∀ r, getBindPacketTcp s.tcpReadBuffer tcp = r → r.len > 0 →
    (s.loop p [] (some tcp)).2 =
      some (onTcp (replyBody (r.buffer.word (packet RpcRequest.xid))
        (bindStatus r.buffer (packet 0)) [bindPort p r.buffer (packet 0)] []))

/-- **One reply per request.** Whatever was in the buffers: a request that the VXI
    server handles is answered with one packet on TCP, and ends the connection
    exactly if it is a served DESTROY_LINK, and so is a bind request that comes while
    the VXI server is available on a port, as a datagram or on a connection, exactly if
    the request to the VXI server leaves no array. -/
theorem oneReply_iff (parse : RidenScpi UInt8 UInt8 → List UInt8 → Execution UInt8)
    (v : VxiServer (RidenScpi UInt8 UInt8)) (hv : v.InArrays) (hq : v.scpi.HoldsPart)
    (stack : List UInt8) (hstack : 256 ≤ stack.length) (s : BindServer) {p : VxiPort}
    (hav : p.available = true) (hport : 1 ≤ p.port ∧ p.port ≤ 65535) (datagram tcp : List UInt8)
    (waiting : Option (List UInt8)) :
    ((∀ stray, v.RepliesOnce (scpiHandler parse) (v.outcome (scpiHandler parse) stack stray)) ∧
      s.RepliesOnce p datagram tcp waiting) ↔
      v.Bounded (scpiHandler parse) (parsed parse) stack := by
  have hne : p.port ≠ 0 := by omega
  have hbind : s.RepliesOnce p datagram tcp waiting :=
    ⟨fun m hm hdatagram => BindServer.replied_loopUdp hav hne hdatagram hm,
      fun r hr hpos => BindServer.replied_loopTcp hav hne hr hpos⟩
  rw [and_iff_left hbind, VxiServer.repliesOnce_iff,
    VxiServer.inArrays_handlePacket_iff hv (drives_scpiHandler parse) hq hstack]

/-- A DEV_READ. -/
def readRecord : Record where
  frag := true
  body := wordsBytes [1, 0, 2, Rpc.vxi11Core, 1, Rpc.vxi11DevRead, 0, 0, 0, 0, 0, 256, 0, 0, 0, 0]
  length_lt := length_wordsBytes _ |>.trans_lt (show 4 * 16 < 0x80000000 by decide)

/-- The server that has received it, with `scpi` behind it. -/
def reading (scpi : RidenScpi UInt8 UInt8) : VxiServer (RidenScpi UInt8 UInt8) :=
  .start (getVxiPacket (fun _ => 0) (readRecord.bytes ++ [])).buffer (fun _ => 0) scpi

theorem request_reading {scpi : RidenScpi UInt8 UInt8} {k x : ℕ}
    (hk : [1, 0, 2, Rpc.vxi11Core, 1, Rpc.vxi11DevRead, 0, 0, 0, 0, 0, 256, 0, 0, 0, 0][k]? =
      some x) (hx : x < 2 ^ 32) : (reading scpi).request (4 * k) = x := by
  have hlen : readRecord.body.length = 64 := length_wordsBytes _
  rw [reading, VxiServer.request_start]
  exact word_getVxiPacket (List.append_nil _).symm (by omega) (by omega) hk hx

/-- What it asks for is a read. -/
theorem bounded_reading_iff {parse : RidenScpi UInt8 UInt8 → List UInt8 → Execution UInt8}
    {scpi : RidenScpi UInt8 UInt8} {stack : List UInt8} :
    (reading scpi).Bounded (scpiHandler parse) (parsed parse) stack ↔
      (reading scpi).AnswerFits (scpiHandler parse) stack := by
  have hprogram : (reading scpi).request RpcRequest.program = Rpc.vxi11Core :=
    request_reading (k := 3) rfl (by decide)
  have hprocedure : (reading scpi).request RpcRequest.procedure = Rpc.vxi11DevRead :=
    request_reading (k := 5) rfl (by decide)
  exact VxiServer.bounded_read_iff hprogram hprocedure

/-- The answer `1` and a newline, with a NUL behind it on the stack; a datagram of one
    byte, and a connection with a record of five. -/
theorem oneReply_iff_answered :
    (∀ stray, (reading VxiServer.answered).RepliesOnce (scpiHandler fun _ _ => ⟨[], false⟩)
        ((reading VxiServer.answered).outcome (scpiHandler fun _ _ => ⟨[], false⟩)
          (List.replicate 256 0) stray)) ∧
      (⟨fun _ => 0, .ofMemory fun _ => 0, fun _ => 0, .ofMemory fun _ => 0⟩ :
        BindServer).RepliesOnce ⟨true, 9009⟩ [1] [128, 0, 0, 5, 1, 2, 3, 4, 5] none := by
  refine (oneReply_iff (fun _ _ => ⟨[], false⟩) (reading VxiServer.answered) ?_ ?_
    (List.replicate 256 0) List.length_replicate.ge
    ⟨fun _ => 0, .ofMemory fun _ => 0, fun _ => 0, .ofMemory fun _ => 0⟩
    (p := ⟨true, 9009⟩) rfl ⟨by decide, by decide⟩ [1] [128, 0, 0, 5, 1, 2, 3, 4, 5] none).2 ?_
  · exact ⟨VxiServer.inside_start _ _ _, by decide⟩
  · exact ⟨List.forall_mem_nil _, Nat.zero_le _⟩
  · rw [bounded_reading_iff]
    exact ⟨by decide, 2, by decide, rfl⟩

/-- What a DEV_READ does where `vxi_read_buffer` lies right behind `vxi_send_buffer`: the
    string that `strcpy` takes runs over into it. -/
def VxiServer.readOver {σ : Type*} (h : ScpiHandler σ) (v : VxiServer σ) (stack : List UInt8) :
    VxiServer σ :=
  let copied := nulString (v.outbuffer h stack) ++ [0]
  let (_, data, scpi) := h.read 256 v.scpi
  let response := v.sendBuffer.setWord (packet RpcResponse.rpcStatus) Rpc.success
    |>.setWord (packet ReadResponse.error) Rpc.noError
    |>.setWord (packet ReadResponse.reason) Rpc.endReason
    |>.setWord (packet ReadResponse.dataLen) data.length
    |>.write (packet ReadResponse.data) (copied.take readDataSize)
  let v := { v with
    scpi := scpi
    sendBuffer := response
    readBuffer := v.readBuffer.write 0 (copied.drop readDataSize) }
  v.send (ReadResponse.sizeof + data.length)

/-- Where it runs over the xid, the reply has the bytes copied there for one. -/
theorem VxiServer.not_repliesOnce_readOver {σ : Type*} {h : ScpiHandler σ} {v : VxiServer σ}
    {stack : List UInt8} {w : ℕ} (hw : w % 2 ^ 32 ≠ v.request RpcRequest.xid)
    (hcopied : (((nulString (v.outbuffer h stack) ++ [0]).drop readDataSize).drop 4).take 4 =
      wordBytes w) : ¬v.RepliesOnce h (v.readOver h stack, false) := by
  rintro ⟨⟨data, -, -, -, hsent⟩, -⟩
  rw [VxiServer.readOver] at hsent
  simp only [VxiServer.sent_send, Traced.bytes_write] at hsent
  have hpacket := (List.cons.inj (List.append_cancel_left hsent)).1
  have hover : (v.readBuffer.bytes.write 0 ((nulString (v.outbuffer h stack) ++ [0]).drop
      readDataSize)).word (packet RpcRequest.xid) = w % 2 ^ 32 := word_write (a := 0) (k := 4) hcopied
  have hword := congrArg (fun p => wordOf p (packet RpcResponse.xid)) hpacket
  rw [sendVxiPacket, wordOf_sendTcpPacket_xid (by simp only [ReadResponse.sizeof]; omega), hover,
    wordOf_onTcp (by rw [length_replyBody, RpcResponse.xid]; omega)] at hword
  have hreply : wordOf (replyBody (v.request RpcRequest.xid) v.status (v.fields h) data)
      RpcResponse.xid = v.request RpcRequest.xid := wordOf_replyBody (k := 0) rfl word_lt
  rw [hreply] at hword
  exact hw hword

/-- With nothing to be read, over a stack without a NUL: the reply has another xid. -/
theorem not_oneReply_overrun :
    ¬(reading .initial).RepliesOnce (scpiHandler fun _ _ => ⟨[], false⟩)
      ((reading .initial).outcome (scpiHandler fun _ _ => ⟨[], false⟩) (List.replicate 256 0xA5)
        ((reading .initial).readOver (scpiHandler fun _ _ => ⟨[], false⟩)
          (List.replicate 256 0xA5), false)) := by
  obtain ⟨stack, hstack⟩ : ∃ stack : List UInt8, List.replicate 256 0xA5 = stack := ⟨_, rfl⟩
  have hlen : stack.length = 256 := by rw [← hstack, List.length_replicate]
  have hnul : (0 : UInt8) ∉ stack := by
    rw [← hstack, List.mem_replicate]
    exact fun h => absurd h.2 (by decide)
  have hin : (reading .initial).InArrays := VxiServer.inArrays_start _ _
  -- the string has no end in `outbuffer`, and so the handler leaves the arrays
  have hlost : ¬((reading .initial).handlePacket (scpiHandler fun _ _ => ⟨[], false⟩)
      stack).1.InArrays := by
    rw [VxiServer.inArrays_handlePacket_iff hin (drives_scpiHandler _)
      RidenScpi.holdsPart_initial hlen.ge, bounded_reading_iff]
    rintro ⟨-, z, -, hz⟩
    exact hnul (List.mem_of_getElem? hz)
  have hxid : (reading .initial).request RpcRequest.xid = 1 :=
    request_reading (k := 0) rfl (by decide)
  have hcopied : nulString ((reading .initial).outbuffer (scpiHandler fun _ _ => ⟨[], false⟩)
      stack) = stack := by
    have := @nulString_append stack [] hnul
    rwa [List.append_nil, show nulString [] = [] from rfl, List.append_nil] at this
  rw [hstack, VxiServer.outcome, if_neg hlost]
  refine VxiServer.not_repliesOnce_readOver (w := 0xA5A5A5A5) (by rw [hxid]; decide) ?_
  rw [hcopied, ← hstack]
  rfl

end RidenDongle
