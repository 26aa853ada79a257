import RidenDongle.Vxi.Basic

/-!
# Answers to DEV_READ

What `VXI_Server::read` sends and where it stores, given what it gets from the
SCPI side (`VxiServer.answersWith_read`). The answer is copied with `strcpy` out
of an array that holds no terminator of its own: it comes through whole exactly
when the memory behind it, left over on the stack, has a NUL soon enough.
-/

namespace RidenDongle

open Memory

/-- The bytes of `vxi_send_buffer` that the data of a read response can fill. -/
abbrev readDataSize : ℕ := vxiSendSize - packet ReadResponse.data

/-- The zeros behind the data: what comes before it is a multiple of 4. -/
theorem padding_readResponse (n : ℕ) : padding (ReadResponse.sizeof + n) = padding n := by
  simp only [padding, ReadResponse.sizeof]
  omega

theorem RidenScpi.read_ok {α β : Type*} {s : RidenScpi α β} {maxLen : ℕ}
    (hc : s.externalControl = true) (hr : s.externalOutputReady = true)
    (hl : s.writeBuffer.length ≤ maxLen) :
    s.read maxLen = (.ok, s.writeBuffer, { s with writeBuffer := [] }) := by
  simp [read, hc, hr, Nat.not_lt.2 hl]

theorem RidenScpi.read_err {α β : Type*} {s : RidenScpi α β} {maxLen : ℕ}
    (h : ¬(s.externalControl = true ∧ s.externalOutputReady = true ∧
      s.writeBuffer.length ≤ maxLen)) : s.read maxLen = (.err, [], s) := by
  rw [read]
  split_ifs with hc hl hr
  · rfl
  · rfl
  · rfl
  · simp only [Bool.not_eq_true', Bool.not_eq_false] at hc hr
    exact absurd ⟨hc, hr, Nat.not_lt.1 hl⟩ h

/-- The output that is ready to be read. -/
def RidenScpi.ready {α β : Type*} (s : RidenScpi α β) : List β :=
  if s.externalControl ∧ s.externalOutputReady then s.writeBuffer else []

namespace VxiServer

variable {σ : Type*} {h : ScpiHandler σ} {v : VxiServer σ} {stack data : List UInt8}

/-- The server `v'` answered a read with `data`: it sent one packet, whose
    `data_len` is the length of `data` and whose data field is `data` and zeros
    up to a multiple of 4, and stored inside `vxi_send_buffer` only. -/
structure AnswersWith (v v' : VxiServer σ) (data : List UInt8) : Prop where
  sent : ∃ header, header.length = packet ReadResponse.dataLen ∧ v'.sent = v.sent ++
    [header ++ wordBytes data.length ++ data ++ List.replicate (padding data.length) 0]
  inside : ∀ a ∈ v'.sendBuffer.stores, a < vxiSendSize

/-- The response before it is sent: its words, and the C string on the stack. -/
def readResponse (v : VxiServer σ) (stack data : List UInt8) : Traced :=
  v.sendBuffer.setWord 24 Rpc.success |>.setWord 28 Rpc.noError |>.setWord 32 Rpc.endReason
    |>.setWord 36 data.length |>.write 40 (data ++ nulString (stack.drop data.length) ++ [0])

/-- `read` sends that response. -/
theorem read_eq (hdata : (h.read 256 v.scpi).2.1 = data) (h₀ : (0 : UInt8) ∉ data) :
    (v.read h stack).sendBuffer =
        (sendVxiPacket v.readBuffer.bytes (v.readResponse stack data) (36 + data.length)).1 ∧
      (v.read h stack).sent = v.sent ++
        [(sendVxiPacket v.readBuffer.bytes (v.readResponse stack data) (36 + data.length)).2] := by
  subst hdata
  simp only [VxiServer.read, send, strcpyData, respond, readResponse, nulString_append h₀]
  exact ⟨rfl, rfl⟩

/-- Where the response is stored. -/
theorem stores_readResponse : (v.readResponse stack data).stores = v.sendBuffer.stores ++
    List.range' 24 16 ++
      List.range' 40 (data.length + (nulString (stack.drop data.length)).length + 1) := by
  simp [readResponse, List.range']

/-- The response keeps the words before the data, whose last one is `data_len`. -/
theorem read_readResponse_dataLen :
    (v.readResponse stack data).bytes.read 36 4 = wordBytes data.length := by
  rw [readResponse, Traced.bytes_write, (agreeOn_write (.inl (by omega))).read_eq,
    Traced.bytes_setWord]
  exact read_write

/-- The response has the data in its place. -/
theorem read_readResponse_data :
    (v.readResponse stack data).bytes.read 40 data.length = data := by
  rw [readResponse, Traced.bytes_write, List.append_assoc]
  rw [show (40 : ℕ) = 40 + 0 from rfl, read_write_part (by simp)]
  simp

/-- The packet sent with such a response. -/
theorem sent_readResponse {request : Memory} : ∃ header, header.length = 36 ∧
    (sendVxiPacket request (v.readResponse stack data) (36 + data.length)).2 =
      header ++ wordBytes data.length ++ data ++ List.replicate (padding data.length) 0 := by
  set t := v.readResponse stack data with ht
  set F := (sendVxiPacket request t (36 + data.length)).1.bytes with hF
  have hpad := padding_readResponse data.length
  -- behind the header, the buffer is the response followed by the zeros
  have hagree : ∀ b k, 24 ≤ b → F.AgreeOn
      (t.bytes.write (40 + data.length) (List.replicate (padding data.length) 0)) b k := by
    intro b k hb
    have := @sendTcpPacket_bytes t b k (36 + data.length) request hb
    rwa [hpad, show packet (36 + data.length) = 40 + data.length by
      simp only [packet]; omega] at this
  have hlen : F.read 36 4 = wordBytes data.length := by
    rw [(hagree 36 4 (by omega)).read_eq, (agreeOn_write (.inl (by omega))).read_eq,
      ht, read_readResponse_dataLen]
  have hdata : F.read 40 data.length = data := by
    rw [(hagree 40 _ (by omega)).read_eq, (agreeOn_write (.inl le_rfl)).read_eq, ht,
      read_readResponse_data]
  have hzero : F.read (40 + data.length) (padding data.length) =
      List.replicate (padding data.length) 0 := by
    have := @read_write t.bytes (40 + data.length) (List.replicate (padding data.length) 0)
    rw [List.length_replicate] at this
    rw [(hagree _ _ (by omega)).read_eq, this]
  refine ⟨F.read 0 36, length_read, ?_⟩
  calc (sendVxiPacket request t (36 + data.length)).2
      = F.read 0 (36 + 4 + data.length + padding data.length) := by
        rw [sendVxiPacket, sendTcpPacket_sent, hpad]
        congr 1
        omega
    _ = F.read 0 36 ++ F.read 36 4 ++ F.read 40 data.length ++
          F.read (40 + data.length) (padding data.length) := by
        rw [read_add, read_add, read_add]
        simp only [Nat.zero_add]
    _ = _ := by rw [hlen, hdata, hzero]

/-- Where everything is stored that a read stores. -/
theorem stores_read (hdata : (h.read 256 v.scpi).2.1 = data) (h₀ : (0 : UInt8) ∉ data) :
    (v.read h stack).sendBuffer.stores = v.sendBuffer.stores ++ List.range' 24 16 ++
      List.range' 40 (data.length + (nulString (stack.drop data.length)).length + 1) ++
      List.range' 4 20 ++ List.range' (40 + data.length) (padding data.length) ++
      List.range' 0 4 := by
  rw [(read_eq hdata h₀).1, sendVxiPacket, stores_sendTcpPacket, stores_readResponse,
    padding_readResponse, show packet (36 + data.length) = 40 + data.length by
      simp only [packet]; omega]

/-- A read answers with the data it got exactly when the stack behind the data
    has a NUL before the end of the send buffer. -/
theorem answersWith_read (hdata : (h.read 256 v.scpi).2.1 = data) (h₀ : (0 : UInt8) ∉ data)
    (hstack : 256 ≤ stack.length) (hlen : data.length ≤ 256) (hv : v.sendBuffer.stores = []) :
    AnswersWith v (v.read h stack) data ↔
      ∃ z, data.length ≤ z ∧ z < readDataSize ∧ stack[z]? = some 0 := by
  set k := (nulString (stack.drop data.length)).length with hk
  rw [show readDataSize = 216 from rfl]
  -- the terminator of the C string is the last byte that `strcpy` stores
  have hnul : (∃ z, data.length ≤ z ∧ z < 216 ∧ stack[z]? = some 0) ↔
      data.length + k < 216 := by
    rcases Nat.lt_or_ge data.length 216 with hd | hd
    · have := @length_nulString_lt (stack.drop data.length) (216 - data.length)
        (by rw [List.length_drop]; omega)
      rw [← hk] at this
      rw [show data.length + k < 216 ↔ k < 216 - data.length by omega, this]
      constructor
      · rintro ⟨z, hz, hz', hnul⟩
        refine ⟨z - data.length, by omega, ?_⟩
        rwa [List.getElem?_drop, Nat.add_sub_cancel' hz]
      · rintro ⟨z, hz, hnul⟩
        rw [List.getElem?_drop] at hnul
        exact ⟨data.length + z, by omega, by omega, hnul⟩
    · exact iff_of_false (fun ⟨z, hz, hz', _⟩ => by omega) (by omega)
  rw [hnul]
  have hstores := @stores_read _ _ _ stack _ hdata h₀
  rw [hv, List.nil_append, ← hk] at hstores
  constructor
  · intro hans
    have := hans.inside (40 + data.length + k) (by
      rw [hstores]
      simp only [List.mem_append, List.mem_range'_1]
      omega)
    simp only [vxiSendSize] at this
    omega
  · intro hlt
    refine ⟨?_, fun a ha => ?_⟩
    · obtain ⟨header, hheader, hsent⟩ := @sent_readResponse _ v stack data v.readBuffer.bytes
      exact ⟨header, hheader, by rw [(read_eq hdata h₀).2, hsent]⟩
    · rw [hstores] at ha
      simp only [List.mem_append, List.mem_range'_1, padding] at ha
      simp only [vxiSendSize]
      omega

/-! ## The pending answer -/

variable {parse : RidenScpi UInt8 UInt8 → List UInt8 → Execution UInt8}
  {s : RidenScpi UInt8 UInt8} {m r : Memory}

/-- The server `v'` answered a read of `v` with the pending output, which is
    gone then, or with no data if it could not obtain any. -/
structure ReadsPending (v v' : VxiServer (RidenScpi UInt8 UInt8)) : Prop where
  obtained : (v.scpi.read 256).1 = .ok →
    AnswersWith v v' v.scpi.writeBuffer ∧ v'.scpi.writeBuffer = []
  refused : (v.scpi.read 256).1 = .err → AnswersWith v v' []

/-- The SCPI server behind a read. -/
theorem scpi_read : (v.read h stack).scpi = (h.read 256 v.scpi).2.2 := rfl

/-- A read answers with the pending output whole, inside the send buffer,
    exactly when the stack behind that output has a NUL soon enough. -/
theorem readsPending_iff (h₀ : (0 : UInt8) ∉ s.writeBuffer) (hlen : s.writeBuffer.length ≤ 256)
    (hstack : 256 ≤ stack.length) :
    ReadsPending (start m r s) ((start m r s).read (scpiHandler parse) stack) ↔
      ∃ z, s.ready.length ≤ z ∧ z < readDataSize ∧ stack[z]? = some 0 := by
  by_cases hr : s.externalControl = true ∧ s.externalOutputReady = true
  · have hread : s.read 256 = (.ok, s.writeBuffer, { s with writeBuffer := [] }) :=
      RidenScpi.read_ok hr.1 hr.2 hlen
    have hans := @answersWith_read _ (scpiHandler parse) (start m r s) stack
      s.writeBuffer (by simp only [scpiHandler, start, hread]) h₀ hstack hlen rfl
    rw [RidenScpi.ready, if_pos hr, ← hans]
    constructor
    · intro hp
      exact (hp.obtained (by simp only [start, hread])).1
    · intro ha
      refine ⟨fun _ => ⟨ha, ?_⟩, fun herr => ?_⟩
      · simp only [scpi_read, scpiHandler, start, hread]
      · simp only [start, hread, reduceCtorEq] at herr
  · have hread : s.read 256 = (.err, [], s) := RidenScpi.read_err fun h => hr ⟨h.1, h.2.1⟩
    have hans := @answersWith_read _ (scpiHandler parse) (start m r s) stack
      [] (by simp only [scpiHandler, start, hread]) List.not_mem_nil hstack
      (Nat.zero_le _) rfl
    rw [RidenScpi.ready, if_neg hr, ← hans]
    constructor
    · intro hp
      exact hp.refused (by simp only [start, hread])
    · intro ha
      refine ⟨fun hok => ?_, fun _ => ha⟩
      simp only [start, hread, reduceCtorEq] at hok

/-- A SCPI server with the answer `1` and a newline. -/
def answered : RidenScpi UInt8 UInt8 :=
  { RidenScpi.initial with
    writeBuffer := [49, 10], externalControl := true, externalOutputReady := true }

/-- The answer `1` and a newline, with a NUL right behind it on the stack. -/
theorem readsPending_terminated :
    ReadsPending (start (fun _ => 0) (fun _ => 0) answered)
      ((start (fun _ => 0) (fun _ => 0) answered).read (scpiHandler fun _ _ => ⟨[], false⟩)
        (List.replicate 256 0)) :=
  (readsPending_iff (by decide) (by decide) List.length_replicate.ge).2
    ⟨2, by decide, by decide, List.getElem?_replicate_of_lt (by omega)⟩

/-- The same answer, over a stack full of other bytes: `strcpy` runs out of the
    send buffer. -/
theorem not_readsPending_unterminated :
    ¬ReadsPending (start (fun _ => 0) (fun _ => 0) answered)
      ((start (fun _ => 0) (fun _ => 0) answered).read (scpiHandler fun _ _ => ⟨[], false⟩)
        (List.replicate 256 0xA5)) := by
  intro hp
  have hans := (hp.obtained (by decide)).1
  obtain ⟨z, _, hz, hnul⟩ :=
    (answersWith_read rfl (by decide) List.length_replicate.ge (by decide) rfl).1 hans
  rw [show readDataSize = 216 from rfl] at hz
  rw [List.getElem?_replicate_of_lt (by omega)] at hnul
  exact absurd (Option.some.inj hnul) (by decide)

end VxiServer

end RidenDongle
