import RidenDongle.Rpc.Stale
import RidenDongle.Vxi.Requests

/-!
# Replies

What the servers send, byte by byte: the header of an RPC reply, the status, the
fields of the response and its data, padded to a multiple of 4, on TCP behind a
prefix that counts what follows. Nothing of it comes from what the send buffers
held before.
-/

namespace RidenDongle

open Memory

/-! ## The reply on the wire -/

/-- A reply: the header, the status, the words `fields` and the bytes `data`,
    with zeros up to a multiple of 4. -/
def replyBody (xid status : ℕ) (fields : List ℕ) (data : List UInt8) : List UInt8 :=
  wordsBytes ([xid, Rpc.reply, Rpc.msgAccepted, 0, 0] ++ status :: fields) ++ data ++
    List.replicate (padding data.length) 0

/-- A packet on TCP: the FRAG bit and the length, and as many bytes. -/
def onTcp (body : List UInt8) : List UInt8 := wordBytes (0x80000000 ||| body.length) ++ body

theorem wordsBytes_append (ws ws' : List ℕ) :
    wordsBytes (ws ++ ws') = wordsBytes ws ++ wordsBytes ws' := List.flatMap_append

theorem length_replyBody (xid status : ℕ) (fields : List ℕ) (data : List UInt8) :
    (replyBody xid status fields data).length =
      24 + 4 * fields.length + data.length + padding data.length := by
  simp only [replyBody, List.length_append, length_wordsBytes, List.length_cons, List.length_nil,
    List.length_replicate]
  omega

/-- What follows the prefix is a multiple of 4 bytes. -/
theorem length_replyBody_mod (xid status : ℕ) (fields : List ℕ) (data : List UInt8) :
    (replyBody xid status fields data).length % 4 = 0 := by
  rw [length_replyBody, padding]
  omega

/-- A word of a reply. -/
theorem wordOf_replyBody {xid status k w : ℕ} {fields : List ℕ} {data : List UInt8}
    (hk : ([xid, Rpc.reply, Rpc.msgAccepted, 0, 0] ++ status :: fields)[k]? = some w)
    (hw : w < 2 ^ 32) : wordOf (replyBody xid status fields data) (4 * k) = w := by
  rw [replyBody, List.append_assoc]
  exact wordOf_wordsBytes hk hw

/-- A word behind the prefix. -/
theorem wordOf_onTcp {body : List UInt8} {o : ℕ} (ho : o + 4 ≤ body.length) :
    wordOf (onTcp body) (packet o) = wordOf body o := by
  rw [onTcp, wordOf, write_append, length_wordBytes]
  exact word_write_eq_wordOf ho

section

variable {t : Traced} {a k len xid : ℕ} {request : Memory}

theorem read_fillResponseHeader :
    (fillResponseHeader t a xid).bytes.read a 20 =
      wordsBytes [xid, Rpc.reply, Rpc.msgAccepted, 0, 0] := by
  have hfill : (fillResponseHeader t a xid).bytes =
      t.bytes.setWords a [xid, Rpc.reply, Rpc.msgAccepted, 0, 0] := by
    simp only [fillResponseHeader, Traced.bytes_setWord, setWords, RpcResponse.xid,
      RpcResponse.msgType, RpcResponse.replyState, RpcResponse.verifierL, RpcResponse.verifierH,
      Nat.add_assoc, Nat.reduceAdd, Nat.add_zero]
  rw [hfill]
  exact read_setWords (a := a)

/-- The datagram that is sent: the header, and the response as it is. -/
theorem sendBindPacketUdp_eq (hlen : 20 ≤ len) :
    (sendBindPacketUdp request t len).2 =
      wordsBytes [request.word RpcRequest.xid, Rpc.reply, Rpc.msgAccepted, 0, 0] ++
        t.bytes.read 20 (len - 20) := by
  have hsent : (sendBindPacketUdp request t len).2 =
      (fillResponseHeader t 0 (request.word RpcRequest.xid)).bytes.read 0 len := rfl
  rw [hsent, show len = 20 + (len - 20) by omega, read_add, read_fillResponseHeader,
    Nat.add_sub_cancel_left, Nat.zero_add, (agreeOn_fillResponseHeader le_rfl).read_eq]

/-- The bytes that are sent on TCP: the prefix, the header, the response as it is
    and the padding. -/
theorem sendTcpPacket_eq (hlen : 20 ≤ len) :
    (sendTcpPacket request t len).2 = wordBytes (0x80000000 ||| (len + padding len)) ++
      (wordsBytes [request.word (packet RpcRequest.xid), Rpc.reply, Rpc.msgAccepted, 0, 0] ++
        t.bytes.read 24 (len - 20) ++ List.replicate (padding len) 0) := by
  obtain ⟨f, hf⟩ : ∃ f, fillResponseHeader t (packet 0) (request.word (packet RpcRequest.xid)) = f :=
    ⟨_, rfl⟩
  have hfinal : (sendTcpPacket request t len).1.bytes =
      (f.bytes.write (packet len) (List.replicate (padding len) 0)).setWord 0
        (0x80000000 ||| (len + padding len)) := by
    simp only [sendTcpPacket, padLoop_eq, hf, Traced.bytes_setWord, Traced.bytes_write]
  have hprefix : (sendTcpPacket request t len).1.bytes.read 0 4 =
      wordBytes (0x80000000 ||| (len + padding len)) := by
    rw [hfinal]
    exact read_write
  have hheader : (sendTcpPacket request t len).1.bytes.read 4 20 =
      wordsBytes [request.word (packet RpcRequest.xid), Rpc.reply, Rpc.msgAccepted, 0, 0] := by
    rw [hfinal, (agreeOn_setWord (.inr le_rfl)).read_eq,
      (agreeOn_write (.inl (by simp only [packet]; omega))).read_eq, ← hf]
    exact read_fillResponseHeader
  have hbody : (sendTcpPacket request t len).1.bytes.read 24 (len - 20) =
      t.bytes.read 24 (len - 20) := by
    rw [(sendTcpPacket_bytes le_rfl).read_eq,
      (agreeOn_write (.inl (by simp only [packet]; omega))).read_eq]
  have hpad : (sendTcpPacket request t len).1.bytes.read (24 + (len - 20)) (padding len) =
      List.replicate (padding len) 0 := by
    have hz := @read_write t.bytes (packet len) (List.replicate (padding len) 0)
    rw [List.length_replicate] at hz
    rw [show 24 + (len - 20) = packet len by simp only [packet]; omega,
      (sendTcpPacket_bytes (by simp only [packet]; omega)).read_eq, hz]
  rw [sendTcpPacket_sent, show len + padding len + 4 = 4 + (20 + ((len - 20) + padding len)) by omega,
    read_add, read_add, read_add, hprefix, Nat.zero_add, hheader, hbody, hpad]
  simp only [List.append_assoc]

/-- The xid in the packet that is sent on TCP. -/
theorem wordOf_sendTcpPacket_xid (hlen : 20 ≤ len) :
    wordOf (sendTcpPacket request t len).2 (packet RpcResponse.xid) =
      request.word (packet RpcRequest.xid) := by
  have hwords : (sendTcpPacket request t len).2 =
      wordsBytes [0x80000000 ||| (len + padding len), request.word (packet RpcRequest.xid)] ++
        (wordsBytes [Rpc.reply, Rpc.msgAccepted, 0, 0] ++ t.bytes.read 24 (len - 20) ++
          List.replicate (padding len) 0) := by
    rw [sendTcpPacket_eq hlen]
    simp only [wordsBytes, List.flatMap_cons, List.flatMap_nil, List.append_nil, List.append_assoc]
  rw [hwords]
  exact wordOf_wordsBytes (k := 1) rfl word_lt

/-- A response that is in the buffer from the status on is sent as a reply. -/
theorem sendTcpPacket_replyBody {status : ℕ} {fields : List ℕ} {data : List UInt8}
    (hlen : len = 24 + 4 * fields.length + data.length)
    (hread : t.bytes.read 24 (len - 20) = wordsBytes (status :: fields) ++ data) :
    (sendTcpPacket request t len).2 =
      onTcp (replyBody (request.word (packet RpcRequest.xid)) status fields data) := by
  have hpad : padding len = padding data.length := by
    simp only [padding, hlen]
    omega
  rw [sendTcpPacket_eq (by omega), onTcp, length_replyBody, hread, hpad, replyBody,
    wordsBytes_append, hlen]
  simp only [List.append_assoc]

end

namespace VxiServer

variable {σ : Type*} {h : ScpiHandler σ} {v : VxiServer σ} {stack : List UInt8}

/-! ## The procedures -/

/-- The server `v'` sent one reply more than `v`. -/
def Replied (v v' : VxiServer σ) (status : ℕ) (fields : List ℕ) (data : List UInt8) : Prop :=
  v'.sent = v.sent ++ [onTcp (replyBody (v.request RpcRequest.xid) status fields data)]

theorem replied_of_sent {v' : VxiServer σ} {status len : ℕ} {fields : List ℕ}
    {data : List UInt8} {m : Memory} {t : Traced}
    (hsent : v'.sent = v.sent ++ [(sendVxiPacket m t len).2])
    (hlen : len = 24 + 4 * fields.length + data.length)
    (hread : t.bytes.read 24 (len - 20) = wordsBytes (status :: fields) ++ data)
    (hxid : m.word (packet RpcRequest.xid) =
      v.readBuffer.bytes.word (packet RpcRequest.xid)) :
    v.Replied v' status fields data := by
  rw [Replied, hsent, sendVxiPacket, sendTcpPacket_replyBody hlen hread, hxid, VxiServer.request]

/-- A response without data. -/
theorem replied_of_words {v' : VxiServer σ} {status len : ℕ} {fields : List ℕ} {m : Memory}
    {t : Traced} (hsent : v'.sent = v.sent ++ [(sendVxiPacket m t len).2])
    (hlen : len = 24 + 4 * fields.length)
    (hread : t.bytes.read 24 (len - 20) = wordsBytes (status :: fields))
    (hxid : m.word (packet RpcRequest.xid) =
      v.readBuffer.bytes.word (packet RpcRequest.xid)) :
    v.Replied v' status fields [] :=
  replied_of_sent hsent hlen (by rw [hread, List.append_nil]) hxid

theorem replied_refuse (rc : ℕ) : v.Replied (v.refuse rc) rc [] [] :=
  replied_of_words (sent_send ..) rfl (@read_setWords _ _ [rc]) rfl

theorem replied_destroyLink : v.Replied (v.destroyLink h) Rpc.success [Rpc.noError] [] :=
  replied_of_words (sent_send ..) rfl (@read_setWords _ _ [Rpc.success, Rpc.noError]) rfl

theorem replied_createLink :
    v.Replied (v.createLink h) Rpc.success
      (if (h.claimControl v.scpi).1 then [Rpc.noError, 0, 0, maxReceiveSize]
        else [Rpc.outOfResources, 0, 0, 0]) [] := by
  split_ifs with hclaim
  · refine replied_of_words (sent_createLink_eq hclaim) ?_ ?_ ?_
    · rfl
    · exact read_linkedResponse v.sendBuffer
    · exact xid_createLink hclaim
  · have hsent : (v.createLink h).sent = v.sent ++ [(sendVxiPacket v.readBuffer.bytes
        (v.sendBuffer.setWord (packet RpcResponse.rpcStatus) Rpc.success
          |>.setWord (packet CreateResponse.error) Rpc.outOfResources
          |>.setWord (packet CreateResponse.linkId) 0
          |>.setWord (packet CreateResponse.abortPort) 0
          |>.setWord (packet CreateResponse.maxReceiveSize) 0) CreateResponse.sizeof).2] := by
      simp only [createLink, hclaim, Bool.not_false, if_true, sent_send, sent_respond,
        readBuffer_respond, sendBuffer_respond]
    exact replied_of_words hsent rfl
      (@read_setWords _ _ [Rpc.success, Rpc.outOfResources, 0, 0, 0]) rfl

theorem replied_write :
    v.Replied (v.write h) Rpc.success [Rpc.noError, v.request WriteRequest.dataLen] [] := by
  refine replied_of_words sent_write_eq ?_ ?_ ?_
  · rfl
  · exact read_writtenResponse v.sendBuffer (v.request WriteRequest.dataLen)
  · exact xid_write

/-- The response of `read` before it is sent. -/
def pendingResponse (v : VxiServer σ) (stack pending : List UInt8) : Traced :=
  v.sendBuffer.setWord (packet RpcResponse.rpcStatus) Rpc.success
    |>.setWord (packet ReadResponse.error) Rpc.noError
    |>.setWord (packet ReadResponse.reason) Rpc.endReason
    |>.setWord (packet ReadResponse.dataLen) pending.length
    |>.write (packet ReadResponse.data) (nulString (pending ++ stack.drop pending.length) ++ [0])

theorem sent_read_eq {pending : List UInt8} (hp : (h.read 256 v.scpi).2.1 = pending) :
    (v.read h stack).sent = v.sent ++ [(sendVxiPacket v.readBuffer.bytes
      (v.pendingResponse stack pending) (ReadResponse.sizeof + pending.length)).2] := by
  subst hp
  simp only [VxiServer.read, send, strcpyData, respond, pendingResponse]

theorem read_pendingResponse (stack pending : List UInt8) :
    (v.pendingResponse stack pending).bytes.read 24 (ReadResponse.sizeof + pending.length - 20) =
      wordsBytes [Rpc.success, Rpc.noError, Rpc.endReason, pending.length] ++
        (v.pendingResponse stack pending).bytes.read (packet ReadResponse.data)
          pending.length := by
  rw [show ReadResponse.sizeof + pending.length - 20 = 16 + pending.length by
    simp only [ReadResponse.sizeof]; omega, read_add]
  have hwords : (v.pendingResponse stack pending).bytes.read 24 16 =
      wordsBytes [Rpc.success, Rpc.noError, Rpc.endReason, pending.length] := by
    rw [pendingResponse, Traced.bytes_write, (agreeOn_write
      (.inl (show 24 + 16 ≤ packet ReadResponse.data by decide))).read_eq]
    exact @read_setWords _ _ [Rpc.success, Rpc.noError, Rpc.endReason, pending.length]
  rw [hwords]
  rfl

/-- What stands before a NUL does so whatever follows. -/
theorem nulString_prefix_append (bs cs : List UInt8) : nulString bs <+: nulString (bs ++ cs) := by
  rw [nulString, nulString, List.takeWhile_append]
  split_ifs
  · exact (List.takeWhile_prefix _).trans (List.prefix_append ..)
  · exact List.prefix_rfl

/-- The data of a read is what was pending, up to a NUL in it. -/
theorem data_pendingResponse (stack pending : List UInt8) :
    nulString pending <+: (v.pendingResponse stack pending).bytes.read
      (packet ReadResponse.data) pending.length := by
  have hle : (nulString pending).length ≤ pending.length :=
    (List.takeWhile_prefix _).length_le
  have hprefix : nulString pending <+:
      nulString (pending ++ stack.drop pending.length) ++ [0] :=
    (nulString_prefix_append ..).trans (List.prefix_append ..)
  refine List.prefix_iff_getElem.2 ⟨by rw [length_read]; exact hle, fun i hi => ?_⟩
  have hlen := hprefix.length_le
  rw [getElem_read, pendingResponse, Traced.bytes_write, write_add (by omega)]
  exact hprefix.getElem hi

/-- A read is answered with the bytes that were pending, up to a NUL in them. -/
theorem replied_read : ∃ data, data.length = (h.read 256 v.scpi).2.1.length ∧
    nulString (h.read 256 v.scpi).2.1 <+: data ∧
    v.Replied (v.read h stack) Rpc.success
      [Rpc.noError, Rpc.endReason, (h.read 256 v.scpi).2.1.length] data := by
  obtain ⟨pending, hp⟩ : ∃ pending, (h.read 256 v.scpi).2.1 = pending := ⟨_, rfl⟩
  rw [hp]
  refine ⟨_, length_read, data_pendingResponse (v := v) stack pending, ?_⟩
  exact replied_of_sent (sent_read_eq hp) (by rw [length_read]; rfl)
    (read_pendingResponse stack pending) rfl

/-! ## Every request -/

/-- The status of the reply to a request. -/
def status (v : VxiServer σ) : ℕ :=
  if v.request RpcRequest.program ≠ Rpc.vxi11Core then Rpc.progUnavail
  else if ¬ Served (v.request RpcRequest.procedure) then Rpc.procUnavail
  else Rpc.success

/-- The fields of the reply behind the status: what the request and the SCPI side
    make them, and none for a request that is not served. -/
def fields (h : ScpiHandler σ) (v : VxiServer σ) : List ℕ :=
  if v.status ≠ Rpc.success then []
  else if v.request RpcRequest.procedure = Rpc.vxi11CreateLink then
    if (h.claimControl v.scpi).1 then [Rpc.noError, 0, 0, maxReceiveSize]
    else [Rpc.outOfResources, 0, 0, 0]
  else if v.request RpcRequest.procedure = Rpc.vxi11DevRead then
    [Rpc.noError, Rpc.endReason, (h.read 256 v.scpi).2.1.length]
  else if v.request RpcRequest.procedure = Rpc.vxi11DevWrite then
    [Rpc.noError, v.request WriteRequest.dataLen]
  else [Rpc.noError]

/-- The output that a served read obtains. -/
def output (h : ScpiHandler σ) (v : VxiServer σ) : List UInt8 :=
  if v.status = Rpc.success ∧ v.request RpcRequest.procedure = Rpc.vxi11DevRead then
    (h.read 256 v.scpi).2.1
  else []

section

variable {p : ℕ}

theorem status_of_served (hp : v.request RpcRequest.program = Rpc.vxi11Core)
    (hs : Served (v.request RpcRequest.procedure)) : v.status = Rpc.success := by
  rw [status, if_neg (not_not.2 hp), if_neg (not_not.2 hs)]

theorem status_of_not_served (hp : v.request RpcRequest.program = Rpc.vxi11Core)
    (hs : ¬Served (v.request RpcRequest.procedure)) : v.status = Rpc.procUnavail := by
  rw [status, if_neg (not_not.2 hp), if_pos hs]

theorem status_of_program (hp : v.request RpcRequest.program ≠ Rpc.vxi11Core) :
    v.status = Rpc.progUnavail := if_pos hp

theorem fields_of_refused (hstatus : v.status ≠ Rpc.success) : v.fields h = [] := if_pos hstatus

theorem fields_createLink (hstatus : v.status = Rpc.success)
    (hc : v.request RpcRequest.procedure = Rpc.vxi11CreateLink) :
    v.fields h = if (h.claimControl v.scpi).1 then [Rpc.noError, 0, 0, maxReceiveSize]
      else [Rpc.outOfResources, 0, 0, 0] := by
  rw [fields, if_neg (not_not.2 hstatus), if_pos hc]

theorem fields_read (hstatus : v.status = Rpc.success)
    (hc : v.request RpcRequest.procedure = Rpc.vxi11DevRead) :
    v.fields h = [Rpc.noError, Rpc.endReason, (h.read 256 v.scpi).2.1.length] := by
  rw [fields, if_neg (not_not.2 hstatus), if_neg (by rw [hc]; decide), if_pos hc]

theorem fields_write (hstatus : v.status = Rpc.success)
    (hc : v.request RpcRequest.procedure = Rpc.vxi11DevWrite) :
    v.fields h = [Rpc.noError, v.request WriteRequest.dataLen] := by
  rw [fields, if_neg (not_not.2 hstatus), if_neg (by rw [hc]; decide),
    if_neg (by rw [hc]; decide), if_pos hc]

theorem fields_destroyLink (hstatus : v.status = Rpc.success)
    (hc : v.request RpcRequest.procedure = Rpc.vxi11DestroyLink) :
    v.fields h = [Rpc.noError] := by
  rw [fields, if_neg (not_not.2 hstatus), if_neg (by rw [hc]; decide),
    if_neg (by rw [hc]; decide), if_neg (by rw [hc]; decide)]

/-- Only a read has output. -/
theorem output_of_ne (hc : v.request RpcRequest.procedure = p) (hp : p ≠ Rpc.vxi11DevRead) :
    v.output h = [] :=
  if_neg fun h' => hp (hc.symm.trans h'.2)

theorem output_of_refused (hstatus : v.status ≠ Rpc.success) : v.output h = [] :=
  if_neg fun h' => hstatus h'.1

/-- A reply without data, to a request without output. -/
theorem Replied.exists_data {v' : VxiServer σ} {status : ℕ} {fields : List ℕ}
    (hr : v.Replied v' status fields []) (ho : v.output h = []) : ∃ data,
    data.length = (v.output h).length ∧ nulString (v.output h) <+: data ∧
      v.Replied v' status fields data :=
  ⟨[], by rw [ho], by rw [ho]; exact List.prefix_rfl, hr⟩

end

/-- Every request is answered with one reply, and a served DESTROY_LINK ends the
    connection. -/
theorem replied_handlePacket (h : ScpiHandler σ) (v : VxiServer σ) (stack : List UInt8) :
    (∃ data, data.length = (v.output h).length ∧ nulString (v.output h) <+: data ∧
      v.Replied (v.handlePacket h stack).1 v.status (v.fields h) data) ∧
    ((v.handlePacket h stack).2 = true ↔
      v.status = Rpc.success ∧ v.request RpcRequest.procedure = Rpc.vxi11DestroyLink) := by
  by_cases hp : v.request RpcRequest.program = Rpc.vxi11Core
  · by_cases hs : Served (v.request RpcRequest.procedure)
    · have hstatus : v.status = Rpc.success := status_of_served hp hs
      rw [hstatus, and_iff_right rfl]
      rcases hs with hc | hc | hc | hc
      · rw [handlePacket_createLink stack hp hc, fields_createLink hstatus hc, hc]
        exact ⟨replied_createLink.exists_data (output_of_ne hc (by decide)),
          iff_of_false Bool.false_ne_true (by decide)⟩
      · have ho : v.output h = (h.read 256 v.scpi).2.1 := if_pos ⟨hstatus, hc⟩
        rw [handlePacket_read stack hp hc, fields_read hstatus hc, ho, hc]
        exact ⟨replied_read, iff_of_false Bool.false_ne_true (by decide)⟩
      · rw [handlePacket_write stack hp hc, fields_write hstatus hc, hc]
        exact ⟨replied_write.exists_data (output_of_ne hc (by decide)),
          iff_of_false Bool.false_ne_true (by decide)⟩
      · rw [handlePacket_destroyLink stack hp hc, fields_destroyLink hstatus hc, hc]
        exact ⟨replied_destroyLink.exists_data (output_of_ne hc (by decide)), iff_of_true rfl rfl⟩
    · have hstatus : v.status = Rpc.procUnavail := status_of_not_served hp hs
      have hne : v.status ≠ Rpc.success := by rw [hstatus]; decide
      rw [handlePacket_procUnavail stack hp hs, fields_of_refused hne, hstatus]
      exact ⟨(replied_refuse _).exists_data (output_of_refused hne), by simp⟩
  · have hstatus : v.status = Rpc.progUnavail := status_of_program hp
    have hne : v.status ≠ Rpc.success := by rw [hstatus]; decide
    rw [handlePacket_progUnavail stack hp, fields_of_refused hne, hstatus]
    exact ⟨(replied_refuse _).exists_data (output_of_refused hne), by simp⟩

end VxiServer

/-! ## Bind requests -/

/-- The status of the reply to the bind request at `a`. -/
def bindStatus (request : Memory) (a : ℕ) : ℕ :=
  if request.word (a + RpcRequest.program) ≠ Rpc.portmap then Rpc.progUnavail
  else if request.word (a + RpcRequest.procedure) ≠ Rpc.getPort then Rpc.procUnavail
  else Rpc.success

/-- The port in the reply: that of the VXI server, or none in a failure. -/
def bindPort (p : VxiPort) (request : Memory) (a : ℕ) : ℕ :=
  if bindStatus request a = Rpc.success then p.port else 0

section

variable {p : VxiPort} {request : Memory} {a : ℕ} {t : Traced}

/-- While the VXI server is available on a port, no request fails for the want of one. -/
theorem bindResult_eq (hav : p.available = true) (hport : p.port ≠ 0) :
    bindResult p request a = (bindStatus request a, bindPort p request a) := by
  have halloc : p.allocate = p.port := if_pos hav
  simp only [bindResult, bindPort, bindStatus, halloc]
  split_ifs <;> simp_all [Rpc.progUnavail, Rpc.procUnavail, Rpc.success]

theorem bytes_processRequest : (processRequest p request a t).bytes =
    t.bytes.setWords (a + 20) [(bindResult p request a).1, (bindResult p request a).2] := by
  simp only [processRequest, Traced.bytes_setWord, setWords, RpcResponse.rpcStatus,
    BindResponse.vxiPort, Nat.add_assoc, Nat.reduceAdd]

theorem sendBindPacketUdp_replyBody {status port : ℕ}
    (hresult : bindResult p request 0 = (status, port)) :
    (sendBindPacketUdp request (processRequest p request 0 t) BindResponse.sizeof).2 =
      replyBody (request.word RpcRequest.xid) status [port] [] := by
  rw [sendBindPacketUdp_eq (by decide), bytes_processRequest, hresult, replyBody,
    wordsBytes_append, List.append_nil]
  exact (congrArg _ (@read_setWords _ 20 [status, port])).trans
    (List.append_nil _).symm

theorem sendBindPacketTcp_replyBody {status port : ℕ}
    (hresult : bindResult p request (packet 0) = (status, port)) :
    (sendBindPacketTcp request (processRequest p request (packet 0) t) BindResponse.sizeof).2 =
      onTcp (replyBody (request.word (packet RpcRequest.xid)) status [port] []) := by
  refine sendTcpPacket_replyBody rfl ?_
  rw [bytes_processRequest, hresult, List.append_nil]
  exact @read_setWords _ 24 [status, port]

end

namespace BindServer

variable {p : VxiPort} {s : BindServer}

/-- The reply to a datagram. -/
theorem replied_loopUdp (hav : p.available = true) (hport : p.port ≠ 0)
    {m : Memory} {datagram : List UInt8} {tcp : Option (List UInt8)} (hne : datagram ≠ [])
    (hm : (getBindPacketUdp s.udpReadBuffer datagram).2 = m) :
    (s.loop p datagram tcp).2 =
      some (replyBody (m.word RpcRequest.xid) (bindStatus m 0) [bindPort p m 0] []) := by
  have hlen : (getBindPacketUdp s.udpReadBuffer datagram).1 > 0 := by
    change (datagram.take udpReadSize).length > 0
    rw [List.length_take]
    exact Nat.lt_min.2 ⟨by decide, List.length_pos_of_ne_nil hne⟩
  have hloop : s.loop p datagram tcp = s.loopUdp p datagram := by
    unfold loop
    rw [if_pos hav, if_pos (List.length_pos_of_ne_nil hne)]
  rw [hloop, loopUdp, if_pos hlen, hm]
  exact congrArg some (sendBindPacketUdp_replyBody (bindResult_eq hav hport))

/-- The reply on a connection, once something was received from it. -/
theorem replied_loopTcp (hav : p.available = true) (hport : p.port ≠ 0)
    {r : Received} {tcp : List UInt8} (hr : getBindPacketTcp s.tcpReadBuffer tcp = r)
    (hlen : r.len > 0) :
    (s.loop p [] (some tcp)).2 =
      some (onTcp (replyBody (r.buffer.word (packet RpcRequest.xid))
        (bindStatus r.buffer (packet 0)) [bindPort p r.buffer (packet 0)] [])) := by
  have hloop : s.loop p [] (some tcp) = s.loopTcp p tcp := by
    rw [loop, if_pos hav, if_neg (show ¬([] : List UInt8).length > 0 from Nat.lt_irrefl 0)]
  rw [hloop, loopTcp, hr, handleReceived_of_pos hlen]
  exact congrArg some (sendBindPacketTcp_replyBody (bindResult_eq hav hport))

end BindServer

end RidenDongle
