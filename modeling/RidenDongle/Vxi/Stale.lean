import RidenDongle.Memory.Leftover
import RidenDongle.Scpi.Framing
import RidenDongle.Vxi.Framing
import RidenDongle.Vxi.Reply

/-!
# VXI requests and what earlier ones left

Like bind requests (`RidenDongle.Rpc.Stale`), VXI requests are decoded from the
whole of a buffer that keeps what earlier ones left. What was left does not show
in the effect of a request exactly when the bytes received settle each decision
that the handlers make (`VxiSettled`): the whole of the fields that they use, and
of the data of a DEV_WRITE as much as matters to the SCPI server.

* `settled_xid` to `settled_data`: what a request must have received, field by field,
  for its effect not to depend on what was left.
* `fresh_of_settled`: that is enough.
* `fresh_requests`: the requests of all three servers.
-/

namespace RidenDongle

open Memory

/-- The effect of a call of `VXI_Server::loop`: what it sends, the SCPI server it
    leaves, where it stores outside the receive buffer, whether it closes the
    connection, and what is left of that. -/
structure Effect where
  sent : List (List UInt8)
  scpi : RidenScpi UInt8 UInt8
  stores : List ℕ
  close : Bool
  tcp : List UInt8

/-- What shows of a packet that was handled: the server and whether it closes. -/
def Effect.ofHandled (handled : VxiServer (RidenScpi UInt8 UInt8) × Bool) (tcp : List UInt8) :
    Effect :=
  ⟨handled.1.sent, handled.1.scpi, handled.1.readBuffer.stores.filter (vxiReadSize ≤ ·),
    handled.2, tcp⟩

theorem Effect.sent_ofHandled (handled : VxiServer (RidenScpi UInt8 UInt8) × Bool)
    (tcp : List UInt8) : (ofHandled handled tcp).sent = handled.1.sent := rfl

theorem Effect.close_ofHandled (handled : VxiServer (RidenScpi UInt8 UInt8) × Bool)
    (tcp : List UInt8) : (ofHandled handled tcp).close = handled.2 := rfl

theorem Effect.scpi_ofHandled (handled : VxiServer (RidenScpi UInt8 UInt8) × Bool)
    (tcp : List UInt8) : (ofHandled handled tcp).scpi = handled.1.scpi := rfl

theorem Effect.stores_ofHandled (handled : VxiServer (RidenScpi UInt8 UInt8) × Bool)
    (tcp : List UInt8) : (ofHandled handled tcp).stores =
      handled.1.readBuffer.stores.filter (vxiReadSize ≤ ·) := rfl

/-- What shows of a call of `loop`. -/
def Effect.ofCall (called : VxiServer (RidenScpi UInt8 UInt8) × Bool × List UInt8) : Effect :=
  .ofHandled (called.1, called.2.1) called.2.2

theorem Effect.ofCall_eq {called : VxiServer (RidenScpi UInt8 UInt8) × Bool × List UInt8}
    {handled : VxiServer (RidenScpi UInt8 UInt8) × Bool} {tcp : List UInt8}
    (h : called = (handled.1, handled.2, tcp)) : ofCall called = ofHandled handled tcp := by
  subst h
  rfl

namespace VxiServer

variable (h : ScpiHandler (RidenScpi UInt8 UInt8)) (stack : List UInt8)

/-- The effect of a call with `m` in the receive buffer, `b` in the send buffer and
    the SCPI server `s`. -/
def effect (b : Memory) (s : RidenScpi UInt8 UInt8) (tcp : List UInt8) (m : Memory) : Effect :=
  .ofCall ((start m b s).loop h stack tcp)

variable {h stack} {b m : Memory} {s : RidenScpi UInt8 UInt8} {tcp : List UInt8}
  {v v' : VxiServer (RidenScpi UInt8 UInt8)} {r : Received} {len rc : ℕ}

theorem effect_of_pos (hr : getVxiPacket m tcp = r) (hlen : r.len > 0) :
    effect h stack b s tcp m = .ofHandled ((start r.buffer b s).handlePacket h stack) r.tcp := by
  have hreceive : (start m b s).receive r.buffer = start r.buffer b s := rfl
  have hbuffer : (start m b s).readBuffer.bytes = m := rfl
  refine Effect.ofCall_eq ?_
  rw [loop, hbuffer, hr, handleReceived_of_pos hlen, hreceive]

theorem effect_of_zero (hr : getVxiPacket m tcp = r) (hlen : ¬r.len > 0) :
    effect h stack b s tcp m = ⟨[], s, [], false, r.tcp⟩ := by
  have hreceive : (start m b s).receive r.buffer = start r.buffer b s := rfl
  have hbuffer : (start m b s).readBuffer.bytes = m := rfl
  refine (@Effect.ofCall_eq _ (start r.buffer b s, false) _ ?_).trans rfl
  rw [loop, hbuffer, hr, handleReceived_of_zero hlen, hreceive]

/-! ## What the handlers do -/

/-- How much the trim keeps of `n` bytes. -/
def trimmedLength (t : Traced) (a n : ℕ) : ℕ := (rightTrim t a n).1

theorem trimmedLength_eq (t : Traced) (a n : ℕ) : trimmedLength t a n = (rightTrim t a n).1 := by
  rw [trimmedLength]

/-- How much of the data of a DEV_WRITE is kept. -/
def kept (v : VxiServer (RidenScpi UInt8 UInt8)) : ℕ :=
  trimmedLength v.readBuffer (packet WriteRequest.data) (v.request WriteRequest.dataLen)

theorem stores_write : (v.write h).readBuffer.stores =
    v.readBuffer.stores ++ [packet WriteRequest.data + v.kept] := by
  rw [stores_write_rightTrim, kept, trimmedLength_eq]
  rfl

theorem scpi_write_kept : (v.write h).scpi =
    h.write (v.readBuffer.bytes.read (packet WriteRequest.data) v.kept) v.scpi := by
  rw [scpi_write, kept, trimmedLength_eq]
  exact congrArg (fun data => h.write data v.scpi) read_rightTrim.symm

/-- What is kept is the data without trailing whitespace. -/
theorem read_kept : v.readBuffer.bytes.read (packet WriteRequest.data) v.kept =
    (v.readBuffer.bytes.read (packet WriteRequest.data)
      (v.request WriteRequest.dataLen)).rdropWhile isspace := by
  rw [kept, trimmedLength_eq, read_rightTrim]

/-- So much is kept as the last byte that is no whitespace says. -/
theorem kept_congr (hlen : v.request WriteRequest.dataLen = v'.request WriteRequest.dataLen)
    (hlast : ∀ x, v.kept = x + 1 ∨ v'.kept = x + 1 →
      v.readBuffer.bytes (packet WriteRequest.data + x) =
        v'.readBuffer.bytes (packet WriteRequest.data + x)) : v.kept = v'.kept := by
  rw [kept, kept, trimmedLength_eq, trimmedLength_eq] at *
  rw [← hlen] at hlast ⊢
  exact Nat.le_antisymm (rightTrim_le_of_last fun x hx => hlast x (Or.inl hx))
    (rightTrim_le_of_last fun x hx => (hlast x (Or.inr hx)).symm)

/-- Data that is no whitespace is kept. -/
theorem lt_kept {x : ℕ} (hx : x < v.request WriteRequest.dataLen)
    (h : ¬isspace (v.readBuffer.bytes (packet WriteRequest.data + x))) : x < v.kept := by
  rw [kept, trimmedLength_eq]
  exact lt_rightTrim hx h

/-- No more is kept than lies before the whitespace at the end. -/
theorem kept_le_of_isspace {n : ℕ} (h : ∀ p, n ≤ p → p < v.request WriteRequest.dataLen →
    isspace (v.readBuffer.bytes (packet WriteRequest.data + p))) : v.kept ≤ n := by
  rw [kept, trimmedLength_eq]
  refine Nat.not_lt.1 fun hlong => ?_
  obtain ⟨p, hp⟩ := Nat.exists_eq_succ_of_ne_zero (Nat.ne_zero_of_lt hlong)
  refine rightTrim_last hp (h p (Nat.lt_succ_iff.1 (hp ▸ hlong)) ?_)
  exact Nat.lt_of_succ_le (hp ▸ rightTrim_le)

/-! ## Requests with the same fields -/

section

variable {parse : RidenScpi UInt8 UInt8 → List UInt8 → Execution UInt8} {M M' : Memory}
  {close : Bool}

theorem ofHandled_congr (hsent : v.sent = v'.sent) (hscpi : v.scpi = v'.scpi)
    (hstores : v.readBuffer.stores = v'.readBuffer.stores) :
    Effect.ofHandled (v, close) tcp = .ofHandled (v', close) tcp := by
  simp only [Effect.ofHandled, hsent, hscpi, hstores]

theorem sent_send_congr (hsent : v.sent = v'.sent) (hbuffer : v.sendBuffer = v'.sendBuffer)
    (hxid : v.readBuffer.bytes.word (packet RpcRequest.xid) =
      v'.readBuffer.bytes.word (packet RpcRequest.xid)) :
    (v.send len).sent = (v'.send len).sent := by
  rw [sent_send, sent_send, hsent, hbuffer, sendVxiPacket, sendTcpPacket_congr hxid]

variable (hxid : M.word (packet RpcRequest.xid) = M'.word (packet RpcRequest.xid))
include hxid

theorem refuse_congr : Effect.ofHandled ((start M b s).refuse rc, close) tcp =
    .ofHandled ((start M' b s).refuse rc, close) tcp :=
  ofHandled_congr (sent_send_congr rfl rfl hxid) rfl rfl

theorem destroyLink_congr : Effect.ofHandled ((start M b s).destroyLink h, close) tcp =
    .ofHandled ((start M' b s).destroyLink h, close) tcp :=
  ofHandled_congr (sent_send_congr rfl rfl hxid) rfl rfl

theorem read_congr : Effect.ofHandled ((start M b s).read h stack, close) tcp =
    .ofHandled ((start M' b s).read h stack, close) tcp :=
  ofHandled_congr (sent_send_congr rfl rfl hxid) rfl rfl

theorem createLink_congr (hclaim : (h.claimControl s).1 = true)
    (hlen : M.word (packet CreateRequest.dataLen) = M'.word (packet CreateRequest.dataLen)) :
    Effect.ofHandled ((start M b s).createLink h, close) tcp =
      .ofHandled ((start M' b s).createLink h, close) tcp := by
  refine ofHandled_congr ?_ ?_ ?_
  · rw [sent_createLink_eq hclaim, sent_createLink_eq hclaim, sendVxiPacket, sendTcpPacket_congr ?_]
    · rfl
    rw [xid_createLink hclaim, xid_createLink hclaim]
    exact hxid
  · rw [scpi_createLink hclaim, scpi_createLink hclaim]
    rfl
  · rw [readBuffer_createLink hclaim, readBuffer_createLink hclaim, Traced.stores_store,
      Traced.stores_store, request_start, request_start, hlen]
    rfl

theorem write_congr
    (hlen : M.word (packet WriteRequest.dataLen) = M'.word (packet WriteRequest.dataLen))
    (hkept : (start M b s).kept = (start M' b s).kept)
    (hscpi : ((start M b s).write h).scpi = ((start M' b s).write h).scpi) :
    Effect.ofHandled ((start M b s).write h, close) tcp =
      .ofHandled ((start M' b s).write h, close) tcp := by
  refine ofHandled_congr ?_ hscpi ?_
  · rw [sent_write_eq, sent_write_eq, sendVxiPacket, request_start, request_start, hlen,
      sendTcpPacket_congr ?_]
    · rfl
    rw [xid_write, xid_write]
    exact hxid
  · rw [stores_write, stores_write, hkept]
    rfl

end

/-! ## What shows of a request -/

section

variable {parse : RidenScpi UInt8 UInt8 → List UInt8 → Execution UInt8} {M M' : Memory}

/-- The words of replies that are the same. -/
theorem word_eq_of_reply {xid xid' status status' k w w' : ℕ} {fields fields' : List ℕ}
    {data data' : List UInt8} (hreply : onTcp (replyBody xid status fields data) =
      onTcp (replyBody xid' status' fields' data'))
    (hk : ([xid, Rpc.reply, Rpc.msgAccepted, 0, 0] ++ status :: fields)[k]? = some w)
    (hk' : ([xid', Rpc.reply, Rpc.msgAccepted, 0, 0] ++ status' :: fields')[k]? = some w')
    (hw : w < 2 ^ 32) (hw' : w' < 2 ^ 32) : w = w' := by
  have hlen : ∀ {xid status w} {fields : List ℕ} {data : List UInt8},
      ([xid, Rpc.reply, Rpc.msgAccepted, 0, 0] ++ status :: fields)[k]? = some w →
        4 * k + 4 ≤ (replyBody xid status fields data).length := by
    intro xid status w fields data hk
    have hlt := (List.getElem?_eq_some_iff.1 hk).1
    simp only [List.length_append, List.length_cons, List.length_nil] at hlt
    rw [length_replyBody]
    omega
  have hword := congrArg (wordOf · (packet (4 * k))) hreply
  rw [wordOf_onTcp (hlen hk), wordOf_onTcp (hlen hk'), wordOf_replyBody hk hw,
    wordOf_replyBody hk' hw'] at hword
  exact hword

/-- The effect of the request in `M`. -/
def handledEffect (h : ScpiHandler (RidenScpi UInt8 UInt8)) (stack : List UInt8) (b : Memory)
    (s : RidenScpi UInt8 UInt8) (tcp : List UInt8) (M : Memory) : Effect :=
  .ofHandled ((start M b s).handlePacket h stack) tcp

theorem sent_handledEffect (h : ScpiHandler (RidenScpi UInt8 UInt8)) (M : Memory) : ∃ data,
    (handledEffect h stack b s tcp M).sent = [onTcp (replyBody (M.word (packet RpcRequest.xid))
      (start M b s).status ((start M b s).fields h) data)] := by
  obtain ⟨⟨data, -, -, hreplied⟩, -⟩ := replied_handlePacket h (start M b s) stack
  have hstart : (start M b s).sent = [] := rfl
  rw [Replied, hstart, List.nil_append, request_start] at hreplied
  exact ⟨data, by rw [handledEffect, Effect.sent_ofHandled, hreplied]⟩

theorem status_lt : v.status < 2 ^ 32 := by
  unfold status
  split_ifs <;> decide

/-- Requests with the same effect have the same xid, the same status, and the same
    fields in their replies. -/
theorem reply_eq_of_handledEffect
    (heq : handledEffect h stack b s tcp M = handledEffect h stack b s tcp M') :
    M.word (packet RpcRequest.xid) = M'.word (packet RpcRequest.xid) ∧
      (start M b s).status = (start M' b s).status ∧
      ∀ k w w' : ℕ, ((start M b s).fields h)[k]? = some w → ((start M' b s).fields h)[k]? = some w' →
        w < 2 ^ 32 → w' < 2 ^ 32 → w = w' := by
  obtain ⟨data, hsent⟩ := @sent_handledEffect stack b s tcp h M
  obtain ⟨data', hsent'⟩ := @sent_handledEffect stack b s tcp h M'
  have hreply := hsent.symm.trans ((congrArg Effect.sent heq).trans hsent')
  have hreply := (List.cons.inj hreply).1
  have hfield : ∀ {xid status k w : ℕ} {fields : List ℕ}, fields[k]? = some w →
      ([xid, Rpc.reply, Rpc.msgAccepted, 0, 0] ++ status :: fields)[6 + k]? = some w := by
    intro xid status k w fields hk
    rw [Nat.add_comm]
    exact hk
  exact ⟨@word_eq_of_reply _ _ _ _ 0 _ _ _ _ _ _ hreply rfl rfl word_lt word_lt,
    @word_eq_of_reply _ _ _ _ 5 _ _ _ _ _ _ hreply rfl rfl status_lt status_lt,
    fun k w w' hk hk' hw hw' => word_eq_of_reply hreply (hfield hk) (hfield hk') hw hw'⟩

end

/-! ## What the bytes received settle -/

/-- The bytes settle the data of a DEV_WRITE, in a buffer with `m₀` behind it: they
    are all that it has, or all that the buffer holds, or so much is kept that the
    SCPI server ignores it, whatever the buffer holds. -/
def DataSettled (m₀ : Memory) (bs : List UInt8) : Prop :=
  WriteRequest.data + wordOf bs WriteRequest.dataLen ≤ bs.length ∨
    bs.length = vxiReadSize - 4 ∨
    ∃ p, scpiInputBufferLength ≤ p ∧ p < wordOf bs WriteRequest.dataLen ∧
      ¬isspace (m₀ (packet WriteRequest.data + p))

/-- The bytes of a request settle its xid, its program and, where that is the VXI
    program, its procedure and what the handler of that decodes. -/
def VxiSettled (m₀ : Memory) (bs : List UInt8) : Prop :=
  4 ≤ bs.length ∧ Settles bs RpcRequest.program Rpc.vxi11Core ∧
    (wordOf bs RpcRequest.program = Rpc.vxi11Core →
      (RpcRequest.procedure + 4 ≤ bs.length ∨ 256 ≤ wordOf bs RpcRequest.procedure) ∧
      (wordOf bs RpcRequest.procedure = Rpc.vxi11CreateLink →
        CreateRequest.dataLen + 4 ≤ bs.length) ∧
      (wordOf bs RpcRequest.procedure = Rpc.vxi11DevWrite →
        WriteRequest.dataLen + 4 ≤ bs.length ∧ DataSettled m₀ bs))

section

variable {parse : RidenScpi UInt8 UInt8 → List UInt8 → Execution UInt8} {m₀ : Memory}
  {M : Memory → Memory} {bs : List UInt8}

/-- `M m` is `m` with the bytes received in the place of the packet. -/
def Receives (M : Memory → Memory) (bs : List UInt8) : Prop :=
  bs.length ≤ vxiReadSize - 4 ∧ ∀ m a, packet 0 ≤ a → M m a = m.write (packet 0) bs a

theorem Receives.word (hM : Receives M bs) (m : Memory) (o : ℕ) :
    (M m).word (packet o) = (m.write (packet 0) bs).word (packet 0 + o) := by
  refine AgreeOn.word_eq (a := packet o) fun i hi _ => hM.2 m i ?_
  simp only [packet] at hi ⊢
  omega

theorem Receives.word_of_le (hM : Receives M bs) {o : ℕ} (ho : o + 4 ≤ bs.length) (m : Memory) :
    (M m).word (packet o) = wordOf bs o := by
  rw [hM.word, word_write_eq_wordOf ho]

theorem core_lt : Rpc.vxi11Core < 2 ^ 32 := by decide

/-- The program, once it is settled. -/
theorem Receives.program_iff (hM : Receives M bs)
    (hset : Settles bs RpcRequest.program Rpc.vxi11Core) (m : Memory) :
    (M m).word (packet RpcRequest.program) = Rpc.vxi11Core ↔
      wordOf bs RpcRequest.program = Rpc.vxi11Core := by
  rw [hM.word, hset.word_iff core_lt]

theorem status_eq_progUnavail_iff {M : Memory} : (start M b s).status = Rpc.progUnavail ↔
    M.word (packet RpcRequest.program) ≠ Rpc.vxi11Core := by
  rw [status, request_start]
  split_ifs with h₁ h₂ <;> simp [h₁, Rpc.progUnavail, Rpc.procUnavail]

variable (hM : Receives M bs)
  (hf : Fresh vxiReadSize m₀ fun m => handledEffect h stack b s tcp (M m))
include hM hf

/-- The xid is in the reply. -/
theorem settled_xid : 4 ≤ bs.length := by
  have hlen : 0 + 4 ≤ bs.length := hf.received (a := packet 0) .refl (by decide)
    fun m' _ hne heq => hne ?_
  · rwa [Nat.zero_add] at hlen
  · rw [← hM.word, ← hM.word]
    exact (reply_eq_of_handledEffect heq).1

/-- The status tells whether it is the VXI program. -/
theorem settled_program : Settles bs RpcRequest.program Rpc.vxi11Core := by
  refine hf.settles (a := packet 0) .refl (by decide) core_lt fun m₁ m₂ _ _ h₁ h₂ heq => ?_
  rw [← hM.word] at h₁ h₂
  have hstatus := (reply_eq_of_handledEffect heq).2.1
  exact absurd h₁ (status_eq_progUnavail_iff.1 (hstatus.trans (status_eq_progUnavail_iff.2 h₂)))

/-- DESTROY_LINK closes the connection. -/
theorem settled_procedure (hprogram : wordOf bs RpcRequest.program = Rpc.vxi11Core) :
    RpcRequest.procedure + 4 ≤ bs.length ∨ 256 ≤ wordOf bs RpcRequest.procedure := by
  have hcore := fun m => (hM.program_iff (settled_program hM hf) m).2 hprogram
  have hset : Settles bs RpcRequest.procedure Rpc.vxi11DestroyLink := by
    refine hf.settles (a := packet 0) .refl (by decide) (by decide) fun m₁ m₂ _ _ h₁ h₂ heq => ?_
    rw [← hM.word] at h₁ h₂
    have hclose : ∀ m, (handledEffect h stack b s tcp (M m)).close = true ↔
        (M m).word (packet RpcRequest.procedure) = Rpc.vxi11DestroyLink := fun m => by
      rw [handledEffect, Effect.close_ofHandled, handlePacket_close, request_start, request_start,
        and_iff_right (hcore m)]
    exact h₂ ((hclose m₂).1 ((congrArg Effect.close heq).symm.trans ((hclose m₁).2 h₁)))
  exact hset.of_small (by decide)

/-- A link stores a terminator behind the name, wherever that is. -/
theorem settled_createLink (hclaim : (h.claimControl s).1 = true)
    (hprogram : wordOf bs RpcRequest.program = Rpc.vxi11Core)
    (hprocedure : wordOf bs RpcRequest.procedure = Rpc.vxi11CreateLink) :
    CreateRequest.dataLen + 4 ≤ bs.length := by
  have hcore := fun m => (hM.program_iff (settled_program hM hf) m).2 hprogram
  have hlen : RpcRequest.procedure + 4 ≤ bs.length :=
    (settled_procedure hM hf hprogram).resolve_right (by rw [hprocedure]; decide)
  have hstores : ∀ m, (handledEffect h stack b s tcp (M m)).stores =
      [packet CreateRequest.data + (M m).word (packet CreateRequest.dataLen)].filter
        (vxiReadSize ≤ ·) := fun m => by
    obtain ⟨v, hv⟩ : ∃ v, start (M m) b s = v := ⟨_, rfl⟩
    have hrequest : ∀ field, v.request field = (M m).word (packet field) := fun field => by
      rw [← hv, request_start]
    have hstart : v.readBuffer.stores = [] := by rw [← hv]; rfl
    rw [handledEffect, Effect.stores_ofHandled, hv, handlePacket_createLink stack
      ((hrequest _).trans (hcore m)) ((hrequest _).trans ((hM.word_of_le hlen m).trans hprocedure)),
      readBuffer_createLink (by rw [← hv]; exact hclaim), Traced.stores_store, hstart, hrequest,
      List.nil_append]
  by_contra hshort
  have hshort : bs.length < 56 := Nat.not_le.1 hshort
  -- a length with which the terminator lies behind the buffer
  have hlast : (m₀.store 59 200).write (packet 0) bs 59 = 200 := by
    rw [write_of_le (by simp only [packet]; omega), store_self]
  refine absurd hshort (Nat.not_lt.2 (hf.received (m := m₀.store 59 200) (a := packet 0)
    (o := CreateRequest.dataLen) (AgreeBehind.refl.store (by decide)) (by decide)
    fun m' _ hne heq => ?_))
  have hshow := (hstores _).symm.trans ((congrArg Effect.stores heq).trans (hstores m'))
  rw [hM.word, hM.word] at hshow
  have hbig : 200 ≤ ((m₀.store 59 200).write (packet 0) bs).word
      (packet 0 + CreateRequest.dataLen) := by
    have hbyte : ((m₀.store 59 200).write (packet 0) bs
        (packet 0 + CreateRequest.dataLen + 3)).toNat = 200 := congrArg UInt8.toNat hlast
    rw [Memory.word, hbyte]
    exact Nat.le_add_left ..
  generalize ((m₀.store 59 200).write (packet 0) bs).word (packet 0 + CreateRequest.dataLen) = w
    at hne hshow hbig
  have hbehind : vxiReadSize ≤ packet CreateRequest.data + w :=
    show 256 ≤ 4 + 56 + w by omega
  rw [List.filter_singleton, List.filter_singleton, decide_eq_true hbehind, cond_true] at hshow
  cases hother : decide (vxiReadSize ≤ packet CreateRequest.data +
      (m'.write (packet 0) bs).word (packet 0 + CreateRequest.dataLen)) with
  | false =>
    rw [hother] at hshow
    cases hshow
  | true =>
    rw [hother, cond_true] at hshow
    exact hne (Nat.add_left_cancel (List.cons.inj hshow).1)

/-- A write is answered with its length. -/
theorem settled_dataLen (hprogram : wordOf bs RpcRequest.program = Rpc.vxi11Core)
    (hprocedure : wordOf bs RpcRequest.procedure = Rpc.vxi11DevWrite) :
    WriteRequest.dataLen + 4 ≤ bs.length := by
  have hcore := fun m => (hM.program_iff (settled_program hM hf) m).2 hprogram
  have hlen : RpcRequest.procedure + 4 ≤ bs.length :=
    (settled_procedure hM hf hprogram).resolve_right (by rw [hprocedure]; decide)
  have hfields : ∀ m, (start (M m) b s).fields h =
      [Rpc.noError, (M m).word (packet WriteRequest.dataLen)] := fun m => by
    have hp : (start (M m) b s).request RpcRequest.procedure = Rpc.vxi11DevWrite :=
      (hM.word_of_le hlen m).trans hprocedure
    have hstatus : (start (M m) b s).status = Rpc.success :=
      status_of_served (hcore m) (by rw [hp]; decide)
    rw [fields_write hstatus hp, request_start]
  refine hf.received (a := packet 0) .refl (by decide) fun m' _ hne heq => hne ?_
  rw [← hM.word, ← hM.word]
  exact (reply_eq_of_handledEffect heq).2.2 1 _ _ (by rw [hfields]; rfl) (by rw [hfields]; rfl)
    word_lt word_lt

end

section

variable {parse : RidenScpi UInt8 UInt8 → List UInt8 → Execution UInt8} {m₀ : Memory}
  {M : Memory → Memory} {bs : List UInt8} (hM : Receives M bs)
include hM

/-- A byte behind those received. -/
theorem Receives.byte {a : ℕ} (ha : packet bs.length ≤ a) (m : Memory) : M m a = m a := by
  simp only [packet] at ha
  rw [hM.2 m a (by simp only [packet]; omega), write_of_le (by simp only [packet]; omega)]

omit hM in
theorem packet_add_sub {o n : ℕ} (h : o ≤ n) : packet o + (n - o) = packet n := by
  simp only [packet]
  omega

/-- A write that has less data than it says, with the byte `x` behind what was received and
    whitespace where the SCPI server takes no more: `x` is part of what is parsed. -/
theorem inputs_of_left (hprogram : ∀ m, (M m).word (packet RpcRequest.program) = Rpc.vxi11Core)
    (hprocedure : wordOf bs RpcRequest.procedure = Rpc.vxi11DevWrite)
    (hdata : WriteRequest.data ≤ bs.length)
    (hshort : bs.length < WriteRequest.data + wordOf bs WriteRequest.dataLen)
    (hspace : ∀ p, scpiInputBufferLength ≤ p → p < wordOf bs WriteRequest.dataLen →
      isspace (m₀ (packet WriteRequest.data + p))) {x : UInt8} (hx : ¬isspace x) :
    ∃ k, bs.length - WriteRequest.data < k ∧
      (handledEffect (scpiHandler parse) stack b s tcp
          (M (m₀.store (packet bs.length) x))).scpi.inputs =
        s.inputs ++ [(M (m₀.store (packet bs.length) x)).read (packet WriteRequest.data) k] ∧
      M (m₀.store (packet bs.length) x)
        (packet WriteRequest.data + (bs.length - WriteRequest.data)) = x := by
  have hle : bs.length ≤ 252 := hM.1
  obtain ⟨m, hm⟩ : ∃ m, m₀.store (packet bs.length) x = m := ⟨_, rfl⟩
  obtain ⟨v, hv⟩ : ∃ v, start (M m) b s = v := ⟨_, rfl⟩
  have hbytes : v.readBuffer.bytes = M m := by rw [← hv]; rfl
  have hrequest : ∀ field, v.request field = (M m).word (packet field) := fun field => by
    rw [← hv, request_start]
  have hlen : v.request WriteRequest.dataLen = wordOf bs WriteRequest.dataLen :=
    (hrequest _).trans (hM.word_of_le hdata m)
  have hproc : v.request RpcRequest.procedure = Rpc.vxi11DevWrite := by
    rw [hrequest, hM.word_of_le (Nat.le_trans (by decide) hdata), hprocedure]
  have hfirst : M m (packet WriteRequest.data + (bs.length - WriteRequest.data)) = x := by
    rw [packet_add_sub hdata, hM.byte le_rfl, ← hm, store_self]
  -- `x` comes first behind what was received, and the right trim keeps it
  have hlt : bs.length - WriteRequest.data < v.kept := by
    refine lt_kept ?_ (by rw [hbytes, hfirst]; exact hx)
    rw [hlen]
    exact Nat.sub_lt_left_of_lt_add hdata hshort
  -- it keeps nothing that would be too long for the SCPI server
  have hkept : v.kept ≤ scpiInputBufferLength := by
    refine kept_le_of_isspace fun p hp hp' => ?_
    have hbehind : packet bs.length < packet WriteRequest.data + p :=
      show 4 + bs.length < 4 + 60 + p from Nat.lt_of_le_of_lt (Nat.add_le_add_left hle 4)
        (Nat.lt_of_lt_of_le (by decide) (Nat.add_le_add_left hp (4 + 60)))
    rw [hbytes, hM.byte hbehind.le, ← hm, store_of_ne hbehind.ne']
    exact hspace p hp (hlen ▸ hp')
  have hne : (M m).read (packet WriteRequest.data) v.kept ≠ [] :=
    List.ne_nil_of_length_pos (by rw [length_read]; exact Nat.zero_lt_of_lt hlt)
  refine ⟨v.kept, hlt, ?_, hm ▸ hfirst⟩
  have hscpi : v.scpi = s := by rw [← hv]; rfl
  rw [hm, handledEffect, Effect.scpi_ofHandled, hv,
    handlePacket_write stack ((hrequest _).trans (hprogram m)) hproc, scpi_write_kept, hscpi,
    hbytes]
  exact s.write_inputs _ hne (by rw [length_read]; exact hkept)

/-- A write of which a byte was left behind by earlier requests. -/
theorem settled_data (hf : Fresh vxiReadSize m₀ fun m =>
      handledEffect (scpiHandler parse) stack b s tcp (M m))
    (hprogram : wordOf bs RpcRequest.program = Rpc.vxi11Core)
    (hprocedure : wordOf bs RpcRequest.procedure = Rpc.vxi11DevWrite) : DataSettled m₀ bs := by
  have hcore := fun m => (hM.program_iff (settled_program hM hf) m).2 hprogram
  have hdata : 60 ≤ bs.length := settled_dataLen hM hf hprogram hprocedure
  have hle : bs.length ≤ 252 := hM.1
  by_contra hnot
  simp only [DataSettled, not_or, not_exists, not_and, not_not] at hnot
  obtain ⟨hshort, hfull, hspace⟩ := hnot
  have hfull : bs.length ≠ 252 := hfull
  -- two bytes left behind that show
  have hleft := @inputs_of_left stack b s tcp parse m₀ M bs hM hcore hprocedure hdata
    (Nat.not_le.1 hshort) hspace
  obtain ⟨k, hk, hinputs, hbyte⟩ := @hleft 65 (by decide)
  obtain ⟨k', hk', hinputs', hbyte'⟩ := @hleft 66 (by decide)
  have hbehind : ∀ x : UInt8, AgreeBehind vxiReadSize (m₀.store (packet bs.length) x) m₀ := fun x =>
    AgreeBehind.refl.store (show 4 + bs.length < 256 by omega)
  have heq := congrArg (fun e : Effect => e.scpi.inputs) (hf _ _ (hbehind 65) (hbehind 66))
  dsimp only at heq
  rw [hinputs, hinputs'] at heq
  have hread := (List.cons.inj (List.append_cancel_left heq)).1
  obtain ⟨-, hagree⟩ := agreeOn_of_read_eq hread
  have hsame := hagree (packet WriteRequest.data + (bs.length - 60)) (Nat.le_add_right ..)
    (Nat.add_lt_add_left hk _)
  rw [hbyte, hbyte'] at hsame
  exact absurd hsame (by decide)

/-- Memories agree on what was received. -/
theorem Receives.received (m m' : Memory) {a : ℕ} (ha : packet 0 ≤ a) (hlt : a < packet bs.length) :
    M m a = M m' a := by
  obtain ⟨k, rfl⟩ := Nat.exists_eq_add_of_le ha
  have hk : k < bs.length := by simpa only [packet, Nat.add_lt_add_iff_left] using hlt
  rw [hM.2 m _ ha, hM.2 m' _ ha, write_add hk, write_add hk]

/-- Behind the buffer they are what they were. -/
theorem Receives.behind {m : Memory} (hm : AgreeBehind vxiReadSize m m₀) {a : ℕ}
    (ha : vxiReadSize ≤ a) : M m a = m₀ a := by
  have hle : bs.length ≤ 252 := hM.1
  rw [hM.byte ((show 4 + bs.length ≤ 256 by omega).trans ha), hm a ha]

theorem Receives.dataLen (hdata : WriteRequest.dataLen + 4 ≤ bs.length) (m : Memory) :
    (start (M m) b s).request WriteRequest.dataLen = wordOf bs WriteRequest.dataLen :=
  hM.word_of_le hdata m

/-- A write with the same data. -/
theorem write_congr_of_agree {m m' : Memory} (hdata : WriteRequest.dataLen + 4 ≤ bs.length)
    (hagree : ∀ x, packet WriteRequest.data ≤ x →
      x < packet WriteRequest.data + wordOf bs WriteRequest.dataLen → M m x = M m' x) :
    (start (M m) b s).kept = (start (M m') b s).kept ∧
      ((start (M m) b s).write (scpiHandler parse)).scpi =
        ((start (M m') b s).write (scpiHandler parse)).scpi := by
  have hread : (M m).read (packet WriteRequest.data) (wordOf bs WriteRequest.dataLen) =
      (M m').read (packet WriteRequest.data) (wordOf bs WriteRequest.dataLen) :=
    AgreeOn.read_eq hagree
  constructor
  · have hkept := congrArg List.length (read_kept (v := start (M m) b s))
    have hkept' := congrArg List.length (read_kept (v := start (M m') b s))
    rw [hM.dataLen hdata, length_read] at hkept hkept'
    refine hkept.trans (Eq.trans ?_ hkept'.symm)
    exact congrArg (fun l => (l.rdropWhile isspace).length) hread
  · rw [scpi_write, scpi_write, hM.dataLen hdata, hM.dataLen hdata]
    exact congrArg (fun l => (scpiHandler parse).write (l.rdropWhile isspace) s) hread

/-- So much is kept in both that the SCPI server ignores it. -/
theorem write_congr_of_ignored {m m' : Memory} (hm : AgreeBehind vxiReadSize m m₀)
    (hm' : AgreeBehind vxiReadSize m' m₀) (hdata : WriteRequest.dataLen + 4 ≤ bs.length) {p : ℕ}
    (hp : scpiInputBufferLength ≤ p) (hlt : p < wordOf bs WriteRequest.dataLen)
    (hspace : ¬isspace (m₀ (packet WriteRequest.data + p))) :
    (start (M m) b s).kept = (start (M m') b s).kept ∧
      ((start (M m) b s).write (scpiHandler parse)).scpi =
        ((start (M m') b s).write (scpiHandler parse)).scpi := by
  have hbehind : ∀ {x}, p ≤ x → vxiReadSize ≤ packet WriteRequest.data + x := fun hx =>
    Nat.le_trans hp (Nat.le_trans hx (Nat.le_add_left ..))
  have hlong : ∀ m, AgreeBehind vxiReadSize m m₀ → p < (start (M m) b s).kept := by
    intro m hm
    refine lt_kept (by rwa [hM.dataLen hdata]) ?_
    change ¬isspace (M m (packet WriteRequest.data + p))
    rwa [hM.behind hm (hbehind le_rfl)]
  have hignored : ∀ m, AgreeBehind vxiReadSize m m₀ →
      ((start (M m) b s).write (scpiHandler parse)).scpi = s := by
    intro m hm
    rw [scpi_write_kept]
    refine RidenScpi.write_of_long _ _ ?_
    rw [length_read]
    exact Nat.lt_of_le_of_lt hp (hlong m hm)
  refine ⟨kept_congr ((hM.dataLen hdata m).trans (hM.dataLen hdata m').symm) fun x hx => ?_, ?_⟩
  · have hpx : p ≤ x := by
      rcases hx with hx | hx
      · exact Nat.le_of_lt_succ (Nat.lt_of_lt_of_eq (hlong m hm) hx)
      · exact Nat.le_of_lt_succ (Nat.lt_of_lt_of_eq (hlong m' hm') hx)
    exact (hM.behind hm (hbehind hpx)).trans (hM.behind hm' (hbehind hpx)).symm
  · rw [hignored m hm, hignored m' hm']

/-- What was left does not show in the data of a write that is settled. -/
theorem write_congr_of_settled {m m' : Memory} (hm : AgreeBehind vxiReadSize m m₀)
    (hm' : AgreeBehind vxiReadSize m' m₀) (hdata : WriteRequest.dataLen + 4 ≤ bs.length)
    (hset : DataSettled m₀ bs) : (start (M m) b s).kept = (start (M m') b s).kept ∧
      ((start (M m) b s).write (scpiHandler parse)).scpi =
        ((start (M m') b s).write (scpiHandler parse)).scpi := by
  rcases hset with hall | hfull | ⟨p, hp, hlt, hspace⟩
  · refine write_congr_of_agree hM hdata fun x hx hx' => ?_
    refine hM.received m m' ((Nat.le_add_right _ _).trans hx) (Nat.lt_of_lt_of_le hx' ?_)
    exact Nat.le_trans (Nat.add_assoc ..).le (Nat.add_le_add_left hall 4)
  · refine write_congr_of_agree hM hdata fun x hx _ => ?_
    rcases Nat.lt_or_ge x vxiReadSize with hx' | hx'
    · exact hM.received m m' ((Nat.le_add_right _ _).trans hx) (by rw [hfull]; exact hx')
    · exact (hM.behind hm hx').trans (hM.behind hm' hx').symm
  · exact write_congr_of_ignored hM hm hm' hdata hp hlt hspace

/-- No procedure that is served has a number this large. -/
theorem Receives.not_served (hlarge : 256 ≤ wordOf bs RpcRequest.procedure) (m : Memory) :
    ¬Served ((start (M m) b s).request RpcRequest.procedure) := by
  intro hserved
  have hle : wordOf bs RpcRequest.procedure ≤ (M m).word (packet RpcRequest.procedure) := by
    rw [hM.word]
    exact wordOf_le
  have hlarge := hlarge.trans hle
  rw [request_start] at hserved
  rcases hserved with hs | hs | hs | hs <;> rw [hs] at hlarge <;>
    exact absurd hlarge (by decide)

/-- What was left does not show where the request is settled. -/
theorem fresh_of_settled (hset : VxiSettled m₀ bs) : Fresh vxiReadSize m₀ fun m =>
    handledEffect (scpiHandler parse) stack b s tcp (M m) := by
  obtain ⟨hxid, hprogram, hrest⟩ := hset
  intro m m' hm hm'
  have hxid : (M m).word (packet RpcRequest.xid) = (M m').word (packet RpcRequest.xid) :=
    (hM.word_of_le hxid m).trans (hM.word_of_le hxid m').symm
  change handledEffect _ stack b s tcp (M m) = handledEffect _ stack b s tcp (M m')
  -- Each handler reads the fields that its request settles. The cases are in the order in
  -- which `handle_packet` looks at the fields.
  by_cases hcore : wordOf bs RpcRequest.program = Rpc.vxi11Core
  · obtain ⟨hprocedure, hcreate, hwrite⟩ := hrest hcore
    have hp : ∀ m, (start (M m) b s).request RpcRequest.program = Rpc.vxi11Core :=
      fun m => (hM.program_iff hprogram m).2 hcore
    by_cases hlen : RpcRequest.procedure + 4 ≤ bs.length
    · have hq : ∀ m, (start (M m) b s).request RpcRequest.procedure =
          wordOf bs RpcRequest.procedure := fun m => hM.word_of_le hlen m
      by_cases hserved : Served (wordOf bs RpcRequest.procedure)
      · rcases hserved with hs | hs | hs | hs
        · rw [handledEffect, handledEffect, handlePacket_createLink stack (hp m) ((hq m).trans hs),
            handlePacket_createLink stack (hp m') ((hq m').trans hs)]
          refine createLink_congr hxid rfl ?_
          rw [hM.word_of_le (hcreate hs), hM.word_of_le (hcreate hs)]
        · rw [handledEffect, handledEffect, handlePacket_read stack (hp m) ((hq m).trans hs),
            handlePacket_read stack (hp m') ((hq m').trans hs)]
          exact read_congr hxid
        · obtain ⟨hdata, hsettled⟩ := hwrite hs
          have hsame : (start (M m) b s).kept = (start (M m') b s).kept ∧
              ((start (M m) b s).write (scpiHandler parse)).scpi =
                ((start (M m') b s).write (scpiHandler parse)).scpi :=
            write_congr_of_settled hM hm hm' hdata hsettled
          rw [handledEffect, handledEffect, handlePacket_write stack (hp m) ((hq m).trans hs),
            handlePacket_write stack (hp m') ((hq m').trans hs)]
          refine write_congr hxid ?_ hsame.1 hsame.2
          rw [hM.word_of_le hdata, hM.word_of_le hdata]
        · rw [handledEffect, handledEffect, handlePacket_destroyLink stack (hp m) ((hq m).trans hs),
            handlePacket_destroyLink stack (hp m') ((hq m').trans hs)]
          exact destroyLink_congr hxid
      · rw [handledEffect, handledEffect,
          handlePacket_procUnavail stack (hp m) (by rw [hq m]; exact hserved),
          handlePacket_procUnavail stack (hp m') (by rw [hq m']; exact hserved)]
        exact refuse_congr hxid
    · -- the procedure was cut off, and what has come of it is that of no procedure served
      have hbig : ∀ m, ¬Served ((start (M m) b s).request RpcRequest.procedure) :=
        hM.not_served (hprocedure.resolve_left hlen)
      rw [handledEffect, handledEffect, handlePacket_procUnavail stack (hp m) (hbig m),
        handlePacket_procUnavail stack (hp m') (hbig m')]
      exact refuse_congr hxid
  · have hp : ∀ m, (start (M m) b s).request RpcRequest.program ≠ Rpc.vxi11Core :=
      fun m h => hcore ((hM.program_iff hprogram m).1 h)
    rw [handledEffect, handledEffect, handlePacket_progUnavail stack (hp m),
      handlePacket_progUnavail stack (hp m')]
    exact refuse_congr hxid

/-- What was left shows in the effect of a request exactly where it is not settled. -/
theorem fresh_handledEffect : (Fresh vxiReadSize m₀ fun m =>
    handledEffect (scpiHandler parse) stack b s tcp (M m)) ↔ VxiSettled m₀ bs :=
  ⟨fun hf => ⟨settled_xid hM hf, settled_program hM hf, fun hp =>
    ⟨settled_procedure hM hf hp, settled_createLink hM hf rfl hp, fun hw =>
      ⟨settled_dataLen hM hf hp hw, settled_data hM hf hp hw⟩⟩⟩, fresh_of_settled hM⟩

end

variable {parse : RidenScpi UInt8 UInt8 → List UInt8 → Execution UInt8} {m₀ : Memory}

theorem receives_getVxiPacket (tcp : List UInt8) :
    Receives (fun m => (getVxiPacket m tcp).buffer) (received vxiReadSize tcp) := by
  refine ⟨length_received_le, fun m a ha => ?_⟩
  have hagree := @getTcpPacket_agreeOn vxiReadSize m tcp a 1 ha a le_rfl (Nat.lt_succ_self a)
  dsimp only
  rw [getVxiPacket, hagree]

/-- The effect of what is received, unless that is an empty record. -/
theorem effect_eq (hempty : prefixLength tcp ≠ 0) : ∃ rest, ∀ m,
    effect h stack b s tcp m = handledEffect h stack b s rest (getVxiPacket m tcp).buffer := by
  obtain ⟨rest, hrest⟩ : ∃ rest, (if prefixLength tcp > 4 then
    (tcp.drop 4).drop (min (prefixLength tcp) (vxiReadSize - 4)) else tcp.drop 4) = rest := ⟨_, rfl⟩
  refine ⟨rest, fun m => ?_⟩
  have hlen : (getVxiPacket m tcp).len > 0 := by
    rw [getVxiPacket, getTcpPacket_len]
    split_ifs
    · exact Nat.lt_min.2 ⟨Nat.pos_of_ne_zero hempty, by decide⟩
    · exact Nat.pos_of_ne_zero hempty
  have htcp : (getVxiPacket m tcp).tcp = rest := by
    rw [getVxiPacket, getTcpPacket_tcp, hrest]
  obtain ⟨r, hr⟩ : ∃ r, getVxiPacket m tcp = r := ⟨_, rfl⟩
  rw [hr] at hlen htcp ⊢
  rw [effect_of_pos hr hlen, htcp, handledEffect]

/-- The effect of a record does not depend on what was left in the buffer exactly when
    it is empty or the bytes received settle it. -/
theorem fresh_effect : Fresh vxiReadSize m₀ (effect (scpiHandler parse) stack b s tcp) ↔
    prefixLength tcp = 0 ∨ VxiSettled m₀ (received vxiReadSize tcp) := by
  by_cases hempty : prefixLength tcp = 0
  · refine iff_of_true ?_ (Or.inl hempty)
    have hconst : ∀ m, effect (scpiHandler parse) stack b s tcp m =
        ⟨[], s, [], false, tcp.drop 4⟩ := fun m => by
      have hlen : ¬(getVxiPacket m tcp).len > 0 := by
        rw [getVxiPacket, getTcpPacket_len, hempty]
        decide
      have htcp : (getVxiPacket m tcp).tcp = tcp.drop 4 := by
        rw [getVxiPacket, getTcpPacket_tcp, hempty]
        rfl
      obtain ⟨r, hr⟩ : ∃ r, getVxiPacket m tcp = r := ⟨_, rfl⟩
      rw [hr] at hlen htcp
      rw [effect_of_zero hr hlen, htcp]
    exact fun m m' _ _ => (hconst m).trans (hconst m').symm
  · rw [or_iff_right hempty]
    obtain ⟨rest, hrest⟩ : ∃ rest, ∀ m, effect (scpiHandler parse) stack b s tcp m =
        handledEffect (scpiHandler parse) stack b s rest (getVxiPacket m tcp).buffer :=
      effect_eq hempty
    rw [← fresh_handledEffect (receives_getVxiPacket tcp)]
    exact fresh_congr fun m m' => by rw [hrest m, hrest m']

/-- A record of two bytes, which is handled as whatever was left. -/
theorem not_fresh_short : ¬Fresh vxiReadSize (fun _ => 0) (effect
    (scpiHandler fun _ _ => ⟨[], false⟩) [] (fun _ => 0) .initial [0, 0, 0, 2, 1, 1]) := by
  have hempty : prefixLength [0, 0, 0, 2, 1, 1] = 2 := by decide
  rw [fresh_effect, hempty, received, hempty, if_neg (by decide)]
  rintro (h | h)
  · cases h
  · exact absurd h.1 (by decide)

end VxiServer

/-- **No stale request bytes.** What earlier requests left in the receive buffers does
    not show in the response to a datagram, in that to a bind request on TCP and in
    the effect of a VXI record exactly when there is none or it is settled by the
    bytes received. -/
theorem fresh_requests (p : VxiPort) (server : BindServer) (datagram request : List UInt8)
    (parse : RidenScpi UInt8 UInt8 → List UInt8 → Execution UInt8) (stack : List UInt8)
    (b m₀ : Memory) (s : RidenScpi UInt8 UInt8) (record : List UInt8) :
    (Fresh udpReadSize server.udpReadBuffer
        (fun m => ({ server with udpReadBuffer := m }.loopUdp p datagram).2) ↔
      datagram = [] ∨ BindSettled (datagram.take udpReadSize)) ∧
    (Fresh tcpReadSize server.tcpReadBuffer
        (fun m => ({ server with tcpReadBuffer := m }.loopTcp p request).2) ↔
      prefixLength request = 0 ∨ BindSettled (received tcpReadSize request)) ∧
    (Fresh vxiReadSize m₀ (VxiServer.effect (scpiHandler parse) stack b s record) ↔
      prefixLength record = 0 ∨ VxiServer.VxiSettled m₀ (received vxiReadSize record)) :=
  ⟨server.fresh_loopUdp p datagram, server.fresh_loopTcp p request, VxiServer.fresh_effect⟩

end RidenDongle
