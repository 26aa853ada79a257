import RidenDongle.Memory.Leftover
import RidenDongle.Rpc.Bind

/-!
# Bind requests and what earlier ones left

The receive functions store what came over what earlier requests left in the
buffer, and `process_request` decodes fields of the whole buffer. What was left
does not show in the response exactly when the bytes received settle each
decision that it makes (`BindSettled`).
-/

namespace RidenDongle

open Memory

/-- The bytes of a request settle its xid, its program and, where that is
    PORTMAP, its procedure. -/
def BindSettled (bs : List UInt8) : Prop :=
  4 ≤ bs.length ∧ Settles bs RpcRequest.program Rpc.portmap ∧
    (wordOf bs RpcRequest.program = Rpc.portmap → Settles bs RpcRequest.procedure Rpc.getPort)

section

variable {p : VxiPort} {m m' m₀ request request' : Memory} {a b size : ℕ} {bs : List UInt8}
  {t : Traced}

/-- The port responded goes with the status. -/
theorem bindResult_eq_of_status (h : (bindResult p request a).1 = (bindResult p request' b).1) :
    bindResult p request a = bindResult p request' b := by
  revert h
  simp only [bindResult]
  split_ifs with _ _ h₁ _ _ h₂ <;>
    simp +contextual [Rpc.progUnavail, Rpc.procUnavail, Rpc.garbageArgs, Rpc.success, *]

theorem bindResult_status_lt : (bindResult p request a).1 < 2 ^ 32 := by
  simp only [bindResult]
  split_ifs <;> simp [Rpc.progUnavail, Rpc.procUnavail, Rpc.garbageArgs, Rpc.success]

theorem bindResult_status_eq_progUnavail :
    (bindResult p request a).1 = Rpc.progUnavail ↔
      request.word (a + RpcRequest.program) ≠ Rpc.portmap := by
  simp only [bindResult]
  split_ifs with h <;>
    simp [h, Rpc.progUnavail, Rpc.procUnavail, Rpc.garbageArgs]

theorem bindResult_status_eq_procUnavail
    (h : request.word (a + RpcRequest.program) = Rpc.portmap) :
    (bindResult p request a).1 = Rpc.procUnavail ↔
      request.word (a + RpcRequest.procedure) ≠ Rpc.getPort := by
  simp only [bindResult, h, ne_eq, not_true_eq_false, if_false]
  split_ifs with h <;>
    simp [h, Rpc.procUnavail, Rpc.garbageArgs]

/-- What `process_request` and the send function decode from the buffer does not
    depend on what was left in it exactly when the bytes received settle it. -/
theorem fresh_bindResult (hsize : a + 24 ≤ size) :
    Fresh size m₀ (fun m => ((m.write a bs).word a, bindResult p (m.write a bs) a)) ↔
      BindSettled bs := by
  have hport : Rpc.portmap < 2 ^ 32 := by decide
  have hget : Rpc.getPort < 2 ^ 32 := by decide
  constructor
  · intro hf
    have hprogram : Settles bs RpcRequest.program Rpc.portmap := by
      have hsize : a + RpcRequest.program + 4 ≤ size := show a + 12 + 4 ≤ size by omega
      refine hf.settles .refl hsize hport fun m₁ m₂ _ _ h₁ h₂ heq => ?_
      simp only [Prod.mk.injEq] at heq
      have hstatus := congrArg Prod.fst heq.2
      exact absurd h₁ (bindResult_status_eq_progUnavail.1
        (hstatus.trans (bindResult_status_eq_progUnavail.2 h₂)))
    refine ⟨?_, hprogram, fun hp => ?_⟩
    · have := @Memory.Fresh.received m₀ m₀ a 0 size bs _ _ hf .refl (by omega)
        fun m' _ hne heq => by
          simp only [Nat.add_zero, Prod.mk.injEq] at hne heq
          exact hne heq.1
      omega
    · have hsize : a + RpcRequest.procedure + 4 ≤ size := show a + 20 + 4 ≤ size by omega
      refine hf.settles .refl hsize hget fun m₁ m₂ _ _ h₁ h₂ heq => ?_
      simp only [Prod.mk.injEq] at heq
      have hstatus := congrArg Prod.fst heq.2
      have hp₁ := (hprogram.word_iff (m := m₁) (a := a) hport).2 hp
      have hp₂ := (hprogram.word_iff (m := m₂) (a := a) hport).2 hp
      exact absurd h₁ ((bindResult_status_eq_procUnavail hp₁).1
        (hstatus.trans ((bindResult_status_eq_procUnavail hp₂).2 h₂)))
  · rintro ⟨hlen, hprogram, hprocedure⟩ m m' - -
    refine Prod.ext (word_write_of_le (o := 0) hlen) ?_
    by_cases hp : wordOf bs RpcRequest.program = Rpc.portmap
    · simp only [bindResult, ne_eq, hprogram.word_iff hport, (hprocedure hp).word_iff hget]
    · simp only [bindResult, ne_eq, hprogram.word_iff hport, hp, not_false_eq_true, if_true]

theorem word_processRequest :
    (processRequest p request a t).bytes.word (a + RpcResponse.rpcStatus) =
      (bindResult p request a).1 := by
  rw [processRequest, Traced.bytes_setWord, Traced.bytes_setWord,
    word_setWord_of_disjoint (.inl (show a + 20 + 4 ≤ a + 24 by omega)),
    word_setWord_of_lt bindResult_status_lt]

/-- Responses to UDP requests tell the xid and the result apart. -/
theorem sendBindPacketUdp_eq_iff :
    (sendBindPacketUdp request (processRequest p request 0 t) BindResponse.sizeof).2 =
        (sendBindPacketUdp request' (processRequest p request' 0 t) BindResponse.sizeof).2 ↔
      (request.word 0, bindResult p request 0) = (request'.word 0, bindResult p request' 0) := by
  constructor
  · intro h
    obtain ⟨-, hagree⟩ := agreeOn_of_read_eq h
    have hxid := (hagree.mono (b := 0) (k := 4) le_rfl (by decide)).word_eq
    have hstatus := (hagree.mono (b := 0 + 20) (k := 4) (by decide) (by decide)).word_eq
    rw [word_fillResponseHeader, word_fillResponseHeader, Nat.mod_eq_of_lt word_lt,
      Nat.mod_eq_of_lt word_lt] at hxid
    rw [(agreeOn_fillResponseHeader le_rfl).word_eq, (agreeOn_fillResponseHeader le_rfl).word_eq,
      word_processRequest, word_processRequest] at hstatus
    exact Prod.ext hxid (bindResult_eq_of_status hstatus)
  · intro h
    obtain ⟨hxid, hresult⟩ := Prod.mk.inj h
    simp only [sendBindPacketUdp, processRequest, hresult, RpcRequest.xid, hxid]

/-- Responses to TCP requests tell the xid and the result apart. -/
theorem sendBindPacketTcp_eq_iff :
    (sendBindPacketTcp request (processRequest p request 4 t) BindResponse.sizeof).2 =
        (sendBindPacketTcp request' (processRequest p request' 4 t) BindResponse.sizeof).2 ↔
      (request.word 4, bindResult p request 4) = (request'.word 4, bindResult p request' 4) := by
  constructor
  · intro h
    rw [sendBindPacketTcp, sendTcpPacket_sent, sendTcpPacket_sent] at h
    obtain ⟨-, hagree⟩ := agreeOn_of_read_eq h
    have hxid := (hagree.mono (b := 4) (k := 4) (by decide) (by decide)).word_eq
    have hstatus := (hagree.mono (b := 24) (k := 4) (by decide) (by decide)).word_eq
    rw [word_sendTcpPacket_xid (by decide), word_sendTcpPacket_xid (by decide)] at hxid
    rw [word_sendTcpPacket le_rfl (by decide), word_sendTcpPacket le_rfl (by decide)] at hstatus
    refine Prod.ext hxid (bindResult_eq_of_status ?_)
    rw [← word_processRequest (t := t), ← word_processRequest (t := t)]
    exact hstatus
  · intro h
    obtain ⟨hxid, hresult⟩ := Prod.mk.inj h
    rw [sendBindPacketTcp, processRequest, processRequest, hresult]
    exact congrArg Prod.snd (sendTcpPacket_congr hxid)

end

namespace BindServer

variable (p : VxiPort) (s : BindServer)

/-- The response to a datagram does not depend on what was left in the buffer
    exactly when the bytes that the buffer takes settle it. -/
theorem fresh_loopUdp (datagram : List UInt8) :
    Fresh udpReadSize s.udpReadBuffer
        (fun m => ({ s with udpReadBuffer := m }.loopUdp p datagram).2) ↔
      datagram = [] ∨ BindSettled (datagram.take udpReadSize) := by
  by_cases hd : datagram = []
  · subst hd
    exact iff_of_true (fresh_const none) (.inl rfl)
  have hlen : (datagram.take udpReadSize).length > 0 := by
    rw [List.length_take]
    exact Nat.lt_min.2 ⟨by decide, List.length_pos_iff.2 hd⟩
  rw [or_iff_right hd, ← @fresh_bindResult p s.udpReadBuffer 0 udpReadSize _ (by decide)]
  refine fresh_congr fun m m' => ?_
  simp only [loopUdp, getBindPacketUdp, hlen, if_true, Option.some_inj]
  exact sendBindPacketUdp_eq_iff

/-- The response to a TCP request does not depend on what was left in the buffer
    exactly when there is none or the bytes received settle it. -/
theorem fresh_loopTcp (tcp : List UInt8) :
    Fresh tcpReadSize s.tcpReadBuffer (fun m => ({ s with tcpReadBuffer := m }.loopTcp p tcp).2) ↔
      prefixLength tcp = 0 ∨ BindSettled (received tcpReadSize tcp) := by
  have hlen : ∀ m, (getBindPacketTcp m tcp).len > 0 ↔ prefixLength tcp ≠ 0 := fun m => by
    rw [getBindPacketTcp, getTcpPacket_len, show tcpReadSize - 4 = 60 from rfl]
    split_ifs <;> omega
  by_cases hp : prefixLength tcp = 0
  · have hnone : ∀ m, ({ s with tcpReadBuffer := m }.loopTcp p tcp).2 = none := fun m => by
      rw [loopTcp, handleReceived_of_zero fun h => (hlen m).1 h hp]
    simp only [hnone]
    exact iff_of_true (fresh_const none) (.inl hp)
  rw [or_iff_right hp, ← @fresh_bindResult p s.tcpReadBuffer 4 tcpReadSize _ (by decide)]
  refine fresh_congr fun m m' => ?_
  rw [loopTcp, loopTcp, handleReceived_of_pos ((hlen _).2 hp), handleReceived_of_pos ((hlen _).2 hp),
    Option.some_inj]
  have hagree : ∀ {m : Memory} {b}, 4 ≤ b → (getBindPacketTcp m tcp).buffer.word b =
      (m.write 4 (received tcpReadSize tcp)).word b := fun hb =>
    (getTcpPacket_agreeOn hb).word_eq
  have hview : ∀ m : Memory, ((getBindPacketTcp m tcp).buffer.word 4,
      bindResult p (getBindPacketTcp m tcp).buffer 4) =
        ((m.write 4 (received tcpReadSize tcp)).word 4,
          bindResult p (m.write 4 (received tcpReadSize tcp)) 4) := fun m => by
    simp only [bindResult, hagree le_rfl, hagree (Nat.le_add_right 4 _)]
  rw [← hview, ← hview]
  exact sendBindPacketTcp_eq_iff

end BindServer

end RidenDongle
