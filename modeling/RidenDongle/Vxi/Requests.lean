import RidenDongle.Vxi.Basic
import Mathlib.Data.List.DropRight

/-!
# Requests that carry data

CREATE_LINK and DEV_WRITE carry bytes behind a length field, which the client
chooses freely.

* `loop_writeArrives_iff`: the writes that fit in what CREATE_LINK advertises and
  arrive whole are those of at most 192 bytes, since the buffer holds the header
  of the request as well.
* `handlePacket_insideRecord_iff`: the accesses through the length field stay
  inside the record received when the length does, and when there is room for
  the terminator.
-/

namespace RidenDongle

open Memory

/-! ## The right trim -/

section

variable {t : Traced} {a n x : ℕ}

theorem rightTrim_le : (rightTrim t a n).1 ≤ n := by
  fun_induction rightTrim t a n with
  | case1 => exact le_rfl
  | case2 t n h ih => exact ih.trans (Nat.le_succ n)
  | case3 => exact le_rfl

@[simp] theorem bytes_rightTrim : (rightTrim t a n).2.bytes = t.bytes := by
  fun_induction rightTrim t a n with
  | case1 => rfl
  | case2 t n h ih => exact ih
  | case3 => rfl

@[simp] theorem stores_rightTrim : (rightTrim t a n).2.stores = t.stores := by
  fun_induction rightTrim t a n with
  | case1 => rfl
  | case2 t n h ih => exact ih
  | case3 => rfl

/-- The trim loads from the data only. -/
theorem mem_loads_rightTrim (h : x ∈ (rightTrim t a n).2.loads) :
    x ∈ t.loads ∨ a ≤ x ∧ x < a + n := by
  fun_induction rightTrim t a n with
  | case1 => exact .inl h
  | case2 t n _ ih =>
    rcases ih h with h | h
    · rcases List.mem_append.1 h with h | h
      · exact .inl h
      · rw [List.mem_singleton] at h
        exact .inr (by omega)
    · exact .inr (by omega)
  | case3 t n =>
    rcases List.mem_append.1 h with h | h
    · exact .inl h
    · rw [List.mem_singleton] at h
      exact .inr (by omega)

/-- What was loaded before the trim is still on record. -/
theorem loads_subset_rightTrim (h : x ∈ t.loads) : x ∈ (rightTrim t a n).2.loads := by
  fun_induction rightTrim t a n with
  | case1 => exact h
  | case2 t n _ ih => exact ih (List.mem_append_left _ h)
  | case3 => exact List.mem_append_left _ h

/-- The trim starts with the last byte of the data. -/
theorem last_mem_loads_rightTrim : a + n ∈ (rightTrim t a (n + 1)).2.loads := by
  have h : a + n ∈ (t.load (a + n)).loads := by simp
  rw [rightTrim]
  split_ifs
  · exact loads_subset_rightTrim h
  · exact h

/-- Nothing is trimmed exactly when the last byte stays. -/
theorem rightTrim_eq_succ : (rightTrim t a (n + 1)).1 = n + 1 ↔ ¬isspace (t.bytes (a + n)) := by
  rw [rightTrim]
  split_ifs with h
  · have : (rightTrim (t.load (a + n)) a n).1 ≤ n := rightTrim_le
    exact iff_of_false (by omega) (not_not.2 h)
  · exact iff_of_true rfl h

/-- The last byte that the trim keeps is no whitespace. -/
theorem rightTrim_last (h : (rightTrim t a n).1 = x + 1) : ¬isspace (t.bytes (a + x)) := by
  fun_induction rightTrim t a n with
  | case1 => exact absurd h (Nat.succ_ne_zero x).symm
  | case2 t n _ ih => exact ih h
  | case3 t n hspace => rwa [← Nat.succ.inj h]

/-- The trim keeps everything up to a byte that is no whitespace. -/
theorem lt_rightTrim (hx : x < n) (h : ¬isspace (t.bytes (a + x))) :
    x < (rightTrim t a n).1 := by
  fun_induction rightTrim t a n with
  | case1 => exact absurd hx (Nat.not_lt_zero x)
  | case2 t n hspace ih =>
    refine ih (Nat.lt_of_le_of_ne (Nat.le_of_lt_succ hx) fun heq => ?_) h
    exact h (heq ▸ hspace)
  | case3 => exact hx

/-- How much the trim keeps depends on the last byte that it keeps. -/
theorem rightTrim_le_of_last {t' : Traced}
    (h : ∀ x, (rightTrim t a n).1 = x + 1 → t.bytes (a + x) = t'.bytes (a + x)) :
    (rightTrim t a n).1 ≤ (rightTrim t' a n).1 := by
  cases hx : (rightTrim t a n).1 with
  | zero => exact Nat.zero_le _
  | succ x =>
    have hle : (rightTrim t a n).1 ≤ n := rightTrim_le
    have hspace := rightTrim_last hx
    rw [h x hx] at hspace
    exact lt_rightTrim (by omega) hspace

/-- What the trim keeps is the data without trailing whitespace. -/
theorem read_rightTrim :
    t.bytes.read a (rightTrim t a n).1 = (t.bytes.read a n).rdropWhile isspace := by
  fun_induction rightTrim t a n with
  | case1 => rfl
  | case2 t n h ih => rwa [read_succ, List.rdropWhile_concat_pos _ _ _ h]
  | case3 t n h => rw [read_succ, List.rdropWhile_concat_neg _ _ _ h]

end

/-! ## The words of a request -/

section

variable {record : Record} {m : Memory} {rest bs : List UInt8} {ws : List ℕ} {k w : ℕ}

/-- A record that the buffer can hold is in the buffer. -/
theorem getVxiPacket_buffer (hpos : 4 < record.body.length) (hlen : record.body.length ≤ 252) :
    ∃ m' : Memory, (getVxiPacket m (record.bytes ++ rest)).buffer =
      m'.write (packet 0) record.body := by
  rw [getVxiPacket, getTcpPacket_buffer, Record.received_bytes, if_pos hpos,
    show vxiReadSize - 4 = 252 from rfl, List.take_of_length_le hlen]
  exact ⟨_, rfl⟩

/-- The words that such a record starts with. -/
theorem word_getVxiPacket (hbody : record.body = wordsBytes ws ++ bs)
    (hpos : 4 < record.body.length) (hlen : record.body.length ≤ 252) (hk : ws[k]? = some w)
    (hw : w < 2 ^ 32) :
    (getVxiPacket m (record.bytes ++ rest)).buffer.word (packet (4 * k)) = w := by
  obtain ⟨m', hm'⟩ := @getVxiPacket_buffer record m rest hpos hlen
  obtain ⟨hk', rfl⟩ := List.getElem?_eq_some_iff.1 hk
  rw [hm', hbody]
  exact (word_write_wordsBytes hk').trans (Nat.mod_eq_of_lt hw)

end

/-! ## A write that obeys the advertised size -/

/-- The `max_receive_size` that a CREATE_LINK is answered with. -/
abbrev maxReceiveSize : ℕ := vxiReadSize - 4

/-- A DEV_WRITE of a client that obeys the advertised size. -/
structure DevWrite where
  xid : ℕ
  programVersion : ℕ
  credentialsL : ℕ
  credentialsH : ℕ
  verifierL : ℕ
  verifierH : ℕ
  linkId : ℕ
  ioTimeout : ℕ
  lockTimeout : ℕ
  flags : ℕ
  data : List UInt8
  length_le : data.length ≤ maxReceiveSize

namespace DevWrite

variable (w : DevWrite)

/-- The words before the data: a call, of RPC version 2. -/
def header : List ℕ :=
  [w.xid, 0, 2, Rpc.vxi11Core, w.programVersion, Rpc.vxi11DevWrite, w.credentialsL, w.credentialsH,
    w.verifierL, w.verifierH, w.linkId, w.ioTimeout, w.lockTimeout, w.flags, w.data.length]

/-- The request: the words, the data, and zeros up to a multiple of 4. -/
def body : List UInt8 :=
  wordsBytes w.header ++ (w.data ++ List.replicate (padding w.data.length) 0)

theorem length_body : w.body.length = 60 + (w.data.length + padding w.data.length) := by
  simp only [body, List.length_append, length_wordsBytes, List.length_replicate]
  rfl

/-- A record can hold it. -/
theorem length_body_lt : w.body.length < 0x80000000 := by
  have := w.length_le
  rw [show maxReceiveSize = 252 from rfl] at this
  rw [length_body, padding]
  omega

/-- The record that carries the request. -/
def record (frag : Bool) : Record where
  frag
  body := w.body
  length_lt := w.length_body_lt

/-- The data, in a memory the request was written to. -/
theorem data_body {m : Memory} :
    (m.write (packet 0) w.body).read (packet WriteRequest.data) w.data.length = w.data := by
  have hlen : (wordsBytes w.header).length = 60 := length_wordsBytes _
  rw [show packet WriteRequest.data = packet 0 + 60 from rfl,
    read_write_part (by rw [length_body]; omega), body, ← hlen, List.drop_left, List.take_left]

end DevWrite

namespace VxiServer

variable {σ : Type*} (h : ScpiHandler σ) (v : VxiServer σ) (stack : List UInt8)

variable {h v}

/-- The response to a link that gets control. -/
def linkedResponse (t : Traced) : Traced :=
  t.setWord (packet RpcResponse.rpcStatus) Rpc.success
    |>.setWord (packet CreateResponse.error) Rpc.noError
    |>.setWord (packet CreateResponse.linkId) 0
    |>.setWord (packet CreateResponse.abortPort) 0
    |>.setWord (packet CreateResponse.maxReceiveSize) (vxiReadSize - 4)

/-- The response to a write of `wlen` bytes. -/
def writtenResponse (t : Traced) (wlen : ℕ) : Traced :=
  t.setWord (packet RpcResponse.rpcStatus) Rpc.success
    |>.setWord (packet WriteResponse.error) Rpc.noError
    |>.setWord (packet WriteResponse.size) wlen

theorem read_linkedResponse (t : Traced) :
    (linkedResponse t).bytes.read 24 (CreateResponse.sizeof - 20) =
      wordsBytes [Rpc.success, Rpc.noError, 0, 0, maxReceiveSize] := by
  simp only [linkedResponse, Traced.bytes_setWord]
  exact @read_setWords _ 24 [Rpc.success, Rpc.noError, 0, 0, maxReceiveSize]

theorem read_writtenResponse (t : Traced) (wlen : ℕ) :
    (writtenResponse t wlen).bytes.read 24 (WriteResponse.sizeof - 20) =
      wordsBytes [Rpc.success, Rpc.noError, wlen] := by
  simp only [writtenResponse, Traced.bytes_setWord]
  exact @read_setWords _ 24 [Rpc.success, Rpc.noError, wlen]

/-- What a link does to the buffer: it terminates the name. -/
theorem readBuffer_createLink (hclaim : (h.claimControl v.scpi).1 = true) :
    (v.createLink h).readBuffer = v.readBuffer.store
      (packet CreateRequest.data + v.request CreateRequest.dataLen) 0 := by
  simp only [createLink, hclaim, Bool.not_true, Bool.false_eq_true, if_false, readBuffer_send,
    readBuffer_respond]
  rfl

theorem scpi_createLink (hclaim : (h.claimControl v.scpi).1 = true) :
    (v.createLink h).scpi = (h.claimControl v.scpi).2 := by
  simp only [createLink, hclaim, Bool.not_true, Bool.false_eq_true, if_false, scpi_send,
    scpi_respond]

theorem sent_createLink_eq (hclaim : (h.claimControl v.scpi).1 = true) :
    (v.createLink h).sent = v.sent ++ [(sendVxiPacket (v.createLink h).readBuffer.bytes
      (linkedResponse v.sendBuffer) CreateResponse.sizeof).2] := by
  simp only [createLink, hclaim, Bool.not_true, Bool.false_eq_true, if_false, sent_send,
    sent_respond, readBuffer_send, readBuffer_respond, sendBuffer_respond, linkedResponse]

theorem sent_write_eq : (v.write h).sent = v.sent ++ [(sendVxiPacket
    (v.write h).readBuffer.bytes (writtenResponse v.sendBuffer (v.request WriteRequest.dataLen))
      WriteResponse.sizeof).2] := by
  simp only [write, sent_send, sent_respond, readBuffer_send, readBuffer_respond,
    sendBuffer_respond, writtenResponse]

/-- A write is answered with the length the client gave. -/
theorem sent_write : ∃ header, header.length = 24 ∧ (v.write h).sent = v.sent ++
    [header ++ wordsBytes [Rpc.success, Rpc.noError, v.request WriteRequest.dataLen]] := by
  obtain ⟨header, hheader, hsent⟩ := @sendTcpPacket_response
    (writtenResponse v.sendBuffer (v.request WriteRequest.dataLen)) WriteResponse.sizeof
    (v.write h).readBuffer.bytes rfl (by decide)
  refine ⟨header, hheader, ?_⟩
  rw [sent_write_eq, sendVxiPacket, hsent, read_writtenResponse]

/-- What a write does to the buffer: it trims the data and terminates what it keeps. -/
theorem readBuffer_write : (v.write h).readBuffer =
    ((rightTrim v.readBuffer (packet WriteRequest.data) (v.request WriteRequest.dataLen)).2.store
      (packet WriteRequest.data + (rightTrim v.readBuffer (packet WriteRequest.data)
        (v.request WriteRequest.dataLen)).1) 0).loadRange (packet WriteRequest.data)
        (rightTrim v.readBuffer (packet WriteRequest.data) (v.request WriteRequest.dataLen)).1 := by
  simp only [write, readBuffer_send, readBuffer_respond]

/-- The SCPI side gets the data without trailing whitespace. -/
theorem scpi_write : (v.write h).scpi = h.write
    ((v.readBuffer.bytes.read (packet WriteRequest.data)
      (v.request WriteRequest.dataLen)).rdropWhile isspace) v.scpi := by
  rw [← read_rightTrim]
  -- the terminator lies behind what is kept
  have hagree := agreeOn_store (m := v.readBuffer.bytes) (a := packet WriteRequest.data +
    (rightTrim v.readBuffer (packet WriteRequest.data) (v.request WriteRequest.dataLen)).1)
    (b := packet WriteRequest.data) (x := 0) (.inr le_rfl)
  rw [← hagree.read_eq]
  simp only [write, scpi_send, scpi_respond, Traced.bytes_store, bytes_rightTrim]

theorem handlePacket_write (hprogram : v.request RpcRequest.program = Rpc.vxi11Core)
    (hprocedure : v.request RpcRequest.procedure = Rpc.vxi11DevWrite) :
    v.handlePacket h stack = (v.write h, false) := by
  rw [handlePacket, if_neg (not_not.2 hprogram), if_neg (by rw [hprocedure]; decide),
    if_neg (by rw [hprocedure]; decide), if_pos hprocedure]

theorem handlePacket_createLink (hprogram : v.request RpcRequest.program = Rpc.vxi11Core)
    (hprocedure : v.request RpcRequest.procedure = Rpc.vxi11CreateLink) :
    v.handlePacket h stack = (v.createLink h, false) := by
  rw [handlePacket, if_neg (not_not.2 hprogram), if_pos hprocedure]

theorem handlePacket_read (hprogram : v.request RpcRequest.program = Rpc.vxi11Core)
    (hprocedure : v.request RpcRequest.procedure = Rpc.vxi11DevRead) :
    v.handlePacket h stack = (v.read h stack, false) := by
  rw [handlePacket, if_neg (not_not.2 hprogram), if_neg (by rw [hprocedure]; decide),
    if_pos hprocedure]

theorem handlePacket_destroyLink (hprogram : v.request RpcRequest.program = Rpc.vxi11Core)
    (hprocedure : v.request RpcRequest.procedure = Rpc.vxi11DestroyLink) :
    v.handlePacket h stack = (v.destroyLink h, true) := by
  rw [handlePacket, if_neg (not_not.2 hprogram), if_neg (by rw [hprocedure]; decide),
    if_neg (by rw [hprocedure]; decide), if_neg (by rw [hprocedure]; decide), if_pos hprocedure]

theorem handlePacket_progUnavail (hprogram : v.request RpcRequest.program ≠ Rpc.vxi11Core) :
    v.handlePacket h stack = (v.refuse Rpc.progUnavail, false) := by
  rw [handlePacket, if_pos hprogram]

/-- The procedures that are served. -/
def Served (procedure : ℕ) : Prop :=
  procedure = Rpc.vxi11CreateLink ∨ procedure = Rpc.vxi11DevRead ∨
    procedure = Rpc.vxi11DevWrite ∨ procedure = Rpc.vxi11DestroyLink

instance (procedure : ℕ) : Decidable (Served procedure) :=
  inferInstanceAs (Decidable (_ ∨ _ ∨ _ ∨ _))

theorem handlePacket_procUnavail (hprogram : v.request RpcRequest.program = Rpc.vxi11Core)
    (hprocedure : ¬Served (v.request RpcRequest.procedure)) :
    v.handlePacket h stack = (v.refuse Rpc.procUnavail, false) := by
  simp only [Served, not_or] at hprocedure
  rw [handlePacket, if_neg (not_not.2 hprogram), if_neg hprocedure.1, if_neg hprocedure.2.1,
    if_neg hprocedure.2.2.1, if_neg hprocedure.2.2.2]

/-- A store behind the header leaves the xid. -/
theorem word_store_xid {M : Memory} {a : ℕ} {x : UInt8} (ha : 8 ≤ a) :
    (M.store a x).word (packet RpcRequest.xid) = M.word (packet RpcRequest.xid) :=
  (agreeOn_store (.inr ha)).word_eq

theorem xid_createLink (hclaim : (h.claimControl v.scpi).1 = true) :
    (v.createLink h).readBuffer.bytes.word (packet RpcRequest.xid) =
      v.readBuffer.bytes.word (packet RpcRequest.xid) := by
  rw [readBuffer_createLink hclaim, Traced.bytes_store]
  exact word_store_xid (Nat.le_add_right_of_le (by decide))

theorem xid_write : (v.write h).readBuffer.bytes.word (packet RpcRequest.xid) =
    v.readBuffer.bytes.word (packet RpcRequest.xid) := by
  rw [readBuffer_write, Traced.bytes_loadRange, Traced.bytes_store, bytes_rightTrim]
  exact word_store_xid (Nat.le_add_right_of_le (by decide))

@[simp] theorem readBuffer_receive (m : Memory) : (v.receive m).readBuffer.bytes = m := rfl

@[simp] theorem sent_receive (m : Memory) : (v.receive m).sent = v.sent := rfl

theorem request_receive (m : Memory) (field : ℕ) :
    (v.receive m).request field = m.word (packet field) := rfl

/-- The request `w` had the effect it asks for: `r` is the server, whether it
    closes the connection and what is left of that, `next` the client's next
    records. -/
structure WriteArrives (h : ScpiHandler σ) (v : VxiServer σ) (w : DevWrite) (next : List UInt8)
    (r : VxiServer σ × Bool × List UInt8) : Prop where
  received : r.1.scpi = h.write (w.data.rdropWhile isspace) v.scpi
  reply : ∃ header, header.length = 24 ∧
    r.1.sent = v.sent ++ [header ++ wordsBytes [Rpc.success, Rpc.noError, w.data.length]]
  position : r.2 = (false, next)

theorem getVxiPacket_record (w : DevWrite) (frag : Bool) (m : Memory) (next : List UInt8) :
    (getVxiPacket m ((w.record frag).bytes ++ next)).len > 0 ∧
      (getVxiPacket m ((w.record frag).bytes ++ next)).tcp =
        ((w.record frag).body ++ next).drop (min (w.record frag).body.length 252) := by
  have hlen : (w.record frag).body.length = 60 + (w.data.length + padding w.data.length) :=
    w.length_body
  have hpos : prefixLength ((w.record frag).bytes ++ next) > 4 := by
    rw [Record.prefixLength_bytes]
    omega
  rw [getVxiPacket, getTcpPacket_len, getTcpPacket_tcp, if_pos hpos, if_pos hpos, Record.drop_bytes,
    Record.prefixLength_bytes, show vxiReadSize - 4 = 252 from rfl]
  exact ⟨by omega, rfl⟩

/-- A longer write leaves some of its data on the connection. -/
theorem not_writeArrives (w : DevWrite) (frag : Bool) (next : List UInt8)
    (hn : 192 < w.data.length) :
    ¬WriteArrives h v w next (v.loop h stack ((w.record frag).bytes ++ next)) := by
  have hlen : (w.record frag).body.length = 60 + (w.data.length + padding w.data.length) :=
    w.length_body
  obtain ⟨hpos, htcp⟩ := getVxiPacket_record w frag v.readBuffer.bytes next
  intro hw
  have hnext := hw.position
  rw [loop, handleReceived_of_pos hpos, Prod.mk.injEq, htcp] at hnext
  have hrest := congrArg List.length hnext.2
  rw [List.length_drop, List.length_append] at hrest
  omega

/-- A write of at most 192 bytes arrives intact. -/
theorem writeArrives_of_le (w : DevWrite) (frag : Bool) (next : List UInt8)
    (hn : w.data.length ≤ 192) :
    WriteArrives h v w next (v.loop h stack ((w.record frag).bytes ++ next)) := by
  have hlen : (w.record frag).body.length = 60 + (w.data.length + padding w.data.length) :=
    w.length_body
  have hle : (w.record frag).body.length ≤ 252 := by
    simp only [padding] at hlen
    omega
  obtain ⟨hpos, htcp⟩ := getVxiPacket_record w frag v.readBuffer.bytes next
  rw [loop, handleReceived_of_pos hpos, htcp]
  obtain ⟨m, hm⟩ := @getVxiPacket_buffer (w.record frag) v.readBuffer.bytes next
    (by omega) hle
  have hword : ∀ k x, w.header[k]? = some x → x < 2 ^ 32 → (v.receive (getVxiPacket
      v.readBuffer.bytes ((w.record frag).bytes ++ next)).buffer).request (4 * k) = x :=
    fun k x hk hx => by
      rw [request_receive]
      exact @word_getVxiPacket _ _ _ _ w.header _ _ rfl (by omega) hle hk hx
  generalize getVxiPacket v.readBuffer.bytes ((w.record frag).bytes ++ next) = r at hm hword
  have hwlen : (v.receive r.buffer).request WriteRequest.dataLen = w.data.length :=
    hword 14 _ rfl (hn.trans_lt (by decide))
  rw [handlePacket_write stack (hword 3 _ rfl (by decide)) (hword 5 _ rfl (by decide))]
  refine ⟨?_, ?_, ?_⟩
  · rw [scpi_write, hwlen, readBuffer_receive, hm, show (w.record frag).body = w.body from rfl,
      w.data_body]
    rfl
  · have hsent := sent_write (h := h) (v := v.receive r.buffer)
    rw [hwlen, sent_receive] at hsent
    dsimp only
    exact hsent
  · rw [min_eq_left hle, List.drop_left]

/-- A write that the advertised size allows arrives intact exactly when it has at
    most 192 bytes: with the 60 bytes before the data, the buffer is full then. -/
theorem loop_writeArrives_iff (w : DevWrite) (frag : Bool) (next : List UInt8) :
    WriteArrives h v w next (v.loop h stack ((w.record frag).bytes ++ next)) ↔
      w.data.length ≤ 192 :=
  ⟨fun hw => Nat.not_lt.1 fun hn => not_writeArrives stack w frag next hn hw,
    writeArrives_of_le stack w frag next⟩

/-- A write of 200 spaces. -/
def spaces : DevWrite where
  xid := 1
  programVersion := 1
  credentialsL := 0
  credentialsH := 0
  verifierL := 0
  verifierH := 0
  linkId := 0
  ioTimeout := 0
  lockTimeout := 0
  flags := 8
  data := List.replicate 200 32
  length_le := List.length_replicate.trans_le (by decide)

/-- The advertised size allows that write, which does not arrive intact. -/
theorem not_writeArrives_spaces :
    ¬WriteArrives (scpiHandler fun _ _ => ⟨[], false⟩) (start (fun _ => 0) (fun _ => 0) .initial)
      spaces [] ((start (fun _ => 0) (fun _ => 0) .initial).loop
        (scpiHandler fun _ _ => ⟨[], false⟩) [] ((spaces.record true).bytes ++ [])) :=
  not_writeArrives [] spaces true [] (List.length_replicate.ge.trans_lt' (by decide))

/-! ## Accesses through the length field -/

/-- What a handler did to the request: it loaded from the `len` bytes of the
    record only, and stored at most a terminator there or right behind, inside
    the buffer. -/
structure InsideRecord (v : VxiServer σ) (len : ℕ) : Prop where
  loads : ∀ a ∈ v.readBuffer.loads, packet 0 ≤ a ∧ a < packet len
  stores : ∀ a ∈ v.readBuffer.stores, packet 0 ≤ a ∧ a ≤ packet len ∧ a < vxiReadSize
  terminator : v.readBuffer.stores.length ≤ 1

/-- The name in a CREATE_LINK lies inside a record of `len` bytes, and does not
    fill the buffer. -/
def NameFits (v : VxiServer σ) (len : ℕ) : Prop :=
  CreateRequest.data + v.request CreateRequest.dataLen ≤ len ∧
    v.request CreateRequest.dataLen ≠ vxiReadSize - packet CreateRequest.data

/-- The data of a DEV_WRITE lies inside a record of `len` bytes, and where it
    fills the buffer, there is something to trim. -/
def DataFits (v : VxiServer σ) (len : ℕ) : Prop :=
  WriteRequest.data + v.request WriteRequest.dataLen ≤ len ∧
    (v.request WriteRequest.dataLen = vxiReadSize - packet WriteRequest.data →
      isspace (v.readBuffer.bytes (vxiReadSize - 1)))

/-- The lengths that the served request gives, of the record of `len` bytes in
    the buffer, are what they should be. -/
def RequestFits (h : ScpiHandler σ) (v : VxiServer σ) (len : ℕ) : Prop :=
  v.request RpcRequest.program = Rpc.vxi11Core →
    (v.request RpcRequest.procedure = Rpc.vxi11CreateLink →
      (h.claimControl v.scpi).1 = true → NameFits v len) ∧
    (v.request RpcRequest.procedure = Rpc.vxi11DevWrite → DataFits v len)

variable {len : ℕ}

theorem insideRecord_of_readBuffer_eq {v' : VxiServer σ} (hv : v.readBuffer.loads = [])
    (hv' : v.readBuffer.stores = []) (heq : v'.readBuffer = v.readBuffer) : InsideRecord v' len :=
  ⟨by simp [heq, hv], by simp [heq, hv'], by simp [heq, hv']⟩

theorem createLink_insideRecord_iff (hv : v.readBuffer.loads = []) (hv' : v.readBuffer.stores = [])
    (hlen : len ≤ 252) :
    InsideRecord (v.createLink h) len ↔ ((h.claimControl v.scpi).1 = true → NameFits v len) := by
  by_cases hclaim : (h.claimControl v.scpi).1 = true
  · have hbuffer : (v.createLink h).readBuffer =
        v.readBuffer.store (60 + v.request CreateRequest.dataLen) 0 := by
      simp only [createLink, hclaim, Bool.not_true, Bool.false_eq_true, if_false,
        readBuffer_send, readBuffer_respond]
      rfl
    have hinside : InsideRecord (v.createLink h) len ↔
        60 + v.request CreateRequest.dataLen ≤ 4 + len ∧
          60 + v.request CreateRequest.dataLen < 256 := by
      constructor
      · intro hi
        have := hi.stores (60 + v.request CreateRequest.dataLen) (by simp [hbuffer, hv'])
        exact this.2
      · rintro ⟨hle, hlt⟩
        refine ⟨by simp [hbuffer, hv], fun a ha => ?_, by simp [hbuffer, hv']⟩
        obtain rfl : a = 60 + v.request CreateRequest.dataLen := by simpa [hbuffer, hv'] using ha
        exact ⟨Nat.le_add_right_of_le (by decide), hle, hlt⟩
    rw [hinside, NameFits, show vxiReadSize - packet CreateRequest.data = 196 from rfl,
      show CreateRequest.data = 56 from rfl]
    constructor
    · rintro h' -
      omega
    · intro h'
      have := h' hclaim
      omega
  · refine iff_of_true (insideRecord_of_readBuffer_eq hv hv' ?_) fun hc => absurd hc hclaim
    simp [createLink, hclaim]

/-- What a DEV_WRITE loads: what its trim looks at, and the data that is left. -/
theorem loads_write_rightTrim : (v.write h).readBuffer.loads =
    (rightTrim v.readBuffer 64 (v.request WriteRequest.dataLen)).2.loads ++
      List.range' 64 (rightTrim v.readBuffer 64 (v.request WriteRequest.dataLen)).1 := by
  rw [readBuffer_write, Traced.loads_loadRange, Traced.loads_store]
  rfl

/-- It stores the terminator behind that data. -/
theorem stores_write_rightTrim : (v.write h).readBuffer.stores = v.readBuffer.stores ++
    [64 + (rightTrim v.readBuffer 64 (v.request WriteRequest.dataLen)).1] := by
  rw [readBuffer_write, Traced.stores_loadRange, Traced.stores_store, stores_rightTrim]
  rfl

/-- Where a DEV_WRITE stays inside the record and the buffer, its data do. -/
theorem dataFits_of_accesses (hloads : ∀ a ∈ (v.write h).readBuffer.loads, a < packet len)
    (hstores : ∀ a ∈ (v.write h).readBuffer.stores, a ≤ packet len ∧ a < vxiReadSize) :
    DataFits v len := by
  have hterm := hstores _ (by
    rw [stores_write_rightTrim]
    exact List.mem_append_right _ (List.mem_singleton_self _))
  rw [loads_write_rightTrim] at hloads
  rw [DataFits, show vxiReadSize - packet WriteRequest.data = 192 from rfl,
    show WriteRequest.data = 60 from rfl, show vxiReadSize - 1 = 64 + 191 from rfl]
  generalize v.request WriteRequest.dataLen = wlen at *
  simp only [vxiReadSize, packet] at hterm
  have hfits : 60 + wlen ≤ len := by
    -- the trim starts at the end of the data; where there is none, the
    -- terminator takes its place
    cases wlen with
    | zero => omega
    | succ n =>
      have := hloads (64 + n) (List.mem_append_left _ last_mem_loads_rightTrim)
      simp only [packet] at this
      omega
  refine ⟨hfits, fun h192 => ?_⟩
  -- all that the buffer has room for: without trailing whitespace the terminator is behind it
  subst h192
  by_contra hspace
  have : (rightTrim v.readBuffer 64 192).1 = 192 := rightTrim_eq_succ.2 hspace
  omega

/-- Where the data do, a DEV_WRITE loads from the record only. -/
theorem mem_loads_write (hfits : DataFits v len) {a : ℕ} (ha : a ∈ (v.write h).readBuffer.loads) :
    a ∈ v.readBuffer.loads ∨ packet 0 ≤ a ∧ a < packet len := by
  have hle : (rightTrim v.readBuffer 64 (v.request WriteRequest.dataLen)).1 ≤ _ := rightTrim_le
  have hlen : 60 + v.request WriteRequest.dataLen ≤ len := hfits.1
  rw [loads_write_rightTrim, List.mem_append, List.mem_range'_1] at ha
  simp only [packet]
  rcases ha with ha | ha
  · rcases mem_loads_rightTrim ha with ha | ha
    · exact Or.inl ha
    · exact Or.inr (by omega)
  · exact Or.inr (by omega)

/-- And it has room for the terminator. -/
theorem mem_stores_write (hlen : len ≤ 252) (hfits : DataFits v len) {a : ℕ}
    (ha : a ∈ (v.write h).readBuffer.stores) :
    a ∈ v.readBuffer.stores ∨ packet 0 ≤ a ∧ a ≤ packet len ∧ a < vxiReadSize := by
  have hle : (rightTrim v.readBuffer 64 (v.request WriteRequest.dataLen)).1 ≤ _ := rightTrim_le
  rw [DataFits, show vxiReadSize - packet WriteRequest.data = 192 from rfl,
    show WriteRequest.data = 60 from rfl, show vxiReadSize - 1 = 64 + 191 from rfl] at hfits
  obtain ⟨hfits, hspace⟩ := hfits
  rw [stores_write_rightTrim, List.mem_append, List.mem_singleton] at ha
  rcases ha with ha | rfl
  · exact Or.inl ha
  · generalize v.request WriteRequest.dataLen = wlen at *
    have hne : (rightTrim v.readBuffer 64 wlen).1 ≠ 192 := fun h192 => by
      obtain rfl : wlen = 192 := by omega
      exact rightTrim_eq_succ.1 h192 (hspace rfl)
    simp only [vxiReadSize, packet]
    exact Or.inr (by omega)

theorem write_insideRecord_iff (hv : v.readBuffer.loads = []) (hv' : v.readBuffer.stores = [])
    (hlen : len ≤ 252) : InsideRecord (v.write h) len ↔ DataFits v len := by
  constructor
  · exact fun hi => dataFits_of_accesses (fun a ha => (hi.loads a ha).2)
      fun a ha => (hi.stores a ha).2
  · intro hfits
    refine ⟨fun a ha => ?_, fun a ha => ?_, by simp [stores_write_rightTrim, hv']⟩
    · rcases mem_loads_write hfits ha with ha | ha
      · simp [hv] at ha
      · exact ha
    · rcases mem_stores_write hlen hfits ha with ha | ha
      · simp [hv'] at ha
      · exact ha

theorem readBuffer_read : (v.read h stack).readBuffer = v.readBuffer := rfl

theorem readBuffer_refuse {rc : ℕ} : (v.refuse rc).readBuffer = v.readBuffer := rfl

theorem readBuffer_destroyLink : (v.destroyLink h).readBuffer = v.readBuffer := rfl

/-- The handler of a record that was received stays inside the record exactly
    when the length in the request does, and leaves room for the terminator. -/
theorem handlePacket_insideRecord_iff (record : Record) (hlen : record.body.length ≤ 252)
    (m r : Memory) (scpi : σ) (rest : List UInt8) :
    InsideRecord ((start (getVxiPacket m (record.bytes ++ rest)).buffer r scpi).handlePacket
        h stack).1 record.body.length ↔
      RequestFits h (start (getVxiPacket m (record.bytes ++ rest)).buffer r scpi)
        record.body.length := by
  generalize hv : start (getVxiPacket m (record.bytes ++ rest)).buffer r scpi = v
  have hloads : v.readBuffer.loads = [] := by rw [← hv]; rfl
  have hstores : v.readBuffer.stores = [] := by rw [← hv]; rfl
  have hother : ∀ {v' : VxiServer σ}, v'.readBuffer = v.readBuffer →
      InsideRecord v' record.body.length := insideRecord_of_readBuffer_eq hloads hstores
  rw [handlePacket, RequestFits]
  split_ifs with hprogram hcreate hread hwrite hdestroy
  · exact iff_of_true (hother readBuffer_refuse) fun hp => absurd hp hprogram
  · rw [createLink_insideRecord_iff hloads hstores hlen]
    refine ⟨fun hi _ => ⟨fun _ => hi, fun hp => ?_⟩, fun hr => (hr (not_not.1 hprogram)).1 hcreate⟩
    exact absurd (hcreate.symm.trans hp) (by decide)
  · refine iff_of_true (hother (readBuffer_read stack)) fun _ => ⟨fun hp => ?_, fun hp => ?_⟩
    · exact absurd (hread.symm.trans hp) (by decide)
    · exact absurd (hread.symm.trans hp) (by decide)
  · rw [write_insideRecord_iff hloads hstores hlen]
    refine ⟨fun hi _ => ⟨fun hp => ?_, fun _ => hi⟩, fun hr => (hr (not_not.1 hprogram)).2 hwrite⟩
    exact absurd (hwrite.symm.trans hp) (by decide)
  · refine iff_of_true (hother readBuffer_destroyLink) fun _ => ⟨fun hp => ?_, fun hp => ?_⟩
    · exact absurd (hdestroy.symm.trans hp) (by decide)
    · exact absurd (hdestroy.symm.trans hp) (by decide)
  · exact iff_of_true (hother readBuffer_refuse) fun _ => ⟨fun hp => absurd hp hcreate,
      fun hp => absurd hp hwrite⟩

/-- A CREATE_LINK whose name has the length `nameLen`, and which ends there. -/
def linkRecord (nameLen : ℕ) : Record where
  frag := true
  body := wordsBytes [1, 0, 2, Rpc.vxi11Core, 1, Rpc.vxi11CreateLink, 0, 0, 0, 0, 0, 0, 0, nameLen]
  length_lt := length_wordsBytes _ |>.trans_lt (show 4 * 14 < 0x80000000 by decide)

theorem request_linkRecord {nameLen k x : ℕ} {m r : Memory} {scpi : σ}
    (hk : [1, 0, 2, Rpc.vxi11Core, 1, Rpc.vxi11CreateLink, 0, 0, 0, 0, 0, 0, 0, nameLen][k]? =
      some x) (hx : x < 2 ^ 32) :
    (start (getVxiPacket m ((linkRecord nameLen).bytes ++ [])).buffer r scpi).request (4 * k) = x :=
  by
    have hlen : (linkRecord nameLen).body.length = 56 := length_wordsBytes _
    rw [request_start]
    exact word_getVxiPacket (List.append_nil _).symm (by omega) (by omega) hk hx

/-- The name of no bytes fits. -/
theorem handlePacket_insideRecord_unnamed :
    InsideRecord ((start (getVxiPacket (fun _ => 0) ((linkRecord 0).bytes ++ [])).buffer
      (fun _ => 0) .initial).handlePacket (scpiHandler fun _ _ => ⟨[], false⟩) []).1
      (linkRecord 0).body.length := by
  have hlen : (linkRecord 0).body.length = 56 := length_wordsBytes _
  have hname := @request_linkRecord (RidenScpi UInt8 UInt8) 0 13 _ (fun _ => 0)
    (fun _ => 0) .initial rfl (by decide)
  have hprocedure := @request_linkRecord (RidenScpi UInt8 UInt8) 0 5 _ (fun _ => 0)
    (fun _ => 0) .initial rfl (by decide)
  refine (handlePacket_insideRecord_iff [] (linkRecord 0) (by omega) _ _ _ []).2 fun _ => ⟨?_, ?_⟩
  · refine fun _ _ => ⟨?_, ?_⟩
    · rw [hname, hlen]
    · rw [hname]
      decide
  · intro hp
    exact absurd (hprocedure.symm.trans hp) (by decide)

/-- A name of 1000 bytes is terminated far behind the buffer. -/
theorem not_insideRecord_overlong :
    ¬InsideRecord ((start (getVxiPacket (fun _ => 0) ((linkRecord 1000).bytes ++ [])).buffer
      (fun _ => 0) .initial).handlePacket (scpiHandler fun _ _ => ⟨[], false⟩) []).1
      (linkRecord 1000).body.length := by
  have hlen : (linkRecord 1000).body.length = 56 := length_wordsBytes _
  have hname := @request_linkRecord (RidenScpi UInt8 UInt8) 1000 13 _ (fun _ => 0)
    (fun _ => 0) .initial rfl (by decide)
  have hprogram := @request_linkRecord (RidenScpi UInt8 UInt8) 1000 3 _ (fun _ => 0)
    (fun _ => 0) .initial rfl (by decide)
  have hprocedure := @request_linkRecord (RidenScpi UInt8 UInt8) 1000 5 _ (fun _ => 0)
    (fun _ => 0) .initial rfl (by decide)
  intro hi
  rw [handlePacket_createLink [] hprogram hprocedure, createLink_insideRecord_iff rfl rfl
    (by omega)] at hi
  have hfits := (hi rfl).1
  rw [hname, hlen] at hfits
  exact absurd hfits (by decide)

end VxiServer

end RidenDongle
