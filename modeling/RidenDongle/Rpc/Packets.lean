import RidenDongle.Memory.Traced

/-!
# RPC packets

The buffers that hold RPC and VXI packets and the functions that receive into
them and send from them (`rpc_packets.h`, `rpc_packets.cpp`), with the codes of
`rpc_enums.h`. A buffer is the memory from its first byte on: the array is its
first `vxiReadSize` (or so) addresses, and what lies behind is whatever memory
follows it. On TCP a packet lies behind a 4-byte prefix; `packet` is the
address of a field of it.

A connection is the list of bytes that `readBytes` still can get from it
before its timeout.
-/

namespace RidenDongle

/-! ## Codes -/

namespace Rpc

abbrev reply : ℕ := 1
abbrev msgAccepted : ℕ := 0

abbrev success : ℕ := 0
abbrev progUnavail : ℕ := 1
abbrev procUnavail : ℕ := 3
abbrev garbageArgs : ℕ := 4

abbrev portmap : ℕ := 0x186A0
abbrev vxi11Core : ℕ := 0x607AF

abbrev getPort : ℕ := 3
abbrev vxi11CreateLink : ℕ := 10
abbrev vxi11DevWrite : ℕ := 11
abbrev vxi11DevRead : ℕ := 12
abbrev vxi11DestroyLink : ℕ := 23

abbrev noError : ℕ := 0
abbrev outOfResources : ℕ := 9

/-- The reason `rpc::END` of a read: no more data available. -/
abbrev endReason : ℕ := 4

end Rpc

/-! ## Buffers and packets -/

abbrev udpReadSize : ℕ := 64
abbrev tcpReadSize : ℕ := 64
abbrev vxiReadSize : ℕ := 256
abbrev vxiSendSize : ℕ := 256

/-- The address of a field of the packet in a TCP buffer, behind the prefix. -/
abbrev packet (field : ℕ) : ℕ := 4 + field

/-- The fields of `rpc_request_packet` that are looked at. -/
abbrev RpcRequest.xid : ℕ := 0
abbrev RpcRequest.program : ℕ := 12
abbrev RpcRequest.procedure : ℕ := 20

abbrev CreateRequest.dataLen : ℕ := 52
abbrev CreateRequest.data : ℕ := 56

abbrev WriteRequest.dataLen : ℕ := 56
abbrev WriteRequest.data : ℕ := 60

abbrev RpcResponse.xid : ℕ := 0
abbrev RpcResponse.msgType : ℕ := 4
abbrev RpcResponse.replyState : ℕ := 8
abbrev RpcResponse.verifierL : ℕ := 12
abbrev RpcResponse.verifierH : ℕ := 16
abbrev RpcResponse.rpcStatus : ℕ := 20
abbrev RpcResponse.sizeof : ℕ := 24

abbrev BindResponse.vxiPort : ℕ := 24
abbrev BindResponse.sizeof : ℕ := 28

abbrev CreateResponse.error : ℕ := 24
abbrev CreateResponse.linkId : ℕ := 28
abbrev CreateResponse.abortPort : ℕ := 32
abbrev CreateResponse.maxReceiveSize : ℕ := 36
abbrev CreateResponse.sizeof : ℕ := 40

abbrev DestroyResponse.error : ℕ := 24
abbrev DestroyResponse.sizeof : ℕ := 28

abbrev ReadResponse.error : ℕ := 24
abbrev ReadResponse.reason : ℕ := 28
abbrev ReadResponse.dataLen : ℕ := 32
abbrev ReadResponse.data : ℕ := 36
abbrev ReadResponse.sizeof : ℕ := 36

abbrev WriteResponse.error : ℕ := 24
abbrev WriteResponse.size : ℕ := 28
abbrev WriteResponse.sizeof : ℕ := 32

/-! ## Receiving -/

/-- `readBytes(buffer, n)`: the next `n` bytes of the connection, or those that
    come before the timeout, are stored from `a` on. -/
def readBytes (m : Memory) (a n : ℕ) (tcp : List UInt8) : Memory × List UInt8 :=
  (m.write a (tcp.take n), tcp.drop n)

/-- What a receive function leaves: the length it returns, the buffer, and the
    rest of the connection. -/
structure Received where
  len : ℕ
  buffer : Memory
  tcp : List UInt8

/-- `get_bind_packet` of a UDP datagram. -/
def getBindPacketUdp (m : Memory) (datagram : List UInt8) : ℕ × Memory :=
  let bs := datagram.take udpReadSize
  (bs.length, m.write 0 bs)

/-- The receive function of both TCP servers, for a buffer of `size` bytes. -/
def getTcpPacket (size : ℕ) (m : Memory) (tcp : List UInt8) : Received :=
  let m := m.setWord 0 0
  let (m, tcp) := readBytes m 0 4 tcp
  -- mask out the FRAG bit
  let len := m.word 0 % 0x80000000
  if len > 4 then
    let len := min len (size - 4)
    let (m, tcp) := readBytes m (packet 0) len tcp
    ⟨len, m, tcp⟩
  else
    ⟨len, m, tcp⟩

/-- `get_bind_packet` of a TCP connection. -/
def getBindPacketTcp : Memory → List UInt8 → Received := getTcpPacket tcpReadSize

/-- `get_vxi_packet`. -/
def getVxiPacket : Memory → List UInt8 → Received := getTcpPacket vxiReadSize

/-- The length in the prefix that starts a connection; where fewer than 4 bytes
    of it came, zeros stand for the others. -/
def prefixLength (tcp : List UInt8) : ℕ :=
  ((Memory.setWord (fun _ => 0) 0 0).write 0 (tcp.take 4)).word 0 % 0x80000000

/-- The bytes a receive function takes for the packet: as many as the prefix says
    and the buffer holds, but none for a length of up to 4. -/
def received (size : ℕ) (tcp : List UInt8) : List UInt8 :=
  if prefixLength tcp > 4 then (tcp.drop 4).take (min (prefixLength tcp) (size - 4)) else []

section

variable {size : ℕ} {m m' : Memory} {tcp rest : List UInt8}

/-- The prefix read does not depend on what was in the buffer. -/
theorem word_readPrefix :
    ((m.setWord 0 0).write 0 (tcp.take 4)).word 0 % 0x80000000 = prefixLength tcp := by
  rw [prefixLength, Memory.AgreeOn.word_eq (Memory.AgreeOn.write fun i hi hi' _ => ?_)]
  refine Memory.AgreeOn.write (a := 0) (n := 4) (fun j _ hj hj' => ?_) i hi hi'
  rw [Memory.length_wordBytes] at hj'
  omega

theorem getTcpPacket_len : (getTcpPacket size m tcp).len =
    if prefixLength tcp > 4 then min (prefixLength tcp) (size - 4) else prefixLength tcp := by
  simp only [getTcpPacket, readBytes, word_readPrefix]
  split_ifs <;> rfl

theorem getTcpPacket_buffer : (getTcpPacket size m tcp).buffer =
    ((m.setWord 0 0).write 0 (tcp.take 4)).write (packet 0) (received size tcp) := by
  simp only [getTcpPacket, readBytes, word_readPrefix, received]
  split_ifs
  · rfl
  · rw [Memory.write_nil]

theorem getTcpPacket_tcp : (getTcpPacket size m tcp).tcp =
    if prefixLength tcp > 4 then (tcp.drop 4).drop (min (prefixLength tcp) (size - 4))
    else tcp.drop 4 := by
  simp only [getTcpPacket, readBytes, word_readPrefix]
  split_ifs <;> rfl

theorem length_received_le : (received size tcp).length ≤ size - 4 := by
  rw [received]
  split_ifs
  · exact (List.length_take_le ..).trans (min_le_right ..)
  · exact Nat.zero_le _

/-- Behind the prefix, the buffer is what it was, with the bytes received over it. -/
theorem getTcpPacket_agreeOn {b k : ℕ} (hb : 4 ≤ b) :
    (getTcpPacket size m tcp).buffer.AgreeOn (m.write (packet 0) (received size tcp)) b k := by
  rw [getTcpPacket_buffer]
  refine Memory.AgreeOn.write fun i hi hik _ => ?_
  rw [Memory.write_of_le (by simp only [List.length_take]; omega)]
  exact Memory.agreeOn_setWord (.inr (by omega)) i hi hik

end

/-- A record of a TCP stream: a FRAG bit and the bytes of a packet, as many as
    the other 31 bits of the prefix can count. -/
structure Record where
  frag : Bool
  body : List UInt8
  length_lt : body.length < 0x80000000

namespace Record

variable (r : Record) {size : ℕ} {m : Memory} {rest : List UInt8}

/-- The record on the wire. -/
def bytes : List UInt8 :=
  Memory.wordBytes ((if r.frag then 0x80000000 else 0) + r.body.length) ++ r.body

theorem length_bytes : r.bytes.length = 4 + r.body.length := by
  simp only [bytes, List.length_append, Memory.length_wordBytes]

theorem drop_bytes : (r.bytes ++ rest).drop 4 = r.body ++ rest := by
  simp [bytes, Memory.wordBytes]

@[simp] theorem prefixLength_bytes : prefixLength (r.bytes ++ rest) = r.body.length := by
  have h := r.length_lt
  have hword : ∀ m : Memory, (m.write 0 ((r.bytes ++ rest).take 4)).word 0 =
      ((if r.frag then 0x80000000 else 0) + r.body.length) % 2 ^ 32 := fun m =>
    Memory.word_write (k := 0) (by simp [bytes, Memory.wordBytes])
  rw [prefixLength, hword]
  cases r.frag <;> simp only [if_true, Bool.false_eq_true, if_false] <;> omega

/-- Of a record that came whole, what the buffer holds is received. -/
theorem received_bytes : received size (r.bytes ++ rest) =
    if r.body.length > 4 then r.body.take (size - 4) else [] := by
  rw [received, prefixLength_bytes, drop_bytes]
  split_ifs
  · rw [List.take_append_of_le_length (min_le_left ..), min_comm, ← List.take_take,
      List.take_length]
  · rfl

end Record

/-! ## Sending -/

/-- `fill_response_header`, for a packet at `a`. -/
def fillResponseHeader (t : Traced) (a xid : ℕ) : Traced :=
  t.setWord (a + RpcResponse.xid) xid
    |>.setWord (a + RpcResponse.msgType) Rpc.reply
    |>.setWord (a + RpcResponse.replyState) Rpc.msgAccepted
    |>.setWord (a + RpcResponse.verifierL) 0
    |>.setWord (a + RpcResponse.verifierH) 0

/-- The loop that appends zeros to the packet at `a` until its length is a
    multiple of 4. -/
def padLoop (t : Traced) (a len : ℕ) : Traced × ℕ :=
  if len % 4 > 0 then padLoop (t.store (a + len) 0) a (len + 1) else (t, len)
termination_by (4 - len % 4) % 4

/-- How many zeros `padLoop` appends. -/
def padding (len : ℕ) : ℕ := (4 - len % 4) % 4

/-- `send_bind_packet` to a UDP client: the buffer and the datagram sent. -/
def sendBindPacketUdp (request : Memory) (t : Traced) (len : ℕ) : Traced × List UInt8 :=
  let t := fillResponseHeader t 0 (request.word RpcRequest.xid)
  (t, t.bytes.read 0 len)

/-- The send function of both TCP servers: the buffer and the bytes sent. -/
def sendTcpPacket (request : Memory) (t : Traced) (len : ℕ) : Traced × List UInt8 :=
  let t := fillResponseHeader t (packet 0) (request.word (packet RpcRequest.xid))
  let padded := padLoop t (packet 0) len
  let len := padded.2
  -- set the FRAG bit and the length
  let t := padded.1.setWord 0 (0x80000000 ||| len)
  (t, t.bytes.read 0 (len + 4))

/-- `send_bind_packet` to a TCP client. -/
def sendBindPacketTcp : Memory → Traced → ℕ → Traced × List UInt8 := sendTcpPacket

/-- `send_vxi_packet`. -/
def sendVxiPacket : Memory → Traced → ℕ → Traced × List UInt8 := sendTcpPacket

section

variable {t : Traced} {a b k len xid : ℕ} {request : Memory}

theorem padding_succ (h : len % 4 > 0) : padding len = padding (len + 1) + 1 := by
  simp only [padding]
  omega

/-- The loop is one write of zeros. -/
theorem padLoop_eq : padLoop t a len =
    (t.write (a + len) (List.replicate (padding len) 0), len + padding len) := by
  fun_induction padLoop t a len with
  | case1 t len h ih =>
    rw [ih, padding_succ h, List.replicate_succ, Traced.write_cons]
    congr 1
    omega
  | case2 t len h =>
    have hp : padding len = 0 := by simp only [padding]; omega
    simp only [hp, List.replicate_zero, Traced.write_nil, Nat.add_zero]

/-- The header fill stores the first 20 bytes of the packet. -/
theorem stores_fillResponseHeader :
    (fillResponseHeader t a xid).stores = t.stores ++ List.range' a 20 := by
  simp [fillResponseHeader, List.range', Nat.add_assoc]

theorem agreeOn_fillResponseHeader (h : a + 20 ≤ b) :
    (fillResponseHeader t a xid).bytes.AgreeOn t.bytes b k := by
  intro i hi hik
  simp only [fillResponseHeader, Traced.bytes_setWord, RpcResponse.xid, RpcResponse.msgType,
    RpcResponse.replyState, RpcResponse.verifierL, RpcResponse.verifierH]
  iterate 5 rw [Memory.agreeOn_setWord (b := b) (k := k) (.inr (by omega)) i hi hik]

/-- The header starts with the xid. -/
theorem word_fillResponseHeader :
    (fillResponseHeader t a xid).bytes.word a = xid % 2 ^ 32 := by
  simp only [fillResponseHeader, Traced.bytes_setWord, RpcResponse.xid, RpcResponse.msgType,
    RpcResponse.replyState, RpcResponse.verifierL, RpcResponse.verifierH]
  iterate 4 rw [Memory.word_setWord_of_disjoint (.inl (by omega))]
  exact Memory.word_setWord

/-- Behind the header, what is sent on TCP is the response and zeros. -/
theorem sendTcpPacket_bytes (hb : 24 ≤ b) :
    (sendTcpPacket request t len).1.bytes.AgreeOn
      (t.bytes.write (packet len) (List.replicate (padding len) 0)) b k := by
  intro i hi hik
  simp only [sendTcpPacket, padLoop_eq, Traced.bytes_setWord, Traced.bytes_write]
  rw [Memory.agreeOn_setWord (b := b) (k := k) (.inr (by omega)) i hi hik]
  refine Memory.AgreeOn.write (fun j hj hjk _ => ?_) i hi hik
  exact agreeOn_fillResponseHeader hb j hj hjk

/-- A word of the response is sent as it is in the buffer. -/
theorem word_sendTcpPacket (hb : 24 ≤ b) (hlen : b ≤ len) :
    (sendTcpPacket request t len).1.bytes.word b = t.bytes.word b := by
  rw [(sendTcpPacket_bytes hb).word_eq, (Memory.agreeOn_write (.inl ?_)).word_eq]
  simp only [packet]
  omega

/-- A response is sent with the xid of the request. -/
theorem word_sendTcpPacket_xid (hlen : 20 ≤ len) :
    (sendTcpPacket request t len).1.bytes.word (packet 0) =
      request.word (packet RpcRequest.xid) := by
  simp only [sendTcpPacket, padLoop_eq, Traced.bytes_setWord, Traced.bytes_write]
  rw [Memory.word_setWord_of_disjoint (.inr le_rfl),
    (Memory.agreeOn_write (.inl (by simp only [packet]; omega))).word_eq, word_fillResponseHeader,
    Nat.mod_eq_of_lt Memory.word_lt]

/-- Of the request, only the xid is in what is sent. -/
theorem sendTcpPacket_congr {request' : Memory}
    (h : request.word (packet RpcRequest.xid) = request'.word (packet RpcRequest.xid)) :
    sendTcpPacket request t len = sendTcpPacket request' t len := by
  simp only [sendTcpPacket, h]

/-- The bytes sent on TCP are the buffer's first ones. -/
theorem sendTcpPacket_sent : (sendTcpPacket request t len).2 =
    (sendTcpPacket request t len).1.bytes.read 0 (len + padding len + 4) := by
  simp only [sendTcpPacket, padLoop_eq]

/-- A response that needs no padding is sent as it is behind the header. -/
theorem sendTcpPacket_response (hlen : len % 4 = 0) (h : 20 ≤ len) :
    ∃ header, header.length = 24 ∧
      (sendTcpPacket request t len).2 = header ++ t.bytes.read 24 (len - 20) := by
  have hp : padding len = 0 := by simp only [padding]; omega
  refine ⟨(sendTcpPacket request t len).1.bytes.read 0 24, Memory.length_read, ?_⟩
  rw [sendTcpPacket_sent, hp, show len + 0 + 4 = 24 + (len - 20) by omega, Memory.read_add,
    Nat.zero_add, (sendTcpPacket_bytes le_rfl).read_eq, hp, List.replicate_zero, Memory.write_nil]

/-- What is stored for a send: the header, the padding and the prefix. -/
theorem stores_sendTcpPacket : (sendTcpPacket request t len).1.stores =
    t.stores ++ List.range' (packet 0) 20 ++ List.range' (packet len) (padding len) ++
      List.range' 0 4 := by
  simp only [sendTcpPacket, padLoop_eq, Traced.stores_setWord, Traced.stores_write,
    stores_fillResponseHeader, List.length_replicate]

end

end RidenDongle
