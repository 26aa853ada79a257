import RidenDongle.Rpc.Packets
import RidenDongle.Scpi.Basic

/-!
# The VXI server, on its packet buffers

The handling of VXI requests by `VXI_Server` (`vxi_server.h`,
`vxi_server.cpp`): one request is decoded from `vxi_read_buffer`, acts on the
SCPI side through `SCPI_handler_interface`, and is answered from
`vxi_send_buffer`. Who is connected, and on which port, is left to
`RidenDongle.Main.Loop`.

What the handlers access through the `data` member of a request is recorded in
the read buffer, and what they store in the send buffer is recorded there. The
local array `outbuffer` of `read` is not initialised: `stack` is the memory
from its first byte on, which holds anything.

An access past the end of a buffer is recorded, but reaches nothing else: what lies
there, and where the address of such a store wraps around to, is not known. The states
behind a request with such an access are thus only those that may come of it, and
`RidenDongle.Vxi.Bounds` says which requests have none.
-/

namespace RidenDongle

/-- `SCPI_handler_interface`, on SCPI states `σ`. -/
structure ScpiHandler (σ : Type*) where
  /-- `write(data, len)`. -/
  write : List UInt8 → σ → σ
  /-- `read(data, &len, max_len)`: the result and the bytes copied to `data`. -/
  read : ℕ → σ → ScpiResult × List UInt8 × σ
  claimControl : σ → Bool × σ
  releaseControl : σ → σ

/-- `SCPI_handler` (`scpi_bridge.h`): the interface to `RidenScpi`, where `parse`
    is what the parser does with a line. -/
def scpiHandler (parse : RidenScpi UInt8 UInt8 → List UInt8 → Execution UInt8) :
    ScpiHandler (RidenScpi UInt8 UInt8) where
  write data s := s.write data (parse s data)
  read maxLen s := s.read maxLen
  claimControl s := s.claimExternalControl
  releaseControl s := s.releaseExternalControl

/-- `isspace`, in the C locale. -/
def isspace (b : UInt8) : Bool := b = 32 || (9 ≤ b && b ≤ 13)

/-- The right trim loop of `VXI_Server::write`, over the data at `a`: it loads a
    byte before it drops or keeps it. -/
def rightTrim (t : Traced) (a : ℕ) : ℕ → ℕ × Traced
  | 0 => (0, t)
  | len + 1 =>
    if isspace (t.bytes (a + len)) then rightTrim (t.load (a + len)) a len
    else (len + 1, t.load (a + len))

structure VxiServer (σ : Type*) where
  /-- `vxi_read_buffer`. -/
  readBuffer : Traced
  /-- `vxi_send_buffer`. -/
  sendBuffer : Traced
  scpi : σ
  /-- What was sent to the client, the latest packet last. -/
  sent : List (List UInt8)

namespace VxiServer

variable {σ : Type*}

/-- A server with these buffers, of which no access was recorded yet. -/
def start (readBuffer sendBuffer : Memory) (scpi : σ) : VxiServer σ :=
  ⟨.ofMemory readBuffer, .ofMemory sendBuffer, scpi, []⟩

variable (h : ScpiHandler σ) (v : VxiServer σ)

/-- A field of the request in `vxi_read_buffer`. -/
def request (field : ℕ) : ℕ := v.readBuffer.bytes.word (packet field)

/-- The assignment of a field of the response. -/
def respond (field w : ℕ) : VxiServer σ :=
  { v with sendBuffer := v.sendBuffer.setWord (packet field) w }

/-- `send_vxi_packet(client, len)`. -/
def send (len : ℕ) : VxiServer σ :=
  let sending := sendVxiPacket v.readBuffer.bytes v.sendBuffer len
  { v with sendBuffer := sending.1, sent := v.sent ++ [sending.2] }

@[simp] theorem readBuffer_start (m r : Memory) (s : σ) :
    (start m r s).readBuffer = .ofMemory m := rfl

@[simp] theorem scpi_start (m r : Memory) (s : σ) : (start m r s).scpi = s := rfl

theorem request_start (m r : Memory) (s : σ) (field : ℕ) :
    (start m r s).request field = m.word (packet field) := rfl

@[simp] theorem readBuffer_respond (field w : ℕ) : (v.respond field w).readBuffer = v.readBuffer :=
  rfl

@[simp] theorem sendBuffer_respond (field w : ℕ) :
    (v.respond field w).sendBuffer = v.sendBuffer.setWord (packet field) w := rfl

@[simp] theorem scpi_respond (field w : ℕ) : (v.respond field w).scpi = v.scpi := rfl

@[simp] theorem sent_respond (field w : ℕ) : (v.respond field w).sent = v.sent := rfl

@[simp] theorem readBuffer_send (len : ℕ) : (v.send len).readBuffer = v.readBuffer := rfl

@[simp] theorem scpi_send (len : ℕ) : (v.send len).scpi = v.scpi := rfl

@[simp] theorem sent_send (len : ℕ) : (v.send len).sent =
    v.sent ++ [(sendVxiPacket v.readBuffer.bytes v.sendBuffer len).2] := rfl

/-! ## Procedures -/

/-- `create_link`. The NUL goes behind the name, wherever `data_len` says that it ends:
    perhaps outside the buffer, and then outside this model, as is a place that is only
    found by an address that wraps. -/
def createLink : VxiServer σ :=
  let (claimed, scpi) := h.claimControl v.scpi
  let v := { v with scpi := scpi }
  if !claimed then
    v.respond RpcResponse.rpcStatus Rpc.success
      |>.respond CreateResponse.error Rpc.outOfResources
      |>.respond CreateResponse.linkId 0
      |>.respond CreateResponse.abortPort 0
      |>.respond CreateResponse.maxReceiveSize 0
      |>.send CreateResponse.sizeof
  else
    let terminator := packet CreateRequest.data + v.request CreateRequest.dataLen
    let v := { v with readBuffer := v.readBuffer.store terminator 0 }
    v.respond RpcResponse.rpcStatus Rpc.success
      |>.respond CreateResponse.error Rpc.noError
      |>.respond CreateResponse.linkId 0
      |>.respond CreateResponse.abortPort 0
      |>.respond CreateResponse.maxReceiveSize (vxiReadSize - 4)
      |>.send CreateResponse.sizeof

/-- `destroy_link`. -/
def destroyLink : VxiServer σ :=
  let v := v.respond RpcResponse.rpcStatus Rpc.success
    |>.respond DestroyResponse.error Rpc.noError
    |>.send DestroyResponse.sizeof
  { v with scpi := h.releaseControl v.scpi }

/-- `strcpy(read_response->data, outbuffer)`, from the memory at `outbuffer`. What does not
    fit in the send buffer runs over into what lies behind it, outside this model. -/
def strcpyData (stack : List UInt8) : VxiServer σ :=
  { v with sendBuffer := v.sendBuffer.write (packet ReadResponse.data) (nulString stack ++ [0]) }

/-- `read`. -/
def read (stack : List UInt8) : VxiServer σ :=
  let (_, data, scpi) := h.read 256 v.scpi
  let v := { v with scpi := scpi }
  let stack := data ++ stack.drop data.length
  let v := v.respond RpcResponse.rpcStatus Rpc.success
    |>.respond ReadResponse.error Rpc.noError
    |>.respond ReadResponse.reason Rpc.endReason
    |>.respond ReadResponse.dataLen data.length
  (v.strcpyData stack).send (ReadResponse.sizeof + data.length)

/-- `write`. The NUL goes behind the data, as in `create_link`. -/
def write : VxiServer σ :=
  let data := packet WriteRequest.data
  let wlen := v.request WriteRequest.dataLen
  let trimmed := rightTrim v.readBuffer data wlen
  let len := trimmed.1
  let t := trimmed.2.store (data + len) 0
  let scpi := h.write (t.bytes.read data len) v.scpi
  let v := { v with readBuffer := t.loadRange data len, scpi := scpi }
  v.respond RpcResponse.rpcStatus Rpc.success
    |>.respond WriteResponse.error Rpc.noError
    |>.respond WriteResponse.size wlen -- with the original length
    |>.send WriteResponse.sizeof

/-- The end of `handle_packet` for a request that was not served. -/
def refuse (rc : ℕ) : VxiServer σ :=
  (v.respond RpcResponse.rpcStatus rc).send RpcResponse.sizeof

/-- `handle_packet`: the server, and whether to close the connection. -/
def handlePacket (stack : List UInt8) : VxiServer σ × Bool :=
  if v.request RpcRequest.program ≠ Rpc.vxi11Core then (v.refuse Rpc.progUnavail, false)
  else if v.request RpcRequest.procedure = Rpc.vxi11CreateLink then (v.createLink h, false)
  else if v.request RpcRequest.procedure = Rpc.vxi11DevRead then (v.read h stack, false)
  else if v.request RpcRequest.procedure = Rpc.vxi11DevWrite then (v.write h, false)
  else if v.request RpcRequest.procedure = Rpc.vxi11DestroyLink then (v.destroyLink h, true)
  else (v.refuse Rpc.procUnavail, false)

/-- The server with what a receive function left in the read buffer. -/
def receive (m : Memory) : VxiServer σ := { v with readBuffer := { v.readBuffer with bytes := m } }

/-- What `loop` does with what it received. -/
def handleReceived (stack : List UInt8) (r : Received) : VxiServer σ × Bool × List UInt8 :=
  let v := v.receive r.buffer
  if r.len > 0 then
    let handled := v.handlePacket h stack
    (handled.1, handled.2, r.tcp)
  else
    (v, false, r.tcp)

/-- The branch of `VXI_Server::loop` for a connected client: the server, whether
    it closes the connection, and what is left of the connection. -/
def loop (stack : List UInt8) (tcp : List UInt8) : VxiServer σ × Bool × List UInt8 :=
  v.handleReceived h stack (getVxiPacket v.readBuffer.bytes tcp)

variable {h v} {stack : List UInt8} {r : Received}

theorem handleReceived_of_pos (hlen : r.len > 0) : v.handleReceived h stack r =
    (((v.receive r.buffer).handlePacket h stack).1, ((v.receive r.buffer).handlePacket h stack).2,
      r.tcp) := by
  rw [handleReceived, if_pos hlen]

theorem handleReceived_of_zero (hlen : ¬r.len > 0) :
    v.handleReceived h stack r = (v.receive r.buffer, false, r.tcp) := by
  rw [handleReceived, if_neg hlen]

theorem handleReceived_close (hlen : r.len > 0) :
    (v.handleReceived h stack r).2.1 = ((v.receive r.buffer).handlePacket h stack).2 :=
  have hsnd : ∀ (v : VxiServer σ) (close : Bool), (v, close, r.tcp).2.1 = close := fun _ _ => rfl
  (congrArg (fun handled : VxiServer σ × Bool × List UInt8 => handled.2.1)
    (handleReceived_of_pos hlen)).trans (hsnd _ _)

/-- What holds of the server that has received a packet, and of what a handler makes of
    it, holds at the end of `loop`. -/
theorem of_handleReceived {P : VxiServer σ → Prop}
    (hpos : r.len > 0 → P ((v.receive r.buffer).handlePacket h stack).1)
    (hzero : ¬r.len > 0 → P (v.receive r.buffer)) : P (v.handleReceived h stack r).1 := by
  have hfst : ∀ (v : VxiServer σ) (close : Bool), (v, close, r.tcp).1 = v := fun _ _ => rfl
  by_cases hlen : r.len > 0
  · rw [handleReceived_of_pos hlen, hfst]
    exact hpos hlen
  · rw [handleReceived_of_zero hlen, hfst]
    exact hzero hlen

theorem handleReceived_tcp : (v.handleReceived h stack r).2.2 = r.tcp := by
  by_cases hlen : r.len > 0
  · rw [handleReceived_of_pos hlen]
  · rw [handleReceived_of_zero hlen]

end VxiServer

end RidenDongle
