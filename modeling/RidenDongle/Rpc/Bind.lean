import RidenDongle.Rpc.Packets

/-!
# The RPC bind server

The handling of bind requests by `RPC_Bind_Server` (`rpc_bind_server.cpp`), which
tells clients the port that the VXI server listens on. A request comes as a UDP
datagram, in a buffer of its own, or as a record on a TCP connection.
-/

namespace RidenDongle

open Memory

/-- The buffers of `rpc_packets.cpp` for bind requests and responses. -/
structure BindServer where
  udpReadBuffer : Memory
  udpSendBuffer : Traced
  tcpReadBuffer : Memory
  tcpSendBuffer : Traced

/-- What the bind server sees of the VXI server. -/
structure VxiPort where
  available : Bool
  port : ℕ

/-- `VXI_Server::allocate`. -/
def VxiPort.allocate (p : VxiPort) : ℕ := if p.available then p.port else 0

/-- The status and the port that `process_request` responds to the request at `a`. -/
def bindResult (p : VxiPort) (request : Memory) (a : ℕ) : ℕ × ℕ :=
  if request.word (a + RpcRequest.program) ≠ Rpc.portmap then (Rpc.progUnavail, 0)
  else if request.word (a + RpcRequest.procedure) ≠ Rpc.getPort then (Rpc.procUnavail, 0)
  -- not really the appropriate response, but failure has to be signalled somehow
  else if p.allocate = 0 then (Rpc.garbageArgs, p.allocate)
  else (Rpc.success, p.allocate)

/-- `process_request`, for packets at `a` of their buffers. -/
def processRequest (p : VxiPort) (request : Memory) (a : ℕ) (t : Traced) : Traced :=
  let result := bindResult p request a
  t.setWord (a + RpcResponse.rpcStatus) result.1 |>.setWord (a + BindResponse.vxiPort) result.2

namespace BindServer

variable (p : VxiPort) (s : BindServer)

/-- The branch of `loop` for a datagram: the server and the response, if any. -/
def loopUdp (datagram : List UInt8) : BindServer × Option (List UInt8) :=
  let received := getBindPacketUdp s.udpReadBuffer datagram
  let s := { s with udpReadBuffer := received.2 }
  if received.1 > 0 then
    let t := processRequest p s.udpReadBuffer 0 s.udpSendBuffer
    let sending := sendBindPacketUdp s.udpReadBuffer t BindResponse.sizeof
    ({ s with udpSendBuffer := sending.1 }, some sending.2)
  else
    (s, none)

/-- What `loop` does with what it received from a connection. -/
def handleReceived (received : Received) : BindServer × Option (List UInt8) :=
  let s := { s with tcpReadBuffer := received.buffer }
  if received.len > 0 then
    let t := processRequest p s.tcpReadBuffer (packet 0) s.tcpSendBuffer
    let sending := sendBindPacketTcp s.tcpReadBuffer t BindResponse.sizeof
    ({ s with tcpSendBuffer := sending.1 }, some sending.2)
  else
    (s, none)

/-- The branch of `loop` for a connection. -/
def loopTcp (tcp : List UInt8) : BindServer × Option (List UInt8) :=
  s.handleReceived p (getBindPacketTcp s.tcpReadBuffer tcp)

/-- `RPC_Bind_Server::loop`, with the datagram and the connection that wait, if any. -/
def loop (udp : List UInt8) (tcp : Option (List UInt8)) : BindServer × Option (List UInt8) :=
  if p.available then
    -- `udp.parsePacket()` is the length of the datagram
    if udp.length > 0 then s.loopUdp p udp
    else
      match tcp with
      | some tcp => s.loopTcp p tcp
      | none => (s, none)
  else
    -- bind requests are ignored (not read) until the VXI server is available
    (s, none)

variable {p s} {received : Received}

/-- The response to what was received, if anything was. -/
theorem handleReceived_of_pos (hlen : received.len > 0) : (s.handleReceived p received).2 =
    some (sendBindPacketTcp received.buffer
      (processRequest p received.buffer (packet 0) s.tcpSendBuffer) BindResponse.sizeof).2 := by
  rw [handleReceived, if_pos hlen]

theorem handleReceived_of_zero (hlen : ¬received.len > 0) :
    (s.handleReceived p received).2 = none := by
  rw [handleReceived, if_neg hlen]

end BindServer

end RidenDongle
