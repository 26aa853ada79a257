import RidenDongle.Scpi.Framing
import RidenDongle.Vxi.Framing
import RidenDongle.Vxi.Port

/-!
# The main loop

The raw socket server, the VXI server and the web page in the order in which `loop`
serves them (`main.cpp`): `riden_scpi.loop`, `vxi_server.loop`, `http_server.loop`,
and again. What the network does to the connections happens in between, at any time.

Every byte carries a ghost label. A byte of a client has its origin (`Origin`): the
connection, the message in it (a line of a raw client, a record of a VXI client, whatever
the VXI server takes for one) and its place in the message. A byte in `vxi_read_buffer`
keeps its origin until another is received or stored over it. A byte that the parser
outputs has the connection whose command it executes.

The fields `origins`, `conns`, `vxiId`, `vxiNext`, `rawNext`, `linked` and
`delivered` are ghost.
-/

namespace RidenDongle

/-- A connection, by its number. -/
inductive Conn
  | raw (id : ℕ)
  | vxi (id : ℕ)
  deriving DecidableEq

/-- Where a byte comes from. -/
structure Origin where
  conn : Conn
  message : ℕ
  index : ℕ
  deriving DecidableEq

/-- A byte and its origin, which it has none of if it is the server's own. -/
abbrev Labelled := Option Origin × UInt8

/-- Where in a message of the connection begins what the parser is to be given: with
    a line itself, and behind the header of a DEV_WRITE. -/
def Conn.start : Conn → ℕ
  | .raw _ => 0
  | .vxi _ => WriteRequest.data

/-- A position in the stream of a raw client. -/
structure Position where
  line : ℕ
  index : ℕ
  deriving DecidableEq

namespace Position

/-- Behind the byte `b`. -/
def next (p : Position) (b : UInt8) : Position :=
  if b = 10 then ⟨p.line + 1, 0⟩ else ⟨p.line, p.index + 1⟩

/-- Behind the bytes `bs`. -/
def after (p : Position) (bs : List UInt8) : Position := bs.foldl next p

end Position

/-- A position in the stream of a VXI client: the message and the place in it, what has
    come of the prefix of a fragment, and how much is to come of the fragment, which may be
    the last one of the message. -/
structure StreamPosition where
  message : ℕ
  index : ℕ
  head : List UInt8
  left : ℕ
  last : Bool

namespace StreamPosition

/-- The beginning of a connection. -/
def start : StreamPosition := ⟨0, 0, [], 0, false⟩

/-- Behind the last fragment of a message begins the next message. -/
def settle (p : StreamPosition) : StreamPosition :=
  if p.left = 0 ∧ p.last then ⟨p.message + 1, 0, [], 0, false⟩ else p

/-- Behind the byte `b`. -/
def next (p : StreamPosition) (b : UInt8) : StreamPosition :=
  if p.left > 0 then settle { p with index := p.index + 1, left := p.left - 1 }
  else
    let head := p.head ++ [b]
    if head.length < 4 then { p with head := head }
    else
      settle { p with
        head := []
        left := prefixLength head
        last := 0x80000000 ≤ Memory.wordOf head 0 }

/-- Behind the bytes `bs`. -/
def after (p : StreamPosition) (bs : List UInt8) : StreamPosition := bs.foldl next p

/-- The origin of the byte that comes next, unless it is one of a prefix. -/
def origin (p : StreamPosition) (id : ℕ) : Option Origin :=
  if p.left > 0 then some ⟨.vxi id, p.message, p.index⟩ else none

/-- A message begins. -/
structure AtStart (p : StreamPosition) : Prop where
  index : p.index = 0
  head : p.head = []
  left : p.left = 0

end StreamPosition

/-- The bytes of the connection from the position `p` on. -/
def label (conn : Conn) : Position → List UInt8 → List Labelled
  | _, [] => []
  | p, b :: bs => (some ⟨conn, p.line, p.index⟩, b) :: label conn (p.next b) bs

/-- The execution of a command of the connection. -/
def Execution.by (ex : Execution UInt8) (conn : Conn) : Execution (Conn × UInt8) :=
  ⟨ex.output.map fun data => data.map (Prod.mk conn), ex.clientGone⟩

/-- `RidenScpi`, on bytes with their labels. -/
abbrev Scpi := RidenScpi Labelled (Conn × UInt8)

/-- `SCPI_handler`, for a request of `conn` in a buffer with these origins. -/
def labelledHandler (origins : ℕ → Option Origin) (conn : Conn) (ex : Execution UInt8) :
    ScpiHandler Scpi where
  write data s :=
    s.write (data.mapIdx fun k b => (origins (packet WriteRequest.data + k), b)) (ex.by conn)
  read maxLen s :=
    let r := s.read maxLen
    (r.1, r.2.1.map Prod.snd, r.2.2)
  claimControl s := s.claimExternalControl
  releaseControl s := s.releaseExternalControl

theorem labelledHandler_write (origins : ℕ → Option Origin) (conn : Conn)
    (ex : Execution UInt8) (data : List UInt8) (s : Scpi) :
    (labelledHandler origins conn ex).write data s =
      s.write (data.mapIdx fun k b => (origins (packet WriteRequest.data + k), b)) (ex.by conn) :=
  rfl

/-- A client that waits to be accepted. -/
structure Peer where
  ip : ℕ
  connected : Bool
  unread : List UInt8

/-- Who is served next. -/
inductive Turn
  | scpi
  | vxi
  | http
  deriving DecidableEq

/-- What the web page can disconnect the clients of. -/
inductive Protocol
  | scpi
  | vxi11
  deriving DecidableEq

namespace Received

variable (r : Received)

/-- The procedure that is asked for, if it is one of the VXI program. -/
def procedure : Option ℕ :=
  if r.len > 0 ∧ r.buffer.word (packet RpcRequest.program) = Rpc.vxi11Core then
    some (r.buffer.word (packet RpcRequest.procedure))
  else none

/-- The data of a DEV_WRITE, as far as the right trim keeps it. -/
def kept : List UInt8 :=
  (r.buffer.read (packet WriteRequest.data)
    (r.buffer.word (packet WriteRequest.dataLen))).rdropWhile isspace

end Received

/-- What a DEV_READ brings to a connection: the output, and the packets that were sent. -/
structure Delivery where
  conn : Conn
  output : List (Conn × UInt8)
  packets : List (List UInt8)

structure Dongle where
  listener : VxiListener Scpi
  turn : Turn
  /-- the origins of the bytes in `vxi_read_buffer` -/
  origins : ℕ → Option Origin
  /-- the numbers given to connections -/
  conns : ℕ
  /-- the number of the connection to the VXI server -/
  vxiId : ℕ
  /-- the position behind what was taken off the connection to the VXI server -/
  vxiNext : StreamPosition
  /-- the position behind the bytes that have come from the raw client -/
  rawNext : Position
  /-- whether the connection to the VXI server has a link -/
  linked : Bool
  /-- what the DEV_READs have brought -/
  delivered : List Delivery

namespace Dongle

/-- The servers after their `begin`. -/
def initial (readBuffer sendBuffer : Memory) (bind : BindServer) (portMin portMax : ℕ) :
    Dongle where
  listener := .start (.start readBuffer sendBuffer .initial) bind portMin portMax
  turn := .scpi
  origins := fun _ => none
  conns := 0
  vxiId := 0
  vxiNext := .start
  rawNext := ⟨0, 0⟩
  linked := false
  delivered := []

variable (d : Dongle)

def scpi : Scpi := d.listener.server.scpi

def setScpi (s : Scpi) : Dongle :=
  { d with listener := { d.listener with server := { d.listener.server with scpi := s } } }

/-! ## The raw socket server -/

/-- A client that waits for the raw socket server, as a connection. -/
def rawClient (p : Peer) : RawClient Labelled :=
  ⟨d.conns, p.ip, p.connected, label (.raw d.conns) ⟨0, 0⟩ p.unread⟩

/-- Whether a client would be accepted by the raw socket server. -/
def acceptsRaw : Bool := !d.scpi.externalControl && d.scpi.client.isNone

/-- `riden_scpi.loop()`. -/
def scpiLoop (new : Option Peer) (ex : Execution UInt8) : Dongle :=
  { d.setScpi (d.scpi.loop (new.map d.rawClient) fun id => ex.by (.raw id)) with
    turn := .vxi
    conns := d.conns + 1
    rawNext :=
      match new with
      | some p => if d.acceptsRaw then Position.after ⟨0, 0⟩ p.unread else d.rawNext
      | none => d.rawNext }

/-- Bytes of the raw client arrive. -/
def rawArrive (bs : List UInt8) : Dongle :=
  match d.scpi.client with
  | some c =>
    { d.setScpi (d.scpi.arrive (label (.raw c.id) d.rawNext bs)) with
      rawNext := d.rawNext.after bs }
  | none => d

/-- The raw client closes the connection; whether the `WiFiClient` is still true is
    up to the network. -/
def rawHangUp (held : Bool) : Dongle :=
  d.setScpi (if held then d.scpi.hangUp else d.scpi.stopClient)

/-! ## The VXI server -/

/-- Whether there is a connected client. -/
def active : Bool := d.listener.client.elim false fun c => c.held && c.connected

/-- The bytes that the VXI server can read. -/
def unread : List UInt8 :=
  if d.active then d.listener.client.elim [] VxiClient.unread else []

/-- What the VXI server receives. -/
def received : Received := getVxiPacket d.listener.server.readBuffer.bytes d.unread

/-- The procedure that the VXI server is asked for by what it receives, if any. -/
def procedure : Option ℕ := if d.active then d.received.procedure else none

/-- The data of a DEV_WRITE that the VXI server receives, as far as the right trim
    keeps it. -/
def kept : List UInt8 := d.received.kept

/-- The origins of the bytes in the buffer once the packet was received. -/
def receivedOrigins (a : ℕ) : Option Origin :=
  if packet 0 ≤ a ∧ a < packet (RidenDongle.received vxiReadSize d.unread).length then
    (d.vxiNext.after (d.unread.take a)).origin d.vxiId
  else d.origins a

/-- `SCPI_handler`, for the packet that is received. -/
def handler (ex : Execution UInt8) : ScpiHandler Scpi :=
  labelledHandler d.receivedOrigins (.vxi d.vxiId) ex

/-- `vxi_server.loop()`. -/
def vxiLoop (stack : List UInt8) (new : Option Peer) (ex : Execution UInt8) : Dongle :=
  let listener := d.listener.loop (d.handler ex) stack
    (new.map fun p => ⟨p.ip, true, p.connected, p.unread⟩)
  let terminators :=
    listener.server.readBuffer.stores.drop d.listener.server.readBuffer.stores.length
  { d with
    listener := listener
    turn := .http
    origins := fun a => if a ∈ terminators then none else d.receivedOrigins a
    conns := d.conns + 1
    vxiId := if d.listener.holds || new.isNone then d.vxiId else d.conns
    vxiNext :=
      if d.active then
        d.vxiNext.after (d.unread.take (d.unread.length - d.received.tcp.length))
      else .start
    linked := d.active && d.procedure != some Rpc.vxi11DestroyLink &&
      (d.linked || d.procedure == some Rpc.vxi11CreateLink)
    delivered := d.delivered ++
      if d.procedure = some Rpc.vxi11DevRead then
        [⟨.vxi d.vxiId, (d.scpi.read 256).2.1,
          listener.server.sent.drop d.listener.server.sent.length⟩]
      else [] }

/-- Bytes of the VXI client arrive. -/
def vxiArrive (bs : List UInt8) : Dongle :=
  { d with
    listener := { d.listener with
      client := d.listener.client.map fun c => { c with unread := c.unread ++ bs } } }

/-- The VXI client closes the connection. -/
def vxiHangUp (held : Bool) : Dongle :=
  { d with
    listener := { d.listener with
      client := d.listener.client.map fun c => { c with connected := false, held := held } } }

/-! ## The web page -/

/-- Whether the web page would disconnect the VXI client at this address. -/
def disconnectsVxi (ip : ℕ) : Prop :=
  ∃ c, d.listener.client = some c ∧ c.held ∧ c.connected ∧ c.ip = ip

/-- `handle_disconnect_client_post`, if that is what `http_server.loop()` serves. -/
def httpLoop (disconnect : Option (Protocol × ℕ)) : Dongle :=
  match disconnect with
  | none => { d with turn := .scpi }
  | some (.scpi, ip) => { d.setScpi (d.scpi.disconnectClient ip) with turn := .scpi }
  | some (.vxi11, ip) =>
    { d with
      turn := .scpi
      listener := d.listener.disconnectClient (d.handler ⟨[], false⟩) ip }

inductive Input
  | scpiLoop (new : Option Peer) (ex : Execution UInt8)
  | vxiLoop (stack : List UInt8) (new : Option Peer) (ex : Execution UInt8)
  | httpLoop (disconnect : Option (Protocol × ℕ))
  | rawArrive (bs : List UInt8)
  | rawHangUp (held : Bool)
  | vxiArrive (bs : List UInt8)
  | vxiHangUp (held : Bool)

/-- The servers are served in turn. -/
def step : Input → Dongle
  | .scpiLoop new ex => if d.turn = .scpi then d.scpiLoop new ex else d
  | .vxiLoop stack new ex => if d.turn = .vxi then d.vxiLoop stack new ex else d
  | .httpLoop disconnect => if d.turn = .http then d.httpLoop disconnect else d
  | .rawArrive bs => d.rawArrive bs
  | .rawHangUp held => d.rawHangUp held
  | .vxiArrive bs => d.vxiArrive bs
  | .vxiHangUp held => d.vxiHangUp held

end Dongle

/-! ## What the VXI server does to the SCPI side -/

namespace VxiServer

variable {σ : Type*} {h : ScpiHandler σ} {v : VxiServer σ} (stack : List UInt8)

theorem scpi_destroyLink : (v.destroyLink h).scpi = h.releaseControl v.scpi := rfl

theorem scpi_refuse (rc : ℕ) : (v.refuse rc).scpi = v.scpi := rfl

/-- What a request does to the SCPI side, by its procedure. -/
theorem scpi_handlePacket (hclaim : (h.claimControl v.scpi).1 = true) :
    (v.handlePacket h stack).1.scpi =
      if v.request RpcRequest.program ≠ Rpc.vxi11Core then v.scpi
      else if v.request RpcRequest.procedure = Rpc.vxi11CreateLink then (h.claimControl v.scpi).2
      else if v.request RpcRequest.procedure = Rpc.vxi11DevRead then (h.read 256 v.scpi).2.2
      else if v.request RpcRequest.procedure = Rpc.vxi11DevWrite then
        h.write ((v.readBuffer.bytes.read (packet WriteRequest.data)
          (v.request WriteRequest.dataLen)).rdropWhile isspace) v.scpi
      else if v.request RpcRequest.procedure = Rpc.vxi11DestroyLink then h.releaseControl v.scpi
      else v.scpi := by
  by_cases hprogram : v.request RpcRequest.program = Rpc.vxi11Core
  · rw [if_neg (not_not.2 hprogram)]
    by_cases hserved : Served (v.request RpcRequest.procedure)
    · rcases hserved with hp | hp | hp | hp
      · rw [handlePacket_createLink stack hprogram hp, if_pos hp, scpi_createLink hclaim]
      · rw [handlePacket_read stack hprogram hp, if_neg (by rw [hp]; decide), if_pos hp]
        rfl
      · rw [handlePacket_write stack hprogram hp, if_neg (by rw [hp]; decide),
          if_neg (by rw [hp]; decide), if_pos hp, scpi_write]
      · rw [handlePacket_destroyLink stack hprogram hp, if_neg (by rw [hp]; decide),
          if_neg (by rw [hp]; decide), if_neg (by rw [hp]; decide), if_pos hp, scpi_destroyLink]
    · rw [handlePacket_procUnavail stack hprogram hserved, scpi_refuse]
      simp only [Served, not_or] at hserved
      rw [if_neg hserved.1, if_neg hserved.2.1, if_neg hserved.2.2.1, if_neg hserved.2.2.2]
  · rw [handlePacket_progUnavail stack hprogram, scpi_refuse, if_pos hprogram]

/-- What a `loop` does to the SCPI side, by what it has received. -/
theorem scpi_handleReceived (hclaim : (h.claimControl v.scpi).1 = true) (r : Received) :
    (v.handleReceived h stack r).1.scpi =
      match r.procedure with
      | none => v.scpi
      | some p =>
        if p = Rpc.vxi11CreateLink then (h.claimControl v.scpi).2
        else if p = Rpc.vxi11DevRead then (h.read 256 v.scpi).2.2
        else if p = Rpc.vxi11DevWrite then h.write r.kept v.scpi
        else if p = Rpc.vxi11DestroyLink then h.releaseControl v.scpi
        else v.scpi := by
  have hreceive : (v.receive r.buffer).scpi = v.scpi := rfl
  by_cases hlen : r.len > 0
  · have hfst : ∀ (v' : VxiServer σ) (close : Bool),
        ((v', close, r.tcp) : VxiServer σ × Bool × List UInt8).1.scpi = v'.scpi := fun _ _ => rfl
    rw [handleReceived_of_pos hlen, hfst,
      scpi_handlePacket (v := v.receive r.buffer) stack (by rw [hreceive]; exact hclaim), hreceive]
    by_cases hprogram : r.buffer.word (packet RpcRequest.program) = Rpc.vxi11Core
    · rw [show r.procedure = some _ from if_pos ⟨hlen, hprogram⟩]
      exact if_neg (not_not.2 hprogram)
    · rw [show r.procedure = none from if_neg fun h => hprogram h.2]
      exact if_pos hprogram
  · rw [handleReceived_of_zero hlen, show r.procedure = none from if_neg fun h => hlen h.1]
    exact hreceive

/-- Which requests close the connection. -/
theorem handleReceived_close_iff (r : Received) :
    (v.handleReceived h stack r).2.1 = true ↔ r.procedure = some Rpc.vxi11DestroyLink := by
  by_cases hlen : r.len > 0
  · rw [handleReceived_close hlen, handlePacket_close, request_receive, request_receive]
    by_cases hprogram : r.buffer.word (packet RpcRequest.program) = Rpc.vxi11Core
    · rw [Received.procedure, if_pos ⟨hlen, hprogram⟩, Option.some_inj, and_iff_right hprogram]
    · rw [Received.procedure, if_neg fun h => hprogram h.2]
      exact iff_of_false (fun h => hprogram h.1) fun h => nomatch h
  · rw [handleReceived_of_zero hlen, Received.procedure, if_neg fun h => hlen h.1]
    exact iff_of_false Bool.false_ne_true fun h => nomatch h

end VxiServer

/-- A record that the buffer holds asks for the procedure that its words say. -/
theorem procedure_record {record : Record} {ws : List ℕ} {bs : List UInt8} {p : ℕ}
    (hbody : record.body = Memory.wordsBytes ws ++ bs) (hpos : 4 < record.body.length)
    (hlen : record.body.length ≤ 252) (hprogram : ws[3]? = some Rpc.vxi11Core)
    (hprocedure : ws[5]? = some p) (hp : p < 2 ^ 32) (m : Memory) (next : List UInt8) :
    (getVxiPacket m (record.bytes ++ next)).procedure = some p := by
  have hreceived : (getVxiPacket m (record.bytes ++ next)).len > 0 := by
    rw [getVxiPacket, getTcpPacket_len, Record.prefixLength_bytes, if_pos hpos]
    exact Nat.lt_min.2 ⟨by omega, by decide⟩
  have hword : ∀ k x, ws[k]? = some x → x < 2 ^ 32 →
      (getVxiPacket m (record.bytes ++ next)).buffer.word (packet (4 * k)) = x :=
    fun k x hk hx => word_getVxiPacket hbody hpos hlen hk hx
  generalize getVxiPacket m (record.bytes ++ next) = r at hreceived hword
  rw [Received.procedure, if_pos ⟨hreceived, hword 3 _ hprogram (by decide)⟩]
  exact congrArg some (hword 5 _ hprocedure hp)

/-- A DEV_WRITE that the buffer holds is received as one, with its data. -/
theorem received_devWrite (w : DevWrite) (frag : Bool) (m : Memory) (next : List UInt8)
    (hn : w.data.length ≤ 192) :
    (getVxiPacket m ((w.record frag).bytes ++ next)).procedure = some Rpc.vxi11DevWrite ∧
      (getVxiPacket m ((w.record frag).bytes ++ next)).kept = w.data.rdropWhile isspace := by
  have hlen : (w.record frag).body.length = 60 + (w.data.length + padding w.data.length) :=
    w.length_body
  have hle : (w.record frag).body.length ≤ 252 := by
    simp only [padding] at hlen
    omega
  refine ⟨@procedure_record (w.record frag) w.header _ _ rfl (by omega) hle rfl rfl (by decide) m next, ?_⟩
  obtain ⟨m', hm'⟩ := @getVxiPacket_buffer (w.record frag) m next (by omega) hle
  have hwlen : (getVxiPacket m ((w.record frag).bytes ++ next)).buffer.word
      (packet WriteRequest.dataLen) = w.data.length :=
    @word_getVxiPacket (w.record frag) m next _ w.header 14 _ rfl (by omega) hle rfl
      (hn.trans_lt (by decide))
  generalize getVxiPacket m ((w.record frag).bytes ++ next) = r at hm' hwlen
  rw [Received.kept, hwlen, hm', show (w.record frag).body = w.body from rfl, w.data_body]

namespace Dongle

variable {d : Dongle} (stack : List UInt8) (new : Option Peer) (ex : Execution UInt8)

theorem active_iff : d.active = true ↔
    ∃ c, d.listener.client = some c ∧ c.held = true ∧ c.connected = true := by
  unfold active
  cases d.listener.client with
  | none => simp
  | some c => simp

/-- A client that has sent more. -/
theorem active_vxiArrive (bs : List UInt8) : (d.vxiArrive bs).active = d.active := by
  change (d.listener.client.map _).elim _ _ = d.listener.client.elim _ _
  cases d.listener.client <;> rfl

theorem active_vxiHangUp (held : Bool) : (d.vxiHangUp held).active = false := by
  change (d.listener.client.map _).elim _ _ = _
  cases d.listener.client with
  | none => rfl
  | some c => exact Bool.and_false held

/-- A connection that is not held is not served. -/
theorem active_of_holds (h : d.listener.holds = false) : d.active = false := by
  by_contra hactive
  obtain ⟨c, hc, hheld, -⟩ := active_iff.1 (eq_true_of_ne_false hactive)
  rw [VxiListener.holds, hc, Option.elim_some, hheld] at h
  cases h

theorem connected_of_inactive (h : d.active = false) (c : VxiClient)
    (hc : d.listener.client = some c) (hheld : c.held = true) : c.connected = false := by
  by_contra hconn
  rw [active_iff.2 ⟨c, hc, hheld, eq_true_of_ne_false hconn⟩] at h
  cases h

/-- The data of a DEV_WRITE, with the origins of its bytes. -/
def writeData (d : Dongle) : List Labelled :=
  d.kept.mapIdx fun k b => (d.receivedOrigins (packet WriteRequest.data + k), b)

theorem length_writeData : d.writeData.length = d.kept.length := List.length_mapIdx

/-- The VXI server handles what it has received. -/
theorem vxiLoop_of_active (hactive : d.active = true) :
    ∃ c, d.listener.client = some c ∧ (d.vxiLoop stack new ex).listener =
      d.listener.handled c (d.listener.server.handleReceived (d.handler ex) stack d.received) := by
  obtain ⟨c, hc, hheld, hconn⟩ := active_iff.1 hactive
  have hunread : d.unread = c.unread := by
    rw [unread, if_pos hactive, hc, Option.elim_some]
  refine ⟨c, hc, ?_⟩
  rw [received, hunread]
  exact VxiListener.loop_of_active hc hheld hconn

/-- What `vxi_server.loop()` does to the SCPI side. -/
theorem scpi_vxiLoop : (d.vxiLoop stack new ex).scpi =
    match d.procedure with
    | none => d.scpi
    | some p =>
      if p = Rpc.vxi11CreateLink then d.scpi.claimExternalControl.2
      else if p = Rpc.vxi11DevRead then (d.scpi.read 256).2.2
      else if p = Rpc.vxi11DevWrite then d.scpi.write d.writeData (ex.by (.vxi d.vxiId))
      else if p = Rpc.vxi11DestroyLink then d.scpi.releaseExternalControl
      else d.scpi := by
  cases hactive : d.active with
  | false =>
    have hserver := (VxiListener.loop_of_inactive (h := d.handler ex) stack
      (new.map fun p => ⟨p.ip, true, p.connected, p.unread⟩) (connected_of_inactive hactive)).1
    rw [show d.procedure = none from if_neg (by rw [hactive]; decide)]
    exact congrArg VxiServer.scpi hserver
  | true =>
    obtain ⟨c, -, hlisten⟩ := vxiLoop_of_active stack new ex hactive
    have hscpi := VxiServer.scpi_handleReceived (h := d.handler ex) (v := d.listener.server) stack
      rfl d.received
    rw [show d.procedure = d.received.procedure from if_pos hactive, scpi, hlisten,
      VxiListener.server_handled, hscpi, handler, labelledHandler_write, writeData, kept]
    cases d.received.procedure with
    | none => rfl
    | some p => rfl

/-- The data of a DEV_WRITE is written. -/
theorem scpi_vxiLoop_write (hproc : d.procedure = some Rpc.vxi11DevWrite) :
    (d.vxiLoop stack new ex).scpi = d.scpi.write d.writeData (ex.by (.vxi d.vxiId)) := by
  rw [scpi_vxiLoop, hproc]
  exact (if_neg (by decide)).trans ((if_neg (by decide)).trans (if_pos rfl))

/-- What `vxi_server.loop()` does to a connected client. -/
theorem client_vxiLoop (hactive : d.active = true) :
    ∃ c rest, d.listener.client = some c ∧ (d.vxiLoop stack new ex).listener.client =
      if d.procedure = some Rpc.vxi11DestroyLink then none
      else some { c with unread := rest } := by
  obtain ⟨c, hc, hlisten⟩ := vxiLoop_of_active stack new ex hactive
  have hclose := VxiServer.handleReceived_close_iff (h := d.handler ex) (v := d.listener.server)
    stack d.received
  refine ⟨c, (d.listener.server.handleReceived (d.handler ex) stack d.received).2.2, hc, ?_⟩
  rw [show d.procedure = d.received.procedure from if_pos hactive, hlisten,
    VxiListener.client_handled]
  exact if_congr hclose rfl rfl

/-- The web page gives control back when it disconnects the VXI client. -/
theorem scpi_httpLoop_vxi11 (ip : ℕ) [Decidable (d.disconnectsVxi ip)] :
    (d.httpLoop (some (.vxi11, ip))).scpi =
      if d.disconnectsVxi ip then d.scpi.releaseExternalControl else d.scpi := by
  have hscpi : (d.httpLoop (some (.vxi11, ip))).scpi =
      (d.listener.disconnectClient (d.handler ⟨[], false⟩) ip).server.scpi := rfl
  rw [hscpi]
  split_ifs with hdisc
  · rw [VxiListener.disconnectClient_of_held hdisc]
    rfl
  · rw [VxiListener.disconnectClient_of_not hdisc]
    rfl

/-! ### Turns -/

theorem run_scpiLoop (hturn : d.turn = .scpi) (new : Option Peer) (ex : Execution UInt8)
    (is : List Input) : Machine.run step d (.scpiLoop new ex :: is) =
      Machine.run step (d.scpiLoop new ex) is := by
  rw [Machine.run_cons, step, if_pos hturn]

theorem run_vxiLoop (hturn : d.turn = .vxi) (is : List Input) :
    Machine.run step d (.vxiLoop stack new ex :: is) =
      Machine.run step (d.vxiLoop stack new ex) is := by
  rw [Machine.run_cons, step, if_pos hturn]

theorem run_httpLoop (hturn : d.turn = .http) (disconnect : Option (Protocol × ℕ))
    (is : List Input) : Machine.run step d (.httpLoop disconnect :: is) =
      Machine.run step (d.httpLoop disconnect) is := by
  rw [Machine.run_cons, step, if_pos hturn]

/-- A DEV_WRITE of one byte. -/
def star : DevWrite where
  xid := 1
  programVersion := 1
  credentialsL := 0
  credentialsH := 0
  verifierL := 0
  verifierH := 0
  linkId := 0
  ioTimeout := 0
  lockTimeout := 0
  flags := 8
  data := [42]
  length_le := by decide

end Dongle

end RidenDongle
