import RidenDongle.Machine.Run
import RidenDongle.Memory.Leftover
import RidenDongle.Vxi.Bounds

/-!
# The port of the VXI server

Who is connected to the VXI server and on which port it listens: the life of its
`client`, its `tcp_server` and its `vxi_port` (`vxi_server.cpp`, `utilities.h`),
together with the bind server, which tells that port.

* `Cyclic`: the counter that stays inside its range.
* `always_advertised`: the VXI server listens on the value of its counter, and the
  bind server tells that port, and only while there is no client.

The fields `listening` and `replies` are ghost: the port that `tcp_server` listens
on, and the replies of the bind server.
-/

namespace RidenDongle

/-- `cyclic_uint32_t`. -/
structure Cyclic where
  data : ℕ
  start : ℕ
  stop : ℕ
  start_le : start ≤ data
  le_stop : data ≤ stop

namespace Cyclic

/-- The constructor, with no initial value. -/
def ofRange (a b : ℕ) : Cyclic where
  data := min a b
  start := min a b
  stop := max a b
  start_le := le_rfl
  le_stop := by omega

variable (c : Cyclic)

def isNoncyclic : Bool := c.start == c.stop

def gotoNext : Cyclic where
  data := if c.data < c.stop then c.data + 1 else c.start
  start := c.start
  stop := c.stop
  start_le := by
    have := c.start_le
    split_ifs <;> omega
  le_stop := by
    have := c.start_le
    have := c.le_stop
    split_ifs <;> omega

end Cyclic

/-- A connection to the VXI server. It is `held` while the `WiFiClient` is true,
    which it need not be any more once the peer has closed the connection. -/
structure VxiClient where
  ip : ℕ
  held : Bool
  connected : Bool
  unread : List UInt8

/-- A reply of the bind server, with what held when it was sent. -/
structure BindReply where
  tcp : Bool
  bytes : List UInt8
  /-- the port that the VXI server listened on -/
  listening : Option ℕ
  /-- whether the VXI server held a client -/
  held : Bool

/-- The word at `o` of the reply. -/
def BindReply.word (r : BindReply) (o : ℕ) : ℕ :=
  if r.tcp then Memory.wordOf r.bytes (packet o) else Memory.wordOf r.bytes o

def BindReply.status (r : BindReply) : ℕ := r.word RpcResponse.rpcStatus

def BindReply.port (r : BindReply) : ℕ := r.word BindResponse.vxiPort

/-- The VXI server with its connection, and the bind server. -/
structure VxiListener (σ : Type*) where
  server : VxiServer σ
  client : Option VxiClient
  vxiPort : Cyclic
  listening : Option ℕ
  bind : BindServer
  replies : List BindReply

namespace VxiListener

variable {σ : Type*} (h : ScpiHandler σ) (l : VxiListener σ)

/-- `client`, as a truth value. -/
def holds : Bool := l.client.elim false VxiClient.held

/-- `VXI_Server::available` and `VXI_Server::port`. -/
def port : VxiPort := ⟨!l.holds, l.vxiPort.data⟩

/-- `tcp_server.begin(vxi_port)`. -/
def listen : VxiListener σ := { l with listening := some l.vxiPort.data }

/-- `VXI_Server::begin`. -/
def begin (bNext : Bool) : VxiListener σ :=
  if bNext then
    let l := { l with client := none }
    -- no need to change the port, and the rest is already done
    if l.vxiPort.isNoncyclic then l
    else
      let l := { l with listening := none }
      { l with vxiPort := l.vxiPort.gotoNext }.listen
  else l.listen

/-- The servers of a port range, after `VXI_Server::begin`. -/
def start (server : VxiServer σ) (bind : BindServer) (portMin portMax : ℕ) : VxiListener σ :=
  begin ⟨server, none, .ofRange portMin portMax, none, bind, []⟩ false

/-- `VXI_Server::loop`, with the client that waits to be accepted, if any. -/
def loop (stack : List UInt8) (new : Option VxiClient) : VxiListener σ :=
  match l.client with
  | some c =>
    if c.held then
      if !c.connected then l.begin true
      else
        let called := l.server.loop h stack c.unread
        let l := { l with
          server := called.1
          client := some { c with unread := called.2.2 } }
        if called.2.1 then l.begin true else l
    else { l with client := new }
  | none => { l with client := new }

/-- `VXI_Server::disconnect_client`. -/
def disconnectClient (ip : ℕ) : VxiListener σ :=
  match l.client with
  | some c =>
    if c.held ∧ c.connected ∧ c.ip = ip then
      { l with
        client := none
        server := { l.server with scpi := h.releaseControl l.server.scpi } }
    else l
  | none => l

/-- `RPC_Bind_Server::loop`. -/
def bindLoop (udp : List UInt8) (tcp : Option (List UInt8)) : VxiListener σ :=
  let served := l.bind.loop l.port udp tcp
  { l with
    bind := served.1
    replies := l.replies ++
      (served.2.map fun bytes => ⟨udp.isEmpty, bytes, l.listening, l.holds⟩).toList }

/-- What happens to the two servers. -/
inductive Input
  | loop (stack : List UInt8) (new : Option VxiClient)
  /-- bytes of the client arrive -/
  | arrive (bs : List UInt8)
  /-- the client closes the connection; whether it is still held is up to the network -/
  | hangUp (held : Bool)
  | disconnectClient (ip : ℕ)
  | bindLoop (udp : List UInt8) (tcp : Option (List UInt8))

def step : Input → VxiListener σ
  | .loop stack new => l.loop h stack new
  | .arrive bs =>
    { l with client := l.client.map fun c => { c with unread := c.unread ++ bs } }
  | .hangUp held =>
    { l with client := l.client.map fun c => { c with connected := false, held := held } }
  | .disconnectClient ip => l.disconnectClient h ip
  | .bindLoop udp tcp => l.bindLoop udp tcp

/-- What a reply of the bind server tells: the port that was listened on, while
    there was no client, or no port. -/
def Tells (r : BindReply) : Prop :=
  (r.status = Rpc.success → r.listening = some r.port ∧ r.held = false) ∧
  (r.status ≠ Rpc.success → r.port = 0)

/-- The VXI server listens on the value of its counter, which is in the range, and
    the bind server told that. -/
structure Advertised (portMin portMax : ℕ) (l : VxiListener σ) : Prop where
  listening : l.listening = some l.vxiPort.data
  range : min portMin portMax ≤ l.vxiPort.data ∧ l.vxiPort.data ≤ max portMin portMax
  replies : ∀ r ∈ l.replies, Tells r

/-- The invariant: the counter also keeps its bounds. -/
structure Invariant (portMin portMax : ℕ) (l : VxiListener σ) : Prop where
  listening : l.listening = some l.vxiPort.data
  start : l.vxiPort.start = min portMin portMax
  stop : l.vxiPort.stop = max portMin portMax
  replies : ∀ r ∈ l.replies, Tells r

variable {h l} {portMin portMax : ℕ}

theorem Invariant.advertised (hi : Invariant portMin portMax l) :
    Advertised portMin portMax l where
  listening := hi.listening
  range := ⟨hi.start ▸ l.vxiPort.start_le, hi.stop ▸ l.vxiPort.le_stop⟩
  replies := hi.replies

/-! ## The listener -/

/-- The VXI server listens on the value of its counter, which keeps its bounds. -/
structure Listens (portMin portMax : ℕ) (l : VxiListener σ) : Prop where
  listening : l.listening = some l.vxiPort.data
  start : l.vxiPort.start = min portMin portMax
  stop : l.vxiPort.stop = max portMin portMax

theorem Invariant.listens (hi : Invariant portMin portMax l) : Listens portMin portMax l :=
  ⟨hi.listening, hi.start, hi.stop⟩

theorem Listens.invariant (hl : Listens portMin portMax l) (hreplies : ∀ r ∈ l.replies, Tells r) :
    Invariant portMin portMax l :=
  ⟨hl.listening, hl.start, hl.stop, hreplies⟩

/-- What does not concern the listener leaves it as it is. -/
theorem Listens.of_eq {l' : VxiListener σ} (hl : Listens portMin portMax l)
    (hport : l'.vxiPort = l.vxiPort) (hlisten : l'.listening = l.listening) :
    Listens portMin portMax l' where
  listening := by rw [hlisten, hport]; exact hl.listening
  start := by rw [hport]; exact hl.start
  stop := by rw [hport]; exact hl.stop

/-- The next port is listened on, or the only one still is. -/
theorem Listens.begin (hl : Listens portMin portMax l) :
    Listens portMin portMax (l.begin true) := by
  rw [VxiListener.begin, if_pos rfl]
  dsimp only
  split_ifs
  · exact hl.of_eq rfl rfl
  · exact ⟨rfl, hl.start, hl.stop⟩

theorem listens_start (server : VxiServer σ) (bind : BindServer) :
    Listens portMin portMax (start server bind portMin portMax) :=
  ⟨rfl, rfl, rfl⟩

theorem replies_begin : (l.begin true).replies = l.replies := by
  rw [VxiListener.begin, if_pos rfl]
  dsimp only
  split_ifs <;> rfl

/-- A `loop` goes on with its client, ends with `begin`, or takes the next client. -/
theorem loop_cases (h : ScpiHandler σ) (l : VxiListener σ) (stack : List UInt8)
    (new : Option VxiClient) :
    (l.holds = false ∧ l.loop h stack new = { l with client := new }) ∨
    l.holds = true ∧ ∃ l', l'.vxiPort = l.vxiPort ∧ l'.listening = l.listening ∧
      l'.replies = l.replies ∧ l'.holds = true ∧
      (l.loop h stack new = l' ∨ l.loop h stack new = l'.begin true) := by
  unfold VxiListener.loop holds
  cases hc : l.client with
  | none => exact Or.inl ⟨rfl, rfl⟩
  | some c =>
    rw [Option.elim_some]
    dsimp only
    -- what the packet does to the server and to the client is left open
    generalize l.server.loop h stack c.unread = called
    cases hheld : c.held with
    | false => exact Or.inl ⟨rfl, rfl⟩
    | true =>
      refine Or.inr ⟨rfl, ?_⟩
      rw [if_pos rfl]
      split_ifs
      · exact ⟨l, rfl, rfl, rfl, by rw [hc]; exact hheld, Or.inr rfl⟩
      · exact ⟨{ l with
          server := called.1
          client := some { c with unread := called.2.2 } }, rfl, rfl, rfl, hheld, Or.inr rfl⟩
      · exact ⟨{ l with
          server := called.1
          client := some { c with unread := called.2.2 } }, rfl, rfl, rfl, hheld,
          Or.inl (by rw [hheld])⟩

/-- A client at another address is left alone. -/
theorem disconnectClient_of_not {ip : ℕ}
    (hno : ¬∃ c, l.client = some c ∧ c.held ∧ c.connected ∧ c.ip = ip) :
    l.disconnectClient h ip = l := by
  unfold VxiListener.disconnectClient
  cases hc : l.client with
  | none => rfl
  | some c => exact if_neg fun hip => hno ⟨c, hc, hip⟩

theorem disconnectClient_of_held {ip : ℕ}
    (hdisc : ∃ c, l.client = some c ∧ c.held ∧ c.connected ∧ c.ip = ip) :
    l.disconnectClient h ip = { l with
      client := none
      server := { l.server with scpi := h.releaseControl l.server.scpi } } := by
  obtain ⟨c, hc, hip⟩ := hdisc
  unfold VxiListener.disconnectClient
  rw [hc]
  exact if_pos hip

theorem disconnectClient_cases (h : ScpiHandler σ) (l : VxiListener σ) (ip : ℕ) :
    l.disconnectClient h ip = l ∨
    (∃ c, l.client = some c ∧ c.held ∧ c.connected ∧ c.ip = ip) ∧
      l.disconnectClient h ip = { l with
        client := none
        server := { l.server with scpi := h.releaseControl l.server.scpi } } := by
  by_cases hdisc : ∃ c, l.client = some c ∧ c.held ∧ c.connected ∧ c.ip = ip
  · exact Or.inr ⟨hdisc, disconnectClient_of_held hdisc⟩
  · exact Or.inl (disconnectClient_of_not hdisc)

theorem Listens.loop (hl : Listens portMin portMax l) (stack : List UInt8)
    (new : Option VxiClient) : Listens portMin portMax (l.loop h stack new) := by
  rcases loop_cases h l stack new with ⟨-, heq⟩ | ⟨-, l', hport, hlisten, -, -, heq | heq⟩
  · rw [heq]
    exact hl.of_eq rfl rfl
  · rw [heq]
    exact hl.of_eq hport hlisten
  · rw [heq]
    exact (hl.of_eq hport hlisten).begin

theorem Listens.disconnectClient (hl : Listens portMin portMax l) (ip : ℕ) :
    Listens portMin portMax (l.disconnectClient h ip) := by
  rcases disconnectClient_cases h l ip with heq | ⟨-, heq⟩
  · rw [heq]
    exact hl
  · rw [heq]
    exact hl.of_eq rfl rfl

theorem Listens.step (hl : Listens portMin portMax l) (i : Input) :
    Listens portMin portMax (l.step h i) := by
  cases i with
  | loop stack new => exact hl.loop stack new
  | disconnectClient ip => exact hl.disconnectClient ip
  | arrive | hangUp | bindLoop => exact hl.of_eq rfl rfl

theorem replies_loop (h : ScpiHandler σ) (l : VxiListener σ) (stack : List UInt8)
    (new : Option VxiClient) : (l.loop h stack new).replies = l.replies := by
  rcases loop_cases h l stack new with ⟨-, heq⟩ | ⟨-, l', -, -, hreplies, -, heq | heq⟩
  · rw [heq]
  · rw [heq, hreplies]
  · rw [heq, replies_begin, hreplies]

theorem replies_disconnectClient (h : ScpiHandler σ) (l : VxiListener σ) (ip : ℕ) :
    (l.disconnectClient h ip).replies = l.replies := by
  rcases disconnectClient_cases h l ip with heq | ⟨-, heq⟩ <;> rw [heq]

/-! ## The bind server -/

/-- The status and the port of a reply with one field. -/
theorem status_port_replyBody {r : BindReply} {xid status port : ℕ} (hs : status < 2 ^ 32)
    (hp : port < 2 ^ 32)
    (hr : r.bytes = if r.tcp then onTcp (replyBody xid status [port] [])
      else replyBody xid status [port] []) : r.status = status ∧ r.port = port := by
  have hstatus : Memory.wordOf (replyBody xid status [port] []) RpcResponse.rpcStatus = status :=
    wordOf_replyBody (k := 5) rfl hs
  have hport : Memory.wordOf (replyBody xid status [port] []) BindResponse.vxiPort = port :=
    wordOf_replyBody (k := 6) rfl hp
  have hlen : (replyBody xid status [port] []).length = 28 := length_replyBody ..
  rw [BindReply.status, BindReply.port, BindReply.word, BindReply.word, hr]
  split_ifs
  · rw [wordOf_onTcp (by rw [hlen]; decide), wordOf_onTcp (by rw [hlen])]
    exact ⟨hstatus, hport⟩
  · exact ⟨hstatus, hport⟩

theorem bindStatus_lt (request : Memory) (a : ℕ) : bindStatus request a < 2 ^ 32 := by
  unfold bindStatus
  split_ifs <;> decide

/-- What the bind server sends, if anything. -/
theorem reply_cases {s : BindServer} {p : VxiPort} {udp : List UInt8} {tcp : Option (List UInt8)}
    {bytes : List UInt8} (hport : p.port ≠ 0) (hb : (s.loop p udp tcp).2 = some bytes) :
    p.available = true ∧ ∃ xid request a,
      bytes = if udp.isEmpty then onTcp (replyBody xid (bindStatus request a)
          [bindPort p request a] [])
        else replyBody xid (bindStatus request a) [bindPort p request a] [] := by
  -- without a port to tell, `loop` does nothing
  have hav : p.available = true := by
    by_contra hav
    unfold BindServer.loop at hb
    rw [if_neg hav] at hb
    cases hb
  refine ⟨hav, ?_⟩
  cases udp with
  | cons u us =>
    rw [BindServer.replied_loopUdp hav hport (List.cons_ne_nil u us) rfl] at hb
    exact ⟨_, _, _, (Option.some.inj hb).symm⟩
  | nil =>
    cases tcp with
    | none =>
      unfold BindServer.loop at hb
      rw [if_pos hav, if_neg (show ¬([] : List UInt8).length > 0 from Nat.lt_irrefl 0)] at hb
      cases hb
    | some tcp =>
      obtain ⟨r, hr⟩ : ∃ r, getBindPacketTcp s.tcpReadBuffer tcp = r := ⟨_, rfl⟩
      by_cases hlen : r.len > 0
      · rw [BindServer.replied_loopTcp hav hport hr hlen] at hb
        exact ⟨_, _, _, (Option.some.inj hb).symm⟩
      · have hloop : s.loop p [] (some tcp) = s.handleReceived p r := by
          rw [BindServer.loop, if_pos hav,
            if_neg (show ¬([] : List UInt8).length > 0 from Nat.lt_irrefl 0)]
          exact congrArg _ hr
        rw [hloop, BindServer.handleReceived_of_zero hlen] at hb
        cases hb

theorem Invariant.bindLoop (hi : Invariant portMin portMax l)
    (hmin : 1 ≤ portMin ∧ portMin ≤ 65535) (hmax : 1 ≤ portMax ∧ portMax ≤ 65535)
    (udp : List UInt8) (tcp : Option (List UInt8)) :
    Invariant portMin portMax (l.bindLoop udp tcp) := by
  have hrange := hi.advertised.range
  have hport : 1 ≤ l.vxiPort.data ∧ l.vxiPort.data ≤ 65535 := by omega
  refine Listens.invariant (l := l.bindLoop udp tcp) (hi.listens.of_eq rfl rfl) fun r hr => ?_
  rcases List.mem_append.1 hr with hr | hr
  · exact hi.replies r hr
  · rw [Option.mem_toList, Option.map_eq_some_iff] at hr
    obtain ⟨bytes, hb, rfl⟩ := hr
    obtain ⟨hav, xid, request, a, hbytes⟩ := reply_cases (p := l.port)
      (Nat.ne_of_gt hport.1) hb
    have hheld : l.holds = false := by simpa [VxiListener.port] using hav
    have htold : bindPort l.port request a < 2 ^ 32 := by
      unfold bindPort
      split_ifs
      · exact lt_of_le_of_lt hport.2 (by decide)
      · decide
    obtain ⟨hstatus, hp⟩ := status_port_replyBody
      (r := ⟨udp.isEmpty, bytes, l.listening, l.holds⟩) (bindStatus_lt request a) htold hbytes
    rw [Tells, hstatus, hp]
    refine ⟨fun hs => ⟨?_, hheld⟩, fun hs => ?_⟩
    · rw [bindPort, if_pos hs]
      exact hi.listening
    · rw [bindPort, if_neg hs]

theorem Invariant.step (hi : Invariant portMin portMax l)
    (hmin : 1 ≤ portMin ∧ portMin ≤ 65535) (hmax : 1 ≤ portMax ∧ portMax ≤ 65535)
    (i : Input) : Invariant portMin portMax (l.step h i) := by
  cases i with
  | loop stack new =>
    refine (hi.listens.loop stack new).invariant fun r hr => hi.replies r ?_
    rwa [replies_loop] at hr
  | disconnectClient ip =>
    refine (hi.listens.disconnectClient ip).invariant fun r hr => hi.replies r ?_
    rwa [replies_disconnectClient] at hr
  | arrive | hangUp =>
    exact Listens.invariant (l := VxiListener.step h l _) (hi.listens.of_eq rfl rfl) hi.replies
  | bindLoop udp tcp => exact hi.bindLoop hmin hmax udp tcp

/-! ## What becomes of the server -/

section

variable {c : VxiClient} {stack : List UInt8} {new : Option VxiClient}

theorem server_begin (bNext : Bool) : (l.begin bNext).server = l.server := by
  unfold VxiListener.begin
  split_ifs
  · dsimp only
    split_ifs <;> rfl
  · rfl

theorem client_begin : (l.begin true).client = none := by
  rw [VxiListener.begin, if_pos rfl]
  dsimp only
  split_ifs <;> rfl

/-- The end of `loop` with a connected client, from what the server made of a packet. -/
def handled (l : VxiListener σ) (c : VxiClient) (called : VxiServer σ × Bool × List UInt8) :
    VxiListener σ :=
  let l := { l with
    server := called.1
    client := some { c with unread := called.2.2 } }
  if called.2.1 then l.begin true else l

theorem server_handled (called : VxiServer σ × Bool × List UInt8) :
    (l.handled c called).server = called.1 := by
  rw [handled]
  split_ifs
  · exact server_begin true
  · rfl

theorem client_handled (called : VxiServer σ × Bool × List UInt8) :
    (l.handled c called).client =
      if called.2.1 then none else some { c with unread := called.2.2 } := by
  rw [handled]
  split_ifs
  · exact client_begin
  · rfl

theorem loop_of_active (hc : l.client = some c) (hheld : c.held = true)
    (hconn : c.connected = true) :
    l.loop h stack new = l.handled c (l.server.loop h stack c.unread) := by
  unfold VxiListener.loop
  rw [hc]
  exact (if_pos hheld).trans (if_neg (by rw [hconn]; decide))

/-- `loop` with no connected client: none is held, or the next one. -/
theorem loop_of_inactive (stack : List UInt8) (new : Option VxiClient)
    (h' : ∀ c, l.client = some c → c.held = true → c.connected = false) :
    (l.loop h stack new).server = l.server ∧
      (l.loop h stack new).client = if l.holds then none else new := by
  unfold VxiListener.loop VxiListener.holds
  cases hc : l.client with
  | none => exact ⟨rfl, rfl⟩
  | some c =>
    rw [Option.elim_some]
    dsimp only
    cases hheld : c.held with
    | false => exact ⟨rfl, rfl⟩
    | true =>
      rw [if_pos rfl, if_pos rfl, if_pos (by rw [h' c hc hheld]; decide)]
      exact ⟨server_begin true, client_begin⟩

end

/-! ## Inside the arrays -/

section

variable {α β : Type*} [Octet α] {h : ScpiHandler (RidenScpi α β)}
  {l : VxiListener (RidenScpi α β)}
  {write : RidenScpi α β → List UInt8 → RidenScpi.Input α β}

/-- Everything that was stored lies in the arrays. -/
def InArrays (l : VxiListener (RidenScpi α β)) : Prop := l.server.InArrays

instance (l : VxiListener (RidenScpi α β)) : Decidable l.InArrays :=
  inferInstanceAs (Decidable l.server.InArrays)

/-- What a step needs for that: the request that a `loop` comes to fits. -/
def Bounded (h : ScpiHandler (RidenScpi α β))
    (write : RidenScpi α β → List UInt8 → RidenScpi.Input α β) (l : VxiListener (RidenScpi α β)) :
    Input → Prop
  | .loop stack _ => ∀ c r, l.client = some c → c.held = true → c.connected = true →
      getVxiPacket l.server.readBuffer.bytes c.unread = r → r.len > 0 →
        (l.server.receive r.buffer).Bounded h write stack
  | _ => True

/-- Without a connected client nothing is received. -/
theorem bounded_of_inactive {stack : List UInt8} {new : Option VxiClient}
    (hc : ∀ c, l.client = some c → c.connected = false) : l.Bounded h write (.loop stack new) :=
  fun c _ hsome _ hconn _ _ => absurd hconn (by rw [hc c hsome]; decide)

/-- The invariant: what the SCPI server holds of a line is one, too. -/
structure Sound (l : VxiListener (RidenScpi α β)) : Prop where
  inArrays : l.InArrays
  part : l.server.scpi.HoldsPart

theorem sound_start {server : VxiServer (RidenScpi α β)} (hs : server.InArrays)
    (hq : server.scpi.HoldsPart) (bind : BindServer) (portMin portMax : ℕ) :
    (start server bind portMin portMax).Sound :=
  ⟨hs, hq⟩

theorem Sound.of_eq {l' : VxiListener (RidenScpi α β)} (hl : l.Sound)
    (hserver : l'.server = l.server) : l'.Sound where
  inArrays := by rw [InArrays, hserver]; exact hl.inArrays
  part := by rw [hserver]; exact hl.part

theorem Sound.loop (hl : l.Sound) (hd : h.Drives write) {stack : List UInt8}
    {new : Option VxiClient} (hb : l.Bounded h write (.loop stack new)) :
    (l.loop h stack new).Sound := by
  by_cases hactive : ∃ c, l.client = some c ∧ c.held = true ∧ c.connected = true
  · obtain ⟨c, hc, hheld, hconn⟩ := hactive
    rw [loop_of_active hc hheld hconn, VxiServer.loop]
    obtain ⟨r, hr⟩ : ∃ r, getVxiPacket l.server.readBuffer.bytes c.unread = r := ⟨_, rfl⟩
    obtain ⟨hin, hpart⟩ := VxiServer.inArrays_handleReceived hl.inArrays hd hl.part
      (hb c r hc hheld hconn hr)
    rw [hr]
    refine ⟨?_, ?_⟩
    · rw [InArrays, server_handled]
      exact hin
    · rw [server_handled]
      exact hpart
  · refine hl.of_eq (loop_of_inactive stack new fun c hc hheld => ?_).1
    exact eq_false_of_ne_true fun hconn => hactive ⟨c, hc, hheld, hconn⟩

/-- A request that does not fit leaves the arrays. -/
theorem Sound.bounded_of_inArrays (hl : l.Sound) (hd : h.Drives write) {stack : List UInt8}
    (hstack : 256 ≤ stack.length) (new : Option VxiClient)
    (hin : (l.loop h stack new).InArrays) : l.Bounded h write (.loop stack new) := by
  rintro c r hc hheld hconn hr hlen
  rw [loop_of_active hc hheld hconn, VxiServer.loop, InArrays, server_handled, hr] at hin
  by_contra hb
  exact VxiServer.not_inArrays_handleReceived hl.inArrays hd hl.part hstack hlen hb hin

theorem Sound.disconnectClient (hl : l.Sound) (hd : h.Drives write) (ip : ℕ) :
    (l.disconnectClient h ip).Sound := by
  rcases disconnectClient_cases h l ip with heq | ⟨-, heq⟩
  · rw [heq]
    exact hl
  · rw [heq]
    refine ⟨⟨hl.inArrays.1.of_eq rfl rfl rfl, ?_⟩, ?_⟩
    · dsimp only
      rw [hd.releaseControl]
      exact (RidenScpi.inArrays_step_iff hl.part hl.inArrays.2 _).2 ⟨trivial, trivial⟩
    · dsimp only
      rw [hd.releaseControl]
      exact (RidenScpi.step_inputs hl.part _).1

theorem Sound.step (hl : l.Sound) (hd : h.Drives write) {i : Input} (hb : l.Bounded h write i) :
    (l.step h i).Sound := by
  cases i with
  | loop stack new => exact hl.loop hd hb
  | disconnectClient ip => exact hl.disconnectClient hd ip
  | arrive | hangUp | bindLoop => exact hl.of_eq rfl

end

/-! ## Runs -/

/-- The servers, with the parser `parse`. Nothing is known of them once they have left
    the arrays. -/
def straying (parse : RidenScpi UInt8 UInt8 → List UInt8 → Execution UInt8)
    (stray : VxiListener (RidenScpi UInt8 UInt8) → Input → VxiListener (RidenScpi UInt8 UInt8)) :
    VxiListener (RidenScpi UInt8 UInt8) → Input → VxiListener (RidenScpi UInt8 UInt8) :=
  Machine.strayStep (step (scpiHandler parse)) InArrays stray

section

variable {parse : RidenScpi UInt8 UInt8 → List UInt8 → Execution UInt8}
  {stray : VxiListener (RidenScpi UInt8 UInt8) → Input → VxiListener (RidenScpi UInt8 UInt8)}
  {l : VxiListener (RidenScpi UInt8 UInt8)}

/-- The requests that fit keep the servers inside the arrays. -/
theorem Sound.bounded (hl : l.Sound) {i : Input}
    (hb : l.Bounded (scpiHandler parse) (parsed parse) i) :
    (l.step (scpiHandler parse) i).InArrays ∧ (l.step (scpiHandler parse) i).Sound :=
  have hsound := hl.step (drives_scpiHandler parse) hb
  ⟨hsound.inArrays, hsound⟩

theorem invariant_start (server : VxiServer (RidenScpi UInt8 UInt8)) (bind : BindServer)
    (portMin portMax : ℕ) :
    (start server bind portMin portMax).Invariant portMin portMax :=
  (listens_start server bind).invariant (List.forall_mem_nil _)

/-- **The advertised port is the listening port**, in every state that the servers
    reach from `VXI_Server::begin` by requests that fit in the arrays. -/
theorem always_advertised
    (parse : RidenScpi UInt8 UInt8 → List UInt8 → Execution UInt8)
    (stray : VxiListener (RidenScpi UInt8 UInt8) → Input → VxiListener (RidenScpi UInt8 UInt8))
    {server : VxiServer (RidenScpi UInt8 UInt8)} (hs : server.InArrays)
    (hq : server.scpi.HoldsPart) (bind : BindServer) (hmin : 1 ≤ portMin ∧ portMin ≤ 65535)
    (hmax : 1 ≤ portMax ∧ portMax ≤ 65535) {is : List Input}
    (his : Machine.Guarded (straying parse stray) (Bounded (scpiHandler parse) (parsed parse))
      (start server bind portMin portMax) is) :
    Machine.Always (straying parse stray) (Advertised portMin portMax)
      (start server bind portMin portMax) is := by
  have hsound := sound_start hs hq bind portMin portMax
  have hstart := invariant_start server bind portMin portMax
  have hplain := (Machine.guarded_strayStep_iff hsound fun _ _ hl => hl.bounded).1 his
  refine (hplain.always_strayStep_iff hsound fun _ _ hl => hl.bounded).2 ?_
  exact (Machine.always_of_step hstart (fun _ i hi => hi.step hmin hmax i) is).mono
    fun _ hi => hi.advertised

/-- The servers of the range from 9216 to 9217. -/
def twoPorts : VxiListener (RidenScpi UInt8 UInt8) :=
  start (.start (fun _ => 0) (fun _ => 0) .initial)
    ⟨fun _ => 0, .ofMemory fun _ => 0, fun _ => 0, .ofMemory fun _ => 0⟩ 9216 9217

theorem sound_twoPorts : twoPorts.Sound :=
  sound_start (VxiServer.inArrays_start _ _) RidenScpi.holdsPart_initial _ _ _

/-- A connection that the peer drops, and one on which a link is created with a name of
    `nameLen` bytes. -/
def linking (nameLen : ℕ) : List Input :=
  [.loop [] (some ⟨1, true, true, []⟩), .hangUp true, .loop [] none,
    .loop [] (some ⟨2, true, true, (VxiServer.linkRecord nameLen).bytes ++ []⟩)]

theorem guarded_linking (nameLen : ℕ) :
    Machine.Guarded (step (scpiHandler parse)) (Bounded (scpiHandler parse) (parsed parse))
      twoPorts (linking nameLen) :=
  ⟨bounded_of_inactive fun _ hc => absurd hc (Option.some_ne_none _).symm, trivial,
    bounded_of_inactive fun _ hc => congrArg VxiClient.connected (Option.some.inj hc).symm,
    bounded_of_inactive fun _ hc => absurd hc (Option.some_ne_none _).symm, trivial⟩

/-- The servers that have the request for the link. -/
def linked (nameLen : ℕ) : VxiListener (RidenScpi UInt8 UInt8) :=
  Machine.run (step (scpiHandler fun _ _ => ⟨[], false⟩)) twoPorts (linking nameLen)

theorem sound_linked (nameLen : ℕ) : (linked nameLen).Sound :=
  (guarded_linking nameLen).run sound_twoPorts fun _ _ hl hb => (hl.bounded hb).2

/-- The request fits exactly if the name does. -/
theorem bounded_linked_iff {nameLen : ℕ} (hname : nameLen < 2 ^ 32) {stack : List UInt8}
    {new : Option VxiClient} :
    (linked nameLen).Bounded (scpiHandler parse) (parsed parse) (.loop stack new) ↔
      nameLen < 196 := by
  have hclient : (linked nameLen).client =
      some ⟨2, true, true, (VxiServer.linkRecord nameLen).bytes ++ []⟩ := rfl
  have hlen : ∀ m, (getVxiPacket m ((VxiServer.linkRecord nameLen).bytes ++ [])).len > 0 := by
    have hbody : (VxiServer.linkRecord nameLen).body.length = 56 := Memory.length_wordsBytes _
    intro m
    rw [getVxiPacket, getTcpPacket_len, Record.prefixLength_bytes, hbody]
    decide
  constructor
  · intro hb
    exact (VxiServer.bounded_linkRecord_iff (drives_scpiHandler parse) hname).1
      (hb _ _ hclient rfl rfl rfl (hlen _))
  · rintro hfits c _ hc - - rfl -
    rw [hclient] at hc
    obtain rfl := Option.some.inj hc
    exact (VxiServer.bounded_linkRecord_iff (drives_scpiHandler parse) hname).2 hfits

/-- A link without a name, on a range of two ports. -/
theorem always_advertised_twoPorts :
    Machine.Always (straying (fun _ _ => ⟨[], false⟩) fun l _ => l) (Advertised 9216 9217)
      (start (.start (fun _ => 0) (fun _ => 0) .initial)
        ⟨fun _ => 0, .ofMemory fun _ => 0, fun _ => 0, .ofMemory fun _ => 0⟩ 9216 9217)
      (linking 0 ++ [.loop [] none]) := by
  refine always_advertised _ _ (VxiServer.inArrays_start _ _) RidenScpi.holdsPart_initial _
    ⟨by decide, by decide⟩ ⟨by decide, by decide⟩ ?_
  refine (Machine.guarded_strayStep_iff sound_twoPorts fun _ _ hl => hl.bounded).2 ?_
  exact (guarded_linking 0).append ⟨(bounded_linked_iff (by decide)).2 (by decide), trivial⟩

/-- A step out of the arrays by which the counter loses the low byte of 9217, and that
    leaves the port that is listened on. -/
def clearsPort (l : VxiListener (RidenScpi UInt8 UInt8)) (i : Input) :
    VxiListener (RidenScpi UInt8 UInt8) :=
  { l.step (scpiHandler fun _ _ => ⟨[], false⟩) i with
    vxiPort := ⟨9216, 9216, 9217, le_rfl, by decide⟩
    listening := l.listening }

/-- The NUL behind a name of 19940 bytes, where that is the place of the counter. -/
theorem not_advertised_overlong :
    ¬Machine.Always (straying (fun _ _ => ⟨[], false⟩) clearsPort) (Advertised 9216 9217) twoPorts
      (linking 19940 ++ [.loop (List.replicate 256 0) none]) := by
  intro h
  have hrun : Machine.run (straying (fun _ _ => ⟨[], false⟩) clearsPort) twoPorts
      (linking 19940) = linked 19940 :=
    (guarded_linking 19940).run_strayStep sound_twoPorts fun _ _ hl => hl.bounded
  -- the terminator of the name is outside the read buffer
  have hlost : ¬((linked 19940).step (scpiHandler fun _ _ => ⟨[], false⟩)
      (.loop (List.replicate 256 0) none)).InArrays := by
    intro hin
    have hb := (sound_linked 19940).bounded_of_inArrays (drives_scpiHandler _)
      List.length_replicate.ge none hin
    exact absurd ((bounded_linked_iff (by decide)).1 hb) (by decide)
  have hlast := h.append_right.last
  rw [hrun, Machine.run_cons, straying, Machine.strayStep_of_not_lawful hlost] at hlast
  have hlistening : (some 9217 : Option ℕ) = some 9216 := hlast.listening
  exact absurd hlistening (by decide)

end

end VxiListener

end RidenDongle
