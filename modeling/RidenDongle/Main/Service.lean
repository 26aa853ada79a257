import RidenDongle.Main.Loop
import RidenDongle.Vxi.Session

/-!
# The service of the VXI server

The VXI server as its clients see it: requests instead of bytes, answers instead of
packets.

* `Service`: the connection with its requests, the SCPI side, and the answers given.
* `follows_service`: along every run, the listener on the bytes follows the service.
* `answers_dialogue`: how the requests of a connection are cut does not matter.
-/

namespace RidenDongle

/-- What happens to the listener, or else to the SCPI side. -/
inductive VxiListener.Event (σ : Type*)
  | input (i : VxiListener.Input)
  | elsewhere (f : σ → σ)

/-- The listener beside what else happens to the SCPI side. -/
def VxiListener.stepEvent {σ : Type*} (h : ScpiHandler σ) (l : VxiListener σ) :
    VxiListener.Event σ → VxiListener σ
  | .input i => l.step h i
  | .elsewhere f => { l with server := { l.server with scpi := f l.server.scpi } }

/-! ## The service -/

/-- A connection, with the requests on it that were not served yet. -/
structure Session where
  ip : ℕ
  held : Bool
  connected : Bool
  queue : List Request

/-- The bytes of requests. -/
def Request.stream (rs : List Request) : List UInt8 := RidenDongle.stream (rs.map Request.record)

theorem Request.stream_cons (r : Request) (rs : List Request) :
    Request.stream (r :: rs) = r.record.bytes ++ Request.stream rs := rfl

theorem Request.stream_append (rs rs' : List Request) :
    Request.stream (rs ++ rs') = Request.stream rs ++ Request.stream rs' := by
  rw [Request.stream, List.map_append]
  exact List.flatMap_append

/-- The connection with the bytes of its requests. -/
def Session.client (c : Session) : VxiClient := ⟨c.ip, c.held, c.connected, Request.stream c.queue⟩

/-- The VXI server, as its clients see it. -/
structure Service (σ : Type*) where
  scpi : σ
  session : Option Session
  /-- the answers that were given, each with the xid of its request, the latest last -/
  answers : List (ℕ × Answer)

namespace Service

variable {σ : Type*} (h : ScpiHandler σ) (s : Service σ)

/-- The first request of the connection is served. -/
def serveFirst (c : Session) : Service σ :=
  match c.queue with
  | [] => s
  | r :: rs =>
    let served := serve h s.scpi r.operation
    { scpi := served.2
      session := if r.operation.closes then none else some { c with queue := rs }
      answers := s.answers ++ [(r.xid, served.1)] }

/-- `VXI_Server::loop`. -/
def loop (new : Option Session) : Service σ :=
  match s.session with
  | some c =>
    if c.held then
      if !c.connected then { s with session := none } else s.serveFirst h c
    else { s with session := new }
  | none => { s with session := new }

/-- `VXI_Server::disconnect_client`. -/
def disconnectClient (ip : ℕ) : Service σ :=
  match s.session with
  | some c =>
    if c.held ∧ c.connected ∧ c.ip = ip then
      { s with session := none, scpi := h.releaseControl s.scpi }
    else s
  | none => s

/-- What happens to the servers, where clients send requests. -/
inductive Input (σ : Type*)
  | loop (stack : List UInt8) (new : Option Session)
  | arrive (rs : List Request)
  | hangUp (held : Bool)
  | disconnectClient (ip : ℕ)
  | bindLoop (udp : List UInt8) (tcp : Option (List UInt8))
  /-- what else happens to the SCPI side, as by `riden_scpi.loop` -/
  | elsewhere (f : σ → σ)

/-- The same on the bytes of the requests. -/
def Input.bytes : Input σ → VxiListener.Event σ
  | loop stack new => .input (.loop stack (new.map Session.client))
  | arrive rs => .input (.arrive (Request.stream rs))
  | hangUp held => .input (.hangUp held)
  | disconnectClient ip => .input (.disconnectClient ip)
  | bindLoop udp tcp => .input (.bindLoop udp tcp)
  | elsewhere f => .elsewhere f

def step : Input σ → Service σ
  | .loop _ new => s.loop h new
  | .arrive rs => { s with session := s.session.map fun c => { c with queue := c.queue ++ rs } }
  | .hangUp held =>
    { s with session := s.session.map fun c => { c with connected := false, held := held } }
  | .disconnectClient ip => s.disconnectClient h ip
  | .bindLoop _ _ => s
  | .elsewhere f => { s with scpi := f s.scpi }

/-- The request that a `loop` comes to can be served. -/
def Ok : Input σ → Prop
  | .loop stack _ => ∀ c r rs, s.session = some c → c.held = true → c.connected = true →
      c.queue = r :: rs → Servable h s.scpi stack r.operation
  | _ => True

end Service

namespace VxiListener

variable {σ : Type*} {h : ScpiHandler σ} {l : VxiListener σ} {s : Service σ}

/-- The listener behaves as the service does: it has the same SCPI side, the client
    with the bytes of the requests, and sent the packets of the answers; and it stayed
    inside its buffers. -/
structure Follows (l : VxiListener σ) (s : Service σ) : Prop where
  scpi : l.server.scpi = s.scpi
  client : l.client = s.session.map Session.client
  sent : l.server.sent = s.answers.map fun a => a.2.packet a.1
  inside : l.server.Inside

/-- What does neither concern the server nor the connection. -/
theorem Follows.of_eq {l' : VxiListener σ} (hf : l.Follows s) (hserver : l'.server = l.server)
    (hclient : l'.client = l.client) : l'.Follows s where
  scpi := by rw [hserver]; exact hf.scpi
  client := by rw [hclient]; exact hf.client
  sent := by rw [hserver]; exact hf.sent
  inside := by rw [hserver]; exact hf.inside

/-- Another connection, or none any more. -/
theorem Follows.setSession {l' : VxiListener σ} (hf : l.Follows s) (hserver : l'.server = l.server)
    {new : Option Session} (hclient : l'.client = new.map Session.client) :
    l'.Follows { s with session := new } where
  scpi := by rw [hserver]; exact hf.scpi
  client := hclient
  sent := by rw [hserver]; exact hf.sent
  inside := by rw [hserver]; exact hf.inside

/-- The first request is served. -/
theorem Follows.serveFirst (hf : l.Follows s) (stack : List UInt8) (new : Option VxiClient)
    {c : Session} (hc : s.session = some c) (hheld : c.held = true) (hconn : c.connected = true)
    (hok : ∀ r rs, c.queue = r :: rs → Servable h s.scpi stack r.operation) :
    (l.loop h stack new).Follows (s.serveFirst h c) := by
  have hclient : l.client = some c.client := by rw [hf.client, hc, Option.map_some]
  have hloop : l.loop h stack new =
      l.handled c.client (l.server.loop h stack (Request.stream c.queue)) :=
    loop_of_active hclient hheld hconn
  rw [hloop, Service.serveFirst]
  cases hq : c.queue with
  | nil =>
    -- nothing has come, and only the read buffer may change
    obtain ⟨m, hm⟩ := @VxiServer.loop_idle _ h l.server stack
    rw [show Request.stream [] = [] from rfl, hm]
    have hidle : s.session.map Session.client = some { c.client with unread := [] } := by
      rw [hc, Option.map_some, Session.client, hq]
      rfl
    exact ⟨hf.scpi, hidle.symm, hf.sent, hf.inside.receive m⟩
  | cons r rs =>
    -- the bytes of the first request are received, and those of the others left
    have hok' := hok r rs hq
    rw [← hf.scpi] at hok'
    obtain ⟨hserves, hrest⟩ := VxiServer.loop_serves r (Request.stream rs) hok'
    rw [Request.stream_cons]
    dsimp only
    refine ⟨?_, ?_, ?_, ?_⟩
    · rw [server_handled, hserves.scpi, hf.scpi]
    · rw [client_handled, hrest]
      cases r.operation.closes <;> rfl
    · rw [server_handled, hserves.sent, hf.sent, hf.scpi, List.map_append]
      rfl
    · rw [server_handled]
      exact hserves.inside hf.inside

theorem Follows.loop (hf : l.Follows s) {stack : List UInt8} {new : Option Session}
    (hok : s.Ok h (.loop stack new)) :
    (l.loop h stack (new.map Session.client)).Follows (s.loop h new) := by
  cases hc : s.session with
  | none =>
    have hclient : l.client = none := by rw [hf.client, hc, Option.map_none]
    obtain ⟨hserver, hnew⟩ := loop_of_inactive (h := h) stack (new.map Session.client)
      (l := l) fun c hc' => by rw [hclient] at hc'; cases hc'
    rw [holds, hclient, Option.elim_none, if_neg Bool.false_ne_true] at hnew
    simp only [Service.loop, hc]
    exact hf.setSession hserver hnew
  | some c =>
    have hclient : l.client = some c.client := by rw [hf.client, hc, Option.map_some]
    have hholds : l.holds = c.held := by rw [holds, hclient, Option.elim_some]; rfl
    by_cases hactive : c.held = true ∧ c.connected = true
    · have hserved := hf.serveFirst (h := h) stack (new.map Session.client) hc hactive.1 hactive.2
        fun r rs => hok c r rs hc hactive.1 hactive.2
      simpa only [Service.loop, hc, hactive, if_true, Bool.not_true, Bool.false_eq_true, if_false]
        using hserved
    · obtain ⟨hserver, hnew⟩ := loop_of_inactive (h := h) stack (new.map Session.client)
        (l := l) fun c' hc' hheld => by
          rw [hclient, Option.some_inj] at hc'
          subst hc'
          exact eq_false_of_ne_true fun hconn => hactive ⟨hheld, hconn⟩
      rw [hholds] at hnew
      cases hheld : c.held with
      | false =>
        rw [hheld, if_neg Bool.false_ne_true] at hnew
        simp only [Service.loop, hc, hheld, Bool.false_eq_true, if_false]
        exact hf.setSession hserver hnew
      | true =>
        rw [hheld, if_pos rfl] at hnew
        have hconn : c.connected = false := eq_false_of_ne_true fun hconn => hactive ⟨hheld, hconn⟩
        simp only [Service.loop, hc, hheld, hconn, Bool.not_false, if_true]
        exact hf.setSession hserver hnew

theorem Follows.disconnectClient (hf : l.Follows s) (ip : ℕ) :
    (l.disconnectClient h ip).Follows (s.disconnectClient h ip) := by
  unfold Service.disconnectClient VxiListener.disconnectClient
  cases hc : s.session with
  | none =>
    rw [hf.client, hc]
    exact hf
  | some c =>
    rw [hf.client, hc, Option.map_some]
    dsimp only
    rw [Session.client]
    split_ifs
    · exact ⟨congrArg h.releaseControl hf.scpi, rfl, hf.sent, hf.inside.of_eq rfl rfl rfl⟩
    · exact hf

/-- Each step of the listener is a step of the service. -/
theorem Follows.step (hf : l.Follows s) {i : Service.Input σ} (hok : s.Ok h i) :
    (l.stepEvent h i.bytes).Follows (s.step h i) := by
  cases i with
  | loop stack new => exact hf.loop hok
  | arrive rs =>
    refine ⟨hf.scpi, ?_, hf.sent, hf.inside⟩
    change l.client.map _ = (s.session.map _).map Session.client
    rw [hf.client, Option.map_map, Option.map_map]
    congr 1
    funext c
    simp only [Function.comp_apply, Session.client, Request.stream_append]
  | hangUp held =>
    refine ⟨hf.scpi, ?_, hf.sent, hf.inside⟩
    change l.client.map _ = (s.session.map _).map Session.client
    rw [hf.client, Option.map_map, Option.map_map]
    rfl
  | disconnectClient ip => exact hf.disconnectClient ip
  | bindLoop udp tcp => exact hf.of_eq rfl rfl
  | elsewhere f => exact ⟨congrArg f hf.scpi, hf.client, hf.sent, hf.inside.of_eq rfl rfl rfl⟩

/-- A run of the listener follows one of the service. -/
theorem Follows.run (hf : l.Follows s) {is : List (Service.Input σ)}
    (his : Machine.Guarded (Service.step h) (Service.Ok h) s is) :
    (Machine.run (stepEvent h) l (is.map Service.Input.bytes)).Follows
      (Machine.run (Service.step h) s is) :=
  Machine.related_of_guarded Service.Input.bytes his hf fun _ _ _ hf hok => hf.step hok

/-- The servers after their `begin`. -/
theorem follows_start (m r : Memory) (scpi : σ) (bind : BindServer) (portMin portMax : ℕ) :
    (start (.start m r scpi) bind portMin portMax).Follows ⟨scpi, none, []⟩ where
  scpi := rfl
  client := rfl
  sent := rfl
  inside := VxiServer.inside_start m r scpi

/-- **The VXI server on the bytes follows the service.** The requests are those that the
    read buffer has room for (`Operation.Fits`), and what a read finds can be sent
    (`Readable`): it has no NUL, and there is one behind it on the stack before it is too
    long for the send buffer. Then, whatever clients come and go and whatever requests
    they queue, each request that a `loop` comes to is served once, in the order sent, and
    answered by its packet; and no access leaves the buffers. -/
theorem follows_service (h : ScpiHandler σ) (m r : Memory) (scpi : σ) (bind : BindServer)
    (portMin portMax : ℕ) {is : List (Service.Input σ)}
    (his : Machine.Guarded (Service.step h) (Service.Ok h) ⟨scpi, none, []⟩ is) :
    (Machine.run (stepEvent h) (start (.start m r scpi) bind portMin portMax)
      (is.map Service.Input.bytes)).Follows (Machine.run (Service.step h) ⟨scpi, none, []⟩ is) :=
  (follows_start m r scpi bind portMin portMax).run his

/-- A request for the link to a device of one letter. -/
def linkRequest : Request := .ofOperation 11 (.createLink 0 0 0 [105]) (by decide) (by decide)

/-- A client that asks for a link, and gets it. -/
theorem follows_service_link :
    (Machine.run (stepEvent (scpiHandler fun _ _ => ⟨[], false⟩))
      (start (.start (fun _ => 0) (fun _ => 0) .initial)
        ⟨fun _ => 0, .ofMemory fun _ => 0, fun _ => 0, .ofMemory fun _ => 0⟩ 9009 9010)
      ([Service.Input.loop [] (some ⟨1, true, true, [linkRequest]⟩), .loop [] none].map
        Service.Input.bytes)).Follows
      (Machine.run (Service.step (scpiHandler fun _ _ => ⟨[], false⟩)) ⟨.initial, none, []⟩
        [.loop [] (some ⟨1, true, true, [linkRequest]⟩), .loop [] none]) := by
  refine follows_service _ _ _ _ _ _ _ ⟨fun _ _ _ h => (nomatch h), ?_, trivial⟩
  rintro c r rs ⟨⟩ - - ⟨⟩
  trivial

end VxiListener

/-! ## Dialogues -/

/-- The requests, served one after the other, up to one that ends the connection: the
    answers, and the SCPI side. -/
def converse {σ : Type*} (h : ScpiHandler σ) : σ → List Request → List (ℕ × Answer) × σ
  | s, [] => ([], s)
  | s, r :: rs =>
    let served := serve h s r.operation
    if r.operation.closes then ([(r.xid, served.1)], served.2)
    else
      let rest := converse h served.2 rs
      ((r.xid, served.1) :: rest.1, rest.2)

namespace Service

variable {σ : Type*} {h : ScpiHandler σ} {s : Service σ}

/-- What neither ends a connection nor touches the SCPI side. -/
def Input.Quiet : Input σ → Prop
  | loop .. | arrive _ | bindLoop .. => True
  | elsewhere f => f = id
  | _ => False

/-- The requests that arrive. -/
def arrivals (is : List (Input σ)) : List Request :=
  is.flatMap fun
    | .arrive rs => rs
    | _ => []

theorem answers_serveFirst (c : Session) : s.answers <+: (s.serveFirst h c).answers := by
  rw [serveFirst]
  cases c.queue with
  | nil => exact List.prefix_rfl
  | cons r rs => exact List.prefix_append _ _

/-- An answer that was given stays given. -/
theorem answers_step (i : Input σ) : s.answers <+: (s.step h i).answers := by
  cases i with
  | loop stack new =>
    change s.answers <+: (s.loop h new).answers
    rw [loop]
    cases s.session with
    | none => exact List.prefix_rfl
    | some c =>
      dsimp only
      split_ifs
      · exact List.prefix_rfl
      · exact answers_serveFirst c
      · exact List.prefix_rfl
  | disconnectClient ip =>
    change s.answers <+: (s.disconnectClient h ip).answers
    rw [disconnectClient]
    cases s.session with
    | none => exact List.prefix_rfl
    | some c =>
      dsimp only
      split_ifs <;> exact List.prefix_rfl
  | arrive | hangUp | bindLoop | elsewhere => exact List.prefix_rfl

theorem answers_run (is : List (Input σ)) : s.answers <+: (Machine.run (step h) s is).answers := by
  induction is generalizing s with
  | nil => exact List.prefix_rfl
  | cons i is ih => exact (answers_step i).trans ih

/-- A connection with these requests left to be served. -/
def Open (s : Service σ) (queue : List Request) : Prop :=
  ∃ c, s.session = some c ∧ c.held = true ∧ c.connected = true ∧ c.queue = queue

theorem loop_open {r : Request} {rs : List Request} (hs : s.Open (r :: rs)) (new : Option Session) :
    (s.loop h new).answers = s.answers ++ [(r.xid, (serve h s.scpi r.operation).1)] ∧
      (s.loop h new).scpi = (serve h s.scpi r.operation).2 ∧
      (r.operation.closes = false → (s.loop h new).Open rs) := by
  obtain ⟨c, hc, hheld, hconn, hq⟩ := hs
  have hloop : s.loop h new = s.serveFirst h c := by
    simp only [loop, hc, hheld, hconn, if_true, Bool.not_true, Bool.false_eq_true, if_false]
  rw [hloop, serveFirst, hq]
  refine ⟨rfl, rfl, fun hclose => ⟨{ c with queue := rs }, ?_, hheld, hconn, rfl⟩⟩
  dsimp only
  rw [hclose]
  rfl

theorem loop_open_nil (hs : s.Open []) (new : Option Session) : s.loop h new = s := by
  obtain ⟨c, hc, hheld, hconn, hq⟩ := hs
  simp only [loop, hc, hheld, hconn, if_true, Bool.not_true, Bool.false_eq_true, if_false,
    serveFirst, hq]

/-- Calls of `loop`, one after the other. -/
def loops (ls : List (List UInt8 × Option Session)) : List (Input σ) :=
  ls.map fun l => .loop l.1 l.2

/-- As many calls of `loop` as there are requests answer all of them. -/
theorem answers_loops {queue : List Request} (hs : s.Open queue)
    {ls : List (List UInt8 × Option Session)} (hlen : queue.length ≤ ls.length) :
    s.answers ++ (converse h s.scpi queue).1 <+: (Machine.run (step h) s (loops ls)).answers := by
  induction queue generalizing s ls with
  | nil =>
    rw [converse, List.append_nil]
    exact answers_run _
  | cons r rs ih =>
    cases ls with
    | nil => simp at hlen
    | cons l ls =>
      obtain ⟨hanswers, hscpi, hopen⟩ := loop_open (h := h) hs l.2
      rw [loops, List.map_cons, Machine.run_cons, converse]
      change _ <+: (Machine.run (step h) (s.loop h l.2) _).answers
      cases hclose : r.operation.closes with
      | true =>
        rw [if_pos rfl]
        exact hanswers ▸ answers_run _
      | false =>
        have hrest := ih (hopen hclose) (Nat.le_of_succ_le_succ hlen)
        rw [hanswers, hscpi, List.append_assoc] at hrest
        rw [if_neg Bool.false_ne_true]
        exact hrest

/-- **How a dialogue goes does not depend on how it is cut.** However the requests of a
    connection arrive, in whatever pieces, between whatever calls of `loop` and bind
    requests: once there were enough calls, they were answered one after the other. -/
theorem answers_dialogue {queue : List Request} (hs : s.Open queue) {is : List (Input σ)}
    (his : ∀ i ∈ is, i.Quiet) {ls : List (List UInt8 × Option Session)}
    (hlen : (queue ++ arrivals is).length ≤ ls.length) :
    s.answers ++ (converse h s.scpi (queue ++ arrivals is)).1 <+:
      (Machine.run (step h) s (is ++ loops ls)).answers := by
  -- on what happens; `queue` is what has come and is not served yet
  induction is generalizing s queue with
  | nil =>
    rw [arrivals, List.flatMap_nil, List.append_nil] at hlen ⊢
    exact answers_loops hs hlen
  | cons i is ih =>
    have his' : ∀ i ∈ is, i.Quiet := fun j hj => his j (List.mem_cons_of_mem _ hj)
    have hquiet := his i List.mem_cons_self
    rw [List.cons_append, Machine.run_cons]
    cases i with
    | arrive rs =>
      obtain ⟨c, hc, hheld, hconn, hq⟩ := hs
      have hopen : (s.step h (.arrive rs)).Open (queue ++ rs) :=
        ⟨{ c with queue := c.queue ++ rs }, by
          change s.session.map _ = _
          rw [hc, Option.map_some], hheld, hconn, by rw [hq]⟩
      have hrest := ih hopen his'
      rw [List.append_assoc] at hrest
      exact hrest hlen
    | bindLoop udp tcp => exact ih hs his' hlen
    | elsewhere f =>
      obtain rfl : f = id := hquiet
      exact ih hs his' hlen
    | hangUp => exact hquiet.elim
    | disconnectClient => exact hquiet.elim
    | loop stack new =>
      change _ <+: (Machine.run (step h) (s.loop h new) _).answers
      cases queue with
      | nil =>
        -- nothing has come: the call does nothing
        rw [loop_open_nil hs]
        exact ih hs his' hlen
      | cons r rs =>
        obtain ⟨hanswers, hscpi, hopen⟩ := loop_open (h := h) hs new
        have hlen' : (rs ++ arrivals is).length ≤ ls.length := by
          have : ((r :: rs) ++ arrivals is).length ≤ ls.length := hlen
          rw [List.cons_append, List.length_cons] at this
          omega
        change s.answers ++ (converse h s.scpi (r :: (rs ++ arrivals is))).1 <+: _
        rw [converse]
        cases hclose : r.operation.closes with
        | true =>
          rw [if_pos rfl]
          exact hanswers ▸ answers_run _
        | false =>
          have hrest := ih (hopen hclose) his' hlen'
          rw [hanswers, hscpi, List.append_assoc] at hrest
          rw [if_neg Bool.false_ne_true]
          exact hrest

end Service

end RidenDongle
