import RidenDongle.Main.Service
import RidenDongle.Scpi.Output

/-!
# The instrument behind the VXI server

What a controller gets to see of the SCPI side: the commands that it wrote, and the
output that it did not read yet.

* `Instrument`: that, with what the parser does with a command as a function of the
  commands before it.
* `represents_serve`: `RidenScpi` serves the VXI server as the instrument does.
* `answers_queries`: a dialogue of queries over the network gives each query its own
  output, whatever else goes on.
-/

namespace RidenDongle

open RidenScpi

/-- What the parser does with a command, after the commands before it. -/
abbrev Commands := List (List UInt8) → List UInt8 → Execution UInt8

/-- The SCPI server, as its controller sees it. -/
structure Instrument where
  /-- the commands so far -/
  commands : List (List UInt8)
  /-- the output that was not read yet -/
  output : List UInt8
  /-- whether the controller is in control -/
  remote : Bool

namespace Instrument

variable (exec : Commands) (i : Instrument)

/-- The output of the command `c`, if it comes next. -/
def outputOf (c : List UInt8) : List UInt8 := (exec i.commands c).output.flatten

/-- The instrument is given a command. -/
def command (c : List UInt8) : Instrument where
  commands := i.commands ++ [c]
  output := i.output ++ i.outputOf exec c
  remote := true

/-- The instrument as a `SCPI_handler`. -/
def handler : ScpiHandler Instrument where
  write c i := if c = [] ∨ scpiInputBufferLength < c.length then i else i.command exec c
  read maxLen i :=
    if i.remote ∧ i.output.length ≤ maxLen then (.ok, i.output, { i with output := [] })
    else (.err, [], i)
  claimControl i := (true, { i with remote := true })
  releaseControl i := { i with remote := false }

/-- The output buffer has room for the output of the operation. -/
def HasRoom : Operation → Prop
  | .write _ _ _ _ data =>
    i.output.length + (i.outputOf exec (data.rdropWhile isspace)).length ≤ writeBufferLength
  | _ => True

end Instrument

/-- The parser, as far as the commands before decide. -/
def parser (exec : Commands) (s : RidenScpi UInt8 UInt8) (line : List UInt8) : Execution UInt8 :=
  exec s.inputs line

/-- The SCPI server is in the state of the instrument. What is in its output buffer is
    ready to be read, and it stayed inside that buffer. -/
structure Represents (s : RidenScpi UInt8 UInt8) (i : Instrument) : Prop where
  commands : s.inputs = i.commands
  output : s.writeBuffer = i.output
  remote : s.externalControl = i.remote
  ready : i.output ≠ [] → s.externalOutputReady = true
  bound : s.OutputBound

section

variable {exec : Commands} {s : RidenScpi UInt8 UInt8} {i : Instrument}

theorem represents_initial : Represents .initial ⟨[], [], false⟩ where
  commands := rfl
  output := rfl
  remote := rfl
  ready h := absurd rfl h
  bound := ⟨Nat.zero_le _, fun _ hr => nomatch hr⟩

/-- A read obtains the output, if it may. -/
theorem Represents.read (hr : Represents s i) (exec : Commands) (maxLen : ℕ) :
    (s.read maxLen).2.1 = (((Instrument.handler exec).read maxLen i).2.1) ∧
      Represents (s.read maxLen).2.2 ((Instrument.handler exec).read maxLen i).2.2 := by
  by_cases hok : i.remote = true ∧ i.output.length ≤ maxLen
  · simp only [Instrument.handler, if_pos hok]
    by_cases hready : s.externalOutputReady = true
    · rw [RidenScpi.read_ok (hr.remote.trans hok.1) hready (hr.output ▸ hok.2)]
      refine ⟨hr.output, ⟨hr.commands, rfl, hr.remote, fun h => absurd rfl h, ?_⟩⟩
      exact ⟨Nat.zero_le _, hr.bound.2⟩
    · -- nothing was output yet
      have hnil : i.output = [] := by_contra fun h => hready (hr.ready h)
      rw [RidenScpi.read_err fun h => hready h.2.1, hnil]
      exact ⟨rfl, hr.commands, by rw [hr.output, hnil], hr.remote, fun h => absurd rfl h, hr.bound⟩
  · simp only [Instrument.handler, if_neg hok]
    rw [RidenScpi.read_err fun h => hok ⟨hr.remote ▸ h.1, hr.output ▸ h.2.2⟩]
    exact ⟨rfl, hr⟩

/-- Under external control, output is ready once a line has any. -/
theorem externalOutputReady_scpiInput {ex : Execution UInt8} (hcontrol : s.externalControl = true)
    (hready : ex.output = [] → s.externalOutputReady = true) :
    (s.scpiInput ex).externalOutputReady = true := by
  cases hout : ex.output with
  | nil =>
    simp only [scpiInput, hout, List.foldl_nil, List.isEmpty_nil, if_true, loseClient]
    split_ifs <;> exact hready hout
  | cons d out =>
    have hflush : ∀ u : RidenScpi UInt8 UInt8, u.externalControl = true →
        u.scpiFlush.externalOutputReady = true := fun u hu => by rw [scpiFlush, if_pos hu]
    simp only [scpiInput, hout, List.isEmpty_cons, Bool.false_eq_true, if_false]
    refine hflush _ ?_
    rw [loseClient, apply_ite RidenScpi.externalControl, ite_self, (foldl_scpiWrite _ _).2.2]
    exact hcontrol

/-- A command is run by the parser, and its output is put behind what is there. -/
theorem Represents.write (hr : Represents s i) {c : List UInt8}
    (hroom : i.output.length + (i.outputOf exec c).length ≤ writeBufferLength) :
    Represents (s.write c (parser exec s c)) ((Instrument.handler exec).write c i) := by
  -- `write` ignores an empty line, and one that is too long
  by_cases hignored : c = [] ∨ scpiInputBufferLength < c.length
  · have hs : s.write c (parser exec s c) = s := by
      rcases hignored with hnil | hlong
      · rw [hnil, RidenScpi.write, if_pos List.length_nil]
      · exact write_of_long _ _ hlong
    simp only [Instrument.handler, if_pos hignored, hs]
    exact hr
  · simp only [Instrument.handler, if_neg hignored]
    rw [not_or, Nat.not_lt] at hignored
    have hexec : parser exec s c = exec i.commands c := by rw [parser, hr.commands]
    rw [hexec, write_eq_scpiInput _ _ hignored.1 hignored.2]
    obtain ⟨t, ht⟩ : ∃ t, ({ s with
        inputBuffer := c
        inputLength := c.length
        externalControl := true } : RidenScpi UInt8 UInt8) = t := ⟨_, rfl⟩
    have hcontrol : t.externalControl = true := by rw [← ht]
    have hbound : t.OutputBound := by rw [← ht]; exact hr.bound
    have hbuffer : t.writeBuffer = i.output := by rw [← ht]; exact hr.output
    have hready : t.externalOutputReady = s.externalOutputReady := by rw [← ht]
    -- the control is external, so that nothing is sent to a raw client
    have hwritten : (t.scpiInput (exec i.commands c)).writeBuffer =
        i.output ++ i.outputOf exec c := by
      rcases scpiInput_output t (exec i.commands c) with ⟨-, h, -⟩ | ⟨_, -, h, -⟩
      · rw [h, hbuffer]
        rfl
      · rw [hcontrol] at h
        cases h
    rw [ht]
    refine ⟨?_, hwritten, ?_, fun hne => ?_, ?_⟩
    · rw [scpiInput_inputs, ← ht, Instrument.command, ← hr.commands]
    · rw [scpiInput_externalControl, hcontrol]
      rfl
    · refine externalOutputReady_scpiInput hcontrol fun hnone => ?_
      have hnil : i.outputOf exec c = [] := by rw [Instrument.outputOf, hnone]; rfl
      rw [Instrument.command, hnil, List.append_nil] at hne
      rw [hready]
      exact hr.ready hne
    · refine (outputBound_scpiInput_iff hbound _).2 ?_
      rw [hbuffer]
      exact hroom

/-- **The instrument behind the SCPI server.** An operation is served as the instrument
    does: with the same answer, and in a state that represents the instrument's. -/
theorem represents_serve (hr : Represents s i) {op : Operation} (hroom : i.HasRoom exec op) :
    (serve (scpiHandler (parser exec)) s op).1 = (serve (Instrument.handler exec) i op).1 ∧
      Represents (serve (scpiHandler (parser exec)) s op).2
        (serve (Instrument.handler exec) i op).2 := by
  cases op with
  | createLink =>
    exact ⟨rfl, hr.commands, hr.output, rfl, hr.ready, hr.bound⟩
  | read =>
    obtain ⟨hdata, hrest⟩ := hr.read exec 256
    exact ⟨congrArg Answer.data hdata, hrest⟩
  | write => exact ⟨rfl, hr.write hroom⟩
  | destroyLink => exact ⟨rfl, hr.commands, hr.output, rfl, hr.ready, hr.bound⟩
  | other => exact ⟨rfl, hr⟩

theorem Represents.of_sameOutput {s' : RidenScpi UInt8 UInt8} (hr : Represents s i)
    (h : SameOutput s s') : Represents s' i where
  commands := h.inputs.trans hr.commands
  output := h.writeBuffer.trans hr.output
  remote := h.externalControl.trans hr.remote
  ready hne := h.externalOutputReady.trans (hr.ready hne)
  bound := by
    refine ⟨by rw [h.writeBuffer]; exact hr.bound.1, ?_⟩
    rw [h.stores]
    exact hr.bound.2

/-- While the controller is in control, the raw socket server leaves the instrument alone. -/
theorem represents_loop (hr : Represents s i) (hremote : i.remote = true)
    (new : Option (RawClient UInt8)) (ex : ℕ → Execution UInt8) : Represents (s.loop new ex) i := by
  rw [RidenScpi.loop, if_pos (hr.remote.trans hremote)]
  exact hr.of_sameOutput ⟨rfl, rfl, rfl, rfl, rfl, rfl⟩

end

/-! ## The service -/

/-- The same input, for another SCPI side: what else happens is none of its business. -/
def Service.Input.calm {σ τ : Type*} : Service.Input σ → Service.Input τ
  | loop stack new => .loop stack new
  | arrive rs => .arrive rs
  | hangUp held => .hangUp held
  | disconnectClient ip => .disconnectClient ip
  | bindLoop udp tcp => .bindLoop udp tcp
  | elsewhere _ => .elsewhere id

namespace Instrument

variable (exec : Commands)

/-- The service with the instrument. -/
def step (t : Service Instrument) (i : Service.Input (RidenScpi UInt8 UInt8)) :
    Service Instrument := t.step (handler exec) i.calm

/-- The request that a `loop` comes to can be served, and what else happens leaves the
    instrument alone. -/
def Ok (t : Service Instrument) : Service.Input (RidenScpi UInt8 UInt8) → Prop
  | .loop stack _ => ∀ c r rs, t.session = some c → c.held = true → c.connected = true →
      c.queue = r :: rs → Servable (handler exec) t.scpi stack r.operation ∧
        t.scpi.HasRoom exec r.operation
  | .elsewhere f => ∀ s, Represents s t.scpi → Represents (f s) t.scpi
  | _ => True

end Instrument

/-- The service with the SCPI server, as the one with the instrument. -/
structure Shows (s : Service (RidenScpi UInt8 UInt8)) (t : Service Instrument) : Prop where
  scpi : Represents s.scpi t.scpi
  session : s.session = t.session
  answers : s.answers = t.answers

section

variable {exec : Commands} {s : Service (RidenScpi UInt8 UInt8)} {t : Service Instrument}

theorem servable_of_represents {u : RidenScpi UInt8 UInt8} {i : Instrument} {stack : List UInt8}
    {op : Operation} (hr : Represents u i)
    (hok : Servable (Instrument.handler exec) i stack op) :
    Servable (scpiHandler (parser exec)) u stack op := by
  cases op with
  | read =>
    have hdata : ((scpiHandler (parser exec)).read 256 u).2.1 = _ := (hr.read exec 256).1
    change Readable _ _ _
    rw [Readable, hdata]
    exact hok
  | createLink | write | destroyLink | other => trivial

theorem Shows.serveFirst (hs : Shows s t) {c : Session}
    (hroom : ∀ r rs, c.queue = r :: rs → t.scpi.HasRoom exec r.operation) :
    Shows (s.serveFirst (scpiHandler (parser exec)) c)
      (t.serveFirst (Instrument.handler exec) c) := by
  unfold Service.serveFirst
  cases hq : c.queue with
  | nil => exact hs
  | cons r rs =>
    obtain ⟨hanswer, hscpi⟩ := represents_serve hs.scpi (hroom r rs hq)
    refine ⟨hscpi, rfl, ?_⟩
    dsimp only
    rw [hs.answers, hanswer]

theorem Shows.step (hs : Shows s t) {i : Service.Input (RidenScpi UInt8 UInt8)}
    (hok : Instrument.Ok exec t i) :
    s.Ok (scpiHandler (parser exec)) i ∧
      Shows (s.step (scpiHandler (parser exec)) i) (Instrument.step exec t i) := by
  cases i with
  | loop stack new =>
    refine ⟨fun c r rs hc hheld hconn hq => ?_, ?_⟩
    · rw [hs.session] at hc
      exact servable_of_represents hs.scpi (hok c r rs hc hheld hconn hq).1
    · change Shows (s.loop _ new) (t.loop _ new)
      rw [Service.loop, Service.loop, hs.session]
      cases hc : t.session with
      | none => exact ⟨hs.scpi, rfl, hs.answers⟩
      | some c =>
        dsimp only
        cases hheld : c.held with
        | false => exact ⟨hs.scpi, rfl, hs.answers⟩
        | true =>
          cases hconn : c.connected with
          | false => exact ⟨hs.scpi, rfl, hs.answers⟩
          | true => exact hs.serveFirst fun r rs hq => (hok c r rs hc hheld hconn hq).2
  | arrive rs =>
    refine ⟨trivial, hs.scpi, ?_, hs.answers⟩
    change s.session.map _ = t.session.map _
    rw [hs.session]
  | hangUp held =>
    refine ⟨trivial, hs.scpi, ?_, hs.answers⟩
    change s.session.map _ = t.session.map _
    rw [hs.session]
  | disconnectClient ip =>
    refine ⟨trivial, ?_⟩
    change Shows (s.disconnectClient _ ip) (t.disconnectClient _ ip)
    rw [Service.disconnectClient, Service.disconnectClient, hs.session]
    cases t.session with
    | none => exact hs
    | some c =>
      dsimp only
      split_ifs
      · exact ⟨⟨hs.scpi.commands, hs.scpi.output, rfl, hs.scpi.ready, hs.scpi.bound⟩, rfl,
          hs.answers⟩
      · exact hs
  | bindLoop udp tcp => exact ⟨trivial, hs⟩
  | elsewhere f => exact ⟨trivial, hok _ hs.scpi, hs.session, hs.answers⟩

/-- The listener with the SCPI server behaves as the service with the instrument. -/
theorem follows_instrument {l : VxiListener (RidenScpi UInt8 UInt8)} (hf : l.Follows s)
    (hs : Shows s t) {is : List (Service.Input (RidenScpi UInt8 UInt8))}
    (his : Machine.Guarded (Instrument.step exec) (Instrument.Ok exec) t is) :
    (Machine.run (VxiListener.stepEvent (scpiHandler (parser exec))) l
        (is.map Service.Input.bytes)).Follows
      (Machine.run (Service.step (scpiHandler (parser exec))) s is) ∧
    Shows (Machine.run (Service.step (scpiHandler (parser exec))) s is)
      (Machine.run (Instrument.step exec) t is) := by
  have hguard : Machine.Guarded (Service.step (scpiHandler (parser exec)))
      (Service.Ok (scpiHandler (parser exec))) s is := by
    have := Machine.guarded_of_related id his hs fun _ _ _ hs hok => hs.step hok
    rwa [List.map_id] at this
  refine ⟨hf.run hguard, ?_⟩
  have := Machine.related_of_guarded id his hs fun _ _ _ hs hok => (hs.step hok).2
  rwa [List.map_id] at this

end

/-! ## Queries -/

/-- A query: a DEV_WRITE of a command, and a DEV_READ of what it outputs. -/
structure Query where
  data : List UInt8
  write : Request
  read : Request
  command_ne : data.rdropWhile isspace ≠ []
  write_eq : ∃ linkId ioTimeout lockTimeout flags,
    write.operation = .write linkId ioTimeout lockTimeout flags data
  read_eq : ∃ linkId requestSize ioTimeout lockTimeout flags termChar,
    read.operation = .read linkId requestSize ioTimeout lockTimeout flags termChar

namespace Query

variable (exec : Commands)

/-- The command, as the parser gets it. -/
def command (q : Query) : List UInt8 := q.data.rdropWhile isspace

def requests (qs : List Query) : List Request := qs.flatMap fun q => [q.write, q.read]

theorem length_requests (qs : List Query) : (requests qs).length = 2 * qs.length := by
  induction qs with
  | nil => rfl
  | cons q qs ih =>
    rw [requests, List.flatMap_cons, List.length_append, ← requests, ih]
    simp only [List.length_cons, List.length_nil]
    omega

/-- Each query is answered with the output of its own command, run after the commands
    `cs` and those of the queries before it. -/
def answers : List (List UInt8) → List Query → List (ℕ × Answer)
  | _, [] => []
  | cs, q :: qs =>
    (q.write.xid, .written q.data.length) ::
      (q.read.xid, .data (exec cs q.command).output.flatten) :: answers (cs ++ [q.command]) qs

variable {exec}

theorem length_command_le (q : Query) : q.command.length ≤ scpiInputBufferLength := by
  obtain ⟨_, _, _, _, hw⟩ := q.write_eq
  have hfits := q.write.fits
  rw [hw] at hfits
  exact hfits.2.le.trans (by decide)

/-- A query leaves the instrument with no output, and is answered with that of its command. -/
theorem converse_cons (exec : Commands) (q : Query) (rs : List Request) {i : Instrument}
    (hremote : i.remote = true) (hnil : i.output = [])
    (hle : (exec i.commands q.command).output.flatten.length ≤ 256) :
    (converse (Instrument.handler exec) i (q.write :: q.read :: rs)).1 =
      (q.write.xid, .written q.data.length) ::
        (q.read.xid, .data (exec i.commands q.command).output.flatten) ::
          (converse (Instrument.handler exec)
            { i with commands := i.commands ++ [q.command] } rs).1 := by
  obtain ⟨_, _, _, _, hw⟩ := q.write_eq
  obtain ⟨_, _, _, _, _, _, hr⟩ := q.read_eq
  have hwrite : (Instrument.handler exec).write q.command i = i.command exec q.command :=
    if_neg (not_or.2 ⟨q.command_ne, Nat.not_lt.2 q.length_command_le⟩)
  have houtput : (i.command exec q.command).output = (exec i.commands q.command).output.flatten := by
    rw [Instrument.command, hnil, List.nil_append, Instrument.outputOf]
  have hread : (Instrument.handler exec).read 256 (i.command exec q.command) =
      (.ok, (exec i.commands q.command).output.flatten,
        { i with commands := i.commands ++ [q.command] }) := by
    simp only [Instrument.handler, houtput]
    rw [if_pos ⟨rfl, hle⟩]
    simp only [Instrument.command, hnil, hremote]
  simp only [converse, hw, hr, serve, Operation.closes, Bool.false_eq_true, if_false]
  rw [show q.data.rdropWhile isspace = q.command from rfl, hwrite, hread]

/-- A link, some queries, and the end of the link. -/
theorem converse_dialogue {link unlink : Request} {clientId lockDevice lockTimeout linkId : ℕ}
    {name : List UInt8}
    (hlink : link.operation = .createLink clientId lockDevice lockTimeout name)
    (hunlink : unlink.operation = .destroyLink linkId) (qs : List Query)
    (hle : ∀ cs c, (exec cs c).output.flatten.length ≤ 256) (cs : List (List UInt8)) (b : Bool) :
    (converse (Instrument.handler exec) ⟨cs, [], b⟩ (link :: requests qs ++ [unlink])).1 =
      (link.xid, .linked) :: answers exec cs qs ++ [(unlink.xid, .unlinked)] := by
  have hqueries : ∀ cs, (converse (Instrument.handler exec) ⟨cs, [], true⟩
      (requests qs ++ [unlink])).1 = answers exec cs qs ++ [(unlink.xid, .unlinked)] := by
    induction qs with
    | nil =>
      intro cs
      simp only [requests, List.flatMap_nil, List.nil_append, converse, hunlink, serve,
        Operation.closes, if_true, answers]
    | cons q qs ih =>
      intro cs
      have hcons := converse_cons exec q (requests qs ++ [unlink]) (i := ⟨cs, [], true⟩) rfl rfl
        (hle _ _)
      rw [ih] at hcons
      exact hcons
  rw [List.cons_append, converse, hlink]
  simp only [Operation.closes, Bool.false_eq_true, if_false]
  exact congrArg _ (hqueries cs)

end Query

section

variable {exec : Commands} {t : Service Instrument}

theorem run_calm (is : List (Service.Input (RidenScpi UInt8 UInt8))) :
    Machine.run (Instrument.step exec) t is =
      Machine.run (Service.step (Instrument.handler exec)) t (is.map Service.Input.calm) := by
  induction is generalizing t with
  | nil => rfl
  | cons i is ih => exact ih

theorem arrivals_calm (is : List (Service.Input (RidenScpi UInt8 UInt8))) :
    Service.arrivals (is.map (@Service.Input.calm _ Instrument)) = Service.arrivals is := by
  rw [Service.arrivals, List.flatMap_map, Service.arrivals]
  congr 1
  funext i
  cases i <;> rfl

end

/-- **A query is answered with its own output.** A client connects, creates a link, sends
    queries and destroys the link, in whatever pieces its requests arrive and whatever
    else is served in between that leaves the SCPI side alone: what it gets, byte by byte,
    are the packets that answer each query with the output of its command, once `loop` was
    called often enough. The requests are those that the read buffer has room for
    (`Operation.Fits`), the output has room in the output buffer (`HasRoom`), and what a
    read finds can be sent (`Readable`). -/
theorem answers_queries (exec : Commands)
    (hle : ∀ cs c, (exec cs c).output.flatten.length ≤ 256) (m r : Memory) (bind : BindServer)
    (portMin portMax : ℕ) {c : Session} (hheld : c.held = true) (hconn : c.connected = true)
    {link unlink : Request} {clientId lockDevice lockTimeout linkId : ℕ} {name : List UInt8}
    (hlink : link.operation = .createLink clientId lockDevice lockTimeout name)
    (hunlink : unlink.operation = .destroyLink linkId) (qs : List Query) (stack : List UInt8)
    {is : List (Service.Input (RidenScpi UInt8 UInt8))}
    (his : ∀ i ∈ is, (i.calm : Service.Input Instrument).Quiet)
    (hrequests : c.queue ++ Service.arrivals is = link :: Query.requests qs ++ [unlink])
    {ls : List (List UInt8 × Option Session)} (hls : 2 * qs.length + 2 ≤ ls.length)
    (hok : Machine.Guarded (Instrument.step exec) (Instrument.Ok exec) ⟨⟨[], [], false⟩, none, []⟩
      (.loop stack (some c) :: is ++ Service.loops ls)) :
    ((link.xid, Answer.linked) :: Query.answers exec [] qs ++
        [(unlink.xid, Answer.unlinked)]).map (fun a => a.2.packet a.1) <+:
      (Machine.run (VxiListener.stepEvent (scpiHandler (parser exec)))
        (.start (.start m r .initial) bind portMin portMax)
        ((Service.Input.loop stack (some c) :: is ++ Service.loops ls).map
          Service.Input.bytes)).server.sent := by
  obtain ⟨hf, hs⟩ := follows_instrument
    (VxiListener.follows_start m r .initial bind portMin portMax)
    ⟨represents_initial, rfl, rfl⟩ hok
  rw [hf.sent, hs.answers, run_calm]
  refine List.IsPrefix.map _ ?_
  have hlen : (c.queue ++ Service.arrivals (is.map (@Service.Input.calm _ Instrument))).length ≤
      ls.length := by
    rw [arrivals_calm, hrequests, List.length_append, List.length_cons, Query.length_requests]
    exact hls
  have hquiet : ∀ i ∈ is.map (@Service.Input.calm _ Instrument), i.Quiet := by simpa using his
  have hdialogue := Service.answers_dialogue (h := Instrument.handler exec)
    (s := ⟨⟨[], [], false⟩, some c, []⟩) ⟨c, rfl, hheld, hconn, rfl⟩ hquiet hlen
  rw [arrivals_calm, hrequests, Query.converse_dialogue hlink hunlink qs hle, List.nil_append]
    at hdialogue
  have hmap : (Service.Input.loop stack (some c) :: is ++ Service.loops ls).map
      (@Service.Input.calm _ Instrument) =
      Service.Input.loop stack (some c) :: (is.map Service.Input.calm ++ Service.loops ls) := by
    rw [List.cons_append, List.map_cons, List.map_append, Service.loops, List.map_map]
    rfl
  rw [hmap]
  exact hdialogue

/-- A query for the output of `*`. -/
def starQuery : Query where
  data := [42, 10]
  write := .ofOperation 2 (.write 0 0 0 8 [42, 10]) (by decide) (by decide)
  read := .ofOperation 3 (.read 0 0 0 0 0 0) (by decide) (by decide)
  command_ne := by decide
  write_eq := ⟨_, _, _, _, rfl⟩
  read_eq := ⟨_, _, _, _, _, _, rfl⟩

def unlinkRequest : Request := .ofOperation 4 (.destroyLink 0) (by decide) (by decide)

/-- An instrument that outputs the commands it gets. -/
def echo : Commands := fun _ c => ⟨[c.take 256], false⟩

/-- The raw socket server is served, where a client waits with a line. -/
def rawLoop : Service.Input (RidenScpi UInt8 UInt8) :=
  .elsewhere fun s => s.loop (some ⟨7, 2, true, [42, 10]⟩) fun _ => ⟨[[1]], false⟩

/-- That query, to that instrument, while a raw client tries in vain. -/
theorem answers_queries_echo :
    ([(11, Answer.linked), (2, .written 2), (3, .data [42]), (4, .unlinked)].map
        fun a => a.2.packet a.1) <+:
      (Machine.run (VxiListener.stepEvent (scpiHandler (parser echo)))
        (.start (.start (fun _ => 0) (fun _ => 0) .initial)
          ⟨fun _ => 0, .ofMemory fun _ => 0, fun _ => 0, .ofMemory fun _ => 0⟩ 9009 9010)
        ((Service.Input.loop [] (some ⟨1, true, true, VxiListener.linkRequest ::
            Query.requests [starQuery] ++ [unlinkRequest]⟩) :: [.loop [] none, rawLoop] ++
          Service.loops (List.replicate 4 (List.replicate 216 0, none))).map
            Service.Input.bytes)).server.sent := by
  have hanswers : (VxiListener.linkRequest.xid, Answer.linked) ::
      Query.answers echo [] [starQuery] ++ [(unlinkRequest.xid, Answer.unlinked)] =
        [(11, .linked), (2, .written 2), (3, .data [42]), (4, .unlinked)] := by decide
  have hquiet : ∀ i ∈ [Service.Input.loop [] none, rawLoop],
      (i.calm : Service.Input Instrument).Quiet := by
    simp [rawLoop, Service.Input.calm, Service.Input.Quiet]
  rw [← hanswers]
  refine answers_queries echo (fun _ c => by simp [echo]) _ _ _ 9009 9010 rfl rfl rfl rfl
    [starQuery] [] hquiet (List.append_nil _) (by decide) ?_
  refine ⟨fun _ _ _ h => (nomatch h), ?_, ?_, ?_, ?_, ?_, ?_, trivial⟩
  · rintro c r rs ⟨⟩ - - ⟨⟩
    exact ⟨trivial, trivial⟩
  · -- the link is there by now
    exact fun s hs => represents_loop hs rfl _ _
  · rintro c r rs ⟨⟩ - - ⟨⟩
    exact ⟨trivial, Nat.le_of_ble_eq_true rfl⟩
  · rintro c r rs ⟨⟩ - - ⟨⟩
    exact ⟨⟨by decide, 215, by decide, by decide⟩, trivial⟩
  · rintro c r rs ⟨⟩ - - ⟨⟩
    exact ⟨trivial, trivial⟩
  · exact fun _ _ _ h => (nomatch h)

end RidenDongle
