import RidenDongle.Vxi.Port
import Mathlib.Data.List.Chain

/-!
# The rotation of the ports

On which ports the connections to the VXI server are accepted, one after another.
A port range with more than one port is there for clients that require a different
port for each connection (`rpc_enums.h`); `begin_next` goes to the next one.

* `Rotation`: the VXI server with the ports of the connections that it accepted, and
  `simulates_step`: it is the VXI server as it was.
* `always_newPorts`: each connection is accepted on the port that follows that of its
  predecessor, in a run in which connections end by `begin_next` only and the requests
  fit in the arrays.

The field `accepted` is ghost.
-/

namespace RidenDongle

/-- The port that follows `p` in the cyclic range. -/
def nextPort (portMin portMax p : ℕ) : ℕ :=
  if p < max portMin portMax then p + 1 else min portMin portMax

theorem nextPort_ne {portMin portMax : ℕ} (hne : portMin ≠ portMax) (p : ℕ) :
    nextPort portMin portMax p ≠ p := by
  unfold nextPort
  split_ifs <;> omega

/-- The VXI server, with the ports on which it has accepted connections. -/
structure Rotation (σ : Type*) where
  listener : VxiListener σ
  accepted : List ℕ

namespace Rotation

variable {σ : Type*}

/-- Whether `loop` accepts the client that waits, if any. -/
def accepts (l : VxiListener σ) (new : Option VxiClient) : Bool :=
  !l.holds && new.elim false VxiClient.held

/-- The servers of a port range, after `VXI_Server::begin`. -/
def start (server : VxiServer σ) (bind : BindServer) (portMin portMax : ℕ) : Rotation σ :=
  ⟨.start server bind portMin portMax, []⟩

def step (h : ScpiHandler σ) (r : Rotation σ) (i : VxiListener.Input) : Rotation σ where
  listener := r.listener.step h i
  accepted :=
    match i with
    | .loop _ new =>
      if accepts r.listener new then r.accepted ++ r.listener.listening.toList else r.accepted
    | _ => r.accepted

/-- Forgetting the ports, it is the VXI server. -/
theorem simulates_step (h : ScpiHandler σ) :
    Machine.Simulates (step h) (VxiListener.step h) fun r l => r.listener = l := by
  rintro r l i rfl
  rfl

theorem listener_run (h : ScpiHandler σ) (r : Rotation σ) (is : List VxiListener.Input) :
    (Machine.run (step h) r is).listener = Machine.run (VxiListener.step h) r.listener is :=
  (simulates_step h).run rfl is

/-- Two successive connections are accepted on successive ports of the cyclic range,
    and on different ones. -/
def NewPorts (portMin portMax : ℕ) (r : Rotation σ) : Prop :=
  r.accepted.IsChain fun p q => q = nextPort portMin portMax p ∧ q ≠ p

/-- A connection does not end without `begin_next`: the web page disconnects no
    connected client, and a client that the peer has dropped is still held when
    `loop` comes to see it. -/
def EndsByBegin (r : Rotation σ) : VxiListener.Input → Prop
  | .hangUp held => r.listener.client.isSome → held = r.listener.holds
  | .disconnectClient ip =>
    ¬∃ c, r.listener.client = some c ∧ c.held ∧ c.connected ∧ c.ip = ip
  | _ => True

/-- The invariant: a connection is on the last of the ports, and without one the
    server listens on the port that follows. -/
structure Rotating (portMin portMax : ℕ) (r : Rotation σ) : Prop where
  listens : r.listener.Listens portMin portMax
  chain : r.accepted.IsChain fun p q => q = nextPort portMin portMax p
  last : ∀ p ∈ r.accepted.getLast?, r.listener.vxiPort.data =
    if r.listener.holds then p else nextPort portMin portMax p

variable {portMin portMax : ℕ} {h : ScpiHandler σ} {r : Rotation σ}

theorem Rotating.newPorts (hne : portMin ≠ portMax) (hr : r.Rotating portMin portMax) :
    r.NewPorts portMin portMax :=
  hr.chain.imp fun p _ hpq => ⟨hpq, hpq ▸ nextPort_ne hne p⟩

/-- What concerns neither the ports nor whether there is a client. -/
theorem Rotating.of_eq {r' : Rotation σ} (hr : r.Rotating portMin portMax)
    (hlistens : r'.listener.Listens portMin portMax) (haccepted : r'.accepted = r.accepted)
    (hport : r'.listener.vxiPort = r.listener.vxiPort)
    (hholds : r'.listener.holds = r.listener.holds) : r'.Rotating portMin portMax where
  listens := hlistens
  chain := by rw [haccepted]; exact hr.chain
  last := by rw [haccepted, hport, hholds]; exact hr.last

/-- `begin_next` goes to the port that follows, and leaves no client. -/
theorem begin_true (hne : portMin ≠ portMax) {l : VxiListener σ}
    (hl : l.Listens portMin portMax) :
    (l.begin true).vxiPort.data = nextPort portMin portMax l.vxiPort.data ∧
      (l.begin true).holds = false := by
  have hcyclic : l.vxiPort.isNoncyclic = false := by
    rw [Cyclic.isNoncyclic, hl.start, hl.stop, beq_eq_false_iff_ne]
    omega
  rw [VxiListener.begin, if_pos rfl]
  dsimp only
  rw [if_neg (by rw [hcyclic]; decide)]
  refine ⟨?_, rfl⟩
  change l.vxiPort.gotoNext.data = _
  rw [nextPort, ← hl.start, ← hl.stop]
  rfl

/-- While nobody is connected, `loop` takes the next client, if there is one. -/
theorem Rotating.loop_accept (hr : r.Rotating portMin portMax) (stack : List UInt8)
    (new : Option VxiClient) (hnone : r.listener.holds = false)
    (heq : r.listener.loop h stack new = { r.listener with client := new }) :
    (r.step h (.loop stack new)).Rotating portMin portMax := by
  have hlistens := hr.listens.loop (h := h) stack new
  have hholds : (r.listener.loop h stack new).holds = new.elim false VxiClient.held := by
    rw [heq, VxiListener.holds]
  have hdata : (r.listener.loop h stack new).vxiPort = r.listener.vxiPort := by rw [heq]
  have haccepted : (r.step h (.loop stack new)).accepted =
      if new.elim false VxiClient.held then r.accepted ++ [r.listener.vxiPort.data]
      else r.accepted := by
    rw [step, accepts, hnone, hr.listens.listening]
    rfl
  cases hnew : new.elim false VxiClient.held with
  | false =>
    rw [hnew, if_neg Bool.false_ne_true] at haccepted
    exact hr.of_eq hlistens haccepted hdata ((hholds.trans hnew).trans hnone.symm)
  | true =>
    rw [hnew, if_pos rfl] at haccepted
    -- the port of the new connection is the next one after the last, since `begin` has run
    refine ⟨hlistens, ?_, ?_⟩
    · rw [haccepted]
      refine hr.chain.append (.singleton _) fun p hp q hq => ?_
      obtain rfl := Option.mem_some_iff.1 hq
      rw [hr.last p hp, hnone, if_neg Bool.false_ne_true]
    · rw [haccepted, List.getLast?_append, List.getLast?_singleton]
      rintro p hp
      obtain rfl := Option.mem_some_iff.1 hp
      change (r.listener.loop h stack new).vxiPort.data =
        if (r.listener.loop h stack new).holds then _ else _
      rw [hdata, hholds, hnew, if_pos rfl]

theorem Rotating.loop (hne : portMin ≠ portMax) (hr : r.Rotating portMin portMax)
    (stack : List UInt8) (new : Option VxiClient) :
    (r.step h (.loop stack new)).Rotating portMin portMax := by
  have hlistens := hr.listens.loop (h := h) stack new
  rcases r.listener.loop_cases h stack new with
    ⟨hnone, heq⟩ | ⟨hheld, l', hport, hlisten, -, hheld', heq⟩
  · exact hr.loop_accept stack new hnone heq
  · -- the client is served, or was served and goes
    have haccepted : (r.step h (.loop stack new)).accepted = r.accepted := by
      rw [step, accepts, hheld]
      rfl
    rcases heq with heq | heq
    · have hsame : (r.listener.loop h stack new).vxiPort = r.listener.vxiPort := by
        rw [heq, hport]
      have hholds : (r.listener.loop h stack new).holds = r.listener.holds := by
        rw [heq, hheld', hheld]
      exact hr.of_eq hlistens haccepted hsame hholds
    · -- `begin` was called, with the next port of the range
      obtain ⟨hnext, hgone⟩ := begin_true hne (hr.listens.of_eq hport hlisten)
      refine ⟨hlistens, by rw [haccepted]; exact hr.chain, ?_⟩
      rw [haccepted]
      intro p hp
      have hlast := hr.last p hp
      rw [hheld, if_pos rfl] at hlast
      change (r.listener.loop h stack new).vxiPort.data =
        if (r.listener.loop h stack new).holds then _ else _
      rw [heq, hgone, if_neg Bool.false_ne_true, hnext, hport, hlast]

theorem Rotating.step (hne : portMin ≠ portMax) (hr : r.Rotating portMin portMax)
    {i : VxiListener.Input} (hi : r.EndsByBegin i) : (r.step h i).Rotating portMin portMax := by
  have hlistens := hr.listens.step (h := h) i
  cases i with
  | loop stack new => exact hr.loop hne stack new
  | arrive bs =>
    refine hr.of_eq hlistens rfl rfl ?_
    change (r.listener.client.map _).elim _ _ = r.listener.client.elim _ _
    cases r.listener.client <;> rfl
  | hangUp held =>
    refine hr.of_eq hlistens rfl rfl ?_
    change (r.listener.client.map _).elim _ _ = _
    cases hc : r.listener.client with
    | none =>
      rw [VxiListener.holds, hc]
      rfl
    | some c => exact hi (by rw [hc]; rfl)
  | disconnectClient ip =>
    rcases r.listener.disconnectClient_cases h ip with heq | ⟨hdisconnects, -⟩
    · have hsame : r.step h (.disconnectClient ip) = r := by
        change (⟨r.listener.disconnectClient h ip, r.accepted⟩ : Rotation σ) = r
        rw [heq]
      rw [hsame]
      exact hr
    · exact absurd hdisconnects hi
  | bindLoop udp tcp => exact hr.of_eq hlistens rfl rfl rfl

/-! ## Runs -/

/-- Everything that was stored lies in the arrays. -/
def InArrays (r : Rotation (RidenScpi UInt8 UInt8)) : Prop := r.listener.InArrays

instance (r : Rotation (RidenScpi UInt8 UInt8)) : Decidable r.InArrays :=
  inferInstanceAs (Decidable r.listener.InArrays)

/-- The VXI server, with the parser `parse`. Nothing is known of it once it has left the
    arrays. -/
def straying (parse : RidenScpi UInt8 UInt8 → List UInt8 → Execution UInt8)
    (stray : Rotation (RidenScpi UInt8 UInt8) → VxiListener.Input →
      Rotation (RidenScpi UInt8 UInt8)) :
    Rotation (RidenScpi UInt8 UInt8) → VxiListener.Input → Rotation (RidenScpi UInt8 UInt8) :=
  Machine.strayStep (step (scpiHandler parse)) InArrays stray

/-- The request fits in the arrays. -/
def Bounded (parse : RidenScpi UInt8 UInt8 → List UInt8 → Execution UInt8)
    (r : Rotation (RidenScpi UInt8 UInt8)) : VxiListener.Input → Prop :=
  r.listener.Bounded (scpiHandler parse) (parsed parse)

def Sound (r : Rotation (RidenScpi UInt8 UInt8)) : Prop := r.listener.Sound

theorem sound_start {server : VxiServer (RidenScpi UInt8 UInt8)} (hs : server.InArrays)
    (hq : server.scpi.HoldsPart) (bind : BindServer) (portMin portMax : ℕ) :
    (start server bind portMin portMax).Sound :=
  VxiListener.sound_start hs hq bind portMin portMax

theorem Sound.step {parse : RidenScpi UInt8 UInt8 → List UInt8 → Execution UInt8}
    {r : Rotation (RidenScpi UInt8 UInt8)} (hr : r.Sound) {i : VxiListener.Input}
    (hb : r.Bounded parse i) :
    (r.step (scpiHandler parse) i).InArrays ∧ (r.step (scpiHandler parse) i).Sound :=
  VxiListener.Sound.bounded hr hb

theorem Sound.straying {parse : RidenScpi UInt8 UInt8 → List UInt8 → Execution UInt8}
    {stray : Rotation (RidenScpi UInt8 UInt8) → VxiListener.Input → Rotation (RidenScpi UInt8 UInt8)}
    {r : Rotation (RidenScpi UInt8 UInt8)} (hr : r.Sound) {i : VxiListener.Input}
    (hb : r.Bounded parse i) : straying parse stray r i = r.step (scpiHandler parse) i :=
  Machine.strayStep_of_lawful (hr.step hb).1

/-- **A new port for each connection.** In a run in which each connection ends by
    `begin_next` and each request fits in the arrays, successive connections are accepted
    on successive ports of the cyclic range, and thus no connection on the port of its
    predecessor. -/
theorem always_newPorts (parse : RidenScpi UInt8 UInt8 → List UInt8 → Execution UInt8)
    (stray : Rotation (RidenScpi UInt8 UInt8) → VxiListener.Input →
      Rotation (RidenScpi UInt8 UInt8))
    {server : VxiServer (RidenScpi UInt8 UInt8)} (hs : server.InArrays)
    (hq : server.scpi.HoldsPart) (bind : BindServer) (hne : portMin ≠ portMax)
    {is : List VxiListener.Input}
    (his : Machine.Guarded (straying parse stray) (fun r i => r.EndsByBegin i ∧ r.Bounded parse i)
      (start server bind portMin portMax) is) :
    Machine.Always (straying parse stray) (NewPorts portMin portMax)
      (start server bind portMin portMax) is := by
  have hsound := sound_start hs hq bind portMin portMax
  have hstart : (start server bind portMin portMax).Rotating portMin portMax :=
    ⟨VxiListener.listens_start server bind, .nil, fun _ hp => by cases hp⟩
  have hplain := (Machine.guarded_strayStep_iff hsound fun _ _ hr hi => hr.step hi.2).1 his
  refine (hplain.always_strayStep_iff hsound fun _ _ hr hi => hr.step hi.2).2 ?_
  exact (hplain.always hstart fun _ _ hr hi => hr.step hne hi.1).mono fun _ hr => hr.newPorts hne

/-- The servers of the range from 9009 to 9010. -/
def twoPorts : Rotation (RidenScpi UInt8 UInt8) :=
  start (.start (fun _ => 0) (fun _ => 0) .initial)
    ⟨fun _ => 0, .ofMemory fun _ => 0, fun _ => 0, .ofMemory fun _ => 0⟩ 9009 9010

theorem sound_twoPorts : twoPorts.Sound :=
  sound_start (VxiServer.inArrays_start _ _) RidenScpi.holdsPart_initial _ _ _

/-- Two connections, of which the peer drops the first. -/
theorem always_newPorts_twoPorts :
    Machine.Always (straying (fun _ _ => ⟨[], false⟩) fun r _ => r) (NewPorts 9009 9010)
      (start (.start (fun _ => 0) (fun _ => 0) .initial)
        ⟨fun _ => 0, .ofMemory fun _ => 0, fun _ => 0, .ofMemory fun _ => 0⟩ 9009 9010)
      [.loop [] (some ⟨1, true, true, []⟩), .hangUp true, .loop [] none,
        .loop [] (some ⟨1, true, true, []⟩)] := by
  refine always_newPorts _ _ (VxiServer.inArrays_start _ _) RidenScpi.holdsPart_initial _
    (by decide) ?_
  refine (Machine.guarded_strayStep_iff sound_twoPorts fun _ _ hr hi => hr.step hi.2).2 ?_
  have hnone {stack : List UInt8} {new : Option VxiClient} {r : Rotation (RidenScpi UInt8 UInt8)}
      (hc : r.listener.client = none) : r.Bounded (fun _ _ => ⟨[], false⟩) (.loop stack new) :=
    VxiListener.bounded_of_inactive fun c hsome => by rw [hc] at hsome; cases hsome
  refine ⟨⟨trivial, hnone rfl⟩, ⟨fun _ => rfl, trivial⟩, ⟨trivial, ?_⟩, ⟨trivial, hnone rfl⟩,
    trivial⟩
  exact VxiListener.bounded_of_inactive fun _ hc =>
    congrArg VxiClient.connected (Option.some.inj hc).symm

/-- A connection that the web page disconnects, and the next one. -/
theorem not_newPorts_disconnect :
    ¬ Machine.Always (straying (fun _ _ => ⟨[], false⟩) fun r _ => r) (NewPorts 9009 9010) twoPorts
      [.loop [] (some ⟨1, true, true, []⟩), .disconnectClient 1,
        .loop [] (some ⟨1, true, true, []⟩)] := by
  intro h
  have hguarded : Machine.Guarded (step (scpiHandler fun _ _ => ⟨[], false⟩))
      (Bounded fun _ _ => ⟨[], false⟩) twoPorts
      [.loop [] (some ⟨1, true, true, []⟩), .disconnectClient 1,
        .loop [] (some ⟨1, true, true, []⟩)] :=
    ⟨VxiListener.bounded_of_inactive fun _ hc => absurd hc (Option.some_ne_none _).symm, trivial,
      VxiListener.bounded_of_inactive fun _ hc => absurd hc (Option.some_ne_none _).symm, trivial⟩
  have hlast := h.last
  rw [straying, hguarded.run_strayStep sound_twoPorts fun _ _ hr hi => hr.step hi] at hlast
  have hchain : [9009, 9009].IsChain fun p q => q = nextPort 9009 9010 p ∧ q ≠ p := hlast
  exact (List.isChain_cons_cons.1 hchain).1.2 rfl

end Rotation

end RidenDongle
