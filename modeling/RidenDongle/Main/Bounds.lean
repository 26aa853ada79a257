import RidenDongle.Main.Loop
import RidenDongle.Vxi.Bounds

/-!
# The main loop inside the arrays

What a step of the main loop needs to stay inside the buffers of the servers
(`Bounded`): the raw client's line and its output have to fit (`riden_scpi.cpp`), and so
has the request that the VXI server handles (`vxi_server.cpp`).

A step that leaves the buffers overwrites what lies next to them, such as
`write_buffer_length` and `external_control` behind `write_buffer`. Nothing is known of
the dongle from then on (`straying`), and `always_straying` is about the runs in which
that does not happen.
-/

namespace RidenDongle

namespace Dongle

variable {d : Dongle}

/-- Everything that was stored lies in the arrays. -/
def InArrays (d : Dongle) : Prop := d.listener.InArrays

instance (d : Dongle) : Decidable d.InArrays := inferInstanceAs (Decidable d.listener.InArrays)

/-- The call of `RidenScpi::write` for the data of the packet that is received. -/
def writeCall (d : Dongle) (ex : Execution UInt8) (_ : Scpi) (data : List UInt8) :
    RidenScpi.Input Labelled (Conn × UInt8) :=
  .write (data.mapIdx fun k b => (d.receivedOrigins (packet WriteRequest.data + k), b))
    (ex.by (.vxi d.vxiId))

theorem drives_handler (d : Dongle) (ex : Execution UInt8) :
    (d.handler ex).Drives (d.writeCall ex) :=
  ⟨fun _ _ => rfl, fun _ _ => rfl, fun _ => rfl, fun _ => rfl⟩

/-- What a step needs: the next line of the raw client and its output fit, and so does
    the request that the VXI server receives. -/
def Bounded (d : Dongle) : Input → Prop
  | .scpiLoop new ex => d.turn = .scpi →
      d.scpi.Fits (.loop (new.map d.rawClient) fun id => ex.by (.raw id))
  | .vxiLoop stack _ ex => d.turn = .vxi → d.active = true → d.received.len > 0 →
      (d.listener.server.receive d.received.buffer).Bounded (d.handler ex) (d.writeCall ex) stack
  | _ => True

/-- The invariant. -/
def Sound (d : Dongle) : Prop := d.listener.Sound

theorem sound_initial (readBuffer sendBuffer : Memory) (bind : BindServer)
    (portMin portMax : ℕ) : (initial readBuffer sendBuffer bind portMin portMax).Sound :=
  VxiListener.sound_start (VxiServer.inArrays_start _ _) RidenScpi.holdsPart_initial _ _ _

theorem Sound.setScpi (h : d.Sound) {s : Scpi} (hin : s.InArrays) (hq : s.HoldsPart) :
    (d.setScpi s).Sound :=
  ⟨⟨h.inArrays.1.of_eq rfl rfl rfl, hin⟩, hq⟩

/-- A call of `RidenScpi` that fits. -/
theorem Sound.call (h : d.Sound) {i : RidenScpi.Input Labelled (Conn × UInt8)}
    (hfits : d.scpi.Fits i) : (d.setScpi (RidenScpi.step d.scpi i)).Sound :=
  h.setScpi ((RidenScpi.inArrays_step_iff h.part h.inArrays.2 i).2 hfits)
    (RidenScpi.step_inputs h.part i).1

theorem Sound.vxiLoop (h : d.Sound) (hturn : d.turn = .vxi) (stack : List UInt8)
    (new : Option Peer) (ex : Execution UInt8) (hb : d.Bounded (.vxiLoop stack new ex)) :
    (d.vxiLoop stack new ex).Sound := by
  cases hactive : d.active with
  | false =>
    have hserver := (VxiListener.loop_of_inactive (h := d.handler ex) stack
      (new.map fun p => ⟨p.ip, true, p.connected, p.unread⟩) (connected_of_inactive hactive)).1
    exact VxiListener.Sound.of_eq h hserver
  | true =>
    obtain ⟨c, -, hlisten⟩ := vxiLoop_of_active stack new ex hactive
    obtain ⟨hin, hpart⟩ := VxiServer.inArrays_handleReceived h.inArrays (drives_handler d ex)
      h.part (hb hturn hactive)
    refine ⟨?_, ?_⟩
    · rw [VxiListener.InArrays, hlisten, VxiListener.server_handled]
      exact hin
    · rw [hlisten, VxiListener.server_handled]
      exact hpart

theorem Sound.httpLoop (h : d.Sound) (disconnect : Option (Protocol × ℕ)) :
    (d.httpLoop disconnect).Sound := by
  rcases disconnect with - | ⟨_ | _, ip⟩
  · exact h
  · exact h.call (i := .disconnectClient ip) ⟨trivial, trivial⟩
  · exact VxiListener.Sound.disconnectClient h (drives_handler d ⟨[], false⟩) ip

theorem Sound.step (h : d.Sound) {i : Input} (hb : d.Bounded i) :
    (d.step i).InArrays ∧ (d.step i).Sound := by
  suffices hsound : (d.step i).Sound from ⟨hsound.inArrays, hsound⟩
  cases i with
  | scpiLoop new ex =>
    rw [Dongle.step]
    split_ifs with hturn
    · exact h.call (hb hturn)
    · exact h
  | vxiLoop stack new ex =>
    rw [Dongle.step]
    split_ifs with hturn
    · exact h.vxiLoop hturn stack new ex hb
    · exact h
  | httpLoop disconnect =>
    rw [Dongle.step]
    split_ifs
    · exact h.httpLoop disconnect
    · exact h
  | rawArrive bs =>
    rw [Dongle.step, Dongle.rawArrive]
    cases d.scpi.client with
    | none => exact h
    | some c => exact h.call (i := .arrive (label (.raw c.id) d.rawNext bs)) ⟨trivial, trivial⟩
  | rawHangUp held =>
    cases held with
    | false => exact h.setScpi (s := d.scpi.stopClient) h.inArrays.2 h.part
    | true => exact h.call (i := .hangUp) ⟨trivial, trivial⟩
  | vxiArrive | vxiHangUp => exact VxiListener.Sound.of_eq h rfl

/-! ## Runs -/

/-- The dongle, of which nothing is known once it has left the arrays. -/
def straying (stray : Dongle → Input → Dongle) : Dongle → Input → Dongle :=
  Machine.strayStep step InArrays stray

variable {stray : Dongle → Input → Dongle} {ok : Dongle → Input → Prop} {P Q : Dongle → Prop}
  {is : List Input}

/-- It may go on as if it had not left them. -/
theorem straying_step : straying step = step := Machine.strayStep_self

/-- An invariant of the steps that meet the condition holds in every state of a run whose
    steps meet it and stay inside the arrays. -/
theorem always_straying (h : Machine.Guarded (straying stray) (fun d i => ok d i ∧ d.Bounded i) d is)
    (hd : d.Sound) (hp : P d) (hstep : ∀ d i, P d → ok d i → P (d.step i))
    (hPQ : ∀ d, P d → Q d) : Machine.Always (straying stray) Q d is := by
  have hplain := (Machine.guarded_strayStep_iff hd fun _ _ hd hi => hd.step hi.2).1 h
  refine (hplain.always_strayStep_iff hd fun _ _ hd hi => hd.step hi.2).2 ?_
  exact (hplain.always hp fun d i hp hi => hstep d i hp hi.1).mono hPQ

/-- Such a run is one of the main loop itself. -/
theorem guarded_straying_iff (hd : d.Sound) :
    Machine.Guarded (straying stray) (fun d i => ok d i ∧ d.Bounded i) d is ↔
      Machine.Guarded step (fun d i => ok d i ∧ d.Bounded i) d is :=
  Machine.guarded_strayStep_iff hd fun _ _ hd hi => hd.step hi.2

end Dongle

end RidenDongle
