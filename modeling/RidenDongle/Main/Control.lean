import RidenDongle.Main.Bounds

/-!
# Control ownership

Whether `external_control` is set exactly while the VXI server holds a connected
client with a link, over runs of the main loop (`always_owned`).

The flag is set by CREATE_LINK, and by a DEV_WRITE whoever sends it; it is cleared by
DESTROY_LINK and by the web page, but not when the peer drops the connection.
-/

namespace RidenDongle

namespace Dongle

variable {d : Dongle}

/-- Control is taken exactly by a connected client with a link. -/
def Owned (d : Dongle) : Prop :=
  d.scpi.externalControl = true ↔ d.active = true ∧ d.linked = true

/-- Nothing is written without a link, and no client with a link drops the
    connection. -/
def KeepsControl (d : Dongle) : Input → Prop
  | .vxiLoop _ _ _ => d.turn = .vxi → d.procedure = some Rpc.vxi11DevWrite → d.kept ≠ [] →
      d.kept.length ≤ scpiInputBufferLength → d.linked = true
  | .vxiHangUp _ => ¬ (d.active = true ∧ d.linked = true)
  | _ => True

theorem owned_initial (readBuffer sendBuffer : Memory) (bind : BindServer) (portMin portMax : ℕ) :
    (initial readBuffer sendBuffer bind portMin portMax).Owned :=
  iff_of_false Bool.false_ne_true fun h => Bool.false_ne_true h.1

/-- Where the flag, the client and the link are the same. -/
theorem Owned.of_eq {d' : Dongle} (h : d.Owned)
    (hext : d'.scpi.externalControl = d.scpi.externalControl) (hactive : d'.active = d.active)
    (hlinked : d'.linked = d.linked) : d'.Owned := by
  rw [Owned, hext, hactive, hlinked]
  exact h

theorem linked_vxiLoop (stack : List UInt8) (new : Option Peer) (ex : Execution UInt8) :
    (d.vxiLoop stack new ex).linked = true ↔ d.active = true ∧
      d.procedure ≠ some Rpc.vxi11DestroyLink ∧
        (d.linked = true ∨ d.procedure = some Rpc.vxi11CreateLink) := by
  have hlinked : (d.vxiLoop stack new ex).linked = (d.active &&
    d.procedure != some Rpc.vxi11DestroyLink &&
      (d.linked || d.procedure == some Rpc.vxi11CreateLink)) := rfl
  rw [hlinked, Bool.and_eq_true, Bool.and_eq_true, Bool.or_eq_true, bne_iff_ne, beq_iff_eq,
    and_assoc]

/-- A connected client stays, but for a DESTROY_LINK. -/
theorem active_vxiLoop (hactive : d.active = true) (stack : List UInt8) (new : Option Peer)
    (ex : Execution UInt8) : (d.vxiLoop stack new ex).active = true ↔
      d.procedure ≠ some Rpc.vxi11DestroyLink := by
  obtain ⟨c, rest, hc, hclient⟩ := client_vxiLoop stack new ex hactive
  rw [active_iff, hclient]
  split_ifs with hdestroy
  · exact iff_of_false (fun ⟨c', hc', _⟩ => nomatch hc') (not_not.2 hdestroy)
  · obtain ⟨c', hc', hheld, hconn⟩ := active_iff.1 hactive
    rw [hc] at hc'
    obtain rfl := Option.some.inj hc'
    exact iff_of_true ⟨_, rfl, hheld, hconn⟩ hdestroy

theorem Owned.vxiLoop (h : d.Owned) (hturn : d.turn = .vxi) (stack : List UInt8)
    (new : Option Peer) (ex : Execution UInt8) (hok : d.KeepsControl (.vxiLoop stack new ex)) :
    (d.vxiLoop stack new ex).Owned := by
  have hscpi := @scpi_vxiLoop d stack new ex
  rw [Owned, linked_vxiLoop]
  cases hactive : d.active with
  | false =>
    -- nobody is served, and so nobody had control
    have hnone : d.procedure = none := if_neg (by rw [hactive]; decide)
    rw [hnone] at hscpi
    rw [hscpi]
    exact iff_of_false (fun hext => by rw [((show _ ↔ _ from h).1 hext).1] at hactive; cases hactive)
      fun h' => Bool.false_ne_true h'.2.1
  | true =>
    have hext : d.scpi.externalControl = true ↔ d.linked = true :=
      (show _ ↔ _ from h).trans (and_iff_right hactive)
    rw [active_vxiLoop hactive]
    cases hp : d.procedure with
    | none =>
      rw [hp] at hscpi
      rw [hscpi, hext]
      simp
    | some p =>
      rw [hp] at hscpi
      dsimp only at hscpi
      simp only [ne_eq, Option.some.injEq, true_and, and_self_left]
      -- the four procedures, and any other
      split_ifs at hscpi with hlink hread hwrite hdestroy
      · rw [hscpi, hlink]
        exact iff_of_true rfl ⟨by decide, Or.inr rfl⟩
      · rw [hscpi, RidenScpi.externalControl_read, hext, or_iff_left hlink, hread,
          and_iff_right (by decide)]
      · rw [hscpi, RidenScpi.externalControl_write, or_iff_left hlink,
          and_iff_right (show ¬p = Rpc.vxi11DestroyLink by rw [hwrite]; decide)]
        split_ifs with hdata
        · refine iff_of_true rfl (hok hturn (hp.trans (congrArg some hwrite))
            (fun hnil => hdata.1 ?_) ?_)
          · rw [← List.length_eq_zero_iff, length_writeData, hnil]
            rfl
          · rw [← length_writeData]
            exact hdata.2
        · exact hext
      · rw [hscpi]
        exact iff_of_false Bool.false_ne_true fun h' => h'.1 hdestroy
      · rw [hscpi, hext, or_iff_left hlink, and_iff_right hdestroy]

theorem Owned.httpLoop (h : d.Owned) (disconnect : Option (Protocol × ℕ)) :
    (d.httpLoop disconnect).Owned := by
  classical
  rcases disconnect with - | ⟨_ | _, ip⟩
  · exact h
  · exact h.of_eq (RidenScpi.externalControl_disconnectClient d.scpi ip) rfl rfl
  · by_cases hdisc : d.disconnectsVxi ip
    · have hclient : (d.httpLoop (some (.vxi11, ip))).listener.client = none := by
        change (d.listener.disconnectClient (d.handler ⟨[], false⟩) ip).client = none
        rw [VxiListener.disconnectClient_of_held hdisc]
      rw [Owned, scpi_httpLoop_vxi11, if_pos hdisc]
      refine iff_of_false Bool.false_ne_true fun h' => ?_
      obtain ⟨c, hc, -⟩ := active_iff.1 h'.1
      rw [hclient] at hc
      cases hc
    · have hsame : d.listener.disconnectClient (d.handler ⟨[], false⟩) ip = d.listener :=
        VxiListener.disconnectClient_of_not hdisc
      have hhttp : d.httpLoop (some (.vxi11, ip)) = { d with turn := .scpi } := by
        rw [Dongle.httpLoop, hsame]
      rw [hhttp]
      exact h

theorem Owned.step (h : d.Owned) (i : Input) (hok : d.KeepsControl i) : (d.step i).Owned := by
  cases i with
  | scpiLoop new ex =>
    rw [Dongle.step]
    split_ifs
    · exact h.of_eq (RidenScpi.externalControl_loop d.scpi (new.map d.rawClient)
        fun id => ex.by (.raw id)) rfl rfl
    · exact h
  | vxiLoop stack new ex =>
    rw [Dongle.step]
    split_ifs with hturn
    · exact h.vxiLoop hturn stack new ex hok
    · exact h
  | httpLoop disconnect =>
    rw [Dongle.step]
    split_ifs
    · exact h.httpLoop disconnect
    · exact h
  | rawArrive bs =>
    rw [Dongle.step, Dongle.rawArrive]
    cases d.scpi.client with
    | none => exact h
    | some c => exact h.of_eq rfl rfl rfl
  | rawHangUp held =>
    cases held <;> exact h.of_eq rfl rfl rfl
  | vxiArrive bs => exact h.of_eq rfl (active_vxiArrive bs) rfl
  | vxiHangUp held =>
    have hext : d.scpi.externalControl = true ↔ d.active = true ∧ d.linked = true := h
    rw [Dongle.step, Owned, active_vxiHangUp]
    exact iff_of_false (fun h' => hok (hext.1 h')) fun h' => Bool.false_ne_true h'.1

/-- At the end of an iteration, control is taken exactly by a connected client with a
    link. -/
def OwnedAtEnd (d : Dongle) : Prop := d.turn = .scpi → d.Owned

/-- **Control ownership.** In a run of the main loop in which nothing is written
    without a link, no client with a link drops the connection and everything fits in the
    arrays, control is taken exactly by a connected client with a link at the end of every
    iteration. -/
theorem always_owned (stray : Dongle → Input → Dongle) (readBuffer sendBuffer : Memory)
    (bind : BindServer) (portMin portMax : ℕ) (is : List Input)
    (h : Machine.Guarded (straying stray) (fun d i => d.KeepsControl i ∧ d.Bounded i)
      (initial readBuffer sendBuffer bind portMin portMax) is) :
    Machine.Always (straying stray) OwnedAtEnd
      (initial readBuffer sendBuffer bind portMin portMax) is :=
  always_straying h (sound_initial readBuffer sendBuffer bind portMin portMax)
    (owned_initial readBuffer sendBuffer bind portMin portMax) (fun _ i hi hok => hi.step i hok)
    fun _ hi _ => hi

/-- A client without a link, through an iteration. -/
theorem always_owned_unlinked :
    Machine.Always (straying fun d _ => d) OwnedAtEnd (initial (fun _ => 0) (fun _ => 0)
        ⟨fun _ => 0, .ofMemory fun _ => 0, fun _ => 0, .ofMemory fun _ => 0⟩ 9009 9010)
      [.scpiLoop none ⟨[], false⟩, .vxiLoop [] (some ⟨2, true, []⟩) ⟨[], false⟩, .httpLoop none,
        .vxiHangUp true] := by
  refine always_owned _ _ _ _ _ _ _ ((guarded_straying_iff (sound_initial ..)).2 ?_)
  refine ⟨⟨trivial, fun _ => RidenScpi.fits_loop_none rfl⟩,
    ⟨fun _ hp => absurd hp (by decide), fun _ hactive => absurd hactive (by decide)⟩,
    ⟨trivial, trivial⟩, ⟨fun h => absurd h.2 (by decide), trivial⟩, trivial⟩

/-- A client that drops the connection once it has a link. -/
theorem not_owned_of_drop (hturn : d.turn = .vxi)
    (hproc : d.procedure = some Rpc.vxi11CreateLink) :
    ¬ Machine.Always step OwnedAtEnd d
      [.vxiLoop [] none ⟨[], false⟩, .httpLoop none, .vxiHangUp true, .scpiLoop none ⟨[], false⟩,
        .vxiLoop [] none ⟨[], false⟩, .httpLoop none] := by
  -- the link is made, then the peer drops the connection and nobody gives control back
  obtain ⟨d₁, hd₁⟩ : ∃ d₁, d.vxiLoop [] none ⟨[], false⟩ = d₁ := ⟨_, rfl⟩
  have hext₁ : d₁.scpi.externalControl = true := by
    rw [← hd₁, scpi_vxiLoop, hproc]
    rfl
  have hturn₁ : d₁.turn = .http := by rw [← hd₁]; rfl
  obtain ⟨d₂, hd₂⟩ : ∃ d₂, (d₁.httpLoop none).vxiHangUp true = d₂ := ⟨_, rfl⟩
  have hactive₂ : d₂.active = false := by rw [← hd₂, active_vxiHangUp]
  have hext₂ : d₂.scpi.externalControl = true := by
    rw [← hd₂]
    exact hext₁
  have hturn₂ : d₂.turn = .scpi := by rw [← hd₂]; rfl
  obtain ⟨d₃, hd₃⟩ : ∃ d₃, d₂.scpiLoop none ⟨[], false⟩ = d₃ := ⟨_, rfl⟩
  have hactive₃ : d₃.active = false := by
    rw [← hd₃]
    exact hactive₂
  have hext₃ : d₃.scpi.externalControl = true := by
    rw [← hd₃]
    exact (RidenScpi.externalControl_loop d₂.scpi none
      fun id => Execution.by ⟨[], false⟩ (.raw id)).trans hext₂
  have hturn₃ : d₃.turn = .vxi := by rw [← hd₃]; rfl
  obtain ⟨d₄, hd₄⟩ : ∃ d₄, d₃.vxiLoop [] none ⟨[], false⟩ = d₄ := ⟨_, rfl⟩
  have hext₄ : d₄.scpi.externalControl = true := by
    rw [← hd₄, scpi_vxiLoop, show d₃.procedure = none from if_neg (by rw [hactive₃]; decide)]
    exact hext₃
  have hlinked₄ : ¬ d₄.linked = true := by
    rw [← hd₄, linked_vxiLoop, hactive₃]
    exact fun h => Bool.false_ne_true h.1
  have hturn₄ : d₄.turn = .http := by rw [← hd₄]; rfl
  intro h
  have hlast := h.last
  have hs₂ : (d₁.httpLoop none).step (.vxiHangUp true) = d₂ := hd₂
  rw [run_vxiLoop _ _ _ hturn, hd₁, run_httpLoop hturn₁, Machine.run_cons, hs₂,
    run_scpiLoop hturn₂, hd₃, run_vxiLoop _ _ _ hturn₃, hd₄, run_httpLoop hturn₄,
    Machine.run_nil] at hlast
  have howned : d₄.scpi.externalControl = true ↔ d₄.active = true ∧ d₄.linked = true := hlast rfl
  exact hlinked₄ (howned.1 hext₄).2

/-- A client that creates a link, of which it drops the connection in the next iteration. -/
theorem not_owned_drop :
    ¬ Machine.Always (straying step) OwnedAtEnd (initial (fun _ => 0) (fun _ => 0)
        ⟨fun _ => 0, .ofMemory fun _ => 0, fun _ => 0, .ofMemory fun _ => 0⟩ 9009 9010)
      ([.scpiLoop none ⟨[], false⟩,
          .vxiLoop [] (some ⟨2, true, (VxiServer.linkRecord 0).bytes⟩) ⟨[], false⟩,
          .httpLoop none] ++
        [.scpiLoop none ⟨[], false⟩, .vxiLoop [] none ⟨[], false⟩, .httpLoop none] ++
        [.vxiHangUp true, .scpiLoop none ⟨[], false⟩, .vxiLoop [] none ⟨[], false⟩,
          .httpLoop none]) := by
  rw [straying_step]
  intro h
  let is : List Input := [.scpiLoop none ⟨[], false⟩,
    .vxiLoop [] (some ⟨2, true, (VxiServer.linkRecord 0).bytes⟩) ⟨[], false⟩, .httpLoop none,
    .scpiLoop none ⟨[], false⟩]
  have htail := @Machine.Always.append_right _ _ _ _ _ is _ h
  obtain ⟨d, hd⟩ : ∃ d, Machine.run step (initial (fun _ => 0) (fun _ => 0)
    ⟨fun _ => 0, .ofMemory fun _ => 0, fun _ => 0, .ofMemory fun _ => 0⟩ 9009 9010) is = d := ⟨_, rfl⟩
  have hactive : d.active = true := by rw [← hd]; rfl
  have hreceived : d.received =
      getVxiPacket (fun _ => 0) ((VxiServer.linkRecord 0).bytes ++ []) := by
    have hunread : d.unread = (VxiServer.linkRecord 0).bytes := by rw [← hd]; rfl
    have hbuffer : d.listener.server.readBuffer.bytes = fun _ => 0 := by rw [← hd]; rfl
    rw [received, hunread, hbuffer, List.append_nil]
  have hlen : (VxiServer.linkRecord 0).body.length = 56 := Memory.length_wordsBytes _
  have hproc := procedure_record (List.append_nil _).symm
    (show 4 < (VxiServer.linkRecord 0).body.length by omega) (by omega) rfl rfl (by decide)
    (fun _ => 0) []
  rw [hd] at htail
  refine not_owned_of_drop ?_ ?_ htail
  · rw [← hd]; rfl
  · rw [procedure, if_pos hactive, hreceived, hproc]

end Dongle

end RidenDongle
