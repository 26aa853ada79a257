import RidenDongle.Main.Bounds

/-!
# Isolation of the clients' commands

Whether what the parser is given comes from one connection and starts with a
message of it, over runs of the main loop.

* `Follows`: labelled bytes that a raw client has sent one after another.
* `Clean`: the invariant of the raw socket server, in states where the buffer and
  the bytes to be read start with a line (`aligned`), and in those where a
  DEV_WRITE may have overwritten the beginning of one.
* `always_isolated`: the runs in which a DEV_WRITE is a message of its client and received
  whole, and control is not given back to a raw client in the middle of a line.
-/

namespace RidenDongle

/-- The bytes come from one connection, and start with a message of it. -/
def Isolated (l : List Labelled) : Prop :=
  ∃ conn message, l.map Prod.fst =
    (List.range l.length).map fun k => some ⟨conn, message, conn.start + k⟩

/-! ## The stream of a raw client -/

section

variable {conn : Conn} {p q : Position} {xs ys body : List Labelled} {b : Labelled}

theorem label_append (bs cs : List UInt8) :
    label conn p (bs ++ cs) = label conn p bs ++ label conn (p.after bs) cs := by
  induction bs generalizing p with
  | nil => rfl
  | cons b bs ih =>
    rw [List.cons_append, label, label, ih, List.cons_append]
    rfl

theorem map_snd_label (bs : List UInt8) : (label conn p bs).map Prod.snd = bs := by
  induction bs generalizing p with
  | nil => rfl
  | cons b bs ih => rw [label, List.map_cons, ih]

/-- The bytes of a line count up. -/
theorem map_fst_label {bs : List UInt8} (h : ∀ c ∈ bs, c ≠ 10) (c : UInt8) :
    (label conn p (bs ++ [c])).map Prod.fst =
      (List.range (bs.length + 1)).map fun k => some ⟨conn, p.line, p.index + k⟩ := by
  induction bs generalizing p with
  | nil => rfl
  | cons b bs ih =>
    have hnext : p.next b = ⟨p.line, p.index + 1⟩ := if_neg (h b List.mem_cons_self)
    rw [List.cons_append, label, List.map_cons, ih fun c hc => h c (List.mem_cons_of_mem b hc),
      List.length_cons, @List.range_succ_eq_map (bs.length + 1), List.map_cons, List.map_map,
      hnext]
    refine congrArg _ (List.map_congr_left fun k _ => ?_)
    rw [Function.comp_apply, Nat.succ_eq_add_one, Nat.add_assoc, Nat.add_comm 1 k]

/-- The bytes `xs` of the connection lie between the positions `p` and `q` of its
    stream. -/
def Follows (conn : Conn) (p : Position) (xs : List Labelled) (q : Position) : Prop :=
  xs = label conn p (xs.map Prod.snd) ∧ p.after (xs.map Prod.snd) = q

theorem follows_label (bs : List UInt8) : Follows conn p (label conn p bs) (p.after bs) := by
  rw [Follows, map_snd_label]
  exact ⟨rfl, rfl⟩

theorem follows_append : Follows conn p (xs ++ ys) q ↔
    Follows conn p xs (p.after (xs.map Prod.snd)) ∧
      Follows conn (p.after (xs.map Prod.snd)) ys q := by
  have hafter : p.after ((xs ++ ys).map Prod.snd) =
      (p.after (xs.map Prod.snd)).after (ys.map Prod.snd) := by
    rw [List.map_append, Position.after, List.foldl_append]
    rfl
  rw [Follows, Follows, Follows, hafter, List.map_append, label_append]
  constructor
  · rintro ⟨heq, hq⟩
    have hlen : xs.length = (label conn p (xs.map Prod.snd)).length := by
      have := congrArg List.length (@map_snd_label conn p (xs.map Prod.snd))
      rwa [List.length_map, List.length_map, eq_comm] at this
    obtain ⟨hxs, hys⟩ := List.append_inj heq hlen
    exact ⟨⟨hxs, rfl⟩, hys, hq⟩
  · rintro ⟨⟨hxs, -⟩, hys, hq⟩
    exact ⟨by rw [← hxs, ← hys], hq⟩

/-- A line that is taken from its beginning. -/
theorem Follows.isolated (h : Follows (.raw n) p (body ++ [b]) q) (hbody : NoNewline body)
    (hp : p.index = 0) : Isolated (body ++ [b]) := by
  refine ⟨.raw n, p.line, ?_⟩
  have hfst := @map_fst_label (.raw n) p (body.map Prod.snd)
    (fun c hc => by
      obtain ⟨x, hx, rfl⟩ := List.mem_map.1 hc
      exact hbody x hx) b.2
  have heq := h.1
  rw [List.map_append, List.map_singleton] at heq
  rw [heq, hfst, ← heq, List.length_map, List.length_append, List.length_singleton, hp]
  rfl

/-- Behind a line begins another. -/
theorem Follows.index_eq_zero (h : Follows conn p (body ++ [b]) q) (hb : b.2 = 10) :
    q.index = 0 := by
  rw [← h.2, List.map_append, Position.after, List.foldl_append, List.map_singleton,
    List.foldl_cons, List.foldl_nil, Position.next, if_pos hb]

end

/-! ## The stream of a VXI client -/

namespace StreamPosition

variable {p : StreamPosition}

/-- Inside a fragment the bytes count up. -/
theorem after_body {bs : List UInt8} (h : bs.length < p.left) :
    p.after bs = { p with index := p.index + bs.length, left := p.left - bs.length } := by
  induction bs generalizing p with
  | nil => rfl
  | cons b bs ih =>
    rw [List.length_cons] at h
    have hnext : p.next b = { p with index := p.index + 1, left := p.left - 1 } := by
      rw [next, if_pos (by omega), settle, if_neg fun h' => by have := h'.1; dsimp only at this; omega]
    rw [after, List.foldl_cons, hnext]
    have hrest := ih (p := { p with index := p.index + 1, left := p.left - 1 })
      (by dsimp only; omega)
    rw [after] at hrest
    rw [hrest, List.length_cons]
    dsimp only
    congr 1 <;> omega

/-- The prefix is collected. -/
theorem after_head {bs : List UInt8} (hleft : p.left = 0) (hlen : p.head.length + bs.length < 4) :
    p.after bs = { p with head := p.head ++ bs } := by
  induction bs generalizing p with
  | nil => rw [List.append_nil, after, List.foldl_nil]
  | cons b bs ih =>
    rw [List.length_cons] at hlen
    have hnext : p.next b = { p with head := p.head ++ [b] } := by
      rw [next, if_neg (by omega)]
      exact if_pos (by rw [List.length_append, List.length_singleton]; omega)
    rw [after, List.foldl_cons, hnext]
    have hrest := ih (p := { p with head := p.head ++ [b] }) hleft
      (by rw [List.length_append, List.length_singleton]; omega)
    rw [after] at hrest
    rw [hrest, List.append_assoc, List.singleton_append]

/-- With its last byte a fragment begins. -/
theorem next_length {b : UInt8} (hleft : p.left = 0) (hhead : p.head.length = 3)
    (hlen : 0 < prefixLength (p.head ++ [b])) : ∃ last,
      p.next b = ⟨p.message, p.index, [], prefixLength (p.head ++ [b]), last⟩ := by
  refine ⟨0x80000000 ≤ Memory.wordOf (p.head ++ [b]) 0, ?_⟩
  rw [next, if_neg (by omega)]
  dsimp only
  rw [if_neg (by rw [List.length_append, hhead, List.length_singleton]; decide), settle,
    if_neg fun h' => Nat.ne_of_gt hlen h'.1]

/-- Behind the prefix of a message comes its first byte. -/
theorem after_lengthWord (h : p.AtStart) {tcp : List UInt8} (htcp : 4 ≤ tcp.length)
    (hlen : 0 < prefixLength tcp) : ∃ last, p.after (tcp.take 4) =
      ⟨p.message, 0, [], prefixLength tcp, last⟩ := by
  have hsame : prefixLength (tcp.take 4) = prefixLength tcp := by
    rw [prefixLength, prefixLength, List.take_take, Nat.min_self]
  have hthree : (tcp.take 3).length = 3 := by
    rw [List.length_take]
    omega
  rw [← hsame] at hlen ⊢
  rw [List.take_succ_eq_append_getElem htcp] at hlen ⊢
  rw [after, List.foldl_append, List.foldl_cons, List.foldl_nil]
  have hhead : p.after (tcp.take 3) = { p with head := p.head ++ tcp.take 3 } :=
    after_head h.left (by rw [h.head, hthree]; decide)
  rw [after, h.head, List.nil_append] at hhead
  rw [hhead]
  obtain ⟨last, hnext⟩ := next_length (p := { p with head := tcp.take 3 }) (b := tcp[3]) h.left
    hthree hlen
  exact ⟨last, hnext.trans (by rw [h.index])⟩

/-- The origins of the bytes of a message that begins. -/
theorem origin_after (h : p.AtStart) {tcp : List UInt8} {k : ℕ} (hk : k < prefixLength tcp)
    (htcp : 4 + k ≤ tcp.length) (id : ℕ) :
    (p.after (tcp.take (4 + k))).origin id = some ⟨.vxi id, p.message, k⟩ := by
  have hfour : 4 ≤ tcp.length := by omega
  obtain ⟨last, hlength⟩ := after_lengthWord h hfour (by omega)
  have hbody : ((tcp.drop 4).take k).length = k := by
    rw [List.length_take, List.length_drop]
    omega
  rw [List.take_add, after, List.foldl_append]
  change (after (p.after (tcp.take 4)) _).origin id = _
  rw [hlength, after_body (by rw [hbody]; exact hk), hbody, origin, if_pos (by dsimp only; omega)]
  dsimp only
  rw [Nat.zero_add]

end StreamPosition

/-! ## The raw socket server -/

/-- What was parsed is isolated, and the buffer and the bytes to be read are what
    the raw client has sent last: from the beginning of a line on, if `aligned`. -/
structure Clean (s : Scpi) (next : Position) (aligned : Prop) : Prop where
  isolated : ∀ l ∈ s.inputs, Isolated l
  part : s.HoldsPart
  follows : ∀ c, s.client = some c → ∃ p,
    Follows (.raw c.id) p (s.inputBuffer ++ c.unread) next ∧ (aligned → p.index = 0)

namespace Clean

variable {s s' : Scpi} {next : Position} {aligned aligned' : Prop}

theorem mono (h : Clean s next aligned) (ha : aligned' → aligned) : Clean s next aligned' :=
  ⟨h.isolated, h.part, fun c hc => by
    obtain ⟨p, hp, hindex⟩ := h.follows c hc
    exact ⟨p, hp, fun h' => hindex (ha h')⟩⟩

/-- What does not concern the bytes that come in. -/
theorem of_eq (h : Clean s next aligned) (hinputs : s'.inputs = s.inputs)
    (hbuffer : s'.inputBuffer = s.inputBuffer)
    (hclient : ∀ c, s'.client = some c → ∃ c₀, s.client = some c₀ ∧ c₀.id = c.id ∧
      c₀.unread = c.unread) : Clean s' next aligned where
  isolated := by rw [hinputs]; exact h.isolated
  part := by rw [RidenScpi.HoldsPart, hbuffer]; exact h.part
  follows c hc := by
    obtain ⟨c₀, hc₀, hid, hunread⟩ := hclient c hc
    rw [hbuffer, ← hid, ← hunread]
    exact h.follows c₀ hc₀

theorem stopClient (h : Clean s next aligned) : Clean s.stopClient next aligned :=
  h.of_eq rfl rfl fun _ hc => nomatch hc

theorem dropDisconnected (h : Clean s next aligned) : Clean s.dropDisconnected next aligned := by
  rcases RidenScpi.dropDisconnected_eq_or s with heq | heq <;> rw [heq]
  · exact h
  · exact h.stopClient

theorem disconnectClient (h : Clean s next aligned) (ip : ℕ) :
    Clean (s.disconnectClient ip) next aligned := by
  rcases RidenScpi.disconnectClient_eq_or s ip with heq | heq <;> rw [heq]
  · exact h
  · exact h.stopClient

theorem read (h : Clean s next aligned) (maxLen : ℕ) :
    Clean (s.read maxLen).2.2 next aligned := by
  unfold RidenScpi.read
  split_ifs <;> exact h.of_eq rfl rfl fun c hc => ⟨c, hc, rfl, rfl⟩

theorem claimExternalControl (h : Clean s next aligned) :
    Clean s.claimExternalControl.2 next aligned :=
  h.of_eq rfl rfl fun c hc => ⟨c, hc, rfl, rfl⟩

theorem releaseExternalControl (h : Clean s next aligned) :
    Clean s.releaseExternalControl next aligned :=
  h.of_eq rfl rfl fun c hc => ⟨c, hc, rfl, rfl⟩

theorem hangUp (h : Clean s next aligned) : Clean s.hangUp next aligned := by
  refine h.of_eq rfl rfl fun c hc => ?_
  obtain ⟨c₀, hc₀, rfl⟩ := Option.map_eq_some_iff.1 hc
  exact ⟨c₀, hc₀, rfl, rfl⟩

/-- More bytes of the client arrive. -/
theorem arrive (h : Clean s next aligned) {c : RawClient Labelled} (hc : s.client = some c)
    (bs : List UInt8) :
    Clean (s.arrive (label (.raw c.id) next bs)) (next.after bs) aligned where
  isolated := h.isolated
  part := h.part
  follows c' hc' := by
    rw [RidenScpi.arrive, hc] at hc'
    obtain rfl := Option.some.inj hc'
    obtain ⟨p, hp, hindex⟩ := h.follows c hc
    refine ⟨p, ?_, hindex⟩
    change Follows _ p (s.inputBuffer ++ (c.unread ++ _)) _
    rw [← List.append_assoc, follows_append, hp.2]
    exact ⟨hp, follows_label bs⟩

/-- A line is parsed: the next one begins behind it. -/
theorem scpiInput {t : Scpi} {c : RawClient Labelled} {body rest : List Labelled} {b : Labelled}
    (h : Clean t next True) (hc : t.client = some c) (hunread : c.unread = body ++ b :: rest)
    (hbody : NoNewline body) (hb : b.2 = 10) (ex : Execution (Conn × UInt8)) :
    Clean (((t.insert (body ++ [b])).setUnread rest).scpiInput ex) next True := by
  obtain ⟨p, hp, hindex⟩ := h.follows c hc
  rw [hunread, show t.inputBuffer ++ (body ++ b :: rest) =
    (t.inputBuffer ++ body ++ [b]) ++ rest by simp, follows_append] at hp
  obtain ⟨hline, hrest⟩ := hp
  refine ⟨fun l hl => ?_, ?_, fun c' hc' => ?_⟩
  · rw [RidenScpi.scpiInput_inputs] at hl
    rcases List.mem_append.1 hl with hl | hl
    · exact h.isolated l hl
    · rw [List.mem_singleton.1 hl]
      change Isolated (t.inputBuffer ++ (body ++ [b]))
      rw [← List.append_assoc]
      exact hline.isolated (h.part.1.append hbody) (hindex trivial)
  · exact ⟨List.forall_mem_nil _, Nat.zero_le _⟩
  · rw [RidenScpi.scpiInput_client] at hc'
    split_ifs at hc'
    have hsame : some { c with unread := rest } = some c' := by
      rw [← hc', RidenScpi.setUnread, RidenScpi.insert, hc]
      rfl
    obtain rfl := Option.some.inj hsame
    exact ⟨_, hrest, fun _ => hline.index_eq_zero hb⟩

/-- `accept`, of a client whose bytes are labelled from the beginning. -/
theorem accept (h : Clean s next True) (new : Option Peer) (client : Peer → RawClient Labelled)
    (hclient : ∀ p, (client p).unread = label (.raw (client p).id) ⟨0, 0⟩ p.unread) :
    Clean (s.accept (new.map client)) (new.elim next fun p =>
      if s.client.isNone then Position.after ⟨0, 0⟩ p.unread else next) True := by
  cases new with
  | none => exact h
  | some p =>
    simp only [RidenScpi.accept, Option.map_some, Option.elim_some]
    split_ifs
    · refine ⟨h.isolated, ⟨List.forall_mem_nil _, Nat.zero_le _⟩, fun c hc => ?_⟩
      obtain rfl := Option.some.inj hc
      refine ⟨⟨0, 0⟩, ?_, fun _ => rfl⟩
      change Follows _ _ ([] ++ (client p).unread) _
      rw [List.nil_append, hclient]
      exact follows_label _
    · exact h

/-- `loop`, once it was seen whether there is a new client. -/
theorem loop {new : Option (RawClient Labelled)} (h : Clean (s.accept new) next True)
    (hext : s.externalControl = false) (ex : ℕ → Execution (Conn × UInt8)) :
    Clean (s.loop new ex) next True := by
  cases hc : (s.accept new).client with
  | none =>
    rw [RidenScpi.loop_of_accept_none hext hc]
    exact h
  | some c =>
    rw [RidenScpi.loop_of_accept hext hc ex]
    split_ifs with hnil hline
    · exact h.dropDisconnected
    -- a whole line is read, or a part of one, or too much of one
    all_goals
      rcases RidenScpi.readLine_cases c.unread (s.accept new) h.part.2 with
        ⟨body, b, rest, heq, hbody, hb, -, hread⟩ | ⟨hno, hfit, hread⟩ |
        ⟨body, b, rest, heq, hbody, -, hread⟩
    · rw [hread]
      exact (h.scpiInput hc heq hbody hb _).dropDisconnected
    · rw [hread] at hline
      cases hline
    · rw [hread] at hline
      cases hline
    · rw [hread] at hline
      exact absurd rfl hline
    · rw [hread]
      refine Clean.dropDisconnected ⟨h.isolated, ⟨h.part.1.append hno, ?_⟩, fun c' hc' => ?_⟩
      · simp only [RidenScpi.setUnread, RidenScpi.insert, List.length_append]
        exact hfit
      · have hsame : some { c with unread := [] } = some c' := by
          rw [← hc', RidenScpi.setUnread, RidenScpi.insert, hc]
          rfl
        obtain rfl := Option.some.inj hsame
        obtain ⟨p, hp, hindex⟩ := h.follows c hc
        refine ⟨p, ?_, hindex⟩
        change Follows _ p (((s.accept new).inputBuffer ++ c.unread) ++ []) _
        rw [List.append_nil]
        exact hp
    · rw [hread]
      exact Clean.dropDisconnected ⟨h.isolated, ⟨List.forall_mem_nil _, Nat.zero_le _⟩,
        fun c' hc' => absurd hc'.symm (Option.some_ne_none c')⟩

/-- A write takes the buffer, whatever was in it. -/
theorem write (h : Clean s next True) {data : List Labelled}
    (hdata : data ≠ [] → data.length ≤ scpiInputBufferLength → Isolated data)
    (ex : Execution (Conn × UInt8)) :
    Clean (s.write data ex) next ((s.write data ex).externalControl = false) := by
  rw [RidenScpi.write]
  split_ifs with hzero hlong
  · exact h.mono fun _ => trivial
  · exact h.mono fun _ => trivial
  · refine ⟨fun l hl => ?_, ⟨List.forall_mem_nil _, Nat.zero_le _⟩, fun c hc => ?_⟩
    · rw [RidenScpi.scpiInput_inputs] at hl
      rcases List.mem_append.1 hl with hl | hl
      · exact h.isolated l hl
      · rw [List.mem_singleton.1 hl]
        exact hdata (fun hnil => hzero (by rw [hnil]; rfl)) (Nat.not_lt.1 hlong)
    · rw [RidenScpi.scpiInput_client] at hc
      split_ifs at hc
      obtain ⟨p, hp, -⟩ := h.follows c hc
      rw [follows_append] at hp
      refine ⟨_, hp.2, fun hext => ?_⟩
      rw [RidenScpi.scpiInput_externalControl] at hext
      cases hext

end Clean

/-! ## The main loop -/

namespace Dongle

/-- Every buffer that the parser was given is isolated. -/
def InputsIsolated (d : Dongle) : Prop := ∀ l ∈ d.scpi.inputs, Isolated l

/-- What the raw client, if there is one, has sent after what was parsed or
    overwritten begins with a line. -/
def AtLineStart (d : Dongle) : Prop :=
  ∀ c, d.scpi.client = some c → (d.scpi.inputBuffer ++ c.unread).head?.elim d.rawNext.index
    (fun x => x.1.elim 0 Origin.index) = 0

/-- A DEV_WRITE of which the parser is given anything begins where a message of its
    client does, and is received with all the data that the parser is given; and the web
    page takes control from a VXI client only when there is no raw client in the middle of
    a line. -/
def Keeps (d : Dongle) : Input → Prop
  | .vxiLoop _ _ _ => d.turn = .vxi → d.procedure = some Rpc.vxi11DevWrite → d.kept ≠ [] →
      d.kept.length ≤ scpiInputBufferLength → d.vxiNext.AtStart ∧
        WriteRequest.data + d.kept.length ≤ (RidenDongle.received vxiReadSize d.unread).length
  | .httpLoop (some (.vxi11, ip)) => d.turn = .http → d.disconnectsVxi ip → d.AtLineStart
  | _ => True

/-- The invariant: a raw client can only be in the middle of a line that was
    overwritten between `vxi_server.loop` and the next `riden_scpi.loop`. -/
def Inv (d : Dongle) : Prop :=
  Clean d.scpi d.rawNext (d.scpi.externalControl = false ∨ d.turn = .vxi)

variable {d : Dongle}

theorem inv_initial (readBuffer sendBuffer : Memory) (bind : BindServer) (portMin portMax : ℕ) :
    (initial readBuffer sendBuffer bind portMin portMax).Inv :=
  ⟨List.forall_mem_nil _, ⟨List.forall_mem_nil _, Nat.zero_le _⟩, fun _ hc => nomatch hc⟩

/-- The first byte tells the position. -/
theorem index_of_follows {conn : Conn} {p q : Position} {xs : List Labelled}
    (h : Follows conn p xs q) :
    xs.head?.elim q.index (fun x => x.1.elim 0 Origin.index) = p.index := by
  cases xs with
  | nil =>
    rw [← h.2]
    rfl
  | cons x xs =>
    have hx := (List.cons.inj h.1).1
    rw [List.head?_cons, Option.elim_some, hx]
    rfl

theorem Inv.scpiLoop (h : d.Inv) (new : Option Peer) (ex : Execution UInt8) :
    (d.scpiLoop new ex).Inv := by
  cases hext : d.scpi.externalControl with
  | true =>
    have hloop : (d.scpiLoop new ex).scpi = d.scpi.stopClient := if_pos hext
    rw [Inv, hloop]
    exact ⟨h.isolated, h.part, fun _ hc => nomatch hc⟩
  | false =>
    have haligned := Clean.mono h fun _ : True => Or.inl hext
    have haccept := haligned.accept new d.rawClient fun _ => rfl
    have hnext : (d.scpiLoop new ex).rawNext = new.elim d.rawNext fun p =>
        if d.scpi.client.isNone then Position.after ⟨0, 0⟩ p.unread else d.rawNext := by
      cases new with
      | none => rfl
      | some p =>
        change (if d.acceptsRaw = true then _ else _) = _
        rw [acceptsRaw, hext, Bool.not_false, Bool.true_and]
        rfl
    rw [← hnext] at haccept
    have hloop := haccept.loop hext fun id => ex.by (.raw id)
    exact Clean.mono (s := (d.scpiLoop new ex).scpi) hloop fun _ => trivial

/-- What is received lies in the record that the prefix begins. -/
theorem length_received_le (tcp : List UInt8) :
    (RidenDongle.received vxiReadSize tcp).length ≤ prefixLength tcp ∧
      (0 < (RidenDongle.received vxiReadSize tcp).length →
        4 + (RidenDongle.received vxiReadSize tcp).length ≤ tcp.length) := by
  rw [RidenDongle.received]
  split_ifs
  · rw [List.length_take, List.length_drop]
    omega
  · exact ⟨Nat.zero_le _, fun h => absurd h (Nat.lt_irrefl 0)⟩

/-- The data of a DEV_WRITE that was received are those of one message. -/
theorem isolated_writeData (hstart : d.vxiNext.AtStart) (h : WriteRequest.data + d.kept.length ≤
    (RidenDongle.received vxiReadSize d.unread).length) : Isolated d.writeData := by
  obtain ⟨hlength, hcame⟩ := length_received_le d.unread
  refine ⟨.vxi d.vxiId, d.vxiNext.message, List.ext_getElem (by simp [writeData]) fun k hk _ => ?_⟩
  have hk : k < d.kept.length := by simpa [writeData] using hk
  simp only [writeData, List.getElem_map, List.getElem_mapIdx, List.getElem_range]
  have hlen : WriteRequest.data + k < prefixLength d.unread := by omega
  have horigin := StreamPosition.origin_after hstart hlen (by omega) d.vxiId
  rw [receivedOrigins, if_pos (by simp only [packet]; omega), packet, Nat.add_assoc, horigin]
  rfl

theorem Inv.vxiLoop (h : d.Inv) (hturn : d.turn = .vxi) (stack : List UInt8) (new : Option Peer)
    (ex : Execution UInt8) (hok : d.Keeps (.vxiLoop stack new ex)) :
    (d.vxiLoop stack new ex).Inv := by
  have haligned : Clean d.scpi d.rawNext True := Clean.mono h fun _ => Or.inr hturn
  -- only a DEV_WRITE gives the parser anything
  have hscpi := @scpi_vxiLoop d stack new ex
  have hmono : ∀ s, (d.vxiLoop stack new ex).scpi = s →
      Clean s d.rawNext (s.externalControl = false) → (d.vxiLoop stack new ex).Inv := by
    intro s hs hclean
    rw [Inv, hs]
    refine hclean.mono fun h' => ?_
    rcases h' with h' | h'
    · exact h'
    · cases h'
  cases hp : d.procedure with
  | none =>
    rw [hp] at hscpi
    exact hmono _ hscpi (haligned.mono fun _ => trivial)
  | some p =>
    rw [hp] at hscpi
    dsimp only at hscpi
    split_ifs at hscpi with hlink hread hwrite hdestroy
    · exact hmono _ hscpi (haligned.claimExternalControl.mono fun _ => trivial)
    · exact hmono _ hscpi ((haligned.read 256).mono fun _ => trivial)
    · refine hmono _ hscpi (haligned.write (fun hne hlen => ?_) _)
      have hnil : d.kept ≠ [] := fun hnil => hne (by rw [writeData, hnil]; rfl)
      obtain ⟨hstart, hwhole⟩ := hok hturn (by rw [hp, hwrite]) hnil (by rwa [← length_writeData])
      exact isolated_writeData hstart hwhole
    · exact hmono _ hscpi (haligned.releaseExternalControl.mono fun _ => trivial)
    · exact hmono _ hscpi (haligned.mono fun _ => trivial)

/-- A raw client that is at the start of a line. -/
theorem Inv.aligned (h : d.Inv) (hstart : d.AtLineStart) : Clean d.scpi d.rawNext True :=
  ⟨h.isolated, h.part, fun c hc => by
    obtain ⟨p, hp, -⟩ := h.follows c hc
    exact ⟨p, hp, fun _ => (index_of_follows hp).symm.trans (hstart c hc)⟩⟩

theorem Inv.httpLoop (h : d.Inv) (disconnect : Option (Protocol × ℕ)) (hturn : d.turn = .http)
    (hok : d.Keeps (.httpLoop disconnect)) : (d.httpLoop disconnect).Inv := by
  classical
  have hext : ∀ {t : Turn}, t ≠ .vxi → Clean d.scpi d.rawNext
      (d.scpi.externalControl = false ∨ t = .vxi) := fun ht => Clean.mono h fun h' => by
    rcases h' with h' | h'
    · exact Or.inl h'
    · exact absurd h' ht
  rcases disconnect with - | ⟨_ | _, ip⟩
  · exact hext (t := .scpi) (by decide)
  · have hclean := (hext (t := .scpi) (by decide)).disconnectClient ip
    rw [← RidenScpi.externalControl_disconnectClient d.scpi ip] at hclean
    exact hclean
  · rw [Inv, scpi_httpLoop_vxi11]
    split_ifs with hdisc
    · exact (h.aligned (hok hturn hdisc)).releaseExternalControl.mono fun _ => trivial
    · exact hext (t := .scpi) (by decide)

theorem Inv.step (h : d.Inv) (i : Input) (hok : d.Keeps i) : (d.step i).Inv := by
  cases i with
  | scpiLoop new ex =>
    rw [Dongle.step]
    split_ifs
    · exact h.scpiLoop new ex
    · exact h
  | vxiLoop stack new ex =>
    rw [Dongle.step]
    split_ifs with hturn
    · exact h.vxiLoop hturn stack new ex hok
    · exact h
  | httpLoop disconnect =>
    rw [Dongle.step]
    split_ifs with hturn
    · exact h.httpLoop disconnect hturn hok
    · exact h
  | rawArrive bs =>
    rw [Dongle.step, Dongle.rawArrive]
    cases hc : d.scpi.client with
    | none => exact h
    | some c => exact Clean.arrive h hc bs
  | rawHangUp held =>
    rw [Dongle.step, Dongle.rawHangUp]
    split_ifs
    · exact Clean.hangUp h
    · exact Clean.stopClient h
  | vxiArrive bs => exact h
  | vxiHangUp held => exact h

/-- **Input isolation.** In a run of the main loop whose steps keep the messages
    whole and stay inside the arrays, every buffer that the parser is given comes from one
    connection and starts with a message of it. -/
theorem always_isolated (stray : Dongle → Input → Dongle) (readBuffer sendBuffer : Memory)
    (bind : BindServer) (portMin portMax : ℕ) (is : List Input)
    (h : Machine.Guarded (straying stray) (fun d i => d.Keeps i ∧ d.Bounded i)
      (initial readBuffer sendBuffer bind portMin portMax) is) :
    Machine.Always (straying stray) InputsIsolated
      (initial readBuffer sendBuffer bind portMin portMax) is :=
  always_straying h (sound_initial readBuffer sendBuffer bind portMin portMax)
    (inv_initial readBuffer sendBuffer bind portMin portMax) (fun _ i hi hok => hi.step i hok)
    fun _ hi => hi.isolated

/-- A raw client, and a VXI client that is disconnected from the web page. -/
theorem always_isolated_disconnect :
    Machine.Always (straying fun d _ => d) InputsIsolated (initial (fun _ => 0) (fun _ => 0)
        ⟨fun _ => 0, .ofMemory fun _ => 0, fun _ => 0, .ofMemory fun _ => 0⟩ 9009 9010)
      [.scpiLoop (some ⟨1, true, [65, 10]⟩) ⟨[], false⟩,
        .vxiLoop [] (some ⟨2, true, []⟩) ⟨[], false⟩, .httpLoop (some (.vxi11, 2))] := by
  refine always_isolated _ _ _ _ _ _ _ ((guarded_straying_iff (sound_initial ..)).2 ?_)
  refine ⟨⟨trivial, fun _ => ⟨fun _ c hc l ls hlines => ?_, fun _ id l _ => ?_⟩⟩,
    ⟨fun _ hp => absurd hp (by decide), fun _ hactive => absurd hactive (by decide)⟩,
    ⟨fun _ _ c hc => ?_, trivial⟩, trivial⟩
  · obtain rfl := Option.some.inj hc
    obtain rfl := (List.cons.inj hlines).1
    exact (by decide : 2 ≠ 256)
  · exact (by decide : 0 + 0 ≤ 256)
  · obtain rfl := Option.some.inj hc
    rfl

/-- Two bytes that end a line are parsed. -/
theorem inputs_loop_pair {s : Scpi} {c : RawClient Labelled} {x y : Labelled}
    (hext : s.externalControl = false) (hc : s.client = some c) (hunread : c.unread = [x, y])
    (hbuffer : s.inputBuffer = []) (hx : x.2 ≠ 10) (hy : y.2 = 10)
    (ex : ℕ → Execution (Conn × UInt8)) : [x, y] ∈ (s.loop none ex).inputs := by
  have hxval : Octet.val x ≠ 10 := hx
  have hyval : Octet.val y = 10 := hy
  have hread : s.readLine [x, y] = ((s.insert [x, y]).setUnread [], true) := by
    simp [RidenScpi.readLine, hbuffer, hxval, hyval, RidenScpi.insert, scpiInputBufferLength]
  rw [RidenScpi.loop_of_client hext hc none ex, hunread, if_neg (List.cons_ne_nil _ _), hread,
    if_pos rfl, (RidenScpi.dropDisconnected_inputs _).1, RidenScpi.scpiInput_inputs]
  refine List.mem_append_right _ (List.mem_singleton.2 ?_)
  change [x, y] = s.inputBuffer ++ [x, y]
  rw [hbuffer, List.nil_append]

/-- A write of one byte replaces what was read of the raw client's line. -/
theorem client_vxiLoop_write {c : RawClient Labelled} (hc : d.scpi.client = some c)
    (hproc : d.procedure = some Rpc.vxi11DevWrite) (hkept : d.kept.length = 1)
    (stack : List UInt8) (new : Option Peer) (ex : Execution UInt8)
    (hgone : ex.clientGone = false) :
    (d.vxiLoop stack new ex).scpi.client = some c ∧
      (d.vxiLoop stack new ex).scpi.inputBuffer = [] := by
  have hdata : d.writeData.length = 1 := length_writeData.trans hkept
  rw [scpi_vxiLoop_write stack new ex hproc, ← hc]
  exact d.scpi.write_client _ hgone (List.ne_nil_of_length_pos (hdata ▸ Nat.one_pos))
    (hdata ▸ by decide)

/-- After a write, the client can be disconnected as before. -/
theorem disconnectsVxi_vxiLoop {ip : ℕ} (hvxi : d.disconnectsVxi ip)
    (hproc : d.procedure = some Rpc.vxi11DevWrite) (stack : List UInt8) (new : Option Peer)
    (ex : Execution UInt8) : (d.vxiLoop stack new ex).disconnectsVxi ip := by
  obtain ⟨v, hv, hheld, hconn, hip⟩ := hvxi
  obtain ⟨v', rest, hv', hclient⟩ :=
    client_vxiLoop stack new ex (active_iff.2 ⟨v, hv, hheld, hconn⟩)
  rw [hv] at hv'
  obtain rfl := Option.some.inj hv'
  rw [hproc, if_neg (by decide)] at hclient
  exact ⟨_, hclient, hheld, hconn, hip⟩

/-- A VXI client that writes while a raw client is in the middle of a line, and is
    then disconnected from the web page: the tail of the line is parsed. -/
theorem not_isolated_of_tail {c : RawClient Labelled} (hturn : d.turn = .vxi)
    (hc : d.scpi.client = some c) (hunread : c.unread = []) (hnext : d.rawNext = ⟨0, 1⟩)
    (hvxi : ∃ v, d.listener.client = some v ∧ v.held = true ∧ v.connected = true ∧ v.ip = 2)
    (hproc : d.procedure = some Rpc.vxi11DevWrite) (hkept : d.kept = [42]) :
    ¬ Machine.Always step InputsIsolated d
      [.vxiLoop [] none ⟨[], false⟩, .httpLoop (some (.vxi11, 2)), .rawArrive [66, 10],
        .scpiLoop none ⟨[], false⟩] := by
  classical
  obtain ⟨d₁, hd₁⟩ : ∃ d₁, d.vxiLoop [] none ⟨[], false⟩ = d₁ := ⟨_, rfl⟩
  have hwrite := client_vxiLoop_write hc hproc (congrArg List.length hkept) [] none
    ⟨[], false⟩ rfl
  have hvxi₁ := disconnectsVxi_vxiLoop hvxi hproc [] none ⟨[], false⟩
  rw [hd₁] at hwrite hvxi₁
  have hturn₁ : d₁.turn = .http := by rw [← hd₁]; rfl
  have hnext₁ : d₁.rawNext = ⟨0, 1⟩ := by rw [← hd₁]; exact hnext
  -- control is given back, so the raw client is served again
  obtain ⟨d₂, hd₂⟩ : ∃ d₂, d₁.httpLoop (some (.vxi11, 2)) = d₂ := ⟨_, rfl⟩
  have hscpi₂ : d₂.scpi = d₁.scpi.releaseExternalControl := by
    rw [← hd₂, scpi_httpLoop_vxi11, if_pos hvxi₁]
  have hclient₂ : d₂.scpi.client = some c := by rw [hscpi₂]; exact hwrite.1
  have hnext₂ : d₂.rawNext = ⟨0, 1⟩ := by rw [← hd₂]; exact hnext₁
  obtain ⟨d₃, hd₃⟩ : ∃ d₃, d₂.rawArrive [66, 10] = d₃ := ⟨_, rfl⟩
  have hscpi₃ : d₃.scpi = d₂.scpi.arrive (label (.raw c.id) ⟨0, 1⟩ [66, 10]) := by
    rw [← hd₃, rawArrive, hclient₂, hnext₂]
    rfl
  have hturn₃ : d₃.turn = .scpi := by rw [← hd₃, rawArrive, hclient₂, ← hd₂]; rfl
  intro h
  have hlast := h.last
  have hs₃ : d₂.step (.rawArrive [66, 10]) = d₃ := hd₃
  rw [run_vxiLoop _ _ _ hturn, hd₁, run_httpLoop hturn₁, hd₂, Machine.run_cons, hs₃,
    run_scpiLoop hturn₃, Machine.run_nil] at hlast
  have hloop : (d₃.scpiLoop none ⟨[], false⟩).scpi =
      d₃.scpi.loop none fun id => (⟨[], false⟩ : Execution UInt8).by (.raw id) := rfl
  have hinput : [(some ⟨.raw c.id, 0, 1⟩, 66), (some ⟨.raw c.id, 0, 2⟩, 10)] ∈
      (d₃.scpiLoop none ⟨[], false⟩).scpi.inputs := by
    rw [hloop]
    refine inputs_loop_pair (c := { c with unread := label (.raw c.id) ⟨0, 1⟩ [66, 10] })
      ?_ ?_ rfl ?_ (show (66 : UInt8) ≠ 10 by decide) rfl _
    · rw [hscpi₃, hscpi₂]
      rfl
    · rw [hscpi₃, RidenScpi.arrive, hclient₂, Option.map_some, hunread, List.nil_append]
    · rw [hscpi₃, hscpi₂]
      exact hwrite.2
  obtain ⟨conn, message, horigins⟩ := hlast _ hinput
  -- the first byte of the tail is not the first of a line
  have hfirst := Option.some.inj (List.cons.inj horigins).1
  injection hfirst with hraw hmessage hindex
  rw [← hraw] at hindex
  exact absurd hindex Nat.one_ne_zero

/-- The raw client sends `A`, then the VXI client writes `*` and is disconnected from
    the web page, then the raw client sends the rest of the line, `B`. -/
theorem not_isolated_disconnect :
    ¬ Machine.Always (straying step) InputsIsolated (initial (fun _ => 0) (fun _ => 0)
        ⟨fun _ => 0, .ofMemory fun _ => 0, fun _ => 0, .ofMemory fun _ => 0⟩ 9009 9010)
      ([.scpiLoop (some ⟨1, true, [65]⟩) ⟨[], false⟩,
          .vxiLoop [] (some ⟨2, true, (star.record true).bytes⟩) ⟨[], false⟩, .httpLoop none] ++
        [.scpiLoop none ⟨[], false⟩, .vxiLoop [] none ⟨[], false⟩,
          .httpLoop (some (.vxi11, 2))] ++
        [.rawArrive [66, 10], .scpiLoop none ⟨[], false⟩]) := by
  rw [straying_step]
  intro h
  let is : List Input := [.scpiLoop (some ⟨1, true, [65]⟩) ⟨[], false⟩,
    .vxiLoop [] (some ⟨2, true, (star.record true).bytes⟩) ⟨[], false⟩, .httpLoop none,
    .scpiLoop none ⟨[], false⟩]
  have htail := @Machine.Always.append_right _ _ _ _ _ is _ h
  obtain ⟨d, hd⟩ : ∃ d, Machine.run step (initial (fun _ => 0) (fun _ => 0)
    ⟨fun _ => 0, .ofMemory fun _ => 0, fun _ => 0, .ofMemory fun _ => 0⟩ 9009 9010) is = d := ⟨_, rfl⟩
  have hactive : d.active = true := by rw [← hd]; rfl
  have hreceived : d.received = getVxiPacket (fun _ => 0) ((star.record true).bytes ++ []) := by
    have hunread : d.unread = (star.record true).bytes := by rw [← hd]; rfl
    have hbuffer : d.listener.server.readBuffer.bytes = fun _ => 0 := by rw [← hd]; rfl
    rw [received, hunread, hbuffer, List.append_nil]
  obtain ⟨hproc, hkept⟩ := received_devWrite star true (fun _ => 0) [] (by decide)
  rw [hd] at htail
  refine not_isolated_of_tail (d := d) (c := ⟨0, 1, true, []⟩) ?_ ?_ rfl ?_ ?_ ?_ ?_ htail
  · rw [← hd]; rfl
  · rw [← hd]; rfl
  · rw [← hd]; rfl
  · rw [← hd]
    exact ⟨_, rfl, rfl, rfl, rfl⟩
  · rw [procedure, if_pos hactive, hreceived, hproc]
  · rw [kept, hreceived, hkept]
    decide

end Dongle

end RidenDongle
