import RidenDongle.Machine.Run
import RidenDongle.Scpi.Basic

/-!
# Lines of the raw socket server

What `RidenScpi::loop` makes of the bytes of a raw client, however they arrive.

* `Input` and `step`: the server as a machine, driven by what its clients and
  the rest of the firmware do to it.
* `readLine_cases`: what one pass of the reading loop does.
* `framing`: the buffers that are parsed are the lines of the stream, and a
  line that is too long closes the connection.
* `loop_cases`: a `loop` parses the next line (`nextLine`), or nothing.
* `always_inputBound_iff`: which runs leave room for the NUL that the parser
  stores behind what it parses.
-/

namespace RidenDongle

/-! ## Lines -/

section Lines

variable {α : Type*} [Octet α]

/-- There is no newline among the bytes. -/
def NoNewline (bs : List α) : Prop := ∀ b ∈ bs, Octet.val b ≠ 10

/-- Bytes up to a newline, the newline included. -/
def IsLine (l : List α) : Prop := ∃ body b, l = body ++ [b] ∧ NoNewline body ∧ Octet.val b = 10

/-- The lines of a stream, and the unfinished last one. -/
def lines : List α → List (List α) × List α
  | [] => ([], [])
  | b :: bs =>
    if Octet.val b = 10 then ([b] :: (lines bs).1, (lines bs).2)
    else
      match (lines bs).1 with
      | [] => ([], b :: (lines bs).2)
      | l :: ls => ((b :: l) :: ls, (lines bs).2)

theorem NoNewline.append {bs cs : List α} (hb : NoNewline bs) (hc : NoNewline cs) :
    NoNewline (bs ++ cs) := by
  intro b h
  rcases List.mem_append.1 h with h | h
  · exact hb b h
  · exact hc b h

theorem lines_of_noNewline {bs : List α} (h : NoNewline bs) : lines bs = ([], bs) := by
  induction bs with
  | nil => rfl
  | cons b bs ih =>
    have hb : Octet.val b ≠ 10 := h b (List.mem_cons_self ..)
    rw [lines, if_neg hb, ih fun c hc => h c (List.mem_cons_of_mem _ hc)]

theorem lines_append {l r : List α} (h : IsLine l) :
    lines (l ++ r) = (l :: (lines r).1, (lines r).2) := by
  obtain ⟨body, b, rfl, hbody, hb⟩ := h
  induction body with
  | nil => rw [List.nil_append, List.singleton_append, lines, if_pos hb]
  | cons c body ih =>
    have hc : Octet.val c ≠ 10 := hbody c (List.mem_cons_self ..)
    rw [List.cons_append, List.cons_append, lines, if_neg hc,
      ih fun d hd => hbody d (List.mem_cons_of_mem _ hd)]

/-- The lines of a stream that starts with whole lines. -/
theorem lines_flatten {ls : List (List α)} (h : ∀ l ∈ ls, IsLine l) (r : List α) :
    lines (ls.flatten ++ r) = (ls ++ (lines r).1, (lines r).2) := by
  induction ls with
  | nil => rfl
  | cons l ls ih =>
    rw [List.flatten_cons, List.append_assoc, lines_append (h l (List.mem_cons_self ..)),
      ih fun l' hl' => h l' (List.mem_cons_of_mem _ hl')]
    rfl

/-- Where the first `n` bytes are short of a newline and more follow, the next
    line is longer than that. -/
theorem lines_of_long {n : ℕ} {long : List α} (h : NoNewline (long.take n))
    (hn : n < long.length) :
    (∃ l ls, (lines long).1 = l :: ls ∧ n < l.length) ∨
    ((lines long).1 = [] ∧ n < (lines long).2.length) := by
  induction long generalizing n with
  | nil => exact absurd hn (Nat.not_lt_zero _)
  | cons b bs ih =>
    rw [lines]
    split_ifs with hb
    · cases n with
      | zero => exact Or.inl ⟨[b], _, rfl, Nat.one_pos⟩
      | succ n => exact absurd hb (h b (by simp))
    · have htail : (∃ l ls, (lines bs).1 = l :: ls ∧ n ≤ l.length) ∨
          ((lines bs).1 = [] ∧ n ≤ (lines bs).2.length) := by
        cases n with
        | zero =>
          cases hl : (lines bs).1 with
          | nil => exact Or.inr ⟨rfl, Nat.zero_le _⟩
          | cons l ls => exact Or.inl ⟨l, ls, rfl, Nat.zero_le _⟩
        | succ n =>
          exact ih (fun c hc => h c (by simp [hc])) (by simpa using hn)
      rcases htail with ⟨l, ls, hl, hlen⟩ | ⟨hl, hlen⟩
      · rw [hl]
        exact Or.inl ⟨b :: l, ls, rfl, Nat.lt_succ_of_le hlen⟩
      · rw [hl]
        exact Or.inr ⟨rfl, Nat.lt_succ_of_le hlen⟩

/-- The lines in front of one that is too long. -/
theorem takeWhile_lines {n : ℕ} {ls : List (List α)} {long : List α}
    (hls : ∀ l ∈ ls, IsLine l ∧ l.length ≤ n) (h : NoNewline (long.take n))
    (hn : n < long.length) :
    (lines (ls.flatten ++ long)).1.takeWhile (fun l => decide (l.length ≤ n)) = ls := by
  rw [lines_flatten fun l hl => (hls l hl).1, List.takeWhile_append_of_pos fun l hl => by
    simpa using (hls l hl).2]
  have hstop : (lines long).1.takeWhile (fun l => decide (l.length ≤ n)) = [] := by
    rcases lines_of_long h hn with ⟨l, ls', hl, hlen⟩ | ⟨hl, -⟩
    · rw [hl, List.takeWhile_cons_of_neg (by simpa using hlen)]
    · rw [hl, List.takeWhile_nil]
  rw [hstop, List.append_nil]

/-- The number of newlines. -/
def newlines (bs : List α) : ℕ := bs.countP fun b => Octet.val b = 10

end Lines

namespace RidenScpi

variable {α β : Type*}

/-! ## The server as a machine -/

/-- What happens to the server. -/
inductive Input (α β : Type*)
  /-- bytes of the raw client arrive -/
  | arrive (bs : List α)
  /-- the raw client closes the connection -/
  | hangUp
  | loop (new : Option (RawClient α)) (ex : ℕ → Execution β)
  | write (data : List α) (ex : Execution β)
  | read (maxLen : ℕ)
  | claimExternalControl
  | releaseExternalControl
  | disconnectClient (ip : ℕ)

/-- The raw client has `bs` more to be read. -/
def arrive (s : RidenScpi α β) (bs : List α) : RidenScpi α β :=
  { s with client := s.client.map fun c => { c with unread := c.unread ++ bs } }

/-- The raw client is no longer connected. -/
def hangUp (s : RidenScpi α β) : RidenScpi α β :=
  { s with client := s.client.map fun c => { c with connected := false } }

def step [Octet α] (s : RidenScpi α β) : Input α β → RidenScpi α β
  | .arrive bs => s.arrive bs
  | .hangUp => s.hangUp
  | .loop new ex => s.loop new ex
  | .write data ex => s.write data ex
  | .read maxLen => (s.read maxLen).2.2
  | .claimExternalControl => s.claimExternalControl.2
  | .releaseExternalControl => s.releaseExternalControl
  | .disconnectClient ip => s.disconnectClient ip

/-! ## The parser -/

section scpiInput

variable (s : RidenScpi α β) (ex : Execution β)

theorem foldl_scpiWrite (out : List (List β)) :
    (out.foldl scpiWrite s).inputs = s.inputs ∧ (out.foldl scpiWrite s).client = s.client ∧
      (out.foldl scpiWrite s).externalControl = s.externalControl := by
  induction out generalizing s with
  | nil => exact ⟨rfl, rfl, rfl⟩
  | cons d out ih => exact ih (s.scpiWrite d)

@[simp] theorem scpiFlush_inputs : s.scpiFlush.inputs = s.inputs := by
  unfold scpiFlush
  split_ifs
  · rfl
  · cases s.client <;> rfl

@[simp] theorem scpiFlush_client : s.scpiFlush.client = s.client := by
  unfold scpiFlush
  split_ifs
  · rfl
  · cases h : s.client <;> simp [h]

@[simp] theorem scpiFlush_externalControl :
    s.scpiFlush.externalControl = s.externalControl := by
  unfold scpiFlush
  split_ifs
  · rfl
  · cases s.client <;> rfl

/-- The parser takes the whole buffer. -/
theorem scpiInput_inputs : (s.scpiInput ex).inputs = s.inputs ++ [s.inputBuffer] := by
  simp only [scpiInput, loseClient]
  split_ifs <;> simp [foldl_scpiWrite]

@[simp] theorem scpiInput_inputBuffer : (s.scpiInput ex).inputBuffer = [] := rfl

theorem scpiInput_client :
    (s.scpiInput ex).client = if ex.clientGone then none else s.client := by
  simp only [scpiInput, loseClient]
  split_ifs <;> simp [foldl_scpiWrite]

theorem scpiInput_externalControl :
    (s.scpiInput ex).externalControl = s.externalControl := by
  simp only [scpiInput, loseClient]
  split_ifs <;> simp [foldl_scpiWrite]

/-- Too much at once is ignored. -/
theorem write_of_long {data : List α} (hlong : scpiInputBufferLength < data.length) :
    s.write data ex = s := by
  rw [write, if_neg (Nat.ne_of_gt (Nat.zero_lt_of_lt hlong)), if_pos hlong]

theorem write_eq_scpiInput {data : List α} (hne : data ≠ [])
    (hlen : data.length ≤ scpiInputBufferLength) :
    s.write data ex = scpiInput { s with
      inputBuffer := data
      inputLength := data.length
      externalControl := true } ex := by
  rw [write, if_neg fun h => hne (List.eq_nil_of_length_eq_zero h), if_neg (Nat.not_lt.2 hlen)]

/-- What is written is parsed. -/
theorem write_inputs {data : List α} (hne : data ≠ [])
    (hlen : data.length ≤ scpiInputBufferLength) :
    (s.write data ex).inputs = s.inputs ++ [data] := by
  rw [write_eq_scpiInput _ _ hne hlen, scpiInput_inputs]

/-- A write leaves the client alone, unless that goes while it is parsed. -/
theorem write_client {data : List α} (hgone : ex.clientGone = false) (hne : data ≠ [])
    (hlen : data.length ≤ scpiInputBufferLength) :
    (s.write data ex).client = s.client ∧ (s.write data ex).inputBuffer = [] := by
  rw [write_eq_scpiInput _ _ hne hlen, scpiInput_client, hgone, if_neg Bool.false_ne_true]
  exact ⟨rfl, rfl⟩

end scpiInput

/-! ## A client that goes -/

theorem dropDisconnected_eq_or (s : RidenScpi α β) :
    s.dropDisconnected = s ∨ s.dropDisconnected = s.stopClient := by
  unfold dropDisconnected
  cases s.client with
  | none => exact Or.inl rfl
  | some c =>
    dsimp only
    split_ifs
    · exact Or.inl rfl
    · exact Or.inr rfl

theorem disconnectClient_eq_or (s : RidenScpi α β) (ip : ℕ) :
    s.disconnectClient ip = s ∨ s.disconnectClient ip = s.stopClient := by
  unfold disconnectClient
  cases s.client with
  | none => exact Or.inl rfl
  | some c =>
    dsimp only
    split_ifs
    · exact Or.inr rfl
    · exact Or.inl rfl

/-! ## One pass of the reading loop -/

/-- The server with more in its buffer. -/
def insert (s : RidenScpi α β) (bs : List α) : RidenScpi α β :=
  { s with inputBuffer := s.inputBuffer ++ bs, inputLength := s.inputLength + bs.length }

theorem insert_insert (s : RidenScpi α β) (bs cs : List α) :
    (s.insert bs).insert cs = s.insert (bs ++ cs) := by
  simp only [insert, List.append_assoc, List.length_append, Nat.add_assoc]

variable [Octet α]

/-- The buffer holds the beginning of a line, and fits. -/
def HoldsPart (s : RidenScpi α β) : Prop :=
  NoNewline s.inputBuffer ∧ s.inputBuffer.length ≤ scpiInputBufferLength

theorem holdsPart_initial : (initial : RidenScpi α β).HoldsPart :=
  ⟨List.forall_mem_nil _, Nat.zero_le _⟩

/-- A pass ends at a newline, at the end of what can be read, or with a line that
    does not fit. -/
theorem readLine_cases (bs : List α) (s : RidenScpi α β)
    (hlen : s.inputBuffer.length ≤ scpiInputBufferLength) :
    (∃ body b rest, bs = body ++ b :: rest ∧ NoNewline body ∧ Octet.val b = 10 ∧
      s.inputBuffer.length + body.length + 1 ≤ scpiInputBufferLength ∧
      s.readLine bs = ((s.insert (body ++ [b])).setUnread rest, true)) ∨
    (NoNewline bs ∧ s.inputBuffer.length + bs.length ≤ scpiInputBufferLength ∧
      s.readLine bs = ((s.insert bs).setUnread [], false)) ∨
    (∃ body b rest, bs = body ++ b :: rest ∧ NoNewline body ∧
      s.inputBuffer.length + body.length = scpiInputBufferLength ∧
      s.readLine bs =
        ({ s.insert body with inputBuffer := [], inputLength := 0 }.stopClient, false)) := by
  induction bs generalizing s with
  | nil =>
    refine Or.inr (Or.inl ⟨by simp [NoNewline], by simpa using hlen, ?_⟩)
    simp [readLine, insert]
  | cons b bs ih =>
    by_cases hfull : s.inputBuffer.length ≥ scpiInputBufferLength
    -- a byte is left and there is no room for it
    · refine Or.inr (Or.inr ⟨[], b, bs, rfl, by simp [NoNewline], ?_, ?_⟩)
      · simp only [List.length_nil]
        omega
      · rw [readLine, if_pos hfull]
        simp [insert]
    · have hread : s.readLine (b :: bs) =
          if Octet.val b = 10 then ((s.insert [b]).setUnread bs, true)
          else (s.insert [b]).readLine bs := by
        rw [readLine, if_neg hfull]
        rfl
      by_cases hb : Octet.val b = 10
      · refine Or.inl ⟨[], b, bs, rfl, by simp [NoNewline], hb, ?_, ?_⟩
        · simp only [List.length_nil]
          omega
        · rw [hread, if_pos hb, List.nil_append]
      · have hcons : ∀ body : List α, NoNewline body → NoNewline (b :: body) := by
          intro body h c hc
          rcases List.mem_cons.1 hc with rfl | hc
          · exact hb
          · exact h c hc
        have hlen' : (s.insert [b]).inputBuffer.length = s.inputBuffer.length + 1 := by
          simp [insert]
        rw [hread, if_neg hb]
        -- `b` goes into the buffer, and in front of what the rest adds to it
        rcases ih (s.insert [b]) (by omega) with
          ⟨body, c, rest, rfl, hbody, hc, hfit, heq⟩ | ⟨hno, hfit, heq⟩ |
          ⟨body, c, rest, rfl, hbody, hfit, heq⟩
        · refine Or.inl ⟨b :: body, c, rest, rfl, hcons body hbody, hc, ?_, ?_⟩
          · simp only [List.length_cons]
            omega
          · rw [heq, insert_insert]
            rfl
        · refine Or.inr (Or.inl ⟨hcons bs hno, ?_, ?_⟩)
          · simp only [List.length_cons]
            omega
          · rw [heq, insert_insert]
            rfl
        · refine Or.inr (Or.inr ⟨b :: body, c, rest, rfl, hcons body hbody, ?_, ?_⟩)
          · simp only [List.length_cons]
            omega
          · rw [heq, insert_insert]
            rfl

/-- What a pass makes of the lines in the buffer and the bytes to be read: the first one
    is in the buffer, or there is none, or it does not fit. -/
theorem readLine_lines {s : RidenScpi α β} (h : HoldsPart s) (bs : List α) :
    (∃ body rest ls, (lines (s.inputBuffer ++ bs)).1 = (s.insert body).inputBuffer :: ls ∧
      (s.insert body).inputBuffer.length ≤ scpiInputBufferLength ∧
      s.readLine bs = ((s.insert body).setUnread rest, true)) ∨
    ((lines (s.inputBuffer ++ bs)).1 = [] ∧ HoldsPart (s.insert bs) ∧
      s.readLine bs = ((s.insert bs).setUnread [], false)) ∨
    ((∀ l ls, (lines (s.inputBuffer ++ bs)).1 = l :: ls → scpiInputBufferLength < l.length) ∧
      ∃ body, s.readLine bs =
        ({ s.insert body with inputBuffer := [], inputLength := 0 }.stopClient, false)) := by
  rcases readLine_cases bs s h.2 with
    ⟨body, b, rest, rfl, hbody, hb, hfit, hread⟩ | ⟨hno, hfit, hread⟩ |
    ⟨body, b, rest, heq, hbody, hfit, hread⟩
  · -- the line ends in what is read
    have hline : IsLine (s.inputBuffer ++ (body ++ [b])) :=
      ⟨s.inputBuffer ++ body, b, (List.append_assoc ..).symm, h.1.append hbody, hb⟩
    have hsplit : s.inputBuffer ++ (body ++ b :: rest) =
        (s.inputBuffer ++ (body ++ [b])) ++ rest := by simp
    refine Or.inl ⟨body ++ [b], rest, (lines rest).1, ?_, ?_, hread⟩
    · rw [hsplit, lines_append hline]
      rfl
    · simp only [insert, List.length_append, List.length_singleton]
      omega
  · refine Or.inr (Or.inl ⟨?_, ⟨h.1.append hno, ?_⟩, hread⟩)
    · rw [lines_of_noNewline (h.1.append hno)]
    · rw [insert, List.length_append]
      exact hfit
  · -- there is more without a newline than the buffer holds
    have hstart : NoNewline ((s.inputBuffer ++ bs).take scpiInputBufferLength) := by
      rw [heq, ← List.append_assoc, List.take_left' (by simpa using hfit)]
      exact h.1.append hbody
    have hlong : scpiInputBufferLength < (s.inputBuffer ++ bs).length := by
      rw [heq]
      simp only [List.length_append, List.length_cons]
      omega
    refine Or.inr (Or.inr ⟨fun l ls hl => ?_, body, hread⟩)
    rcases lines_of_long hstart hlong with ⟨l', ls', hl', hlen⟩ | ⟨hl', -⟩
    · rw [hl] at hl'
      rw [(List.cons.inj hl').1]
      exact hlen
    · rw [hl] at hl'
      exact absurd hl' (List.cons_ne_nil _ _)

/-- `loop`, when there is no client and no new one. -/
theorem loop_of_accept_none {s : RidenScpi α β} {new : Option (RawClient α)}
    (hext : s.externalControl = false) (hc : (s.accept new).client = none)
    (ex : ℕ → Execution β) : s.loop new ex = s.accept new := by
  rw [loop, if_neg (by rw [hext]; decide)]
  simp [fetch, dropDisconnected, hc]

/-- `loop`, once it was seen whether there is a new client. -/
theorem loop_of_accept {s : RidenScpi α β} {c : RawClient α} {new : Option (RawClient α)}
    (hext : s.externalControl = false) (hc : (s.accept new).client = some c)
    (ex : ℕ → Execution β) :
    s.loop new ex =
      if c.unread = [] then (s.accept new).dropDisconnected
      else if ((s.accept new).readLine c.unread).2 then
        (((s.accept new).readLine c.unread).1.scpiInput (ex c.id)).dropDisconnected
      else ((s.accept new).readLine c.unread).1.dropDisconnected := by
  have hfetch : (s.accept new).fetch =
      if c.unread.length > 0 then (s.accept new).readLine c.unread else (s.accept new, false) := by
    simp only [fetch, hc]
  rw [loop, if_neg (by rw [hext]; decide)]
  simp only [hc, Option.elim_some, hfetch]
  by_cases h : c.unread = []
  · simp [h]
  · rw [if_pos (List.length_pos_of_ne_nil h), if_neg h]
    split_ifs <;> rfl

/-- `loop` with a client. -/
theorem loop_of_client {s : RidenScpi α β} {c : RawClient α} (hext : s.externalControl = false)
    (hc : s.client = some c) (new : Option (RawClient α)) (ex : ℕ → Execution β) :
    s.loop new ex =
      if c.unread = [] then s.dropDisconnected
      else if (s.readLine c.unread).2 then
        ((s.readLine c.unread).1.scpiInput (ex c.id)).dropDisconnected
      else (s.readLine c.unread).1.dropDisconnected := by
  have haccept : s.accept new = s := by
    cases new <;> simp [accept, hc]
  have h := @loop_of_accept _ _ _ s c new hext (by rw [haccept]; exact hc) ex
  rwa [haccept] at h

/-! ## The lines of a stream -/

/-- The client has sent `stream`, of which the lines `ls` were parsed; the rest is
    in the buffer and still to be read. -/
structure Reading (before : List (List α)) (stream : List α) (ls : List (List α))
    (s : RidenScpi α β) (unread : List α) : Prop where
  external : s.externalControl = false
  client : ∃ c, s.client = some c ∧ c.connected = true ∧ c.unread = unread
  stream_eq : stream = ls.flatten ++ (s.inputBuffer ++ unread)
  inputs : s.inputs = before ++ ls
  parsed : ∀ l ∈ ls, IsLine l ∧ l.length ≤ scpiInputBufferLength
  part : NoNewline s.inputBuffer
  bound : s.inputBuffer.length ≤ scpiInputBufferLength

/-- The connection was closed in a line that is too long, behind the lines `ls`. -/
structure Closed (before : List (List α)) (stream : List α) (ls : List (List α))
    (s : RidenScpi α β) : Prop where
  client : s.client = none
  inputs : s.inputs = before ++ ls
  parsed : ∀ l ∈ ls, IsLine l ∧ l.length ≤ scpiInputBufferLength
  stream_eq : ∃ long b rest, stream = ls.flatten ++ (long ++ b :: rest) ∧ NoNewline long ∧
    long.length = scpiInputBufferLength

variable {before : List (List α)} {stream unread : List α} {ls : List (List α)}
  {s : RidenScpi α β}

omit [Octet α] in
theorem dropDisconnected_of_connected {c : RawClient α} (hc : s.client = some c)
    (hconn : c.connected = true) : s.dropDisconnected = s := by
  simp [dropDisconnected, hc, hconn]

theorem Reading.arrive (h : Reading before stream ls s unread) (bs : List α) :
    Reading before (stream ++ bs) ls (s.arrive bs) (unread ++ bs) where
  external := h.external
  client := by
    obtain ⟨c, hc, hconn, hunread⟩ := h.client
    exact ⟨{ c with unread := c.unread ++ bs }, by simp [RidenScpi.arrive, hc], hconn,
      by simp [hunread]⟩
  stream_eq := by
    rw [h.stream_eq]
    simp [RidenScpi.arrive]
  inputs := h.inputs
  parsed := h.parsed
  part := h.part
  bound := h.bound

/-- A line that is read and parsed. -/
theorem Reading.line (h : Reading before stream ls s unread) {body rest : List α} {b : α}
    (heq : unread = body ++ b :: rest) (hbody : NoNewline body) (hb : Octet.val b = 10)
    (hfit : s.inputBuffer.length + body.length + 1 ≤ scpiInputBufferLength) {ex : Execution β}
    (hex : ex.clientGone = false) :
    Reading before stream (ls ++ [s.inputBuffer ++ (body ++ [b])])
      ((((s.insert (body ++ [b])).setUnread rest).scpiInput ex).dropDisconnected) rest := by
  obtain ⟨c, hc, hconn, -⟩ := h.client
  have hclient : (((s.insert (body ++ [b])).setUnread rest).scpiInput ex).client =
      some { c with unread := rest } := by
    rw [scpiInput_client, hex, if_neg (by decide)]
    simp [setUnread, insert, hc]
  rw [dropDisconnected_of_connected hclient hconn]
  refine ⟨?_, ⟨_, hclient, hconn, rfl⟩, ?_, ?_, ?_, ?_, ?_⟩
  · rw [scpiInput_externalControl]
    exact h.external
  · rw [h.stream_eq, heq]
    simp
  · rw [scpiInput_inputs]
    simp [setUnread, insert, h.inputs]
  · intro l hl
    rcases List.mem_append.1 hl with hl | hl
    · exact h.parsed l hl
    · obtain rfl := List.mem_singleton.1 hl
      refine ⟨⟨s.inputBuffer ++ body, b, by simp, h.part.append hbody, hb⟩, ?_⟩
      simp only [List.length_append, List.length_singleton]
      omega
  · simp [NoNewline]
  · simp

/-- A part of a line, to the end of what can be read. -/
theorem Reading.part_read (h : Reading before stream ls s unread) (hno : NoNewline unread)
    (hfit : s.inputBuffer.length + unread.length ≤ scpiInputBufferLength) :
    Reading before stream ls ((s.insert unread).setUnread []).dropDisconnected [] := by
  obtain ⟨c, hc, hconn, -⟩ := h.client
  have hclient : ((s.insert unread).setUnread []).client = some { c with unread := [] } := by
    simp [setUnread, insert, hc]
  rw [dropDisconnected_of_connected hclient hconn]
  refine ⟨h.external, ⟨_, hclient, hconn, rfl⟩, ?_, h.inputs, h.parsed, h.part.append hno, ?_⟩
  · rw [h.stream_eq]
    simp [setUnread, insert]
  · simp only [setUnread, insert, List.length_append]
    omega

/-- A line that does not fit. -/
theorem Reading.closed (h : Reading before stream ls s unread) {body rest : List α} {b : α}
    (heq : unread = body ++ b :: rest) (hbody : NoNewline body)
    (hfit : s.inputBuffer.length + body.length = scpiInputBufferLength) :
    Closed before stream ls
      { s.insert body with inputBuffer := [], inputLength := 0 }.stopClient.dropDisconnected := by
  refine ⟨rfl, h.inputs, h.parsed, s.inputBuffer ++ body, b, rest, ?_, h.part.append hbody, ?_⟩
  · rw [h.stream_eq, heq]
    simp
  · simpa using hfit

/-- What one `loop` makes of a connection: it reads on, by a line or up to the
    end, or closes it. -/
theorem Reading.loop (h : Reading before stream ls s unread) (new : Option (RawClient α))
    {ex : ℕ → Execution β} (hex : ∀ id, (ex id).clientGone = false) :
    (∃ ls' unread', Reading before stream ls' (s.loop new ex) unread' ∧
      (unread' = [] ∨ newlines unread' < newlines unread)) ∨
    Closed before stream ls (s.loop new ex) := by
  obtain ⟨c, hc, hconn, rfl⟩ := h.client
  rw [loop_of_client h.external hc new ex]
  by_cases hnil : c.unread = []
  · rw [if_pos hnil, dropDisconnected_of_connected hc hconn]
    exact Or.inl ⟨ls, c.unread, h, Or.inl hnil⟩
  rw [if_neg hnil]
  rcases readLine_cases c.unread s h.bound with
    ⟨body, b, rest, heq, hbody, hb, hfit, hread⟩ | ⟨hno, hfit, hread⟩ |
    ⟨body, b, rest, heq, hbody, hfit, hread⟩
  · rw [hread, if_pos rfl]
    refine Or.inl ⟨_, rest, h.line heq hbody hb hfit (hex c.id), Or.inr ?_⟩
    rw [heq, newlines, newlines, List.countP_append, List.countP_cons,
      if_pos (by simpa using hb)]
    omega
  · rw [hread, if_neg Bool.false_ne_true]
    exact Or.inl ⟨ls, [], h.part_read hno hfit, Or.inl rfl⟩
  · rw [hread, if_neg Bool.false_ne_true]
    exact Or.inr (h.closed heq hbody hfit)

/-- What happens while there is one client, which stays connected: its bytes
    arrive, and the server looks for them. -/
def Input.OneClient : Input α β → Prop
  | .arrive _ => True
  | .loop _ ex => ∀ id, (ex id).clientGone = false
  | _ => False

/-- The bytes that arrive. -/
def arrived (is : List (Input α β)) : List α :=
  is.flatMap fun
    | .arrive bs => bs
    | _ => []

omit [Octet α] in
theorem arrived_arrive (bs : List α) (is : List (Input α β)) :
    arrived (.arrive bs :: is) = bs ++ arrived is := rfl

omit [Octet α] in
theorem arrived_loop (new : Option (RawClient α)) (ex : ℕ → Execution β)
    (is : List (Input α β)) : arrived (.loop new ex :: is) = arrived is := rfl

omit [Octet α] in
theorem arrived_append (is js : List (Input α β)) :
    arrived (is ++ js) = arrived is ++ arrived js := List.flatMap_append

/-- A run reads on, unless the connection is closed in the middle of it. -/
theorem Reading.run (h : Reading before stream ls s unread) {is : List (Input α β)}
    (his : ∀ i ∈ is, i.OneClient) :
    (∃ ls' unread', Reading before (stream ++ arrived is) ls' (Machine.run step s is) unread') ∨
    ∃ js ks ls', is = js ++ ks ∧
      Closed before (stream ++ arrived js) ls' (Machine.run step s js) := by
  -- on what happens; what arrives is put behind the stream
  induction is generalizing s stream ls unread with
  | nil => exact Or.inl ⟨ls, unread, by simpa [arrived] using h⟩
  | cons i is ih =>
    have hrest := fun j hj => his j (List.mem_cons_of_mem i hj)
    have hi := his i (List.mem_cons_self ..)
    cases i with
    | arrive bs =>
      rcases ih (h.arrive bs) hrest with ⟨ls', unread', h'⟩ | ⟨js, ks, ls', rfl, h'⟩
      · refine Or.inl ⟨ls', unread', ?_⟩
        rw [arrived_arrive, ← List.append_assoc]
        exact h'
      · refine Or.inr ⟨.arrive bs :: js, ks, ls', rfl, ?_⟩
        rw [arrived_arrive, ← List.append_assoc]
        exact h'
    | loop new ex =>
      rcases h.loop new hi with ⟨ls', unread', h', -⟩ | h'
      · rcases ih h' hrest with h' | ⟨js, ks, ls', rfl, h'⟩
        · exact Or.inl h'
        · exact Or.inr ⟨.loop new ex :: js, ks, ls', rfl, h'⟩
      · refine Or.inr ⟨[.loop new ex], is, ls, rfl, ?_⟩
        rw [arrived_loop, show arrived ([] : List (Input α β)) = [] from rfl, List.append_nil]
        exact h'
    | hangUp | write | read | claimExternalControl | releaseExternalControl |
      disconnectClient => exact hi.elim

/-- Calls of `loop` alone, while there is one client. -/
def Input.Poll : Input α β → Prop
  | .loop _ ex => ∀ id, (ex id).clientGone = false
  | _ => False

/-- Enough calls read everything, unless the connection is closed. -/
theorem Reading.polls (h : Reading before stream ls s unread) {is : List (Input α β)}
    (his : ∀ i ∈ is, i.Poll) (hlen : unread = [] ∨ newlines unread < is.length) :
    (∃ ls', Reading before stream ls' (Machine.run step s is) []) ∨
    ∃ js ks ls', is = js ++ ks ∧ Closed before stream ls' (Machine.run step s js) := by
  -- each call parses a line, so that one newline less is unread
  induction is generalizing s ls unread with
  | nil =>
    obtain rfl | hlen := hlen
    · exact Or.inl ⟨ls, h⟩
    · exact absurd hlen (Nat.not_lt_zero _)
  | cons i is ih =>
    have hi := his i (List.mem_cons_self ..)
    cases i with
    | loop new ex =>
      rcases h.loop new hi with ⟨ls', unread', h', hless⟩ | h'
      · have hlen' : unread' = [] ∨ newlines unread' < is.length := by
          rcases hless with h₀ | hless
          · exact Or.inl h₀
          · rcases hlen with rfl | hlen
            · exact absurd hless (Nat.not_lt_zero _)
            · exact Or.inr (by rw [List.length_cons] at hlen; omega)
        rcases ih h' (fun j hj => his j (List.mem_cons_of_mem _ hj)) hlen' with
          h' | ⟨js, ks, ls', rfl, h'⟩
        · exact Or.inl h'
        · exact Or.inr ⟨.loop new ex :: js, ks, ls', rfl, h'⟩
      · exact Or.inr ⟨[.loop new ex], is, ls, rfl, h'⟩
    | arrive | hangUp | write | read | claimExternalControl | releaseExternalControl |
      disconnectClient => exact hi.elim

/-- A new connection: nothing was read yet. -/
theorem reading_accept {c : RawClient α} (hext : s.externalControl = false)
    (hnone : s.client = none) (hconn : c.connected = true) :
    Reading s.inputs c.unread [] (s.accept (some c)) c.unread := by
  have haccept : s.accept (some c) = ({ s with client := some c }).resetBuffers := by
    simp [accept, hnone]
  rw [haccept]
  exact ⟨hext, ⟨c, rfl, hconn, rfl⟩, rfl, by simp [resetBuffers], by simp, by
    simp [NoNewline, resetBuffers], by simp [resetBuffers]⟩

/-- The lines that were parsed, among those of a stream that goes on. -/
theorem Reading.lines_eq (h : Reading before stream ls s unread) :
    lines stream = (ls ++ (RidenDongle.lines (s.inputBuffer ++ unread)).1,
      (RidenDongle.lines (s.inputBuffer ++ unread)).2) := by
  rw [h.stream_eq, lines_flatten fun l hl => (h.parsed l hl).1]

/-- In a stream that goes on after a connection was closed, the line that is too
    long is still there. -/
theorem Closed.append (h : Closed before stream ls s) (more : List α) :
    ∃ long, stream ++ more = ls.flatten ++ long ∧
      NoNewline (long.take scpiInputBufferLength) ∧ scpiInputBufferLength < long.length := by
  obtain ⟨long, b, rest, heq, hno, hlen⟩ := h.stream_eq
  refine ⟨long ++ b :: (rest ++ more), by simp [heq], ?_, ?_⟩
  · rw [List.take_left' hlen]
    exact hno
  · simp only [List.length_append, List.length_cons]
    omega

/-- A line that is too long shows among the lines of the stream. -/
theorem Closed.exists_long (h : Closed before stream ls s) (more : List α) :
    (∃ l ∈ (lines (stream ++ more)).1, scpiInputBufferLength < l.length) ∨
      scpiInputBufferLength < (lines (stream ++ more)).2.length := by
  obtain ⟨long, heq, hno, hlen⟩ := h.append more
  rw [heq, lines_flatten fun l hl => (h.parsed l hl).1]
  rcases lines_of_long hno hlen with ⟨l, ls', hl, hlong⟩ | ⟨-, hlong⟩
  · exact Or.inl ⟨l, by simp [hl], hlong⟩
  · exact Or.inr hlong

/-- Where all lines are short, no connection is closed. -/
theorem Closed.false_of_short (h : Closed before stream ls s) (more : List α)
    (hshort : ∀ l ∈ (lines (stream ++ more)).1, l.length ≤ 255)
    (hrest : (lines (stream ++ more)).2.length ≤ 255) : False := by
  have hlength : 255 < scpiInputBufferLength := by decide
  rcases h.exists_long more with ⟨l, hl, hlong⟩ | hlong
  · have := hshort l hl
    omega
  · omega

/-- The lines of a stream that has been read to its end. -/
theorem Reading.lines_of_end (h : Reading before stream ls s []) :
    lines stream = (ls, s.inputBuffer) := by
  rw [h.lines_eq, List.append_nil, lines_of_noNewline h.part, List.append_nil]

/-- A stream with a line that is too long cannot be read to its end. -/
theorem Reading.false_of_long (h : Reading before stream ls s []) {ls' : List (List α)}
    {long : List α} (heq : stream = ls'.flatten ++ long) (hls : ∀ l ∈ ls', IsLine l)
    (hno : NoNewline (long.take scpiInputBufferLength))
    (hlong : scpiInputBufferLength < long.length) : False := by
  have hlines := h.lines_of_end
  rw [heq, lines_flatten hls, Prod.mk.injEq] at hlines
  rcases lines_of_long hno hlong with ⟨l, ls'', hl, hlen⟩ | ⟨-, hlen⟩
  · have := (h.parsed l (by rw [← hlines.1, hl]; simp)).2
    omega
  · rw [hlines.2] at hlen
    exact absurd h.bound (Nat.not_le.2 hlen)

/-- The connection is closed behind the lines before the one that is too long. -/
theorem Closed.lines_unique (h : Closed before stream ls s) (more : List α)
    {ls' : List (List α)} {long : List α} (heq : stream ++ more = ls'.flatten ++ long)
    (hls : ∀ l ∈ ls', IsLine l ∧ l.length ≤ scpiInputBufferLength)
    (hno : NoNewline (long.take scpiInputBufferLength))
    (hlong : scpiInputBufferLength < long.length) : ls = ls' := by
  obtain ⟨long', heq', hno', hlong'⟩ := h.append more
  rw [← takeWhile_lines h.parsed hno' hlong', ← heq', heq, takeWhile_lines hls hno hlong]

/-- A run with enough calls of `loop` at its end reads the whole stream, unless
    the connection is closed in the middle of it. -/
theorem Reading.run_polls (h : Reading before stream ls s unread) {is polls : List (Input α β)}
    (his : ∀ i ∈ is, i.OneClient) (hpolls : ∀ i ∈ polls, i.Poll)
    (hlen : newlines (stream ++ arrived is) < polls.length) :
    (∃ ls', Reading before (stream ++ arrived is) ls' (Machine.run step s (is ++ polls)) []) ∨
    ∃ js ks ls' st more, is ++ polls = js ++ ks ∧ stream ++ arrived is = st ++ more ∧
      Closed before st ls' (Machine.run step s js) := by
  rcases h.run his with ⟨ls', unread', h'⟩ | ⟨js, ks, ls', rfl, h'⟩
  · have hless : newlines unread' < polls.length := by
      refine lt_of_le_of_lt ?_ hlen
      rw [h'.stream_eq, newlines, newlines, List.countP_append, List.countP_append]
      omega
    rcases h'.polls hpolls (Or.inr hless) with ⟨ls'', h''⟩ | ⟨js, ks, ls'', rfl, h''⟩
    · refine Or.inl ⟨ls'', ?_⟩
      rw [Machine.run_append]
      exact h''
    · refine Or.inr ⟨is ++ js, ks, ls'', _, [], (List.append_assoc ..).symm,
        (List.append_nil _).symm, ?_⟩
      rw [Machine.run_append]
      exact h''
  · refine Or.inr ⟨js, ks ++ polls, ls', _, arrived ks, List.append_assoc .., ?_, h'⟩
    rw [arrived_append, List.append_assoc]

/-- **Framing.** A raw client sends a stream in pieces, in a run in which it stays
    connected and external control stays off.

    If no line of the stream is longer than 255 bytes, then the buffers parsed are
    the first lines of the stream, and all of them, with the unfinished one left
    in the buffer, once `loop` was called often enough.

    A line of more than `SCPI_INPUT_BUFFER_LENGTH` bytes closes the connection when
    exactly the lines before it were parsed. -/
theorem framing {c : RawClient α} (hext : s.externalControl = false)
    (hnone : s.client = none) (hconn : c.connected = true) {is polls : List (Input α β)}
    (his : ∀ i ∈ is, i.OneClient) (hpolls : ∀ i ∈ polls, i.Poll)
    (hlen : newlines (c.unread ++ arrived is) < polls.length) :
    let start := s.accept (some c)
    let stream := c.unread ++ arrived is
    ((∀ l ∈ (lines stream).1, l.length ≤ 255) → (lines stream).2.length ≤ 255 →
      (∃ ls, ls <+: (lines stream).1 ∧ (Machine.run step start is).inputs = s.inputs ++ ls) ∧
      (Machine.run step start (is ++ polls)).client.isSome ∧
      (Machine.run step start (is ++ polls)).inputs = s.inputs ++ (lines stream).1 ∧
      (Machine.run step start (is ++ polls)).inputBuffer = (lines stream).2) ∧
    (∀ ls long, stream = ls.flatten ++ long → (∀ l ∈ ls, IsLine l ∧ l.length ≤ 255) →
      NoNewline (long.take scpiInputBufferLength) → scpiInputBufferLength < long.length →
      ∃ js ks, is ++ polls = js ++ ks ∧ (Machine.run step start js).client = none ∧
        (Machine.run step start js).inputs = s.inputs ++ ls) := by
  intro start stream
  have hstart : Reading s.inputs c.unread [] start c.unread := reading_accept hext hnone hconn
  -- after enough polls everything was read, or the connection was closed
  have hend := hstart.run_polls his hpolls hlen
  constructor
  · intro hshort hrest
    refine ⟨?_, ?_⟩
    · rcases hstart.run his with ⟨ls', unread', h⟩ | ⟨js, ks, ls', rfl, h⟩
      · refine ⟨ls', ?_, h.inputs⟩
        rw [show lines stream = _ from h.lines_eq]
        exact List.prefix_append ..
      · have hstream : stream = c.unread ++ arrived js ++ arrived ks := by
          rw [List.append_assoc, ← arrived_append]
        exact (h.false_of_short (arrived ks) (hstream ▸ hshort) (hstream ▸ hrest)).elim
    · rcases hend with ⟨ls', h⟩ | ⟨js, ks, ls', st, more, -, hst, h⟩
      · obtain ⟨c', hc', -, -⟩ := h.client
        rw [show lines stream = _ from h.lines_of_end]
        exact ⟨by rw [hc']; rfl, h.inputs, rfl⟩
      · have hstream : stream = st ++ more := hst
        exact (h.false_of_short more (hstream ▸ hshort) (hstream ▸ hrest)).elim
  · intro ls long heq hls hno hlong
    have hls' : ∀ l ∈ ls, IsLine l ∧ l.length ≤ scpiInputBufferLength :=
      fun l hl => ⟨(hls l hl).1, le_trans (hls l hl).2 (by decide)⟩
    rcases hend with ⟨ls', h⟩ | ⟨js, ks, ls', st, more, hjs, hst, h⟩
    · exact (h.false_of_long heq (fun l hl => (hls' l hl).1) hno hlong).elim
    · obtain rfl := h.lines_unique more (hst.symm.trans heq) hls' hno hlong
      exact ⟨js, ks, hjs, h.client, h.inputs⟩

/-- Two lines in one segment, and the beginning of a third. -/
theorem framing_twoLines :
    (Machine.run step ((initial : RidenScpi UInt8 UInt8).accept
        (some ⟨0, 0, true, [97, 10, 98, 10, 99]⟩))
      ([] ++ List.replicate 3 (.loop none fun _ => ⟨[], false⟩))).inputs = [[97, 10], [98, 10]] :=
  ((framing (s := initial) (c := ⟨0, 0, true, [97, 10, 98, 10, 99]⟩) rfl rfl rfl
    (List.forall_mem_nil _) (fun i h => List.eq_of_mem_replicate h ▸ fun _ => rfl)
    (by decide)).1 (by decide) (by decide)).2.2.1

/-! ## The next line -/

omit [Octet α] in
theorem dropDisconnected_inputs (s : RidenScpi α β) :
    s.dropDisconnected.inputs = s.inputs ∧ s.dropDisconnected.inputBuffer = s.inputBuffer := by
  rcases dropDisconnected_eq_or s with h | h <;> rw [h] <;> exact ⟨rfl, rfl⟩

theorem HoldsPart.dropDisconnected {s : RidenScpi α β} (h : HoldsPart s) :
    HoldsPart s.dropDisconnected := by
  rw [HoldsPart, (dropDisconnected_inputs s).2]
  exact h

theorem HoldsPart.accept {s : RidenScpi α β} (h : HoldsPart s) (new : Option (RawClient α)) :
    HoldsPart (s.accept new) := by
  cases new with
  | none => exact h
  | some c =>
    simp only [RidenScpi.accept]
    split_ifs
    · exact ⟨by simp [NoNewline, resetBuffers], by simp [resetBuffers]⟩
    · exact h

omit [Octet α] in
theorem accept_inputs (s : RidenScpi α β) (new : Option (RawClient α)) :
    (s.accept new).inputs = s.inputs := by
  cases new with
  | none => rfl
  | some c =>
    simp only [RidenScpi.accept]
    split_ifs <;> rfl

/-- The line that `loop` has parsed next, with the client whose line it is: the
    first one in the buffer and the bytes to be read, if it fits. -/
def nextLine (s : RidenScpi α β) : Option (ℕ × List α) :=
  match s.client with
  | none => none
  | some c =>
    if c.unread = [] then none
    else
      match (lines (s.inputBuffer ++ c.unread)).1 with
      | [] => none
      | l :: _ => if l.length ≤ scpiInputBufferLength then some (c.id, l) else none

/-- Two servers that differ in what comes in only. -/
structure SameOutput (s s' : RidenScpi α β) : Prop where
  writeBuffer : s'.writeBuffer = s.writeBuffer
  externalControl : s'.externalControl = s.externalControl
  externalOutputReady : s'.externalOutputReady = s.externalOutputReady
  inputs : s'.inputs = s.inputs
  stores : s'.stores = s.stores
  sent : s'.sent = s.sent

omit [Octet α] in
theorem SameOutput.refl (s : RidenScpi α β) : SameOutput s s := ⟨rfl, rfl, rfl, rfl, rfl, rfl⟩

omit [Octet α] in
theorem SameOutput.trans {s s' s'' : RidenScpi α β} (h : SameOutput s s') (h' : SameOutput s' s'') :
    SameOutput s s'' :=
  ⟨h'.1.trans h.1, h'.2.trans h.2, h'.3.trans h.3, h'.4.trans h.4, h'.5.trans h.5, h'.6.trans h.6⟩

omit [Octet α] in
theorem sameOutput_dropDisconnected (s : RidenScpi α β) : SameOutput s s.dropDisconnected := by
  rcases dropDisconnected_eq_or s with h | h <;> rw [h] <;> exact ⟨rfl, rfl, rfl, rfl, rfl, rfl⟩

theorem nextLine_of_client {s : RidenScpi α β} {c : RawClient α} (hc : s.client = some c) :
    nextLine s = if c.unread = [] then none else
      match (lines (s.inputBuffer ++ c.unread)).1 with
      | [] => none
      | l :: _ => if l.length ≤ scpiInputBufferLength then some (c.id, l) else none := by
  simp only [nextLine, hc]

theorem length_le_of_nextLine {s : RidenScpi α β} {id : ℕ} {l : List α}
    (h : nextLine s = some (id, l)) : l.length ≤ scpiInputBufferLength := by
  unfold nextLine at h
  split at h
  · cases h
  · split_ifs at h
    split at h
    · cases h
    · split_ifs at h with hlen
      obtain ⟨-, rfl⟩ := Prod.mk.inj (Option.some.inj h)
      exact hlen

/-- `loop`, when the server is not under external control: it takes in bytes, and
    has the next line parsed if there is one. -/
theorem loop_cases {s : RidenScpi α β} (h : HoldsPart s) (hext : s.externalControl = false)
    (new : Option (RawClient α)) (ex : ℕ → Execution β) :
    (nextLine (s.accept new) = none ∧ SameOutput (s.accept new) (s.loop new ex) ∧
      HoldsPart (s.loop new ex)) ∨
    ∃ c l u, (s.accept new).client = some c ∧ nextLine (s.accept new) = some (c.id, l) ∧
      u.inputBuffer = l ∧ SameOutput (s.accept new) u ∧
      (∃ rest, u.client = some { c with unread := rest }) ∧
      s.loop new ex = (u.scpiInput (ex c.id)).dropDisconnected := by
  have ht := h.accept new
  cases hc : (s.accept new).client with
  | none =>
    rw [loop_of_accept_none hext hc]
    exact Or.inl ⟨by simp [nextLine, hc], .refl _, ht⟩
  | some c =>
    have hloop := loop_of_accept hext hc ex
    have hnext := nextLine_of_client hc
    by_cases hnil : c.unread = []
    · rw [if_pos hnil] at hloop hnext
      rw [hloop]
      exact Or.inl ⟨hnext, sameOutput_dropDisconnected _, ht.dropDisconnected⟩
    rw [if_neg hnil] at hloop hnext
    rcases readLine_lines ht c.unread with
      ⟨body, rest, ls, hlines, hfit, hread⟩ | ⟨hlines, hpart, hread⟩ | ⟨hlong, body, hread⟩
    · rw [hread, if_pos rfl] at hloop
      refine Or.inr ⟨c, _, ((s.accept new).insert body).setUnread rest, rfl, ?_, rfl,
        ⟨rfl, rfl, rfl, rfl, rfl, rfl⟩, ⟨rest, ?_⟩, hloop⟩
      · rw [hnext, hlines]
        exact if_pos hfit
      · simp [setUnread, insert, hc]
    · rw [hread, if_neg Bool.false_ne_true] at hloop
      rw [hlines] at hnext
      rw [hloop]
      exact Or.inl ⟨hnext, @SameOutput.trans _ _ _ (((s.accept new).insert c.unread).setUnread [])
        _ ⟨rfl, rfl, rfl, rfl, rfl, rfl⟩ (sameOutput_dropDisconnected _),
        HoldsPart.dropDisconnected hpart⟩
    -- the line is too long: the client goes, and the buffer is emptied
    · rw [hread, if_neg Bool.false_ne_true] at hloop
      rw [hloop]
      refine Or.inl ⟨?_, ⟨rfl, rfl, rfl, rfl, rfl, rfl⟩, ⟨List.forall_mem_nil _, Nat.zero_le _⟩⟩
      rw [hnext]
      cases hlines : (lines ((s.accept new).inputBuffer ++ c.unread)).1 with
      | nil => rfl
      | cons l ls => exact if_neg (Nat.not_le.2 (hlong l ls hlines))

/-! ## Room for the terminator -/

/-- The buffer is used inside its bytes, and what the parser is given leaves room
    for the NUL that it stores behind it. -/
def InputBound (s : RidenScpi α β) : Prop :=
  s.inputBuffer.length ≤ scpiInputBufferLength ∧
    ∀ i ∈ s.inputs, i.length < scpiInputBufferLength

/-- What the step has parsed, if anything, is not exactly as long as the buffer:
    neither the data of a write, nor the first line in the buffer and the bytes
    to be read. -/
def LeavesRoom (s : RidenScpi α β) : Input α β → Prop
  | .write data _ => data.length ≠ scpiInputBufferLength
  | .loop new _ => s.externalControl = false → ∀ c, (s.accept new).client = some c →
      ∀ l ls, (lines ((s.accept new).inputBuffer ++ c.unread)).1 = l :: ls →
        l.length ≠ scpiInputBufferLength
  | _ => True

/-- A `loop` leaves room unless the next line is as long as the buffer. -/
theorem leavesRoom_loop_iff {s : RidenScpi α β} (h : HoldsPart s)
    (hext : s.externalControl = false) (new : Option (RawClient α)) (ex : ℕ → Execution β) :
    LeavesRoom s (.loop new ex) ↔ ∀ id l, nextLine (s.accept new) = some (id, l) →
      l.length ≠ scpiInputBufferLength := by
  have ht := h.accept new
  constructor
  · intro hroom id l hl
    cases hc : (s.accept new).client with
    | none =>
      rw [nextLine, hc] at hl
      cases hl
    | some c =>
      rw [nextLine_of_client hc] at hl
      split_ifs at hl
      cases hlines : (lines ((s.accept new).inputBuffer ++ c.unread)).1 with
      | nil =>
        rw [hlines] at hl
        cases hl
      | cons l' ls =>
        simp only [hlines] at hl
        split_ifs at hl
        obtain ⟨-, rfl⟩ := Prod.mk.inj (Option.some.inj hl)
        exact hroom hext c hc l' ls hlines
  · intro hnext _ c hc l ls hlines
    by_cases hnil : c.unread = []
    · rw [hnil, List.append_nil, lines_of_noNewline ht.1] at hlines
      cases hlines
    · by_cases hlen : l.length ≤ scpiInputBufferLength
      · refine hnext c.id l ?_
        rw [nextLine_of_client hc, if_neg hnil, hlines]
        exact if_pos hlen
      · exact fun h' => hlen h'.le

/-- What a `loop` has parsed, and what it leaves in the buffer. -/
theorem HoldsPart.loop {s : RidenScpi α β} (h : HoldsPart s) (new : Option (RawClient α))
    (ex : ℕ → Execution β) :
    HoldsPart (s.loop new ex) ∧
    (((s.loop new ex).inputs = s.inputs ∧ LeavesRoom s (.loop new ex)) ∨
      ∃ l, (s.loop new ex).inputs = s.inputs ++ [l] ∧ l.length ≤ scpiInputBufferLength ∧
        (LeavesRoom s (.loop new ex) ↔ l.length ≠ scpiInputBufferLength)) := by
  cases hext : s.externalControl with
  | true =>
    have hloop : s.loop new ex = s.stopClient := by rw [RidenScpi.loop, if_pos hext]
    rw [hloop]
    exact ⟨h, Or.inl ⟨rfl, fun h' => absurd (hext.symm.trans h') (by decide)⟩⟩
  | false =>
    rw [leavesRoom_loop_iff h hext]
    rcases loop_cases h hext new ex with
      ⟨hnone, hsame, hpart⟩ | ⟨c, l, u, -, hnext, rfl, hsame, -, heq⟩
    · refine ⟨hpart, Or.inl ⟨hsame.inputs.trans (accept_inputs s new), fun id l hl => ?_⟩⟩
      rw [hnone] at hl
      cases hl
    · have hd := dropDisconnected_inputs (u.scpiInput (ex c.id))
      refine ⟨?_, Or.inr ⟨u.inputBuffer, ?_, length_le_of_nextLine hnext, ?_⟩⟩
      · rw [heq, HoldsPart, hd.2]
        exact ⟨List.forall_mem_nil _, Nat.zero_le _⟩
      · rw [heq, hd.1, scpiInput_inputs, hsame.inputs, accept_inputs]
      · constructor
        · exact fun h' => h' _ _ hnext
        · intro h' id l hl
          rw [hnext] at hl
          obtain ⟨-, rfl⟩ := Prod.mk.inj (Option.some.inj hl)
          exact h'

theorem HoldsPart.write {s : RidenScpi α β} (h : HoldsPart s) (data : List α)
    (ex : Execution β) :
    HoldsPart (s.write data ex) ∧
    (((s.write data ex).inputs = s.inputs ∧ data.length ≠ scpiInputBufferLength) ∨
      ((s.write data ex).inputs = s.inputs ++ [data] ∧
        data.length ≤ scpiInputBufferLength)) := by
  rw [RidenScpi.write]
  split_ifs with h₀ h₁
  · exact ⟨h, Or.inl ⟨rfl, by rw [h₀]; decide⟩⟩
  · exact ⟨h, Or.inl ⟨rfl, Nat.ne_of_gt h₁⟩⟩
  · refine ⟨⟨by simp [NoNewline], by simp⟩, Or.inr ⟨?_, by omega⟩⟩
    rw [scpiInput_inputs]

/-- What a step other than a write or a `loop` does to the input buffer: nothing. -/
theorem step_inputs {s : RidenScpi α β} (h : HoldsPart s) (i : Input α β) :
    HoldsPart (step s i) ∧
    (((step s i).inputs = s.inputs ∧ LeavesRoom s i) ∨
      ∃ l, (step s i).inputs = s.inputs ++ [l] ∧ l.length ≤ scpiInputBufferLength ∧
        (LeavesRoom s i ↔ l.length ≠ scpiInputBufferLength)) := by
  cases i with
  | loop new ex => exact h.loop new ex
  | write data ex =>
    refine ⟨(h.write data ex).1, ?_⟩
    rcases (h.write data ex).2 with h' | ⟨hin, hle⟩
    · exact Or.inl h'
    · exact Or.inr ⟨data, hin, hle, Iff.rfl⟩
  | arrive bs => exact ⟨h, Or.inl ⟨rfl, trivial⟩⟩
  | hangUp => exact ⟨h, Or.inl ⟨rfl, trivial⟩⟩
  | claimExternalControl => exact ⟨h, Or.inl ⟨rfl, trivial⟩⟩
  | releaseExternalControl => exact ⟨h, Or.inl ⟨rfl, trivial⟩⟩
  | read maxLen =>
    have hread : (s.read maxLen).2.2.inputs = s.inputs ∧
        (s.read maxLen).2.2.inputBuffer = s.inputBuffer := by
      unfold RidenScpi.read
      split_ifs <;> exact ⟨rfl, rfl⟩
    exact ⟨by rw [step, HoldsPart, hread.2]; exact h, Or.inl ⟨hread.1, trivial⟩⟩
  | disconnectClient ip =>
    have hdisc : (s.disconnectClient ip).inputs = s.inputs ∧
        (s.disconnectClient ip).inputBuffer = s.inputBuffer := by
      unfold RidenScpi.disconnectClient
      cases s.client with
      | none => exact ⟨rfl, rfl⟩
      | some c =>
        simp only
        split_ifs <;> exact ⟨rfl, rfl⟩
    exact ⟨by rw [step, HoldsPart, hdisc.2]; exact h, Or.inl ⟨hdisc.1, trivial⟩⟩

/-- A step uses the buffer inside its bytes with room for the NUL exactly if what it has
    parsed is not as long as the buffer. -/
theorem inputBound_step_iff {s : RidenScpi α β} (hq : HoldsPart s) (hp : s.InputBound)
    (i : Input α β) : (step s i).InputBound ↔ LeavesRoom s i := by
  obtain ⟨hq', h⟩ := step_inputs hq i
  rcases h with ⟨hin, hroom⟩ | ⟨l, hin, hle, hroom⟩
  · exact iff_of_true ⟨hq'.2, by rw [hin]; exact hp.2⟩ hroom
  · rw [hroom, InputBound, hin]
    constructor
    · intro h'
      exact Nat.ne_of_lt (h'.2 l (by simp))
    · intro h'
      refine ⟨hq'.2, fun i hi => ?_⟩
      rcases List.mem_append.1 hi with hi | hi
      · exact hp.2 i hi
      · rw [List.mem_singleton.1 hi]
        omega

/-- **Room for the terminator.** Along a run of the server, the buffer is used
    inside its bytes with room for the NUL exactly if nothing parsed is as long
    as the buffer. -/
theorem always_inputBound_iff (is : List (Input α β)) :
    Machine.Always step InputBound (initial : RidenScpi α β) is ↔
      Machine.Guarded step LeavesRoom (initial : RidenScpi α β) is :=
  Machine.always_iff_guarded (Q := HoldsPart) (fun _ i h => (step_inputs h i).1)
    (fun _ i hq hp => inputBound_step_iff hq hp i)
    ⟨by simp [NoNewline, initial], by simp [initial]⟩ ⟨by simp [initial], by simp [initial]⟩

/-- A write of 256 bytes fills the buffer. -/
theorem not_inputBound_write :
    ¬ Machine.Always step InputBound (initial : RidenScpi UInt8 UInt8)
      [.write (List.replicate 256 32) ⟨[], false⟩] := by
  obtain ⟨data, hdata⟩ : ∃ data : List UInt8, data = List.replicate 256 32 := ⟨_, rfl⟩
  have hlen : data.length = scpiInputBufferLength := by rw [hdata, List.length_replicate]
  rw [← hdata]
  intro h
  rcases (HoldsPart.write (s := (initial : RidenScpi UInt8 UInt8))
    ⟨List.forall_mem_nil _, Nat.zero_le _⟩ data ⟨[], false⟩).2 with ⟨-, hne⟩ | ⟨hin, -⟩
  · exact hne hlen
  · have hlt := h.last.2 data (by
      change data ∈ ((initial : RidenScpi UInt8 UInt8).write data ⟨[], false⟩).inputs
      rw [hin]
      exact List.mem_append_right _ (List.mem_singleton_self _))
    omega

end RidenScpi

end RidenDongle
