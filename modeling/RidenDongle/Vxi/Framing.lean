import RidenDongle.Vxi.Requests
import Mathlib.Data.List.TakeDrop

/-!
# Framing of the VXI stream

A client sends records one behind the other (`stream`), and `VXI_Server::loop`
takes one of them off the connection per call (`calls`), as long as it does not
close the connection. The calls follow the records (`Framed`) exactly when each
record that comes to a call has a length that the server is prepared for (`Fits`):

* the length 0 is skipped, and a body of 5 to 252 bytes is read whole;
* a body of 1 to 4 bytes is not read, so that it becomes the next prefix;
* of a longer body the first 252 bytes are read, so that the others become the
  next prefix, unless the connection is closed by the request they are read as.
-/

namespace RidenDongle

open Memory

/-- The bytes of the records, one behind the other. -/
def stream (records : List Record) : List UInt8 := records.flatMap Record.bytes

theorem stream_cons (r : Record) (rs : List Record) : stream (r :: rs) = r.bytes ++ stream rs := rfl

theorem stream_cons_ne_nil {r : Record} {rs : List Record} : stream (r :: rs) ≠ [] := by
  intro h
  have := congrArg List.length h
  rw [stream_cons, List.length_append, r.length_bytes, List.length_nil] at this
  omega

/-- A call of `VXI_Server::loop`: what was left of the connection when it started,
    the bytes that it handled as a request, if it did, and whether it closed the
    connection. -/
structure Call where
  start : List UInt8
  handled : Option (List UInt8)
  close : Bool
  deriving DecidableEq

namespace VxiServer

variable {σ : Type*} (h : ScpiHandler σ) (stack : List UInt8) (v : VxiServer σ)

/-- The bytes that `loop` handles as a request, if it does. -/
def handled (tcp : List UInt8) : Option (List UInt8) :=
  if (getVxiPacket v.readBuffer.bytes tcp).len > 0 then some (received vxiReadSize tcp) else none

variable {h stack v} {tcp : List UInt8}

theorem loop_tcp : (v.loop h stack tcp).2.2 = (getVxiPacket v.readBuffer.bytes tcp).tcp := by
  rw [loop, handleReceived_tcp]

/-- A call takes bytes off the connection when there are any. -/
theorem length_loop_lt (htcp : tcp ≠ []) : (v.loop h stack tcp).2.2.length < tcp.length := by
  have := List.length_pos_iff.2 htcp
  rw [loop_tcp, getVxiPacket, getTcpPacket_tcp]
  split_ifs
  · simp only [List.length_drop]
    omega
  · simp only [List.length_drop]
    omega

variable (h stack)

/-- The calls of `loop` until the connection is closed or there is nothing left. -/
def calls (v : VxiServer σ) (tcp : List UInt8) : List Call :=
  if _htcp : tcp = [] then []
  else
    ⟨tcp, v.handled tcp, (v.loop h stack tcp).2.1⟩ ::
      if (v.loop h stack tcp).2.1 then [] else calls (v.loop h stack tcp).1 (v.loop h stack tcp).2.2
termination_by tcp.length
decreasing_by exact length_loop_lt _htcp

/-- The request in the first bytes of a record closes the connection: it is a
    DESTROY_LINK. Where the record does not reach, the buffer decides. -/
def Closes (v : VxiServer σ) (r : Record) : Prop :=
  let m := v.readBuffer.bytes.write (packet 0) (r.body.take (vxiReadSize - 4))
  m.word (packet RpcRequest.program) = Rpc.vxi11Core ∧
    m.word (packet RpcRequest.procedure) = Rpc.vxi11DestroyLink

instance (v : VxiServer σ) (r : Record) : Decidable (v.Closes r) :=
  inferInstanceAs (Decidable (_ ∧ _))

/-- The server is prepared for the lengths of the records that come to a call. -/
def Fits : VxiServer σ → List Record → Prop
  | _, [] => True
  | v, r :: rs =>
    (r.body = [] ∨ 4 < r.body.length) ∧ (vxiReadSize - 4 < r.body.length → v.Closes r) ∧
      (r.body = [] ∨ ¬v.Closes r → Fits (v.loop h stack (stream (r :: rs))).1 rs)

end VxiServer

/-- The call `c` did justice to the record `r`: it handled the whole of it, if it is
    not empty, or else refused it or ended the connection, where it is too long. -/
def Taken (r : Record) (c : Call) : Prop :=
  c.handled = (if r.body = [] then none else some r.body) ∨
    vxiReadSize - 4 < r.body.length ∧ (c.handled = none ∨ c.close = true)

/-- The calls follow the records, up to the end of the connection: each starts at a
    record boundary and does justice to the record there. -/
def Framed : List Record → List Call → Prop
  | [], calls => calls = []
  | _ :: _, [] => False
  | r :: rs, c :: cs =>
    c.start = stream (r :: rs) ∧ Taken r c ∧ if c.close then cs = [] else Framed rs cs

namespace VxiServer

variable {σ : Type*} {h : ScpiHandler σ} {stack : List UInt8} {v : VxiServer σ}
  {r : Record} {rs : List Record}

theorem calls_nil : calls h stack v [] = [] := by
  rw [calls, dif_pos rfl]

theorem calls_stream : calls h stack v (stream (r :: rs)) =
    ⟨stream (r :: rs), v.handled (stream (r :: rs)), (v.loop h stack (stream (r :: rs))).2.1⟩ ::
      if (v.loop h stack (stream (r :: rs))).2.1 then []
      else calls h stack (v.loop h stack (stream (r :: rs))).1
        (v.loop h stack (stream (r :: rs))).2.2 := by
  rw [calls, dif_neg stream_cons_ne_nil]

/-- What is handled of a record. -/
theorem handled_stream : v.handled (stream (r :: rs)) =
    if r.body = [] then none
    else some (if r.body.length > 4 then r.body.take (vxiReadSize - 4) else []) := by
  rw [handled, stream_cons, Record.received_bytes, getVxiPacket, getTcpPacket_len,
    Record.prefixLength_bytes, show vxiReadSize - 4 = 252 from rfl]
  by_cases hbody : r.body = []
  · rw [if_pos hbody, if_neg (by simp [hbody])]
  · have := List.length_pos_iff.2 hbody
    rw [if_neg hbody, if_pos (by split_ifs <;> omega)]

/-- A record of a length that the server is prepared for is taken off the connection. -/
theorem loop_stream_tcp (hfit : r.body = [] ∨ 4 < r.body.length)
    (hlen : r.body.length ≤ vxiReadSize - 4) :
    (v.loop h stack (stream (r :: rs))).2.2 = stream rs := by
  rw [loop_tcp, stream_cons, getVxiPacket, getTcpPacket_tcp, Record.prefixLength_bytes,
    Record.drop_bytes, min_eq_left hlen]
  rcases hfit with hbody | hpos
  · rw [hbody]
    rfl
  · rw [if_pos hpos, List.drop_left]

theorem handlePacket_close : (v.handlePacket h stack).2 = true ↔
    v.request RpcRequest.program = Rpc.vxi11Core ∧
      v.request RpcRequest.procedure = Rpc.vxi11DestroyLink := by
  rw [handlePacket]
  split_ifs with hprogram hcreate hread hwrite hdestroy
  · exact iff_of_false not_false fun h => hprogram h.1
  · exact iff_of_false not_false fun h => absurd (hcreate.symm.trans h.2) (by decide)
  · exact iff_of_false not_false fun h => absurd (hread.symm.trans h.2) (by decide)
  · exact iff_of_false not_false fun h => absurd (hwrite.symm.trans h.2) (by decide)
  · exact iff_of_true rfl ⟨not_not.1 hprogram, hdestroy⟩
  · exact iff_of_false not_false fun h => hdestroy h.2

/-- A call closes the connection exactly when it handles a request that does. -/
theorem loop_stream_close (hpos : 4 < r.body.length) :
    (v.loop h stack (stream (r :: rs))).2.1 = true ↔ v.Closes r := by
  have hlen : (getVxiPacket v.readBuffer.bytes (stream (r :: rs))).len > 0 := by
    rw [stream_cons, getVxiPacket, getTcpPacket_len, Record.prefixLength_bytes, if_pos hpos,
      show vxiReadSize - 4 = 252 from rfl]
    omega
  have hreceived : received vxiReadSize (stream (r :: rs)) = r.body.take (vxiReadSize - 4) := by
    rw [stream_cons, Record.received_bytes, if_pos hpos]
  have hagree : ∀ {b}, 4 ≤ b → (getVxiPacket v.readBuffer.bytes (stream (r :: rs))).buffer.AgreeOn
      (v.readBuffer.bytes.write (packet 0) (r.body.take (vxiReadSize - 4))) b 4 := fun hb => by
    rw [← hreceived]
    exact getTcpPacket_agreeOn hb
  rw [loop, handleReceived_close hlen, handlePacket_close, request_receive, request_receive,
    (hagree (by decide)).word_eq, (hagree (by decide)).word_eq, Closes]

/-- A call for an empty record does nothing. -/
theorem loop_empty_close (hbody : r.body = []) :
    (v.loop h stack (stream (r :: rs))).2.1 = false := by
  have hlen : ¬(getVxiPacket v.readBuffer.bytes (stream (r :: rs))).len > 0 := by
    rw [stream_cons, getVxiPacket, getTcpPacket_len, Record.prefixLength_bytes, hbody]
    decide
  rw [loop, handleReceived_of_zero hlen]

/-- A call for a record does justice to it exactly when the server is prepared
    for its length. -/
theorem taken_iff {close : Bool} (hclose : 4 < r.body.length → (close = true ↔ v.Closes r)) :
    Taken r ⟨stream (r :: rs), v.handled (stream (r :: rs)), close⟩ ↔
      (r.body = [] ∨ 4 < r.body.length) ∧ (vxiReadSize - 4 < r.body.length → v.Closes r) := by
  rw [Taken, handled_stream, show vxiReadSize - 4 = 252 from rfl]
  by_cases hbody : r.body = []
  · simp [hbody]
  rw [if_neg hbody, if_neg hbody]
  by_cases hpos : 4 < r.body.length
  · rw [if_pos hpos, Option.some_inj, List.take_eq_self_iff, ← hclose hpos]
    constructor
    · rintro (hlen | ⟨_, hnone | hc⟩)
      · exact ⟨.inr hpos, fun hlong => absurd hlen (Nat.not_le.2 hlong)⟩
      · exact absurd hnone (Option.some_ne_none _)
      · exact ⟨.inr hpos, fun _ => hc⟩
    · rintro ⟨_, hlong⟩
      rcases Nat.lt_or_ge 252 r.body.length with hlt | hle
      · exact .inr ⟨hlt, .inr (hlong hlt)⟩
      · exact .inl hle
  · rw [if_neg hpos]
    refine iff_of_false ?_ fun hfit => hfit.1.elim hbody hpos
    rintro (hsome | ⟨hlong, _⟩)
    · exact hbody (Option.some.inj hsome).symm
    · omega

/-- The calls follow the records exactly when the server is prepared for the
    lengths of those that come to a call. -/
theorem framed_calls_iff (v : VxiServer σ) (records : List Record) :
    Framed records (calls h stack v (stream records)) ↔ Fits h stack v records := by
  induction records generalizing v with
  | nil => exact iff_of_true calls_nil trivial
  | cons r rs ih =>
    obtain ⟨close, hclose⟩ : ∃ close, (v.loop h stack (stream (r :: rs))).2.1 = close := ⟨_, rfl⟩
    obtain ⟨rest, hrest⟩ : ∃ rest, (v.loop h stack (stream (r :: rs))).2.2 = rest := ⟨_, rfl⟩
    have hcloses : 4 < r.body.length → (close = true ↔ v.Closes r) := fun hpos => by
      rw [← hclose]
      exact loop_stream_close hpos
    rw [calls_stream, hclose, hrest, Framed, Fits, taken_iff hcloses, and_assoc]
    refine (and_iff_right rfl).trans (and_congr_right fun hfit => and_congr_right fun hlong => ?_)
    have hempty : r.body = [] → close = false := fun hbody => by
      rw [← hclose]
      exact loop_empty_close hbody
    by_cases hc : close = true
    · -- the connection ends here
      have hpos : 4 < r.body.length := hfit.resolve_left fun hbody => by
        rw [hempty hbody] at hc
        exact absurd hc (by decide)
      have hnot : ¬(r.body = [] ∨ ¬v.Closes r) := by
        rintro (hbody | hnc)
        · simp [hbody] at hpos
        · exact hnc ((hcloses hpos).1 hc)
      simp [hc, hnot]
    · -- the next call starts at the next record
      have hon : r.body = [] ∨ ¬v.Closes r := by
        rcases hfit with hbody | hpos
        · exact .inl hbody
        · exact .inr fun hnc => hc ((hcloses hpos).2 hnc)
      have hlen : r.body.length ≤ vxiReadSize - 4 := by
        refine Nat.not_lt.1 fun hlt => ?_
        rcases hon with hbody | hnc
        · rw [hbody] at hlt
          exact absurd hlt (by decide)
        · exact hnc (hlong hlt)
      rw [if_neg hc, if_neg hc, ← hrest, loop_stream_tcp hfit hlen, ih]
      exact ⟨fun hf _ => hf, fun hf => hf hon⟩

/-- A record of one byte, which is left on the connection. -/
def shortRecord : Record where
  frag := true
  body := [0]
  length_lt := by decide

/-- The call for that record handles a request of no bytes. -/
theorem not_framed_calls_shortRecord :
    ¬Framed [shortRecord] (calls (scpiHandler fun _ _ => ⟨[], false⟩) []
      (start (fun _ => 0) (fun _ => 0) .initial) (stream [shortRecord])) := by
  rw [calls_stream, Framed]
  rintro ⟨_, htaken, _⟩
  have hfit := (taken_iff fun hpos => absurd hpos (by decide)).1 htaken
  exact absurd hfit.1 (by decide)

end VxiServer

end RidenDongle
