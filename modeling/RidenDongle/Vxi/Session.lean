import RidenDongle.Vxi.Bounds

/-!
# VXI sessions

What the VXI server is for, apart from bytes: a client connects, asks for one
operation after the other, and each is served on the SCPI side and answered.

* `Operation`, `Request`: what a client asks for, and the record that it sends for it.
* `Answer`: what it is answered, and the packet that tells it so.
* `serve`: what an operation does on the SCPI side, and its answer.
* `Serves`: the server on the bytes serves it so, and stays inside its buffers:
  `loop_serves`.
-/

namespace RidenDongle

open Memory

/-! ## Requests -/

/-- What a client asks for, with the arguments it sends along. -/
inductive Operation
  | createLink (clientId lockDevice lockTimeout : ℕ) (name : List UInt8)
  | read (linkId requestSize ioTimeout lockTimeout flags termChar : ℕ)
  | write (linkId ioTimeout lockTimeout flags : ℕ) (data : List UInt8)
  | destroyLink (linkId : ℕ)
  /-- any other procedure, or one of another program -/
  | other (program procedure : ℕ) (args : List UInt8)
  deriving DecidableEq

namespace Operation

def program : Operation → ℕ
  | other program _ _ => program
  | _ => Rpc.vxi11Core

def procedure : Operation → ℕ
  | createLink .. => Rpc.vxi11CreateLink
  | read .. => Rpc.vxi11DevRead
  | write .. => Rpc.vxi11DevWrite
  | destroyLink _ => Rpc.vxi11DestroyLink
  | other _ procedure _ => procedure

/-- The words behind the header of the request. -/
def words : Operation → List ℕ
  | createLink clientId lockDevice lockTimeout name =>
    [clientId, lockDevice, lockTimeout, name.length]
  | read linkId requestSize ioTimeout lockTimeout flags termChar =>
    [linkId, requestSize, ioTimeout, lockTimeout, flags, termChar]
  | write linkId ioTimeout lockTimeout flags data =>
    [linkId, ioTimeout, lockTimeout, flags, data.length]
  | destroyLink linkId => [linkId]
  | other .. => []

/-- The bytes behind those words. -/
def bytes : Operation → List UInt8
  | createLink _ _ _ name => name
  | write _ _ _ _ data => data
  | other _ _ args => args
  | _ => []

/-- The read buffer has room for the request, and for the terminator of a name or of
    the data that is kept; and a procedure that is served is asked for as such. -/
def Fits : Operation → Prop
  | createLink _ _ _ name => name.length < 196
  | write _ _ _ _ data => data.length ≤ 192 ∧ (data.rdropWhile isspace).length < 192
  | other program procedure args => args.length ≤ 212 ∧ program < 2 ^ 32 ∧ procedure < 2 ^ 32 ∧
      ¬(program = Rpc.vxi11Core ∧ VxiServer.Served procedure)
  | _ => True

instance : ∀ op, Decidable (Fits op)
  | createLink _ _ _ name => inferInstanceAs (Decidable (name.length < 196))
  | write .. => inferInstanceAs (Decidable (_ ∧ _))
  | other .. => inferInstanceAs (Decidable (_ ∧ _ ∧ _ ∧ _))
  | read .. => inferInstanceAs (Decidable True)
  | destroyLink _ => inferInstanceAs (Decidable True)

/-- The operation ends the connection. -/
def closes : Operation → Bool
  | destroyLink _ => true
  | _ => false

variable {op : Operation}

theorem program_lt (h : op.Fits) : op.program < 2 ^ 32 := by
  cases op with
  | other => exact h.2.1
  | createLink | read | write | destroyLink =>
    rw [program]
    · decide
    all_goals simp

theorem procedure_lt (h : op.Fits) : op.procedure < 2 ^ 32 := by
  cases op with
  | other => exact h.2.2.1
  | createLink | read | write | destroyLink =>
    rw [procedure]
    decide

/-- With the header of 40 bytes, the request fills at most the buffer. -/
theorem length_le (h : op.Fits) :
    4 * op.words.length + (op.bytes.length + padding op.bytes.length) ≤ 212 := by
  cases op with
  | createLink _ _ _ name =>
    have : name.length < 196 := h
    simp only [words, bytes, padding, List.length_cons, List.length_nil]
    omega
  | write _ _ _ _ data =>
    have := h.1
    simp only [words, bytes, padding, List.length_cons, List.length_nil]
    omega
  | other _ _ args =>
    have := h.1
    simp only [words, bytes, padding, List.length_nil]
    omega
  | read | destroyLink => simp [words, bytes, padding]

end Operation

/-- A request, as an RPC call. -/
structure Request where
  frag : Bool
  xid : ℕ
  programVersion : ℕ
  credentialsL : ℕ
  credentialsH : ℕ
  verifierL : ℕ
  verifierH : ℕ
  operation : Operation
  xid_lt : xid < 2 ^ 32
  fits : operation.Fits

namespace Request

variable (r : Request)

/-- The words before the bytes: a call, of RPC version 2. -/
def words : List ℕ :=
  [r.xid, 0, 2, r.operation.program, r.programVersion, r.operation.procedure, r.credentialsL,
    r.credentialsH, r.verifierL, r.verifierH] ++ r.operation.words

/-- The request: the words, the bytes, and zeros up to a multiple of 4. -/
def body : List UInt8 :=
  wordsBytes r.words ++
    (r.operation.bytes ++ List.replicate (padding r.operation.bytes.length) 0)

theorem length_body : r.body.length = 40 + (4 * r.operation.words.length +
    (r.operation.bytes.length + padding r.operation.bytes.length)) := by
  simp only [body, words, List.length_append, length_wordsBytes, List.length_replicate,
    List.length_cons, List.length_nil]
  omega

theorem length_body_le : r.body.length ≤ 252 := by
  have := Operation.length_le r.fits
  rw [length_body]
  omega

/-- The record that carries the request. -/
def record : Record where
  frag := r.frag
  body := r.body
  length_lt := r.length_body_le.trans_lt (by decide)

theorem record_body : r.record.body = r.body := rfl

theorem lt_length_body : 4 < r.body.length := by
  rw [length_body]
  omega

/-- A request without credentials. -/
def ofOperation (xid : ℕ) (op : Operation) (hxid : xid < 2 ^ 32) (hop : op.Fits) : Request where
  frag := true
  xid := xid
  programVersion := 1
  credentialsL := 0
  credentialsH := 0
  verifierL := 0
  verifierH := 0
  operation := op
  xid_lt := hxid
  fits := hop

end Request

/-! ## Answers -/

/-- What a client is answered. -/
inductive Answer
  | linked
  | outOfResources
  | data (bs : List UInt8)
  | written (size : ℕ)
  | unlinked
  | refused (status : ℕ)
  deriving DecidableEq

namespace Answer

def status : Answer → ℕ
  | refused status => status
  | _ => Rpc.success

/-- The words of the response behind the status. -/
def fields : Answer → List ℕ
  | linked => [Rpc.noError, 0, 0, maxReceiveSize]
  | outOfResources => [Rpc.outOfResources, 0, 0, 0]
  | data bs => [Rpc.noError, Rpc.endReason, bs.length]
  | written size => [Rpc.noError, size]
  | unlinked => [Rpc.noError]
  | refused _ => []

/-- The bytes behind those words. -/
def bytes : Answer → List UInt8
  | data bs => bs
  | _ => []

/-- The packet that answers the request `xid`. -/
def packet (xid : ℕ) (a : Answer) : List UInt8 :=
  onTcp (replyBody xid a.status a.fields a.bytes)

end Answer

/-- The operation, served on the SCPI side. -/
def serve {σ : Type*} (h : ScpiHandler σ) (s : σ) : Operation → Answer × σ
  | .createLink .. =>
    let claimed := h.claimControl s
    (if claimed.1 then .linked else .outOfResources, claimed.2)
  | .read .. =>
    let got := h.read 256 s
    (.data got.2.1, got.2.2)
  | .write _ _ _ _ data => (.written data.length, h.write (data.rdropWhile isspace) s)
  | .destroyLink _ => (.unlinked, h.releaseControl s)
  | .other program .. =>
    (.refused (if program ≠ Rpc.vxi11Core then Rpc.progUnavail else Rpc.procUnavail), s)

/-- The data that is ready for a read can be sent: it has no NUL, and where `outbuffer`
    comes to lie, there is one behind it that leaves it room in the send buffer. -/
def Readable {σ : Type*} (h : ScpiHandler σ) (s : σ) (stack : List UInt8) : Prop :=
  (0 : UInt8) ∉ (h.read 256 s).2.1 ∧
    ∃ z < readDataSize, (h.read 256 s).2.1.length ≤ z ∧ stack[z]? = some 0

/-- The condition on the state for serving the operation. -/
def Servable {σ : Type*} (h : ScpiHandler σ) (s : σ) (stack : List UInt8) : Operation → Prop
  | .read .. => Readable h s stack
  | _ => True

namespace VxiServer

variable {σ : Type*} {h : ScpiHandler σ} {v : VxiServer σ} {stack : List UInt8}

/-- What a request in the buffer is decoded as. -/
structure Holds (v : VxiServer σ) (r : Request) : Prop where
  xid : v.request RpcRequest.xid = r.xid
  program : v.request RpcRequest.program = r.operation.program
  procedure : v.request RpcRequest.procedure = r.operation.procedure
  word : ∀ k w, r.operation.words[k]? = some w → w < 2 ^ 32 → v.request (40 + 4 * k) = w
  bytes : v.readBuffer.bytes.read (RidenDongle.packet (40 + 4 * r.operation.words.length))
    r.operation.bytes.length = r.operation.bytes

/-- A request that comes whole is in the buffer. -/
theorem holds_receive (r : Request) (m : Memory) (rest : List UInt8) :
    (v.receive (getVxiPacket m (r.record.bytes ++ rest)).buffer).Holds r := by
  have hpos : 4 < r.record.body.length := r.lt_length_body
  have hle : r.record.body.length ≤ 252 := r.length_body_le
  have hbody : r.record.body = wordsBytes r.words ++
      (r.operation.bytes ++ List.replicate (padding r.operation.bytes.length) 0) := rfl
  have hword : ∀ k w, r.words[k]? = some w → w < 2 ^ 32 →
      (v.receive (getVxiPacket m (r.record.bytes ++ rest)).buffer).request (4 * k) = w :=
    fun k w hk hw => by
      rw [request_receive]
      exact word_getVxiPacket hbody hpos hle hk hw
  refine ⟨hword 0 _ rfl r.xid_lt, hword 3 _ rfl (Operation.program_lt r.fits),
    hword 5 _ rfl (Operation.procedure_lt r.fits), fun k w hk hw => ?_, ?_⟩
  · rw [show 40 + 4 * k = 4 * (10 + k) by omega]
    refine hword (10 + k) w ?_ hw
    rw [Request.words, List.getElem?_append_right (by simp)]
    simpa using hk
  · obtain ⟨m', hm'⟩ := @getVxiPacket_buffer r.record m rest hpos hle
    have hlen : (wordsBytes r.words).length = 40 + 4 * r.operation.words.length := by
      rw [length_wordsBytes, Request.words, List.length_append]
      simp only [List.length_cons, List.length_nil]
      omega
    rw [readBuffer_receive, hm', show RidenDongle.packet (40 + 4 * r.operation.words.length) =
      RidenDongle.packet 0 + (40 + 4 * r.operation.words.length) by simp only [RidenDongle.packet],
      read_write_part (by rw [Request.record_body, Request.length_body]; omega), hbody, ← hlen,
      List.drop_left, List.take_left]

/-- The server `v'` served `op` for the request `xid`: it did so on the SCPI side,
    sent the answer, and stayed inside its buffers. -/
structure Serves (h : ScpiHandler σ) (v v' : VxiServer σ) (xid : ℕ) (op : Operation) : Prop where
  scpi : v'.scpi = (serve h v.scpi op).2
  sent : v'.sent = v.sent ++ [(serve h v.scpi op).1.packet xid]
  inside : v.Inside → v'.Inside

/-! ### The procedures -/

theorem serves_createLink {r : Request} {clientId lockDevice lockTimeout : ℕ} {name : List UInt8}
    (hv : v.Holds r) (hop : r.operation = .createLink clientId lockDevice lockTimeout name) :
    v.Serves h (v.createLink h) r.xid r.operation := by
  have hname : name.length < 196 := by
    have := r.fits
    rwa [hop] at this
  have hlen : v.request CreateRequest.dataLen = name.length :=
    hv.word 3 _ (by rw [hop]; rfl) (hname.trans (by decide))
  have hreplied := @replied_createLink _ h v
  rw [Replied, hv.xid] at hreplied
  rw [hop]
  refine ⟨?_, ?_, fun hi => ?_⟩
  · cases hclaim : (h.claimControl v.scpi).1 with
    | false => simp only [createLink, hclaim, serve, Bool.not_false, if_true]; rfl
    | true => exact scpi_createLink hclaim
  · rw [hreplied, serve]
    split_ifs <;> rfl
  · refine (inside_createLink_iff hi).2 fun _ => ⟨?_, ?_⟩
    · rw [hlen, show CreateRequest.data = 56 from rfl, show maxReceiveSize = 252 from rfl]
      omega
    · rw [hlen, show vxiReadSize - RidenDongle.packet CreateRequest.data = 196 from rfl]
      omega

theorem serves_destroyLink {r : Request} {linkId : ℕ} (hv : v.Holds r)
    (hop : r.operation = .destroyLink linkId) :
    v.Serves h (v.destroyLink h) r.xid r.operation := by
  have hreplied := @replied_destroyLink _ h v
  rw [Replied, hv.xid] at hreplied
  rw [hop]
  exact ⟨rfl, hreplied, fun hi => hi.destroyLink⟩

theorem serves_refuse {r : Request} {program procedure : ℕ} {args : List UInt8} (hv : v.Holds r)
    (hop : r.operation = .other program procedure args) :
    v.Serves h (v.refuse (if program ≠ Rpc.vxi11Core then Rpc.progUnavail else Rpc.procUnavail))
      r.xid r.operation := by
  have hreplied := @replied_refuse _ v
    (if program ≠ Rpc.vxi11Core then Rpc.progUnavail else Rpc.procUnavail)
  rw [Replied, hv.xid] at hreplied
  rw [hop]
  exact ⟨rfl, hreplied, fun hi => hi.refuse _⟩

theorem serves_write {r : Request} {linkId ioTimeout lockTimeout flags : ℕ} {data : List UInt8}
    (hv : v.Holds r) (hop : r.operation = .write linkId ioTimeout lockTimeout flags data) :
    v.Serves h (v.write h) r.xid r.operation := by
  have hfits : data.length ≤ 192 ∧ (data.rdropWhile isspace).length < 192 := by
    have := r.fits
    rwa [hop] at this
  have hlen : v.request WriteRequest.dataLen = data.length :=
    hv.word 4 _ (by rw [hop]; rfl) (hfits.1.trans_lt (by decide))
  have hdata : v.readBuffer.bytes.read 64 data.length = data := by
    have := hv.bytes
    rw [hop] at this
    exact this
  have hkept : (rightTrim v.readBuffer 64 data.length).1 = (data.rdropWhile isspace).length := by
    have := congrArg List.length (@read_rightTrim v.readBuffer 64 data.length)
    rwa [length_read, hdata] at this
  have hreplied := @replied_write _ h v
  rw [Replied, hv.xid, hlen] at hreplied
  rw [hop]
  refine ⟨?_, hreplied, fun hi => ?_⟩
  · rw [scpi_write, hlen]
    exact congrArg (fun bs => h.write (bs.rdropWhile isspace) v.scpi) hdata
  · refine (inside_write_iff hi).2 ⟨?_, fun h192 => ?_⟩
    · rw [hlen, show WriteRequest.data = 60 from rfl, show maxReceiveSize = 252 from rfl]
      omega
    · -- data that fill the buffer have something to trim
      rw [hlen, show vxiReadSize - RidenDongle.packet WriteRequest.data = 191 + 1 from rfl] at h192
      rw [h192] at hkept
      by_contra hspace
      have hall : (rightTrim v.readBuffer 64 (191 + 1)).1 = 191 + 1 := rightTrim_eq_succ.2 hspace
      omega

theorem serves_read {r : Request} {linkId requestSize ioTimeout lockTimeout flags termChar : ℕ}
    (hv : v.Holds r)
    (hop : r.operation = .read linkId requestSize ioTimeout lockTimeout flags termChar)
    (hready : Readable h v.scpi stack) : v.Serves h (v.read h stack) r.xid r.operation := by
  obtain ⟨hnul, z, hz, hlen, hstack⟩ := hready
  obtain ⟨data, hdata⟩ : ∃ data, (h.read 256 v.scpi).2.1 = data := ⟨_, rfl⟩
  rw [hdata] at hnul hlen
  rw [hop]
  refine ⟨rfl, ?_, fun hi => ?_⟩
  · obtain ⟨sent, hsent, hprefix, hreplied⟩ := @replied_read _ h v stack
    rw [hdata] at hsent hprefix hreplied
    -- there is no NUL that would cut the data short
    have hwhole : nulString data = data := by
      have := @nulString_append data [] hnul
      rwa [List.append_nil, show nulString [] = [] from rfl, List.append_nil] at this
    rw [hwhole] at hprefix
    obtain rfl : data = sent := hprefix.eq_of_length hsent.symm
    rw [Replied, hv.xid] at hreplied
    rw [hreplied, serve, hdata]
    rfl
  · rw [show readDataSize = 216 from rfl] at hz
    refine hi.read ⟨by rw [hdata]; exact hlen.trans hz.le, z, hz, ?_⟩
    rw [outbuffer, hdata, List.getElem?_append_right hlen, List.getElem?_drop,
      Nat.add_sub_cancel' hlen]
    exact hstack

/-! ### A call of the loop -/

theorem handleReceived_serves {r : Request} {rd : Received} (hlen : rd.len > 0)
    (hheld : (v.receive rd.buffer).Holds r) (hok : Servable h v.scpi stack r.operation) :
    v.Serves h (v.handleReceived h stack rd).1 r.xid r.operation ∧
      (v.handleReceived h stack rd).2 = (r.operation.closes, rd.tcp) := by
  have hserves : ∀ v', (v.receive rd.buffer).Serves h v' r.xid r.operation →
      v.Serves h v' r.xid r.operation :=
    fun v' hs => ⟨hs.scpi, hs.sent, fun hi => hs.inside (hi.receive _)⟩
  rw [handleReceived_of_pos hlen]
  cases hop : r.operation with
  | createLink _ _ _ name =>
    rw [handlePacket_createLink stack (by rw [hheld.program, hop]; rfl)
      (by rw [hheld.procedure, hop]; rfl), ← hop]
    exact ⟨hserves _ (serves_createLink hheld hop), by rw [hop]; rfl⟩
  | read =>
    rw [hop] at hok
    rw [handlePacket_read stack (by rw [hheld.program, hop]; rfl)
      (by rw [hheld.procedure, hop]; rfl), ← hop]
    exact ⟨hserves _ (serves_read hheld hop hok), by rw [hop]; rfl⟩
  | write =>
    rw [handlePacket_write stack (by rw [hheld.program, hop]; rfl)
      (by rw [hheld.procedure, hop]; rfl), ← hop]
    exact ⟨hserves _ (serves_write hheld hop), by rw [hop]; rfl⟩
  | destroyLink =>
    rw [handlePacket_destroyLink stack (by rw [hheld.program, hop]; rfl)
      (by rw [hheld.procedure, hop]; rfl), ← hop]
    exact ⟨hserves _ (serves_destroyLink hheld hop), by rw [hop]; rfl⟩
  | other program procedure args =>
    -- a request that is not served is refused, for its program or for its procedure
    have hfits : ¬(program = Rpc.vxi11Core ∧ Served procedure) := by
      have := r.fits
      rw [hop] at this
      exact this.2.2.2
    have hprogram : (v.receive rd.buffer).request RpcRequest.program = program := by
      rw [hheld.program, hop, Operation.program]
    have hprocedure : (v.receive rd.buffer).request RpcRequest.procedure = procedure := by
      rw [hheld.procedure, hop, Operation.procedure]
    have hrefuse := serves_refuse (h := h) hheld hop
    rw [hop] at hrefuse
    by_cases hcore : program = Rpc.vxi11Core
    · rw [handlePacket_procUnavail stack (hprogram.trans hcore)
        (by rw [hprocedure]; exact fun hs => hfits ⟨hcore, hs⟩)]
      rw [if_neg (not_not.2 hcore)] at hrefuse
      exact ⟨hop ▸ hserves _ (hop.symm ▸ hrefuse), rfl⟩
    · rw [handlePacket_progUnavail stack (by rw [hprogram]; exact hcore)]
      rw [if_pos hcore] at hrefuse
      exact ⟨hop ▸ hserves _ (hop.symm ▸ hrefuse), rfl⟩

/-- A call of `loop` serves the request that comes first on the connection. -/
theorem loop_serves (r : Request) (rest : List UInt8) (hok : Servable h v.scpi stack r.operation) :
    v.Serves h (v.loop h stack (r.record.bytes ++ rest)).1 r.xid r.operation ∧
      (v.loop h stack (r.record.bytes ++ rest)).2 = (r.operation.closes, rest) := by
  have hpos : 4 < r.record.body.length := r.lt_length_body
  have hle : r.record.body.length ≤ 252 := r.length_body_le
  have hlen : (getVxiPacket v.readBuffer.bytes (r.record.bytes ++ rest)).len > 0 := by
    rw [getVxiPacket, getTcpPacket_len, Record.prefixLength_bytes, if_pos hpos]
    exact Nat.lt_min.2 ⟨by omega, by decide⟩
  have htcp : (getVxiPacket v.readBuffer.bytes (r.record.bytes ++ rest)).tcp = rest := by
    rw [getVxiPacket, getTcpPacket_tcp, Record.prefixLength_bytes, if_pos hpos,
      Record.drop_bytes, min_eq_left (show r.record.body.length ≤ vxiReadSize - 4 from hle),
      List.drop_left]
  have hserved := handleReceived_serves hlen (holds_receive r v.readBuffer.bytes rest) hok
  rwa [htcp] at hserved

/-- A call of `loop` with nothing to read does nothing. -/
theorem loop_idle : ∃ m, v.loop h stack [] = (v.receive m, false, []) := by
  have hlen : ¬(getVxiPacket v.readBuffer.bytes []).len > 0 := by
    rw [getVxiPacket, getTcpPacket_len]
    decide
  have htcp : (getVxiPacket v.readBuffer.bytes []).tcp = [] := by
    rw [getVxiPacket, getTcpPacket_tcp]
    split_ifs <;> simp
  refine ⟨(getVxiPacket v.readBuffer.bytes []).buffer, ?_⟩
  rw [loop, handleReceived_of_zero hlen, htcp]

end VxiServer

end RidenDongle
