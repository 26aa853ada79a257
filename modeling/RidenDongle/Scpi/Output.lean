import RidenDongle.Scpi.Framing

/-!
# The output buffer

What the parser's calls of `SCPI_Write` and `SCPI_Flush` make of `write_buffer`,
over whole lines and over runs of the server.

* `scpiInput_output`: what a line does to the buffer.
* `always_outputBound_iff`: which runs stay inside the buffer.
* `InArrays`, `Fits`: what is stored in both buffers lies in them, and what a step needs
  for that.
-/

namespace RidenDongle

namespace RidenScpi

variable {α β : Type*} [Octet α] {s : RidenScpi α β}

/-! ## What a line does to the output buffer -/

section

omit [Octet α]

theorem foldl_scpiWrite_writeBuffer (out : List (List β)) (s : RidenScpi α β) :
    (out.foldl scpiWrite s).writeBuffer = s.writeBuffer ++ out.flatten := by
  induction out generalizing s with
  | nil => exact (List.append_nil _).symm
  | cons d out ih => rw [List.foldl_cons, ih, List.flatten_cons, ← List.append_assoc]; rfl

theorem foldl_scpiWrite_sent (out : List (List β)) (s : RidenScpi α β) :
    (out.foldl scpiWrite s).sent = s.sent := by
  induction out generalizing s with
  | nil => rfl
  | cons d out ih => exact ih (s.scpiWrite d)

theorem loseClient_sent (s : RidenScpi α β) (gone : Bool) :
    (s.loseClient gone).sent = s.sent := by
  cases gone <;> rfl

/-- A store stays recorded. -/
theorem mem_foldl_scpiWrite {out : List (List β)} {s : RidenScpi α β} {r : ℕ × ℕ}
    (hr : r ∈ s.stores) : r ∈ (out.foldl scpiWrite s).stores := by
  induction out generalizing s with
  | nil => exact hr
  | cons d out ih => exact ih (s := s.scpiWrite d) (List.mem_append_left _ hr)

/-- All that is stored and held is inside the buffer. -/
def OutputBound (s : RidenScpi α β) : Prop :=
  s.writeBuffer.length ≤ writeBufferLength ∧ ∀ r ∈ s.stores, r.1 + r.2 ≤ writeBufferLength

/-- The stores of a line's output stay inside the buffer exactly if all of it fits. -/
theorem outputBound_foldl_iff {out : List (List β)} {s : RidenScpi α β} (hs : s.OutputBound) :
    (∀ r ∈ (out.foldl scpiWrite s).stores, r.1 + r.2 ≤ writeBufferLength) ↔
      s.writeBuffer.length + out.flatten.length ≤ writeBufferLength := by
  induction out generalizing s with
  | nil => exact iff_of_true hs.2 (by simpa using hs.1)
  | cons d out ih =>
    have hlast : (s.writeBuffer.length, d.length) ∈ (s.scpiWrite d).stores :=
      List.mem_append_right _ (List.mem_singleton_self _)
    rw [List.foldl_cons, List.flatten_cons, List.length_append]
    by_cases hd : s.writeBuffer.length + d.length ≤ writeBufferLength
    · have hbound : (s.scpiWrite d).OutputBound := by
        refine ⟨?_, fun r hr => ?_⟩
        · change (s.writeBuffer ++ d).length ≤ writeBufferLength
          rw [List.length_append]
          exact hd
        · rcases List.mem_append.1 hr with hr | hr
          · exact hs.2 r hr
          · rw [List.mem_singleton.1 hr]
            exact hd
      have hlen : (s.scpiWrite d).writeBuffer.length = s.writeBuffer.length + d.length :=
        List.length_append
      rw [ih hbound, hlen, Nat.add_assoc]
    · exact iff_of_false (fun h => hd (h _ (mem_foldl_scpiWrite hlast))) (by omega)

@[simp] theorem scpiFlush_stores (s : RidenScpi α β) : s.scpiFlush.stores = s.stores := by
  unfold scpiFlush
  split_ifs
  · rfl
  · cases s.client <;> rfl

theorem scpiFlush_writeBuffer (s : RidenScpi α β) :
    s.scpiFlush.writeBuffer = s.writeBuffer ∨ s.scpiFlush.writeBuffer = [] := by
  unfold scpiFlush
  split_ifs
  · exact Or.inl rfl
  · cases s.client with
    | none => exact Or.inl rfl
    | some c => exact Or.inr rfl

theorem loseClient_stores (s : RidenScpi α β) (gone : Bool) :
    (s.loseClient gone).stores = s.stores ∧ (s.loseClient gone).writeBuffer = s.writeBuffer := by
  cases gone <;> exact ⟨rfl, rfl⟩

/-- The output of a line is put behind what is in the buffer; and all of it is sent
    if there is a raw client in control, unless the line has no output. -/
theorem scpiInput_output (s : RidenScpi α β) (ex : Execution β) :
    ((s.scpiInput ex).sent = s.sent ∧
      (s.scpiInput ex).writeBuffer = s.writeBuffer ++ ex.output.flatten ∧
        (ex.output = [] ∨ s.externalControl = true ∨ (s.scpiInput ex).client = none)) ∨
    ∃ c, s.client = some c ∧ s.externalControl = false ∧
      (s.scpiInput ex).sent = s.sent ++ [(c.id, s.writeBuffer ++ ex.output.flatten)] ∧
        (s.scpiInput ex).writeBuffer = [] := by
  -- the state when the parser has run the line, but for the flush
  obtain ⟨u, hu⟩ : ∃ u, ((ex.output.foldl scpiWrite
    { s with inputs := s.inputs ++ [s.inputBuffer] }).loseClient ex.clientGone) = u := ⟨_, rfl⟩
  have hinput : s.scpiInput ex =
      { (if ex.output.isEmpty then u else u.scpiFlush) with inputBuffer := [] } := by
    rw [← hu]
    rfl
  have hsent : u.sent = s.sent := by
    rw [← hu, loseClient_sent, foldl_scpiWrite_sent]
  have hbuffer : u.writeBuffer = s.writeBuffer ++ ex.output.flatten := by
    rw [← hu, (loseClient_stores _ _).2, foldl_scpiWrite_writeBuffer]
  have hcontrol : u.externalControl = s.externalControl := by
    rw [← hu, loseClient, apply_ite RidenScpi.externalControl, ite_self, (foldl_scpiWrite _ _).2.2]
  have hclient : u.client = if ex.clientGone then none else s.client := by
    rw [← hu, loseClient, apply_ite RidenScpi.client, (foldl_scpiWrite _ _).2.1]
  rw [hinput]
  cases hout : ex.output with
  | nil =>
    rw [hout] at hbuffer
    exact Or.inl ⟨hsent, hbuffer, Or.inl rfl⟩
  | cons data out =>
    rw [List.isEmpty_cons, if_neg Bool.false_ne_true, ← hout]
    unfold scpiFlush
    cases hext : s.externalControl with
    | true =>
      rw [if_pos (hcontrol.trans hext)]
      exact Or.inl ⟨hsent, hbuffer, Or.inr (Or.inl rfl)⟩
    | false =>
      rw [if_neg (by rw [hcontrol, hext]; decide)]
      cases hc : u.client with
      | none => exact Or.inl ⟨hsent, hbuffer, Or.inr (Or.inr hc)⟩
      | some c =>
        rw [hclient] at hc
        split_ifs at hc
        exact Or.inr ⟨c, hc, rfl, by rw [hsent, hbuffer], rfl⟩

/-- A line stays inside the buffer exactly if its output fits behind what is there. -/
theorem outputBound_scpiInput_iff {s : RidenScpi α β} (hs : s.OutputBound) (ex : Execution β) :
    (s.scpiInput ex).OutputBound ↔
      s.writeBuffer.length + ex.output.flatten.length ≤ writeBufferLength := by
  -- the state when the parser has run the line, but for the flush
  obtain ⟨u, hu⟩ : ∃ u, ((ex.output.foldl scpiWrite
    { s with inputs := s.inputs ++ [s.inputBuffer] }).loseClient ex.clientGone) = u := ⟨_, rfl⟩
  have hiff : (∀ r ∈ u.stores, r.1 + r.2 ≤ writeBufferLength) ↔
      s.writeBuffer.length + ex.output.flatten.length ≤ writeBufferLength := by
    rw [← hu, (loseClient_stores _ _).1]
    exact outputBound_foldl_iff (s := { s with inputs := s.inputs ++ [s.inputBuffer] }) hs
  have hbuffer : u.writeBuffer = s.writeBuffer ++ ex.output.flatten := by
    rw [← hu, (loseClient_stores _ _).2, foldl_scpiWrite_writeBuffer]
  have hinput : s.scpiInput ex =
      { (if ex.output.isEmpty then u else u.scpiFlush) with inputBuffer := [] } := by
    rw [← hu]
    rfl
  rw [hinput, ← hiff]
  split_ifs
  · constructor
    · exact fun h => h.2
    · intro h
      refine ⟨?_, h⟩
      rw [hbuffer, List.length_append]
      exact hiff.1 h
  · constructor
    · intro h r hr
      exact h.2 r (by rw [scpiFlush_stores]; exact hr)
    · intro h
      refine ⟨?_, fun r hr => h r (by rw [scpiFlush_stores] at hr; exact hr)⟩
      rcases scpiFlush_writeBuffer u with hb | hb
      · rw [hb, hbuffer, List.length_append]
        exact hiff.1 h
      · rw [hb]
        exact Nat.zero_le _

end

/-! ## Who is in control -/

theorem externalControl_readLine (bs : List α) (s : RidenScpi α β) :
    (s.readLine bs).1.externalControl = s.externalControl := by
  induction bs generalizing s with
  | nil => rfl
  | cons b bs ih =>
    rw [readLine]
    dsimp only
    split_ifs
    · rfl
    · rfl
    · rw [ih]

omit [Octet α] in
theorem externalControl_accept (s : RidenScpi α β) (new : Option (RawClient α)) :
    (s.accept new).externalControl = s.externalControl := by
  cases new with
  | none => rfl
  | some c =>
    simp only [accept]
    split_ifs <;> rfl

/-- The raw socket server leaves the flag alone. -/
theorem externalControl_loop (s : RidenScpi α β) (new : Option (RawClient α))
    (ex : ℕ → Execution β) : (s.loop new ex).externalControl = s.externalControl := by
  cases hext : s.externalControl with
  | true =>
    have hloop : s.loop new ex = s.stopClient := by rw [loop, if_pos hext]
    rw [hloop]
    exact hext
  | false =>
    have haccept : (s.accept new).externalControl = false :=
      (externalControl_accept s new).trans hext
    cases hc : (s.accept new).client with
    | none =>
      rw [loop_of_accept_none hext hc, haccept]
    | some c =>
      rw [loop_of_accept hext hc ex]
      split_ifs
      · rw [(sameOutput_dropDisconnected _).externalControl, haccept]
      · rw [(sameOutput_dropDisconnected _).externalControl, scpiInput_externalControl,
          externalControl_readLine, haccept]
      · rw [(sameOutput_dropDisconnected _).externalControl, externalControl_readLine, haccept]

omit [Octet α] in
theorem externalControl_disconnectClient (s : RidenScpi α β) (ip : ℕ) :
    (s.disconnectClient ip).externalControl = s.externalControl := by
  rcases disconnectClient_eq_or s ip with h | h
  · rw [h]
  · rw [h]
    rfl

omit [Octet α] in
theorem externalControl_read (s : RidenScpi α β) (maxLen : ℕ) :
    (s.read maxLen).2.2.externalControl = s.externalControl := by
  unfold read
  split_ifs <;> rfl

omit [Octet α] in
/-- A write takes control, unless it is ignored. -/
theorem externalControl_write (s : RidenScpi α β) (data : List α) (ex : Execution β) :
    (s.write data ex).externalControl =
      if data ≠ [] ∧ data.length ≤ scpiInputBufferLength then true else s.externalControl := by
  by_cases hzero : data.length = 0
  · rw [write, if_pos hzero, if_neg fun h => h.1 (List.eq_nil_of_length_eq_zero hzero)]
  · by_cases hlong : data.length > scpiInputBufferLength
    · rw [write, if_neg hzero, if_pos hlong, if_neg fun h => Nat.not_le.2 hlong h.2]
    · rw [write, if_neg hzero, if_neg hlong, scpiInput_externalControl,
        if_pos ⟨fun h => hzero (by rw [h]; rfl), Nat.not_lt.1 hlong⟩]

/-! ## Runs -/

/-- The output of what the step has executed fits behind what is in the buffer;
    a new client starts with an empty one. -/
def OutputFits (s : RidenScpi α β) : Input α β → Prop
  | .loop new ex => s.externalControl = false → ∀ id l,
      nextLine (s.accept new) = some (id, l) →
        (s.accept new).writeBuffer.length + (ex id).output.flatten.length ≤ writeBufferLength
  | .write data ex => data ≠ [] → data.length ≤ scpiInputBufferLength →
      s.writeBuffer.length + ex.output.flatten.length ≤ writeBufferLength
  | _ => True

omit [Octet α] in
theorem SameOutput.outputBound {s s' : RidenScpi α β} (h : SameOutput s s') :
    s'.OutputBound ↔ s.OutputBound := by
  rw [OutputBound, OutputBound, h.writeBuffer, h.stores]

omit [Octet α] in
theorem OutputBound.accept {s : RidenScpi α β} (h : s.OutputBound)
    (new : Option (RawClient α)) : (s.accept new).OutputBound := by
  cases new with
  | none => exact h
  | some c =>
    simp only [RidenScpi.accept]
    split_ifs
    · exact ⟨Nat.zero_le _, h.2⟩
    · exact h

/-- A call of `loop` stays inside the buffer exactly if the output of the next line fits. -/
theorem outputBound_loop_iff (hq : HoldsPart s) (hp : s.OutputBound) (new : Option (RawClient α))
    (ex : ℕ → Execution β) :
    (s.loop new ex).OutputBound ↔ OutputFits s (.loop new ex) := by
  cases hext : s.externalControl with
  | true =>
    rw [RidenScpi.loop, if_pos hext]
    exact iff_of_true hp fun h => absurd (hext.symm.trans h) (by decide)
  | false =>
    have ht := hp.accept new
    rcases loop_cases hq hext new ex with ⟨hnone, hsame, -⟩ | ⟨c, l, u, -, hnext, -, hsame, -, heq⟩
    · rw [hsame.outputBound]
      refine iff_of_true ht fun _ id l h => ?_
      rw [hnone] at h
      cases h
    -- the line that is parsed is the next one of the stream
    · rw [heq, (sameOutput_dropDisconnected _).outputBound,
        outputBound_scpiInput_iff (hsame.outputBound.2 ht), hsame.writeBuffer, OutputFits]
      constructor
      · intro h _ id l' hl'
        rw [hnext, Option.some.injEq, Prod.mk.injEq] at hl'
        rw [← hl'.1]
        exact h
      · intro h
        exact h hext c.id l hnext

/-- So does a write, with its own line. -/
theorem outputBound_write_iff (hp : s.OutputBound) (data : List α) (ex : Execution β) :
    (s.write data ex).OutputBound ↔ OutputFits s (.write data ex) := by
  by_cases hdata : data ≠ [] ∧ data.length ≤ scpiInputBufferLength
  · have hbound : ({ s with
        inputBuffer := data
        inputLength := data.length
        externalControl := true } : RidenScpi α β).OutputBound := hp
    rw [write_eq_scpiInput s ex hdata.1 hdata.2, outputBound_scpiInput_iff hbound]
    exact ⟨fun h _ _ => h, fun h => h hdata.1 hdata.2⟩
  · have hwrite : s.write data ex = s := by
      rw [RidenScpi.write]
      split_ifs with hzero hlong
      · rfl
      · rfl
      · exact absurd ⟨fun h => hzero (by rw [h]; rfl), Nat.not_lt.1 hlong⟩ hdata
    rw [hwrite]
    exact iff_of_true hp fun hne hle => absurd ⟨hne, hle⟩ hdata

/-- A step stays inside the buffer exactly if its output fits. -/
theorem outputBound_step_iff (hq : HoldsPart s) (hp : s.OutputBound) (i : Input α β) :
    (step s i).OutputBound ↔ OutputFits s i := by
  cases i with
  | loop new ex => exact outputBound_loop_iff hq hp new ex
  | write data ex => exact outputBound_write_iff hp data ex
  | read maxLen =>
    refine iff_of_true ?_ trivial
    rw [step, RidenScpi.read]
    split_ifs
    · exact hp
    · exact hp
    · exact hp
    · exact ⟨Nat.zero_le _, hp.2⟩
  | disconnectClient ip =>
    refine iff_of_true ?_ trivial
    rw [step]
    rcases disconnectClient_eq_or s ip with h | h <;> rw [h] <;> exact hp
  | arrive bs => exact iff_of_true hp trivial
  | hangUp => exact iff_of_true hp trivial
  | claimExternalControl => exact iff_of_true hp trivial
  | releaseExternalControl => exact iff_of_true hp trivial

/-- **Output buffer bound.** A run of the server stays inside `write_buffer`
    exactly if the output of every line that it executes fits behind what is
    already there. -/
theorem always_outputBound_iff (is : List (Input α β)) :
    Machine.Always step OutputBound (initial : RidenScpi α β) is ↔
      Machine.Guarded step OutputFits (initial : RidenScpi α β) is :=
  Machine.always_iff_guarded (Q := HoldsPart) (fun _ i h => (step_inputs h i).1)
    (fun _ i hq hp => outputBound_step_iff hq hp i)
    ⟨by simp [NoNewline, initial], by simp [initial]⟩ ⟨Nat.zero_le _, List.forall_mem_nil _⟩

/-- Two queries of a VXI client that does not read the answers. -/
theorem not_outputBound_unread :
    ¬ Machine.Always step OutputBound (initial : RidenScpi UInt8 UInt8)
      [.write [63] ⟨[List.replicate 200 48], false⟩,
        .write [63] ⟨[List.replicate 200 48], false⟩] := by
  obtain ⟨d, hd⟩ : ∃ d : List UInt8, d = List.replicate 200 48 := ⟨_, rfl⟩
  have hlen : d.length = 200 := by rw [hd, List.length_replicate]
  rw [← hd, Machine.always_iff_guarded (Q := HoldsPart) (fun _ i h => (step_inputs h i).1)
    (fun _ i hq hp => outputBound_step_iff hq hp i)
    ⟨by simp [NoNewline, initial], by simp [initial]⟩ ⟨Nat.zero_le _, List.forall_mem_nil _⟩]
  intro h
  have hfits := h.2.1 (List.cons_ne_nil 63 []) (by decide)
  have hpending : (step (initial : RidenScpi UInt8 UInt8)
      (.write [63] ⟨[d], false⟩)).writeBuffer = d := rfl
  rw [hpending, List.flatten_singleton, hlen] at hfits
  exact absurd hfits (by decide)

/-! ## Both buffers -/

/-- What was stored in the input buffer and in the output buffer lies in them. -/
def InArrays (s : RidenScpi α β) : Prop := s.InputBound ∧ s.OutputBound

omit [Octet α] in
theorem inArrays_initial : (initial : RidenScpi α β).InArrays :=
  ⟨⟨Nat.zero_le _, List.forall_mem_nil _⟩, Nat.zero_le _, List.forall_mem_nil _⟩

instance (s : RidenScpi α β) : Decidable s.InArrays :=
  inferInstanceAs (Decidable ((_ ∧ _) ∧ _ ∧ _))

/-- The step leaves room in the input buffer, and its output fits in the output buffer. -/
def Fits (s : RidenScpi α β) (i : Input α β) : Prop := LeavesRoom s i ∧ OutputFits s i

/-- Without a client there is nothing that could not fit. -/
theorem fits_loop_none (hc : s.client = none) {ex : ℕ → Execution β} : Fits s (.loop none ex) := by
  refine ⟨fun _ c hsome => ?_, fun _ id l hl => ?_⟩
  · exact absurd (hc.symm.trans hsome) (Option.some_ne_none c).symm
  · rw [show s.accept none = s from rfl, nextLine, hc] at hl
    cases hl

/-- That is what a step needs. -/
theorem inArrays_step_iff (hq : HoldsPart s) (hs : s.InArrays) (i : Input α β) :
    (step s i).InArrays ↔ Fits s i :=
  and_congr (inputBound_step_iff hq hs.1 i) (outputBound_step_iff hq hs.2 i)

end RidenScpi

end RidenDongle
