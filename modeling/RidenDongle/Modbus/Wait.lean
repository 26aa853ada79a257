import RidenDongle.Modbus.Master
import Mathlib.Data.Nat.Find
import Mathlib.Order.Monotone.Basic

/-!
# Waiting for the power supply

`RidenModbus::wait_for_inactive` at every value of the clock (`riden_modbus.cpp`). A
round of its loop is `delay(1)`, `task()` and the look at the clock, which advances the
clock by at least 1 ms. The deadline is an absolute value of the counter `millis()`,
which wraps.

* `Rounds`: how much time each round takes, and after which the transaction ends.
* `waitForInactive`: the loop, for a number of rounds at most.
* `correctWait_iff`: the counter values from which the loop waits for the timeout and not
  longer.
-/

namespace RidenDongle

/-- The rounds of a wait: the milliseconds that each takes, and the number of rounds after
    which the transaction is complete, unless it stays outstanding. -/
structure Rounds where
  advance : ℕ → ℕ
  complete : Option ℕ

namespace Rounds

variable (r : Rounds)

/-- The time that the first `k` rounds take. -/
def elapsed : ℕ → ℕ
  | 0 => 0
  | k + 1 => elapsed k + r.advance k

/-- `modbus.server()`, after `k` rounds. -/
def outstanding (k : ℕ) : Bool := r.complete.all (k < ·)

/-- Each round takes at least 1 ms and at most `d` ms. -/
def Within (d : ℕ) : Prop := ∀ k, 1 ≤ r.advance k ∧ r.advance k ≤ d

end Rounds

variable (r : Rounds) (now : ℕ)

/-- The loop after `k` rounds, for `fuel` more rounds: the result, with the number of
    rounds it took. -/
def waitLoop (waitUntil : ℕ) : ℕ → ℕ → Option (Bool × ℕ)
  | 0, k => if r.outstanding k then none else some (true, k)
  | fuel + 1, k =>
    if r.outstanding k then
      if millis (now + r.elapsed (k + 1)) > waitUntil then some (false, k + 1)
      else waitLoop waitUntil fuel (k + 1)
    else some (true, k)

/-- `wait_for_inactive`, entered at the time `now`, for `fuel` rounds at most. -/
def waitForInactive (initialized : Bool) (fuel : ℕ) : Option (Bool × ℕ) :=
  if !initialized then some (false, 0)
  else waitLoop r now (millis (millis now + modbusTimeout)) fuel 0

/-- The wait returns `result` after `n` rounds. -/
def ReturnsAfter (initialized result : Bool) (n : ℕ) : Prop :=
  ∃ fuel, waitForInactive r now initialized fuel = some (result, n)

/-- The wait is correct for rounds of at most `d` ms: it returns `false` only after the
    timeout, `true` if the transaction is complete in time, and it ends. -/
structure CorrectWait (initialized : Bool) (d : ℕ) (r : Rounds) : Prop where
  timedOut (n : ℕ) (h : ReturnsAfter r now initialized false n) : modbusTimeout < r.elapsed n
  inTime (k : ℕ) (h : r.outstanding k = false) (hk : r.elapsed k ≤ modbusTimeout) :
    ∃ n, ReturnsAfter r now initialized true n
  ends (h : ∀ k, r.outstanding k = true) :
    ∃ n, ReturnsAfter r now initialized false n ∧ r.elapsed n ≤ modbusTimeout + d + 1

/-- From this value of the counter, the deadline is not passed before its time, and no
    round that ends after it wraps to a value before it. -/
def DeadlineHolds (d : ℕ) : Prop :=
  millis now + modbusTimeout + d < 2 ^ 32 ∨ (millis now = 2 ^ 32 - 1 ∧ 499 + d < 2 ^ 32)

variable {r now} {d k n fuel waitUntil : ℕ} {result : Bool}

/-! ## The rounds -/

theorem millis_lt : millis now < 2 ^ 32 := Nat.mod_lt _ (by decide)

theorem millis_add (t : ℕ) : millis (now + t) = millis (millis now + t) :=
  (Nat.mod_add_mod ..).symm

theorem Rounds.Within.le_elapsed (h : r.Within d) (k : ℕ) : k ≤ r.elapsed k := by
  induction k with
  | zero => exact Nat.zero_le _
  | succ k ih => exact Nat.add_le_add ih (h k).1

theorem Rounds.elapsed_mono : Monotone r.elapsed :=
  monotone_nat_of_le_succ fun _ => Nat.le_add_right ..

/-- There is a first round that ends after the timeout; it does so by `d` ms at most. -/
theorem Rounds.Within.exists_first (h : r.Within d) : ∃ m, r.elapsed m ≤ modbusTimeout ∧
    modbusTimeout < r.elapsed (m + 1) ∧ r.elapsed (m + 1) ≤ modbusTimeout + d := by
  have hex : ∃ n, modbusTimeout < r.elapsed n := ⟨modbusTimeout + 1, h.le_elapsed _⟩
  obtain ⟨m, hm⟩ : ∃ m, Nat.find hex = m + 1 := by
    refine Nat.exists_eq_succ_of_ne_zero fun hzero => ?_
    have hspec := Nat.find_spec hex
    rw [hzero] at hspec
    exact absurd hspec (Nat.not_lt_zero _)
  have hlast : r.elapsed m ≤ modbusTimeout :=
    Nat.not_lt.1 (Nat.find_min hex (hm ▸ Nat.lt_succ_self m))
  exact ⟨m, hlast, hm ▸ Nat.find_spec hex, Nat.add_le_add hlast (h m).2⟩

/-! ## The loop -/

theorem waitLoop_of_complete (h : r.outstanding k = false) :
    waitLoop r now waitUntil fuel k = some (true, k) := by
  cases fuel with
  | zero => rw [waitLoop, h]; rfl
  | succ fuel => rw [waitLoop, h]; rfl

theorem waitLoop_of_late (h : r.outstanding k = true)
    (hlate : waitUntil < millis (now + r.elapsed (k + 1))) :
    waitLoop r now waitUntil (fuel + 1) k = some (false, k + 1) := by
  rw [waitLoop, if_pos h]
  exact if_pos hlate

theorem waitLoop_of_not_late (h : r.outstanding k = true)
    (hlate : millis (now + r.elapsed (k + 1)) ≤ waitUntil) :
    waitLoop r now waitUntil (fuel + 1) k = waitLoop r now waitUntil fuel (k + 1) := by
  rw [waitLoop, if_pos h]
  exact if_neg (Nat.not_lt.2 hlate)

/-- Rounds with an outstanding transaction and before the deadline are waited for. -/
theorem waitLoop_add (hout : ∀ j, j < n → r.outstanding j = true)
    (hlate : ∀ j, 0 < j → j ≤ n → millis (now + r.elapsed j) ≤ waitUntil) :
    waitLoop r now waitUntil (fuel + n) 0 = waitLoop r now waitUntil fuel n := by
  induction n generalizing fuel with
  | zero => rfl
  | succ n ih =>
    rw [← Nat.succ_add_eq_add_succ, ih (fun j hj => hout j (Nat.lt_succ_of_lt hj))
      fun j hj hjn => hlate j hj (Nat.le_succ_of_le hjn)]
    exact waitLoop_of_not_late (hout n (Nat.lt_succ_self n)) (hlate _ (Nat.succ_pos n) le_rfl)

/-- The loop returns `false` at a round that ends after the deadline. -/
theorem late_of_waitLoop (h : waitLoop r now waitUntil fuel k = some (false, n)) :
    0 < n ∧ waitUntil < millis (now + r.elapsed n) := by
  induction fuel generalizing k with
  | zero =>
    rw [waitLoop] at h
    split_ifs at h
    all_goals cases h
  | succ fuel ih =>
    rw [waitLoop] at h
    split_ifs at h with hout hlate
    · cases h
      exact ⟨Nat.succ_pos k, hlate⟩
    · exact ih h
    · cases h

/-! ## The deadline -/

theorem DeadlineHolds.not_late (h : DeadlineHolds now d) {t : ℕ} (hpos : 0 < t)
    (ht : t ≤ modbusTimeout) : millis (now + t) ≤ millis (millis now + modbusTimeout) := by
  unfold DeadlineHolds at h
  unfold modbusTimeout millis at *
  omega

theorem DeadlineHolds.late (h : DeadlineHolds now d) {t : ℕ} (ht : modbusTimeout < t)
    (htd : t ≤ modbusTimeout + d) : millis (millis now + modbusTimeout) < millis (now + t) := by
  unfold DeadlineHolds at h
  unfold modbusTimeout millis at *
  omega

/-- Where the deadline does not hold, the first millisecond is after it, or the counter
    can step over what is left after it. -/
theorem early_or_wraps (h : ¬DeadlineHolds now d) :
    millis (millis now + modbusTimeout) < millis (now + 1) ∨
      2 ^ 32 ≤ millis (millis now + modbusTimeout) + d := by
  unfold DeadlineHolds at h
  unfold modbusTimeout millis at *
  omega

/-- The transaction of a wait that is complete has ended at a first round. -/
theorem Rounds.exists_complete (h : r.outstanding k = false) :
    ∃ c, c ≤ k ∧ r.outstanding c = false ∧ ∀ j, j < c → r.outstanding j = true := by
  have hex : ∃ c, r.outstanding c = false := ⟨k, h⟩
  exact ⟨Nat.find hex, Nat.find_min' hex h, Nat.find_spec hex,
    fun j hj => (Bool.not_eq_false _).mp (Nat.find_min hex hj)⟩

/-- The rounds that end in time are not late. -/
theorem DeadlineHolds.rounds_not_late (h : DeadlineHolds now d) (hr : r.Within d)
    (hn : r.elapsed n ≤ modbusTimeout) (k : ℕ) (hk : 0 < k) (hkn : k ≤ n) :
    millis (now + r.elapsed k) ≤ millis (millis now + modbusTimeout) :=
  h.not_late (Nat.lt_of_lt_of_le hk (hr.le_elapsed k))
    (Nat.le_trans (Rounds.elapsed_mono hkn) hn)

theorem DeadlineHolds.correctWait (h : DeadlineHolds now d) (hr : r.Within d) :
    CorrectWait now true d r where
  timedOut n hwait := by
    obtain ⟨fuel, hloop⟩ := hwait
    obtain ⟨hpos, hlate⟩ := late_of_waitLoop hloop
    refine Nat.not_le.1 fun hle => ?_
    exact absurd (h.rounds_not_late hr hle n hpos le_rfl) (Nat.not_le.2 hlate)
  inTime k hdone hk := by
    obtain ⟨c, hck, hc, hfirst⟩ := Rounds.exists_complete hdone
    have htime : r.elapsed c ≤ modbusTimeout := Nat.le_trans (Rounds.elapsed_mono hck) hk
    refine ⟨c, 0 + c, ?_⟩
    exact (waitLoop_add hfirst (h.rounds_not_late hr htime)).trans (waitLoop_of_complete hc)
  ends hout := by
    obtain ⟨m, hm, hlate, hle⟩ := hr.exists_first
    refine ⟨m + 1, ⟨1 + m, ?_⟩, Nat.le_succ_of_le hle⟩
    exact (waitLoop_add (fun j _ => hout j) (h.rounds_not_late hr hm)).trans
      (waitLoop_of_late (hout m) (h.late hlate hle))

/-! ## Waits that fail -/

/-- Rounds of 1 ms, in which no response comes. -/
def silentRounds : Rounds := ⟨fun _ => 1, none⟩

theorem silentRounds_within (hd : 0 < d) : silentRounds.Within d := fun _ => ⟨le_rfl, hd⟩

/-- A wait of `silentRounds` that is left in its first round has not timed out. -/
theorem not_correctWait_of_early {initialized : Bool} (hn : n ≤ 1)
    (hwait : ReturnsAfter silentRounds now initialized false n) :
    ¬CorrectWait now initialized d silentRounds := by
  intro h
  have htime : modbusTimeout < silentRounds.elapsed n := h.timedOut n hwait
  have hle : silentRounds.elapsed n ≤ silentRounds.elapsed 1 := Rounds.elapsed_mono hn
  exact absurd (Nat.lt_of_lt_of_le htime hle) (by decide)

theorem silentRounds_returns_of_late
    (hlate : millis (millis now + modbusTimeout) < millis (now + 1)) :
    ReturnsAfter silentRounds now true false 1 := by
  refine ⟨1, ?_⟩
  change waitLoop silentRounds now _ (0 + 1) 0 = some (false, 0 + 1)
  exact waitLoop_of_late rfl hlate

/-- A counter that counts up to `waitUntil`, from which it next returns to 0. -/
def cycle (start waitUntil : ℕ) : ℕ → ℕ
  | 0 => start
  | k + 1 => if cycle start waitUntil k < waitUntil then cycle start waitUntil k + 1 else 0

/-- Rounds of 1 ms, except for those that start at or after `waitUntil`: they end when the
    counter wraps. No response comes. -/
def cyclicRounds (now waitUntil : ℕ) : Rounds where
  advance k :=
    if cycle (millis now) waitUntil k < waitUntil then 1
    else 2 ^ 32 - cycle (millis now) waitUntil k
  complete := none

theorem millis_cyclicRounds (hW : waitUntil < 2 ^ 32) (k : ℕ) :
    millis (now + (cyclicRounds now waitUntil).elapsed k) = cycle (millis now) waitUntil k := by
  induction k with
  | zero => rfl
  | succ k ih =>
    have hlt : cycle (millis now) waitUntil k < 2 ^ 32 := ih ▸ millis_lt
    rw [Rounds.elapsed, ← Nat.add_assoc, millis_add, ih, cycle]
    change millis (_ + if _ then _ else _) = _
    split_ifs with hbefore
    · exact Nat.mod_eq_of_lt (Nat.lt_of_le_of_lt hbefore hW)
    -- the round ends just when the counter wraps
    · rw [Nat.add_sub_of_le hlt.le]
      exact Nat.mod_self _

theorem cycle_succ_le {start : ℕ} (k : ℕ) : cycle start waitUntil (k + 1) ≤ waitUntil := by
  rw [cycle]
  split_ifs with hlt
  · exact hlt
  · exact Nat.zero_le _

theorem cyclicRounds_within (hd : 0 < d) (hW : waitUntil < 2 ^ 32)
    (hwrap : 2 ^ 32 ≤ waitUntil + d) : (cyclicRounds now waitUntil).Within d := by
  intro k
  have hlt : cycle (millis now) waitUntil k < 2 ^ 32 := millis_cyclicRounds hW k ▸ millis_lt
  change 1 ≤ (if _ then _ else _) ∧ (if _ then _ else _) ≤ d
  split_ifs with hbefore
  · exact ⟨le_rfl, hd⟩
  · refine ⟨Nat.sub_pos_of_lt hlt, Nat.sub_le_of_le_add (hwrap.trans ?_)⟩
    rw [Nat.add_comm d]
    exact Nat.add_le_add_right (Nat.not_lt.1 hbefore) d

/-- No round of these is late, so the wait does not end. -/
theorem not_returns_cyclicRounds :
    ¬ReturnsAfter (cyclicRounds now (millis (millis now + modbusTimeout))) now true false n := by
  rintro ⟨fuel, hloop⟩
  obtain ⟨hpos, hlate⟩ := late_of_waitLoop hloop
  rw [millis_cyclicRounds millis_lt, ← Nat.succ_pred_eq_of_pos hpos] at hlate
  exact absurd (cycle_succ_le _) (Nat.not_le.2 hlate)

/-- The wait is correct for all rounds of at most `d` ms where the deadline holds. -/
theorem correctWait_iff {initialized : Bool} (hd : 0 < d) :
    (∀ r : Rounds, r.Within d → CorrectWait now initialized d r) ↔
      initialized = true ∧ DeadlineHolds now d := by
  constructor
  · intro h
    have hinit : initialized = true := by
      refine (Bool.not_eq_false _).mp fun hinit => ?_
      subst hinit
      exact not_correctWait_of_early (Nat.zero_le 1) ⟨0, rfl⟩ (h _ (silentRounds_within hd))
    subst hinit
    refine ⟨rfl, of_not_not fun hdeadline => ?_⟩
    cases early_or_wraps hdeadline with
    -- the deadline has wrapped, the counter has not
    | inl hearly =>
      exact not_correctWait_of_early le_rfl (silentRounds_returns_of_late hearly)
        (h _ (silentRounds_within hd))
    -- with no round late, the wait has no result for any number of rounds
    | inr hwraps =>
      obtain ⟨n, hwait, -⟩ := (h _ (cyclicRounds_within hd millis_lt hwraps)).ends fun _ => rfl
      exact not_returns_cyclicRounds hwait
  · rintro ⟨rfl, hdeadline⟩ r hr
    exact hdeadline.correctWait hr

/-- An entry at 1000 ms, with rounds of at most 2 ms. -/
theorem correctWait_thousand :
    DeadlineHolds 1000 2 ∧ ∀ r : Rounds, r.Within 2 → CorrectWait 1000 true 2 r :=
  have h : DeadlineHolds 1000 2 := Or.inl (by decide)
  ⟨h, (correctWait_iff (by decide)).2 ⟨rfl, h⟩⟩

/-- Entered 100 ms before the counter wraps, the wait fails after 1 ms. -/
theorem not_correctWait_before_wrap :
    silentRounds.Within 1 ∧ ¬CorrectWait (2 ^ 32 - 100) true 1 silentRounds :=
  ⟨silentRounds_within Nat.one_pos,
    not_correctWait_of_early le_rfl (silentRounds_returns_of_late (by decide))⟩

end RidenDongle
