import RidenDongle.Vxi.Port
import Mathlib.Data.UInt
import Mathlib.Order.Interval.Finset.Nat

/-!
# The cyclic counter

The class `cyclic_uint32_t` (`utilities.h`), on 32-bit words, as a refinement of the
counter on natural numbers that the VXI server is described with.

* `Cyclic`: the counter on natural numbers. Its offset goes up by one, modulo the size
  of the range.
* `CyclicUint32`: the class, with its operators; `simulates_step`: it does what the
  counter on natural numbers does, so nothing that it computes overflows or underflows.
* `visits_evenly`: what holds of the counter after any sequence of operators.

The size of the range is a natural number: that of the full range is no 32-bit word.
-/

namespace RidenDongle

namespace Cyclic

@[ext] theorem ext {c d : Cyclic} (hdata : c.data = d.data) (hstart : c.start = d.start)
    (hstop : c.stop = d.stop) : c = d := by
  cases c
  cases d
  simp_all

/-- The operators `++` and `--`, as prefix or as `post`fix. -/
inductive Op where
  | increment (post : Bool)
  | decrement (post : Bool)
deriving DecidableEq, Repr

/-- The initial value, if it is in the range, or else the start. -/
def initial (a b value : ℕ) : ℕ :=
  if min a b ≤ value ∧ value ≤ max a b then value else min a b

theorem le_initial (a b value : ℕ) : min a b ≤ initial a b value := by
  unfold initial
  split_ifs with h
  · exact h.1
  · exact le_rfl

theorem initial_le (a b value : ℕ) : initial a b value ≤ max a b := by
  unfold initial
  split_ifs with h
  · exact h.2
  · exact min_le_max

/-- The constructor. -/
def ofValue (a b value : ℕ) : Cyclic where
  data := initial a b value
  start := min a b
  stop := max a b
  start_le := le_initial a b value
  le_stop := initial_le a b value

variable (c : Cyclic)

def gotoPrev : Cyclic where
  data := if c.start < c.data then c.data - 1 else c.stop
  start := c.start
  stop := c.stop
  start_le := by
    have := c.start_le
    have := c.le_stop
    split_ifs <;> omega
  le_stop := by
    have := c.le_stop
    split_ifs <;> omega

def step : Op → Cyclic
  | .increment _ => c.gotoNext
  | .decrement _ => c.gotoPrev

/-- How many values the range has. -/
def size : ℕ := c.stop - c.start + 1

/-- How far the value is from the start of the range. -/
def offset : ℕ := c.data - c.start

theorem offset_lt : c.offset < c.size := by
  have := c.le_stop
  unfold offset size
  omega

theorem data_eq : c.data = c.start + c.offset := by
  have := c.start_le
  unfold offset
  omega

@[simp] theorem gotoNext_size : c.gotoNext.size = c.size := rfl

@[simp] theorem gotoPrev_gotoNext : c.gotoNext.gotoPrev = c := by
  have := c.start_le
  have := c.le_stop
  ext
  · simp only [gotoPrev, gotoNext]
    split_ifs <;> omega
  · rfl
  · rfl

@[simp] theorem gotoNext_gotoPrev : c.gotoPrev.gotoNext = c := by
  have := c.start_le
  have := c.le_stop
  ext
  · simp only [gotoPrev, gotoNext]
    split_ifs <;> omega
  · rfl
  · rfl

theorem gotoNext_offset : c.gotoNext.offset = (c.offset + 1) % c.size := by
  have hdata := c.data_eq
  have hlt := c.offset_lt
  have hsize : c.size = c.stop - c.start + 1 := rfl
  have hstop := c.le_stop
  change (if c.data < c.stop then c.data + 1 else c.start) - c.start = _
  split_ifs with h
  · rw [Nat.mod_eq_of_lt (by omega)]
    omega
  · -- the wrap, where the offset is the last one
    have hlast : c.offset + 1 = c.size := by omega
    rw [hlast, Nat.mod_self, Nat.sub_self]

/-- `n` times further, the offset is `n` more, modulo the size. -/
theorem iterate_gotoNext_offset (n : ℕ) : (gotoNext^[n] c).offset = (c.offset + n) % c.size := by
  induction n generalizing c with
  | zero => exact (Nat.mod_eq_of_lt c.offset_lt).symm
  | succ n ih =>
    rw [Function.iterate_succ_apply, ih, gotoNext_offset, gotoNext_size, Nat.mod_add_mod]
    congr 1
    omega

/-- In one turn from any value, the offset is each of those in the range once. -/
theorem exists_iterate_offset {k : ℕ} (hk : k < c.size) :
    ∃ i < c.size, (gotoNext^[i + 1] c).offset = k := by
  -- as many successive numbers as there are offsets have all the remainders
  have hmem : k ∈ (Finset.Ico (c.offset + 1) (c.offset + 1 + c.size)).image (· % c.size) := by
    rw [Nat.image_Ico_mod]
    exact Finset.mem_range.2 hk
  obtain ⟨x, hx, hmod⟩ := Finset.mem_image.1 hmem
  obtain ⟨i, rfl⟩ := Nat.exists_eq_add_of_le (Finset.mem_Ico.1 hx).1
  refine ⟨i, by have := (Finset.mem_Ico.1 hx).2; omega, ?_⟩
  rw [iterate_gotoNext_offset, ← hmod]
  congr 1
  omega

theorem iterate_offset_injOn {i j : ℕ} (hi : i < c.size) (hj : j < c.size)
    (h : (gotoNext^[i + 1] c).offset = (gotoNext^[j + 1] c).offset) : i = j := by
  simp only [iterate_gotoNext_offset] at h
  have := Nat.mod_injOn_Ico (c.offset + 1) c.size
    (Finset.mem_coe.2 (Finset.mem_Ico.2 ⟨by omega, by omega⟩) :
      c.offset + (i + 1) ∈ _)
    (Finset.mem_coe.2 (Finset.mem_Ico.2 ⟨by omega, by omega⟩) :
      c.offset + (j + 1) ∈ _) h
  omega

@[simp] theorem iterate_gotoNext_start (n : ℕ) : (gotoNext^[n] c).start = c.start := by
  induction n generalizing c with
  | zero => rfl
  | succ n ih => exact ih c.gotoNext

@[simp] theorem iterate_gotoNext_stop (n : ℕ) : (gotoNext^[n] c).stop = c.stop := by
  induction n generalizing c with
  | zero => rfl
  | succ n ih => exact ih c.gotoNext

@[simp] theorem step_start (op : Op) : (c.step op).start = c.start := by
  cases op <;> rfl

@[simp] theorem step_stop (op : Op) : (c.step op).stop = c.stop := by
  cases op <;> rfl

theorem run_start (ops : List Op) : (Machine.run step c ops).start = c.start := by
  induction ops generalizing c with
  | nil => rfl
  | cons op ops ih => rw [Machine.run_cons, ih, step_start]

theorem run_stop (ops : List Op) : (Machine.run step c ops).stop = c.stop := by
  induction ops generalizing c with
  | nil => rfl
  | cons op ops ih => rw [Machine.run_cons, ih, step_stop]

end Cyclic

/-- `cyclic_uint32_t`. -/
@[ext] structure CyclicUint32 where
  data : UInt32
  start : UInt32
  stop : UInt32
deriving DecidableEq, Repr

namespace CyclicUint32

open Cyclic (Op)

/-- The constructor. -/
def ofValue (a b value : UInt32) : CyclicUint32 :=
  let start := if a < b then a else b
  let stop := if a < b then b else a
  ⟨if value ≥ start ∧ value ≤ stop then value else start, start, stop⟩

/-- The constructor, with no initial value. -/
def ofRange (a b : UInt32) : CyclicUint32 := ofValue a b 0

variable (c : CyclicUint32)

def gotoPrev : CyclicUint32 :=
  { c with data := if c.data > c.start then c.data - 1 else c.stop }

def gotoNext : CyclicUint32 :=
  { c with data := if c.data < c.stop then c.data + 1 else c.start }

def isNoncyclic : Bool := c.start == c.stop

/-- What the operator returns, and the counter after it. -/
def apply : Op → UInt32 × CyclicUint32
  | .increment false => (c.gotoNext.data, c.gotoNext)
  | .increment true =>
    let temp := c.data
    (temp, c.gotoNext)
  | .decrement false => (c.gotoPrev.data, c.gotoPrev)
  | .decrement true =>
    let temp := c.data
    (temp, c.gotoPrev)

def step (op : Op) : CyclicUint32 := (c.apply op).2

/-- The values of the counter, after each of the operators. -/
def visited : CyclicUint32 → List Op → List UInt32
  | _, [] => []
  | c, op :: ops => (c.step op).data :: visited (c.step op) ops

/-- The sum or the difference, where the operator evaluates one, is a 32-bit value. -/
def NoWrap : Op → Prop
  | .increment _ => c.data < c.stop → c.data.toNat + 1 < UInt32.size
  | .decrement _ => c.data > c.start → 1 ≤ c.data.toNat

/-- `d` is the counter, on natural numbers. -/
structure Refines (d : Cyclic) : Prop where
  data : c.data.toNat = d.data
  start : c.start.toNat = d.start
  stop : c.stop.toNat = d.stop

theorem refines_ofValue (a b value : UInt32) :
    (ofValue a b value).Refines (.ofValue a.toNat b.toNat value.toNat) := by
  have hstart : (if a < b then a else b).toNat = min a.toNat b.toNat := by
    split_ifs with h <;> rw [UInt32.lt_iff_toNat_lt] at h <;> omega
  have hstop : (if a < b then b else a).toNat = max a.toNat b.toNat := by
    split_ifs with h <;> rw [UInt32.lt_iff_toNat_lt] at h <;> omega
  refine ⟨?_, hstart, hstop⟩
  change (if value ≥ (if a < b then a else b) ∧ value ≤ (if a < b then b else a) then value
    else (if a < b then a else b)).toNat = if _ then value.toNat else min a.toNat b.toNat
  rw [← hstart, ← hstop, ← apply_ite UInt32.toNat]
  simp only [ge_iff_le, UInt32.le_iff_toNat_le]

variable {c} {d : Cyclic}

theorem Refines.eq {c' : CyclicUint32} (h : c.Refines d) (h' : c'.Refines d) : c = c' := by
  ext1
  · exact UInt32.toNat_inj.1 (h.data.trans h'.data.symm)
  · exact UInt32.toNat_inj.1 (h.start.trans h'.start.symm)
  · exact UInt32.toNat_inj.1 (h.stop.trans h'.stop.symm)

theorem Refines.isNoncyclic (h : c.Refines d) : c.isNoncyclic = d.isNoncyclic := by
  rw [CyclicUint32.isNoncyclic, Cyclic.isNoncyclic, ← h.start, ← h.stop, Bool.eq_iff_iff,
    beq_iff_eq, beq_iff_eq, UInt32.toNat_inj]

theorem Refines.gotoNext (h : c.Refines d) : c.gotoNext.Refines d.gotoNext := by
  refine ⟨?_, h.start, h.stop⟩
  -- the sum is taken only below the bound, which is a 32-bit value itself
  have hstop := c.stop.toNat_lt
  change (if c.data < c.stop then c.data + 1 else c.start).toNat =
    if d.data < d.stop then d.data + 1 else d.start
  simp only [← h.data, ← h.start, ← h.stop, UInt32.lt_iff_toNat_lt]
  split_ifs with hlt
  · rw [UInt32.toNat_add, UInt32.toNat_one, Nat.mod_eq_of_lt (by omega)]
  · rfl

theorem Refines.gotoPrev (h : c.Refines d) : c.gotoPrev.Refines d.gotoPrev := by
  refine ⟨?_, h.start, h.stop⟩
  change (if c.data > c.start then c.data - 1 else c.stop).toNat =
    if d.start < d.data then d.data - 1 else d.stop
  simp only [← h.data, ← h.start, ← h.stop, gt_iff_lt, UInt32.lt_iff_toNat_lt]
  split_ifs with hlt
  · have hone : 1 ≤ c.data := by
      rw [UInt32.le_iff_toNat_le, UInt32.toNat_one]
      omega
    rw [UInt32.toNat_sub_of_le _ _ hone, UInt32.toNat_one]
  · rfl

/-- The class does what the counter on natural numbers does. -/
theorem simulates_step : Machine.Simulates step Cyclic.step Refines := by
  rintro c d (post | post) h
  · cases post <;> exact h.gotoNext
  · cases post <;> exact h.gotoPrev

theorem Refines.iterate_gotoNext (h : c.Refines d) (n : ℕ) :
    (CyclicUint32.gotoNext^[n] c).Refines (Cyclic.gotoNext^[n] d) := by
  induction n generalizing c d with
  | zero => exact h
  | succ n ih => exact ih h.gotoNext

theorem noWrap (op : Op) : c.NoWrap op := by
  cases op with
  | increment post =>
    intro hlt
    rw [UInt32.lt_iff_toNat_lt] at hlt
    exact lt_of_le_of_lt hlt c.stop.toNat_lt
  | decrement post =>
    intro hgt
    rw [gt_iff_lt, UInt32.lt_iff_toNat_lt] at hgt
    omega

/-- The value is at the offset that the counter on natural numbers has. -/
theorem Refines.iterate_data (h : c.Refines d) (n : ℕ) :
    (CyclicUint32.gotoNext^[n] c).data.toNat = d.start + (Cyclic.gotoNext^[n] d).offset := by
  rw [(h.iterate_gotoNext n).data, Cyclic.data_eq, Cyclic.iterate_gotoNext_start]

theorem visited_increments (c : CyclicUint32) (posts : List Bool) :
    c.visited (posts.map .increment) =
      (List.range posts.length).map fun i => (gotoNext^[i + 1] c).data := by
  induction posts generalizing c with
  | nil => rfl
  | cons post posts ih =>
    have hstep : c.step (.increment post) = c.gotoNext := by cases post <;> rfl
    rw [List.length_cons, List.range_succ_eq_map, List.map_cons, List.map_cons, List.map_map,
      visited, hstep, ih c.gotoNext]
    rfl

/-- One turn of increments visits no value twice. -/
theorem Refines.visited_nodup (h : c.Refines d) {posts : List Bool}
    (hposts : posts.length = d.size) : (c.visited (posts.map .increment)).Nodup := by
  rw [visited_increments, hposts]
  refine List.nodup_range.map_on fun i hi j hj hij => ?_
  have hdata := congrArg UInt32.toNat hij
  rw [h.iterate_data, h.iterate_data] at hdata
  exact d.iterate_offset_injOn (List.mem_range.1 hi) (List.mem_range.1 hj)
    (Nat.add_left_cancel hdata)

/-- One turn of increments visits each value of the range. -/
theorem Refines.mem_visited (h : c.Refines d) {posts : List Bool}
    (hposts : posts.length = d.size) (v : UInt32) :
    v ∈ c.visited (posts.map .increment) ↔ d.start ≤ v.toNat ∧ v.toNat ≤ d.stop := by
  rw [visited_increments, hposts, List.mem_map]
  constructor
  · rintro ⟨i, -, rfl⟩
    have hi := h.iterate_gotoNext (i + 1)
    rw [hi.data]
    exact ⟨(d.iterate_gotoNext_start _).ge.trans (Cyclic.start_le _),
      (Cyclic.le_stop _).trans (d.iterate_gotoNext_stop _).le⟩
  · rintro ⟨hstart, hstop⟩
    have hk : v.toNat - d.start < d.size := by
      unfold Cyclic.size
      omega
    obtain ⟨i, hi, hoffset⟩ := d.exists_iterate_offset hk
    refine ⟨i, List.mem_range.2 hi, UInt32.toNat_inj.1 ?_⟩
    rw [h.iterate_data, hoffset]
    omega

/-- What any sequence of operators leads to, from the constructor. -/
theorem refines_run (a b value : UInt32) (ops : List Op) :
    (Machine.run step (ofValue a b value) ops).Refines
      (Machine.run Cyclic.step (.ofValue a.toNat b.toNat value.toNat) ops) :=
  simulates_step.run (refines_ofValue a b value) ops

/-- What an operator returns is a value of the counter, before it or after it. -/
theorem apply_fst (c : CyclicUint32) (op : Op) :
    (c.apply op).1 = c.data ∨ (c.apply op).1 = (c.step op).data := by
  rcases op with post | post
  · cases post
    · exact .inr rfl
    · exact .inl rfl
  · cases post
    · exact .inr rfl
    · exact .inl rfl

/-- How many values the range of the bounds has, up to 2 ^ 32 of them. -/
def rangeSize (a b : UInt32) : ℕ := max a.toNat b.toNat - min a.toNat b.toNat + 1

example : rangeSize 0 4294967295 = 4294967296 := by decide

/-- The value `v` is in the range of the bounds. -/
def InRange (a b v : UInt32) : Prop :=
  min a.toNat b.toNat ≤ v.toNat ∧ v.toNat ≤ max a.toNat b.toNat

theorem inRange_run (a b value : UInt32) (ops : List Op) :
    InRange a b (Machine.run step (ofValue a b value) ops).data := by
  have h := refines_run a b value ops
  have hstart := Cyclic.run_start (.ofValue a.toNat b.toNat value.toNat) ops
  have hstop := Cyclic.run_stop (.ofValue a.toNat b.toNat value.toNat) ops
  rw [InRange, h.data]
  exact ⟨hstart.ge.trans (Cyclic.start_le _), (Cyclic.le_stop _).trans hstop.le⟩

/-- So is what the next operator returns. -/
theorem inRange_apply (a b value : UInt32) (ops : List Op) (op : Op) :
    InRange a b ((Machine.run step (ofValue a b value) ops).apply op).1 := by
  rcases apply_fst (Machine.run step (ofValue a b value) ops) op with heq | heq
  · rw [heq]
    exact inRange_run a b value ops
  · have := inRange_run a b value (ops ++ [op])
    rw [Machine.run_append] at this
    rw [heq]
    exact this

/-- The counter, after its construction and any sequence of operators: its value stays
    in the range, and so does what the next operator returns, which nothing overflows;
    the two directions are inverse; `n` steps forward add `n` to the offset, modulo the
    size of the range; and one turn of increments visits each value of the range once. -/
theorem visits_evenly (a b value : UInt32) (ops : List Op) (c : CyclicUint32)
    (hc : c = Machine.run step (ofValue a b value) ops) :
    InRange a b c.data ∧
      (∀ op, c.NoWrap op ∧ InRange a b (c.apply op).1) ∧
      c.gotoNext.gotoPrev = c ∧ c.gotoPrev.gotoNext = c ∧
      (∀ k n, c.data.toNat = min a.toNat b.toNat + k →
        (gotoNext^[n] c).data.toNat = min a.toNat b.toNat + (k + n) % rangeSize a b) ∧
      ∀ posts : List Bool, posts.length = rangeSize a b →
        (c.visited (posts.map .increment)).Nodup ∧
          ∀ v, v ∈ c.visited (posts.map .increment) ↔ InRange a b v := by
  subst hc
  have h := refines_run a b value ops
  have hstart := Cyclic.run_start (.ofValue a.toNat b.toNat value.toNat) ops
  have hstop := Cyclic.run_stop (.ofValue a.toNat b.toNat value.toNat) ops
  generalize hd : Machine.run Cyclic.step (.ofValue a.toNat b.toNat value.toNat) ops = d at *
  change d.start = min a.toNat b.toNat at hstart
  change d.stop = max a.toNat b.toNat at hstop
  have hsize : rangeSize a b = d.size := by rw [rangeSize, Cyclic.size, hstart, hstop]
  refine ⟨inRange_run a b value ops, fun op => ⟨noWrap op, inRange_apply a b value ops op⟩,
    ?_, ?_, ?_, ?_⟩
  · exact Refines.eq (d.gotoPrev_gotoNext ▸ h.gotoNext.gotoPrev) h
  · exact Refines.eq (d.gotoNext_gotoPrev ▸ h.gotoPrev.gotoNext) h
  · intro k n hk
    have hdata := h.data
    have hoffset := d.data_eq
    rw [h.iterate_data, d.iterate_gotoNext_offset, hstart, hsize, show d.offset = k by omega]
  · intro posts hposts
    rw [hsize] at hposts
    refine ⟨h.visited_nodup hposts, fun v => ?_⟩
    rw [h.mem_visited hposts, hstart, hstop]
    rfl

/-- The range from 3 to 5, given from above, from which one step back and one turn. -/
theorem visits_evenly_three :
    visited ⟨5, 3, 5⟩ [.increment false, .increment true, .increment false] = [3, 4, 5] ∧
      ∀ v, v ∈ visited ⟨5, 3, 5⟩ [.increment false, .increment true, .increment false] ↔
        InRange 5 3 v :=
  ⟨by decide, (visits_evenly 5 3 0 [.decrement true] ⟨5, 3, 5⟩ (by decide)).2.2.2.2.2
    [false, true, false] (by decide) |>.2⟩

end CyclicUint32

end RidenDongle
