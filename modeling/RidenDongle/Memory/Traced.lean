import RidenDongle.Memory.Bytes

/-!
# Memory with a record of its accesses

A `Traced` memory keeps the addresses it was read and written at, the latest
last, so that "the code stays inside its array" is a statement about what the
code did. The records are ghost: nothing is computed from them.

`nulString` is the C string found in a list of bytes, which `strcpy` copies
together with its terminator.
-/

/-- A memory, and the addresses loaded from and stored to. -/
structure Traced where
  bytes : Memory
  loads : List ℕ
  stores : List ℕ

namespace Traced

variable (t : Traced) (a n w : ℕ) (bs : List UInt8)

/-- A memory nothing was recorded of yet. -/
def ofMemory (m : Memory) : Traced := ⟨m, [], []⟩

/-- The record of a load from `a`; the byte loaded is `t.bytes a`. -/
def load : Traced := { t with loads := t.loads ++ [a] }

/-- The loads of the `n` bytes from `a` on. -/
def loadRange : Traced := { t with loads := t.loads ++ List.range' a n }

/-- A store of the byte `x` to `a`. -/
def store (x : UInt8) : Traced :=
  { t with bytes := t.bytes.store a x, stores := t.stores ++ [a] }

/-- Stores of the bytes `bs` from `a` on. -/
def write : Traced :=
  { t with bytes := t.bytes.write a bs, stores := t.stores ++ List.range' a bs.length }

/-- A store of the big-endian word `w` to `a`. -/
def setWord : Traced := t.write a (Memory.wordBytes w)

@[simp] theorem bytes_ofMemory (m : Memory) : (ofMemory m).bytes = m := rfl
@[simp] theorem loads_ofMemory (m : Memory) : (ofMemory m).loads = [] := rfl
@[simp] theorem stores_ofMemory (m : Memory) : (ofMemory m).stores = [] := rfl
@[simp] theorem bytes_load : (t.load a).bytes = t.bytes := rfl
@[simp] theorem loads_load : (t.load a).loads = t.loads ++ [a] := rfl
@[simp] theorem stores_load : (t.load a).stores = t.stores := rfl
@[simp] theorem bytes_loadRange : (t.loadRange a n).bytes = t.bytes := rfl
@[simp] theorem loads_loadRange : (t.loadRange a n).loads = t.loads ++ List.range' a n := rfl
@[simp] theorem stores_loadRange : (t.loadRange a n).stores = t.stores := rfl
@[simp] theorem bytes_store (x : UInt8) : (t.store a x).bytes = t.bytes.store a x := rfl
@[simp] theorem loads_store (x : UInt8) : (t.store a x).loads = t.loads := rfl
@[simp] theorem stores_store (x : UInt8) : (t.store a x).stores = t.stores ++ [a] := rfl
@[simp] theorem bytes_write : (t.write a bs).bytes = t.bytes.write a bs := rfl
@[simp] theorem loads_write : (t.write a bs).loads = t.loads := rfl
@[simp] theorem stores_write :
    (t.write a bs).stores = t.stores ++ List.range' a bs.length := rfl
@[simp] theorem bytes_setWord : (t.setWord a w).bytes = t.bytes.setWord a w := rfl
@[simp] theorem loads_setWord : (t.setWord a w).loads = t.loads := rfl
@[simp] theorem stores_setWord : (t.setWord a w).stores = t.stores ++ List.range' a 4 := rfl

/-- A store followed by a write right behind it. -/
theorem write_cons (x : UInt8) : t.write a (x :: bs) = (t.store a x).write (a + 1) bs := by
  simp only [write, store, List.length_cons, List.range'_succ, List.append_assoc,
    List.singleton_append]
  congr 1
  funext i
  rw [show x :: bs = [x] ++ bs from rfl, Memory.write_append]
  congr 1
  funext j
  simp only [Memory.store, Function.update_apply]
  split_ifs with h
  · rw [h]
    exact @Memory.write_add _ _ 0 [x] (by simp)
  · rw [Memory.write_apply, dif_neg (by simp only [List.length_singleton]; omega)]

@[simp] theorem write_nil : t.write a [] = t := by
  simp [write]

end Traced

/-! ## C strings -/

/-- The bytes before the first NUL. -/
def nulString (bs : List UInt8) : List UInt8 := bs.takeWhile (· ≠ 0)

/-- A list without NUL is before the end of any C string it starts. -/
theorem nulString_append {bs cs : List UInt8} (h : (0 : UInt8) ∉ bs) :
    nulString (bs ++ cs) = bs ++ nulString cs :=
  List.takeWhile_append_of_pos fun b hb => by
    simpa using fun hb₀ : b = 0 => h (hb₀ ▸ hb)

/-- A C string is shorter than `n` if there is a NUL among the first `n` bytes. -/
theorem length_nulString_lt {bs : List UInt8} {n : ℕ} (hn : n ≤ bs.length) :
    (nulString bs).length < n ↔ ∃ z, z < n ∧ bs[z]? = some 0 := by
  induction bs generalizing n with
  | nil =>
    obtain rfl : n = 0 := Nat.le_zero.1 hn
    simp
  | cons b bs ih =>
    cases n with
    | zero => simp
    | succ n =>
      by_cases hb : b = 0
      · subst hb
        exact iff_of_true (by simp [nulString]) ⟨0, Nat.succ_pos n, rfl⟩
      · have hlen : (nulString (b :: bs)).length = (nulString bs).length + 1 := by
          simp [nulString, hb]
        rw [hlen, Nat.add_lt_add_iff_right, ih (Nat.le_of_succ_le_succ hn)]
        constructor
        · rintro ⟨z, hz, h⟩
          exact ⟨z + 1, Nat.succ_lt_succ hz, h⟩
        · rintro ⟨z, hz, h⟩
          cases z with
          | zero => exact absurd (Option.some.inj h) hb
          | succ z => exact ⟨z, Nat.lt_of_succ_lt_succ hz, h⟩
