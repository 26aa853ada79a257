import Mathlib.Algebra.Group.Nat.Defs
import Mathlib.Data.List.GetD
import Mathlib.Data.List.OfFn
import Mathlib.Logic.Function.Basic

/-!
# Flat byte memory

A memory gives a byte at every address, so that an access outside an array is
an access like any other: to whatever lies there. An array is a range of
addresses; that an access stays inside it is a statement about the address.

* `write` stores consecutive bytes (a `memcpy` into the memory), `read` loads
  them, and `store` is the assignment of one byte;
* `word` and `setWord` access a 32-bit big-endian word, as a number below
  `2 ^ 32`;
* `AgreeOn` compares two memories on a range of addresses.
-/

/-- A memory: the byte at each address. -/
abbrev Memory := ℕ → UInt8

namespace Memory

variable (m m' : Memory) (a b n k : ℕ) (bs cs : List UInt8)

/-- The memory with the byte `x` stored at `a`. -/
def store (x : UInt8) : Memory := Function.update m a x

/-- The memory with the bytes `bs` stored from `a` on. -/
def write : Memory := fun i => if a ≤ i then bs.getD (i - a) (m i) else m i

/-- The `n` bytes from `a` on. -/
def read : List UInt8 := (List.range n).map fun i => m (a + i)

/-- The four bytes of a word, the most significant first. -/
def wordBytes (w : ℕ) : List UInt8 :=
  [UInt8.ofNat (w / 2 ^ 24), UInt8.ofNat (w / 2 ^ 16), UInt8.ofNat (w / 2 ^ 8), UInt8.ofNat w]

/-- The big-endian word at `a`. -/
def word : ℕ :=
  (m a).toNat * 2 ^ 24 + (m (a + 1)).toNat * 2 ^ 16 + (m (a + 2)).toNat * 2 ^ 8 + (m (a + 3)).toNat

/-- The memory with the big-endian word `w` stored at `a`. -/
def setWord (w : ℕ) : Memory := m.write a (wordBytes w)

/-- The memories agree on the `n` bytes from `a` on. -/
def AgreeOn : Prop := ∀ i, a ≤ i → i < a + n → m i = m' i

variable {m m' a b n k bs cs} {x : UInt8} {w i : ℕ}

/-! ## Reading and writing -/

@[simp] theorem store_self : m.store a x a = x := Function.update_self ..

theorem store_of_ne (h : i ≠ a) : m.store a x i = m i := Function.update_of_ne h ..

theorem write_of_lt (h : i < a) : m.write a bs i = m i := if_neg (Nat.not_le.2 h)

theorem write_of_le (h : a + bs.length ≤ i) : m.write a bs i = m i := by
  rw [write, if_pos (by omega), List.getD_eq_default _ _ (by omega)]

theorem write_add (h : k < bs.length) : m.write a bs (a + k) = bs[k] := by
  rw [write, if_pos (Nat.le_add_right ..), Nat.add_sub_cancel_left, List.getD_eq_getElem _ _ h]

/-- Inside the range written, the byte written; outside, the byte before. -/
theorem write_apply : m.write a bs i =
    if h : a ≤ i ∧ i < a + bs.length then bs[i - a] else m i := by
  split_ifs with h
  · obtain ⟨k, rfl⟩ := Nat.exists_eq_add_of_le h.1
    rw [write_add (by omega)]
    simp only [Nat.add_sub_cancel_left]
  · rcases Nat.lt_or_ge i a with hi | hi
    · exact write_of_lt hi
    · exact write_of_le (by omega)

@[simp] theorem write_nil : m.write a [] = m := by
  funext i
  rw [write_apply, dif_neg (by simp only [List.length_nil]; omega)]

@[simp] theorem read_zero : m.read a 0 = [] := rfl

@[simp] theorem length_read : (m.read a n).length = n := by simp [read]

theorem getElem_read (h : k < (m.read a n).length) : (m.read a n)[k] = m (a + k) := by
  simp [read]

theorem read_succ : m.read a (n + 1) = m.read a n ++ [m (a + n)] := by
  simp [read, List.range_succ]

theorem read_add : m.read a (n + k) = m.read a n ++ m.read (a + n) k := by
  simp [read, List.range_add, Function.comp_def, Nat.add_assoc]

/-- What was written is read back. -/
theorem read_write : (m.write a bs).read a bs.length = bs := by
  refine List.ext_getElem length_read fun k _ hk => ?_
  rw [getElem_read, write_add hk]

theorem AgreeOn.read_eq (h : AgreeOn m m' a n) : m.read a n = m'.read a n :=
  List.map_congr_left fun _ hi => h _ (Nat.le_add_right ..)
    (Nat.add_lt_add_left (List.mem_range.1 hi) a)

/-- Bytes that were read tell the memory apart. -/
theorem agreeOn_of_read_eq (h : m.read a n = m'.read a k) : n = k ∧ AgreeOn m m' a n := by
  have hlen := congrArg List.length h
  rw [length_read, length_read] at hlen
  subst hlen
  refine ⟨rfl, fun i hi hi' => ?_⟩
  obtain ⟨j, rfl⟩ := Nat.exists_eq_add_of_le hi
  exact List.map_inj_left.1 h j (List.mem_range.2 (by omega))

theorem AgreeOn.mono (h : AgreeOn m m' a n) (hab : a ≤ b) (hbn : b + k ≤ a + n) :
    AgreeOn m m' b k := fun i hi hik => h i (by omega) (by omega)

/-- A write does not touch what lies outside its range. -/
theorem agreeOn_write (h : b + k ≤ a ∨ a + bs.length ≤ b) : AgreeOn (m.write a bs) m b k := by
  intro i hi hik
  rcases h with h | h
  · exact write_of_lt (by omega)
  · exact write_of_le (by omega)

theorem agreeOn_store (h : a < b ∨ b + k ≤ a) : AgreeOn (m.store a x) m b k :=
  fun i hi hik => store_of_ne (by omega)

/-- The same write agrees with itself, wherever the memories agree and on what
    it writes. -/
theorem AgreeOn.write (h : ∀ i, a ≤ i → i < a + n → i < b ∨ b + bs.length ≤ i → m i = m' i) :
    AgreeOn (m.write b bs) (m'.write b bs) a n := by
  intro i hi hin
  rw [write_apply, write_apply]
  split_ifs with hb
  · rfl
  · exact h i hi hin (by omega)

/-- Reading a part of what was written. -/
theorem read_write_part (h : n + k ≤ bs.length) :
    (m.write a bs).read (a + n) k = (bs.drop n).take k := by
  refine List.ext_getElem (by simp only [length_read, List.length_take, List.length_drop]; omega)
    fun j hj _ => ?_
  rw [length_read] at hj
  rw [getElem_read, Nat.add_assoc, write_add (by omega), List.getElem_take, List.getElem_drop]

/-- Writing two lists one after the other is writing their concatenation. -/
theorem write_append : m.write a (bs ++ cs) = (m.write a bs).write (a + bs.length) cs := by
  funext i
  rcases Nat.lt_or_ge i (a + bs.length) with hi | hi
  · rw [write_of_lt hi]
    rcases Nat.lt_or_ge i a with hia | hia
    · rw [write_of_lt hia, write_of_lt hia]
    · obtain ⟨k, rfl⟩ := Nat.exists_eq_add_of_le hia
      rw [write_add (by simp only [List.length_append]; omega), write_add (by omega),
        List.getElem_append_left]
  · obtain ⟨k, rfl⟩ := Nat.exists_eq_add_of_le hi
    rcases Nat.lt_or_ge k cs.length with hk | hk
    · rw [write_add hk, Nat.add_assoc, write_add (by simp only [List.length_append]; omega),
        List.getElem_append_right (by omega)]
      simp only [Nat.add_sub_cancel_left]
    · rw [write_of_le (by simp only [List.length_append]; omega), write_of_le (by omega),
        write_of_le (by omega)]

/-! ## Words -/

@[simp] theorem length_wordBytes : (wordBytes w).length = 4 := rfl

theorem word_lt : m.word a < 2 ^ 32 := by
  have h₀ := (m a).toNat_lt
  have h₁ := (m (a + 1)).toNat_lt
  have h₂ := (m (a + 2)).toNat_lt
  have h₃ := (m (a + 3)).toNat_lt
  simp only [word]
  omega

theorem AgreeOn.word_eq (h : AgreeOn m m' a 4) : m.word a = m'.word a := by
  simp only [word, h a (by omega) (by omega), h (a + 1) (by omega) (by omega),
    h (a + 2) (by omega) (by omega), h (a + 3) (by omega) (by omega)]

/-- Four bytes are the word they spell. -/
theorem word_of_read (h : m.read a 4 = wordBytes w) : m.word a = w % 2 ^ 32 := by
  have hb : m a = UInt8.ofNat (w / 2 ^ 24) ∧ m (a + 1) = UInt8.ofNat (w / 2 ^ 16) ∧
      m (a + 2) = UInt8.ofNat (w / 2 ^ 8) ∧ m (a + 3) = UInt8.ofNat w := by
    simpa [read, List.range_succ, wordBytes] using h
  obtain ⟨h₀, h₁, h₂, h₃⟩ := hb
  simp only [word, h₀, h₁, h₂, h₃, UInt8.toNat_ofNat']
  omega

/-- A word whose bytes are stored by a longer write. -/
theorem word_write (h : (bs.drop k).take 4 = wordBytes w) :
    (m.write a bs).word (a + k) = w % 2 ^ 32 := by
  have hlen := congrArg List.length h
  simp only [List.length_take, List.length_drop, length_wordBytes] at hlen
  refine word_of_read ?_
  rw [read_write_part (by omega), h]

/-- A word stored is read back, modulo `2 ^ 32`. -/
theorem word_setWord : (m.setWord a w).word a = w % 2 ^ 32 :=
  word_write (k := 0) rfl

theorem word_setWord_of_lt (h : w < 2 ^ 32) : (m.setWord a w).word a = w := by
  rw [word_setWord, Nat.mod_eq_of_lt h]

theorem agreeOn_setWord (h : b + k ≤ a ∨ a + 4 ≤ b) : AgreeOn (m.setWord a w) m b k :=
  agreeOn_write h

/-- Storing a word leaves the other words. -/
theorem word_setWord_of_disjoint (h : b + 4 ≤ a ∨ a + 4 ≤ b) : (m.setWord a w).word b = m.word b :=
  (agreeOn_setWord h).word_eq

/-- The bytes of a list of words. -/
def wordsBytes (ws : List ℕ) : List UInt8 := ws.flatMap wordBytes

@[simp] theorem length_wordsBytes (ws : List ℕ) : (wordsBytes ws).length = 4 * ws.length := by
  induction ws with
  | nil => rfl
  | cons w ws ih => simp only [wordsBytes, List.flatMap_cons, List.length_append] at *
                    simp only [length_wordBytes, ih, List.length_cons]; omega

/-- The memory with the words `ws` stored one behind the other, from `a` on. -/
def setWords (m : Memory) (a : ℕ) : List ℕ → Memory
  | [] => m
  | w :: ws => (m.setWord a w).setWords (a + 4) ws

theorem setWords_eq_write (ws : List ℕ) : m.setWords a ws = m.write a (wordsBytes ws) := by
  induction ws generalizing m a with
  | nil => exact write_nil.symm
  | cons w ws ih =>
    rw [setWords, ih, setWord, show wordsBytes (w :: ws) = wordBytes w ++ wordsBytes ws from rfl,
      write_append, length_wordBytes]

theorem read_setWords {ws : List ℕ} : (m.setWords a ws).read a (4 * ws.length) = wordsBytes ws := by
  rw [setWords_eq_write, ← length_wordsBytes, read_write]

/-- A word of a list of words that is stored, perhaps with more behind it. -/
theorem word_write_wordsBytes {ws : List ℕ} (hk : k < ws.length) :
    (m.write a (wordsBytes ws ++ bs)).word (a + 4 * k) = ws[k] % 2 ^ 32 := by
  refine word_write ?_
  induction ws generalizing k with
  | nil => exact absurd hk (Nat.not_lt_zero _)
  | cons w ws ih =>
    cases k with
    | zero => rfl
    | succ k => exact ih (Nat.lt_of_succ_lt_succ hk)

/-- Memories with the same word at `a` have the same four bytes there. -/
theorem agreeOn_of_word_eq (h : m.word a = m'.word a) : AgreeOn m m' a 4 := by
  have h₀ := (m a).toNat_lt
  have h₁ := (m (a + 1)).toNat_lt
  have h₂ := (m (a + 2)).toNat_lt
  have h₃ := (m (a + 3)).toNat_lt
  have h₀' := (m' a).toNat_lt
  have h₁' := (m' (a + 1)).toNat_lt
  have h₂' := (m' (a + 2)).toNat_lt
  have h₃' := (m' (a + 3)).toNat_lt
  simp only [word] at h
  intro i hi hi'
  refine UInt8.toNat_inj.1 ?_
  obtain rfl | rfl | rfl | rfl : i = a ∨ i = a + 1 ∨ i = a + 2 ∨ i = a + 3 := by omega
  all_goals omega

end Memory
