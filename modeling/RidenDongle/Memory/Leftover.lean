import RidenDongle.Memory.Bytes

/-!
# What a write leaves of a memory

A buffer that is written to again and again keeps, behind what the last write
stored, the leftovers of earlier ones. A reader of the buffer does not depend on
them when what it reads was stored (`word_write_of_le`), and a comparison of a
word with a constant does not when a byte that was stored already decides it
(`Settles`). Where nothing decides, there are leftovers for either outcome
(`word_write_of_not_settles`, `word_write_ne`).
-/

namespace Memory

variable {m m' m₀ : Memory} {a b k o w size : ℕ} {bs : List UInt8} {x : UInt8}

/-- The memories agree from the end of a buffer of `size` bytes on. -/
def AgreeBehind (size : ℕ) (m m' : Memory) : Prop := ∀ i, size ≤ i → m i = m' i

/-- The result does not depend on what was left in a buffer of `size` bytes, in
    the memory `m₀`. -/
def Fresh {X : Type*} (size : ℕ) (m₀ : Memory) (f : Memory → X) : Prop :=
  ∀ m m', AgreeBehind size m m₀ → AgreeBehind size m' m₀ → f m = f m'

theorem AgreeBehind.refl : AgreeBehind size m m := fun _ _ => rfl

theorem AgreeBehind.setWord (h : AgreeBehind size m m₀) (ha : a + 4 ≤ size) :
    AgreeBehind size (m.setWord a w) m₀ := fun i hi => by
  rw [Memory.setWord, write_of_le (by rw [length_wordBytes]; omega), h i hi]

theorem AgreeBehind.store (h : AgreeBehind size m m₀) (ha : a < size) :
    AgreeBehind size (m.store a x) m₀ := fun i hi => by
  rw [store_of_ne (by omega), h i hi]

/-- The word of the bytes at an offset, with zeros for those that are missing. -/
def wordOf (bs : List UInt8) (o : ℕ) : ℕ := word (write (fun _ => 0) 0 bs) o

/-- A word that was stored does not depend on what was left, nor on where it is. -/
theorem word_write_of_le (h : o + 4 ≤ bs.length) :
    (m.write a bs).word (a + o) = (m'.write b bs).word (b + o) := by
  have hbyte : ∀ j < 4, m.write a bs (a + o + j) = m'.write b bs (b + o + j) := fun j hj => by
    rw [Nat.add_assoc, Nat.add_assoc, write_add (by omega), write_add (by omega)]
  simp only [word, hbyte 1 (by omega), hbyte 2 (by omega), hbyte 3 (by omega)]
  rw [show m.write a bs (a + o) = _ from hbyte 0 (by omega), Nat.add_zero]

theorem word_write_eq_wordOf (h : o + 4 ≤ bs.length) :
    (m.write a bs).word (a + o) = wordOf bs o := by
  rw [wordOf, @word_write_of_le m (fun _ => 0) a 0 o bs h, Nat.zero_add]

/-- A word of a list of words, perhaps with more behind it. -/
theorem wordOf_wordsBytes {ws : List ℕ} (hk : ws[k]? = some w) (hw : w < 2 ^ 32) :
    wordOf (wordsBytes ws ++ bs) (4 * k) = w := by
  obtain ⟨hk', rfl⟩ := List.getElem?_eq_some_iff.1 hk
  have hword := @word_write_wordsBytes (fun _ => 0) 0 k bs ws hk'
  rwa [Nat.zero_add, Nat.mod_eq_of_lt hw] at hword

/-! ## Comparing a word with a constant -/

/-- The bytes decide whether the word at the offset `o` is `w`: they hold the whole
    of it, or a byte that is not the one of `w`. -/
def Settles (bs : List UInt8) (o w : ℕ) : Prop :=
  o + 4 ≤ bs.length ∨ ∃ k < 4, o + k < bs.length ∧ bs[o + k]? ≠ (wordBytes w)[k]?

instance : Decidable (Settles bs o w) :=
  inferInstanceAs (Decidable (_ ∨ ∃ k < 4, o + k < bs.length ∧ _))

/-- A word is read as it was stored, byte by byte. -/
theorem word_eq_iff (hw : w < 2 ^ 32) :
    m.word a = w ↔ ∀ k < 4, some (m (a + k)) = (wordBytes w)[k]? := by
  have hset : (m.setWord a w).word a = w := word_setWord_of_lt hw
  have hbyte : ∀ k < 4, (wordBytes w)[k]? = some (m.setWord a w (a + k)) := fun k hk => by
    rw [setWord, write_add (by rw [length_wordBytes]; exact hk), List.getElem?_eq_getElem]
  constructor
  · intro h k hk
    rw [hbyte k hk, agreeOn_of_word_eq (h.trans hset.symm) (a + k) (by omega) (by omega)]
  · intro h
    refine Eq.trans (AgreeOn.word_eq fun i hi hi' => ?_) hset
    obtain ⟨k, rfl⟩ := Nat.exists_eq_add_of_le hi
    have := h k (by omega)
    rw [hbyte k (by omega)] at this
    exact Option.some.inj this

/-- A byte that is not the one of `w` decides. -/
theorem word_write_ne_of_byte (hw : w < 2 ^ 32) (hk : k < 4) (hlt : o + k < bs.length)
    (hne : bs[o + k]? ≠ (wordBytes w)[k]?) : (m.write a bs).word (a + o) ≠ w := by
  intro h
  have hbyte := (word_eq_iff hw).1 h k hk
  rw [Nat.add_assoc, write_add hlt, ← List.getElem?_eq_getElem hlt] at hbyte
  exact hne hbyte

/-- What the bytes settle does not depend on what was left. -/
theorem Settles.word_iff (h : Settles bs o w) (hw : w < 2 ^ 32) :
    (m.write a bs).word (a + o) = w ↔ wordOf bs o = w := by
  rcases h with h | ⟨k, hk, hlt, hne⟩
  · rw [word_write_eq_wordOf h]
  · have hzero := word_write_ne_of_byte (m := fun _ => 0) (a := 0) hw hk hlt hne
    rw [Nat.zero_add] at hzero
    exact iff_of_false (word_write_ne_of_byte hw hk hlt hne) hzero

/-- Where the bytes settle nothing, a word that was left can be completed to itself. -/
theorem word_write_of_not_settles (h : ¬Settles bs o w) (hw : w < 2 ^ 32)
    (hm : m.word (a + o) = w) : (m.write a bs).word (a + o) = w := by
  rw [word_eq_iff hw]
  intro k hk
  rcases Nat.lt_or_ge (o + k) bs.length with hlt | hge
  · rw [Nat.add_assoc, write_add hlt, ← List.getElem?_eq_getElem hlt]
    exact not_not.1 fun hne => h (.inr ⟨k, hk, hlt, hne⟩)
  · rw [Nat.add_assoc, write_of_le (by omega), ← Nat.add_assoc]
    exact (word_eq_iff hw).1 hm k hk

/-- What was left behind the bytes is read. -/
theorem word_write_ne (h : bs.length < o + 4) (hx : m (a + o + 3) ≠ m' (a + o + 3)) :
    (m.write a bs).word (a + o) ≠ (m'.write a bs).word (a + o) := by
  intro heq
  have := agreeOn_of_word_eq heq (a + o + 3) (by omega) (by omega)
  rw [write_of_le (by omega), write_of_le (by omega)] at this
  exact hx this

/-- Leftovers only add to the word that the bytes start. -/
theorem wordOf_le : wordOf bs o ≤ (m.write a bs).word (a + o) := by
  have hbyte : ∀ j, (write (fun _ => 0) 0 bs (o + j)).toNat ≤ (m.write a bs (a + o + j)).toNat :=
    fun j => by
      rcases Nat.lt_or_ge (o + j) bs.length with hlt | hge
      · have hzero := write_add (m := fun _ => 0) (a := 0) hlt
        rw [Nat.zero_add] at hzero
        rw [hzero, Nat.add_assoc, write_add hlt]
      · rw [write_of_le (by omega)]
        exact Nat.zero_le _
  have h₀ := hbyte 0
  have h₁ := hbyte 1
  have h₂ := hbyte 2
  have h₃ := hbyte 3
  simp only [Nat.add_zero] at h₀
  simp only [wordOf, word]
  omega

/-- Bytes settle whether a word is a small number when they hold the whole of it or
    start a large one. -/
theorem Settles.of_small (h : Settles bs o w) (hw : w < 256) :
    o + 4 ≤ bs.length ∨ 256 ≤ wordOf bs o := by
  refine or_iff_not_imp_left.2 fun hlen => ?_
  obtain ⟨k, hk, hlt, hne⟩ := h.resolve_left hlen
  have hbyte := write_add (m := fun _ => 0) (a := 0) hlt
  rw [Nat.zero_add] at hbyte
  rw [List.getElem?_eq_getElem hlt, ← hbyte] at hne
  have hpos : ∀ {b : UInt8}, some b ≠ some 0 → 0 < b.toNat := fun hb =>
    Nat.pos_of_ne_zero fun h0 => hb (congrArg some (UInt8.toNat_inj.1 h0))
  have hsmall : ∀ j < 3, (wordBytes w)[j]? = some 0 := fun j hj => by
    have hzero : ∀ d, w < d → UInt8.ofNat (w / d) = 0 := fun d hd => by
      rw [Nat.div_eq_of_lt hd]
      rfl
    obtain rfl | rfl | rfl : j = 0 ∨ j = 1 ∨ j = 2 := by omega
    · exact congrArg some (hzero _ (by omega))
    · exact congrArg some (hzero _ (by omega))
    · exact congrArg some (hzero _ (by omega))
  rw [hsmall k (by omega)] at hne
  have hbig := hpos hne
  simp only [wordOf, word]
  obtain rfl | rfl | rfl : k = 0 ∨ k = 1 ∨ k = 2 := by omega
  · rw [Nat.add_zero] at hbig
    omega
  · omega
  · omega

/-! ## What a result that does not depend on leftovers needs -/

/-- The memories agree but for the word at `a`. -/
def AgreeBut (a : ℕ) (m m' : Memory) : Prop := ∀ i, i < a ∨ a + 4 ≤ i → m i = m' i

theorem AgreeBut.word_write (h : AgreeBut (a + o) m m') (hk : k + 4 ≤ o ∨ o + 4 ≤ k) :
    (m.write a bs).word (a + k) = (m'.write a bs).word (a + k) :=
  AgreeOn.word_eq (AgreeOn.write fun i hi hi' _ => h i (by omega))

variable {X Y : Type*} {f : Memory → X} {g : Memory → Y}

theorem fresh_congr (h : ∀ m m', f m = f m' ↔ g m = g m') : Fresh size m₀ f ↔ Fresh size m₀ g :=
  forall₂_congr fun m m' => imp_congr_right fun _ => imp_congr_right fun _ => h m m'

theorem fresh_const (x : X) : Fresh size m₀ (fun _ => x) := fun _ _ _ _ => rfl

/-- Where a word shows in the result, it was received. -/
theorem Fresh.received (hf : Fresh size m₀ f) (hm : AgreeBehind size m m₀) (ha : a + o + 4 ≤ size)
    (hne : ∀ m', AgreeBut (a + o) m' m →
      (m.write a bs).word (a + o) ≠ (m'.write a bs).word (a + o) → f m ≠ f m') :
    o + 4 ≤ bs.length := by
  by_contra hlen
  refine hne (m.store (a + o + 3) (m (a + o + 3) + 1)) (fun i hi => store_of_ne (by omega))
    (word_write_ne (by omega) ?_) (hf _ _ hm (hm.store (by omega)))
  rw [store_self]
  simp

/-- Where it shows whether a word is `w`, the bytes received settle it. -/
theorem Fresh.settles (hf : Fresh size m₀ f) (hm : AgreeBehind size m m₀) (ha : a + o + 4 ≤ size)
    (hw : w < 2 ^ 32)
    (hne : ∀ m₁ m₂, AgreeBut (a + o) m₁ m → AgreeBut (a + o) m₂ m →
      (m₁.write a bs).word (a + o) = w → (m₂.write a bs).word (a + o) ≠ w → f m₁ ≠ f m₂) :
    Settles bs o w := by
  by_contra hset
  have hlen : bs.length < o + 4 := Nat.not_le.1 fun hle => hset (.inl hle)
  have hbut : AgreeBut (a + o) (m.setWord (a + o) w) m := fun i hi =>
    agreeOn_setWord (b := i) (k := 1) (by omega) i le_rfl (by omega)
  have hword : ((m.setWord (a + o) w).write a bs).word (a + o) = w :=
    word_write_of_not_settles hset hw (word_setWord_of_lt hw)
  set m₁ := m.setWord (a + o) w
  have hm₁ : AgreeBehind size m₁ m₀ := hm.setWord ha
  refine hne m₁ (m₁.store (a + o + 3) (m₁ (a + o + 3) + 1)) hbut (fun i hi => ?_) hword ?_
    (hf _ _ hm₁ (hm₁.store (by omega)))
  · rw [store_of_ne (by omega)]
    exact hbut i hi
  · intro h
    refine word_write_ne (m := m₁) hlen ?_ (hword.trans h.symm)
    rw [store_self]
    simp

end Memory
