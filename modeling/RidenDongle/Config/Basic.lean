import RidenDongle.Memory.Traced

/-!
# The stored configuration

`RidenConfig::begin` and `RidenConfig::commit` (`riden_config.cpp`). The structs
lie in memory as the compiler lays them out, in declaration order and with the
baud rate aligned to four bytes. A struct on the stack is the memory from its
first byte on: the bytes behind it are whatever the stack holds there, up to the
end `ramEnd` of the memory, and those of a struct that nothing was assigned to
are stale.

* `EEPROM.get` copies the bytes of the image into a struct, `EEPROM.put` copies
  those of a struct into the image, padding included.
* A C string ends at the first NUL, wherever that lies (`cString`); without one
  before `ramEnd` the code does not get past it, and `begin` is `none`.
* A `bool` is true when its byte is not zero.

`reads` is ghost: the ranges that `begin` reads of the struct that it loaded.
-/

namespace RidenDongle

/-- The C string at `a` in a memory that ends behind `limit` more bytes. -/
def cString (m : Memory) (a limit : ℕ) : Option (List UInt8) :=
  let s := nulString (m.read a limit)
  if s.length < limit then some s else none

/-- `MAGIC`, with its NUL. -/
def magic : List UInt8 := [0x52, 0x44, 0]

/-! The fields of `RidenConfigStructV2`; those of `RidenConfigStructV1` are the
    same but for the last one. -/
abbrev configVersionOffset : ℕ := 3
abbrev tzNameOffset : ℕ := 4
abbrev tzNameSize : ℕ := 100
abbrev configPortalOnBootOffset : ℕ := 104
abbrev uartBaudrateOffset : ℕ := 108

/-- `sizeof(RidenConfigHeader)`, `sizeof(RidenConfigStructV1)`,
    `sizeof(RidenConfigStructV2)`. -/
abbrev sizeofHeader : ℕ := 4
abbrev sizeofV1 : ℕ := 105
abbrev sizeofV2 : ℕ := 112

abbrev defaultUartBaudrate : UInt32 := 9600

/-- The bytes of a `uint32_t`, the least significant first. -/
def baudBytes (b : UInt32) : List UInt8 := (Memory.wordBytes b.toNat).reverse

/-- The `uint32_t` at `a`. -/
def baudAt (m : Memory) (a : ℕ) : UInt32 :=
  UInt32.ofNat ((m (a + 3)).toNat * 2 ^ 24 + (m (a + 2)).toNat * 2 ^ 16 +
    (m (a + 1)).toNat * 2 ^ 8 + (m a).toNat)

/-- The byte of a `bool`. -/
def boolByte (b : Bool) : UInt8 := if b then 1 else 0

structure RidenConfig where
  tzName : List UInt8 := []
  configPortalOnBoot : Bool := false
  uartBaudrate : UInt32 := defaultUartBaudrate
  deriving DecidableEq

/-- `EEPROM.get(0, config)` into a struct of `size` bytes on the stack. -/
def eepromGet (eeprom : Memory) (size : ℕ) (stack : Memory) : Memory :=
  stack.write 0 (eeprom.read 0 size)

/-- `EEPROM.put(0, config)` of a struct of `size` bytes. -/
def eepromPut (eeprom : Memory) (size : ℕ) (config : Memory) : Memory :=
  eeprom.write 0 (config.read 0 size)

namespace RidenConfig

def setTimezoneName (self : RidenConfig) (tzName : List UInt8) : RidenConfig :=
  { self with tzName := tzName }

def setConfigPortalOnBoot (self : RidenConfig) : RidenConfig :=
  { self with configPortalOnBoot := true }

def setUartBaudrate (self : RidenConfig) (baudrate : UInt32) : RidenConfig :=
  { self with uartBaudrate := baudrate }

/-- The struct that `commit` fills in, on the stack. -/
def image (self : RidenConfig) (stack : Memory) : Memory :=
  ((((stack.write 0 magic).store configVersionOffset 2).write tzNameOffset
    (nulString self.tzName ++ [0])).store configPortalOnBootOffset
      (boolByte self.configPortalOnBoot)).write uartBaudrateOffset (baudBytes self.uartBaudrate)

/-- `commit`; `committed` is what `EEPROM.commit` returns. The result and the image. -/
def commit (self : RidenConfig) (eeprom stack : Memory) (committed : Bool) : Bool × Memory :=
  (committed, if committed then eepromPut eeprom sizeofV2 (self.image stack) else eeprom)

/-- What `begin` leaves behind. -/
structure Begun where
  config : RidenConfig
  eeprom : Memory
  success : Bool
  /-- Ghost: the ranges read, as first byte and length. -/
  reads : List (ℕ × ℕ)

/-- The case of a version 1 image. -/
def beginV1 (self : RidenConfig) (eeprom stack : Memory) (ramEnd : ℕ) : Option Begun :=
  let config := eepromGet eeprom sizeofV1 stack
  (cString config tzNameOffset (ramEnd - tzNameOffset)).map fun tzName =>
    { config := { self with
        tzName := tzName
        configPortalOnBoot := config configPortalOnBootOffset != 0 }
      eeprom := eeprom
      success := true
      reads := [(0, sizeofHeader), (tzNameOffset, tzName.length + 1),
        (configPortalOnBootOffset, 1)] }

/-- The case of a version 2 image. -/
def beginV2 (self : RidenConfig) (eeprom stack : Memory) (ramEnd : ℕ) : Option Begun :=
  let config := eepromGet eeprom sizeofV2 stack
  (cString config tzNameOffset (ramEnd - tzNameOffset)).map fun tzName =>
    { config := { self with
        tzName := tzName
        configPortalOnBoot := config configPortalOnBootOffset != 0
        uartBaudrate := baudAt config uartBaudrateOffset }
      eeprom := eeprom
      success := true
      reads := [(0, sizeofHeader), (tzNameOffset, tzName.length + 1),
        (configPortalOnBootOffset, 1), (uartBaudrateOffset, 4)] }

/-- The image has the magic and the version `v`. -/
def IsVersion (v : UInt8) (eeprom : Memory) : Prop :=
  eeprom.read 0 3 = magic ∧ eeprom configVersionOffset = v

instance (v : UInt8) (eeprom : Memory) : Decidable (IsVersion v eeprom) :=
  inferInstanceAs (Decidable (_ ∧ _))

/-- `begin`; the struct of `commit` lies at `stack'`. -/
def begin (self : RidenConfig) (eeprom stack stack' : Memory) (committed : Bool) (ramEnd : ℕ) :
    Option Begun :=
  if IsVersion 1 eeprom then self.beginV1 eeprom stack ramEnd
  else if IsVersion 2 eeprom then self.beginV2 eeprom stack ramEnd
  else
    some
      { config := self
        eeprom := (self.commit eeprom stack' committed).2
        success := (self.commit eeprom stack' committed).1
        reads := [(0, sizeofHeader)] }

end RidenConfig

/-! ## C strings -/

/-- A C string is what stands before the first NUL. -/
theorem nulString_eq_iff {bs s : List UInt8} :
    nulString bs = s ∧ s.length < bs.length ↔ (0 : UInt8) ∉ s ∧ s ++ [0] <+: bs := by
  constructor
  · rintro ⟨rfl, hlt⟩
    have hsplit : nulString bs ++ bs.dropWhile (· ≠ 0) = bs := List.takeWhile_append_dropWhile
    refine ⟨fun h => by simpa using List.all_eq_true.1 (List.all_takeWhile (l := bs)) 0 h, ?_⟩
    cases hd : bs.dropWhile (· ≠ 0) with
    | nil =>
      rw [hd, List.append_nil] at hsplit
      exact absurd hlt (by rw [hsplit]; exact Nat.lt_irrefl _)
    | cons b t =>
      have hb : b = 0 := by
        have h := List.head?_dropWhile_not (fun b : UInt8 => decide (b ≠ 0)) bs
        rw [hd] at h
        simpa using h
      refine ⟨t, ?_⟩
      rw [hd, hb] at hsplit
      simpa using hsplit
  · rintro ⟨h₀, t, rfl⟩
    rw [List.append_assoc, nulString_append h₀]
    simp [nulString]

theorem getD_append_nul (s : List UInt8) (p : ℕ) : (s ++ [0]).getD p 0 = s.getD p 0 := by
  rcases Nat.lt_or_ge p s.length with h | h
  · rw [List.getD_append _ _ _ _ h]
  · rw [List.getD_append_right _ _ _ _ h, List.getD_eq_default _ _ h]
    cases p - s.length <;> rfl

/-- A string is found exactly where its bytes and a NUL are. -/
theorem cString_eq_some_iff {m : Memory} {a limit : ℕ} {s : List UInt8} :
    cString m a limit = some s ↔
      (0 : UInt8) ∉ s ∧ s.length < limit ∧ ∀ p ≤ s.length, m (a + p) = s.getD p 0 := by
  have hfound : cString m a limit = some s ↔
      nulString (m.read a limit) = s ∧ s.length < (m.read a limit).length := by
    rw [cString, Memory.length_read]
    constructor
    · intro h
      split_ifs at h with hlt
      exact ⟨Option.some.inj h, Option.some.inj h ▸ hlt⟩
    · rintro ⟨h, hlt⟩
      simp only [h, if_pos hlt]
  have hprefix : s ++ [0] <+: m.read a limit ↔
      s.length < limit ∧ ∀ p ≤ s.length, m (a + p) = s.getD p 0 := by
    rw [List.prefix_iff_getElem]
    simp only [List.length_append, List.length_singleton, Memory.length_read]
    constructor
    · rintro ⟨hlen, h⟩
      refine ⟨by omega, fun p hp => ?_⟩
      have := h p (by omega)
      rw [Memory.getElem_read] at this
      rw [← this, ← getD_append_nul, List.getD_eq_getElem]
    · rintro ⟨hlen, h⟩
      refine ⟨by omega, fun p hp => ?_⟩
      rw [Memory.getElem_read, h p (by omega), ← getD_append_nul, List.getD_eq_getElem]
  rw [hfound, nulString_eq_iff, hprefix]

end RidenDongle
