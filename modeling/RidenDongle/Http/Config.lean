import RidenDongle.Config.Reload
import RidenDongle.Machine.Run
import Mathlib.Algebra.Group.Int.Defs
import Mathlib.Data.UInt

/-!
# The configuration page

What the web page stores as the configuration (`handle_config_post` in
`riden_http_server.cpp`). The form offers the baud rates of `uart_baudrates` and the
names of `TIMEZONES`, a table that is a parameter here; but a POST can carry any text.

* `strtoull`: the text of a baud rate as the C library converts it, to base 10.
* `always_offered_iff`: in which runs of POSTs only what is offered gets stored, or what
  was stored before.

The field `last` is ghost: the configuration before the last POST, and that POST.
-/

namespace RidenDongle

/-! ## Numbers -/

def isSpace (b : UInt8) : Bool := b = 0x20 || (0x09 ≤ b && b ≤ 0x0d)

def isDigit (b : UInt8) : Bool := 0x30 ≤ b && b ≤ 0x39

/-- The value of decimal digits. -/
def decimal (digits : List UInt8) : ℕ := digits.foldl (fun n b => 10 * n + (b.toNat - 0x30)) 0

/-- Whether there is a minus, and what stands behind the sign. -/
def splitSign : List UInt8 → Bool × List UInt8
  | 0x2d :: s => (true, s)
  | 0x2b :: s => (false, s)
  | s => (false, s)

/-- The sign and the digits that a text begins with. -/
def numeral (s : List UInt8) : Bool × List UInt8 :=
  let (negative, s) := splitSign (s.dropWhile isSpace)
  (negative, s.takeWhile isDigit)

/-- `strtoull(s, nullptr, 10)`. -/
def strtoull (s : List UInt8) : ℕ :=
  let (negative, digits) := numeral s
  let n := decimal digits
  if 2 ^ 64 ≤ n then 2 ^ 64 - 1
  else if negative then (2 ^ 64 - n) % 2 ^ 64
  else n

/-- The number that a text begins with. -/
def numberOf (s : List UInt8) : Option ℤ :=
  let (negative, digits) := numeral s
  if digits = [] then none else some (if negative then -decimal digits else decimal digits)

theorem strtoull_of_none {s : List UInt8} (h : numberOf s = none) : strtoull s = 0 := by
  rw [numberOf] at h
  rw [strtoull]
  generalize numeral s = x at h ⊢
  obtain ⟨negative, digits⟩ := x
  dsimp only at h ⊢
  split_ifs at h with hnil
  rw [hnil]
  cases negative <;> rfl

theorem strtoull_of_some {s : List UInt8} {z : ℤ} (h : numberOf s = some z) :
    strtoull s = if z.natAbs < 2 ^ 64 then (z % 2 ^ 64).toNat else 2 ^ 64 - 1 := by
  rw [numberOf] at h
  rw [strtoull]
  generalize numeral s = x at h ⊢
  obtain ⟨negative, digits⟩ := x
  dsimp only at h ⊢
  split_ifs at h with hnil hnegative
  · obtain rfl := Option.some.inj h
    rw [if_pos hnegative, Int.natAbs_neg, Int.natAbs_natCast]
    split_ifs <;> omega
  · obtain rfl := Option.some.inj h
    rw [if_neg hnegative, Int.natAbs_natCast]
    split_ifs <;> omega

/-! ## The page -/

namespace RidenHttpServer

def uartBaudrates : List UInt32 :=
  [9600, 19200, 38400, 57600, 115200, 230400, 250000, 460800, 921600, 1000000]

/-- A POST to `/config/`: its arguments, what `EEPROM.commit` returns, and the stack on
    which `commit` fills in its struct. -/
structure ConfigPost where
  timezone : Option (List UInt8)
  uartBaudrate : Option (List UInt8)
  committed : Bool
  stack : Memory

/-- `server.arg`. -/
def arg (x : Option (List UInt8)) : List UInt8 := x.getD []

/-- The configuration, and the image in the EEPROM. -/
structure ConfigPage where
  config : RidenConfig
  eeprom : Memory
  last : Option (RidenConfig × ConfigPost)

def handleConfigPost (page : ConfigPage) (post : ConfigPost) : ConfigPage :=
  let tz := arg post.timezone
  let uartBaudrate := UInt32.ofNat (strtoull (arg post.uartBaudrate))
  let config := (page.config.setTimezoneName tz).setUartBaudrate uartBaudrate
  { config := config
    eeprom := (config.commit page.eeprom post.stack post.committed).2
    last := some (page.config, post) }

/-- What is stored was offered or stored before, and a new baud rate is the one that was
    posted. -/
structure Stores (timezones : List (List UInt8)) (before after : RidenConfig)
    (post : ConfigPost) : Prop where
  uartBaudrate : after.uartBaudrate ∈ uartBaudrates ∨ after.uartBaudrate = before.uartBaudrate
  tzName : after.tzName ∈ timezones ∨ after.tzName = before.tzName
  posted : after.uartBaudrate ≠ before.uartBaudrate →
    numberOf (arg post.uartBaudrate) = some (after.uartBaudrate.toNat : ℤ)

/-- So it is after the last POST. -/
def Offered (timezones : List (List UInt8)) (page : ConfigPage) : Prop :=
  ∀ x ∈ page.last, Stores timezones x.1 page.config x.2

/-- The text is converted to the baud rate `b`. -/
def ConvertsTo (b : UInt32) (s : List UInt8) : Prop :=
  match numberOf s with
  | none => b = 0
  | some z => if z.natAbs < 2 ^ 64 then (b.toNat : ℤ) = z % 2 ^ 32 else b = 2 ^ 32 - 1

/-- A POST of a baud rate that is offered, or that comes to the one before, and of a
    timezone that is offered or the one before. -/
def Offers (timezones : List (List UInt8)) (page : ConfigPage) (post : ConfigPost) : Prop :=
  ((∃ b ∈ uartBaudrates, numberOf (arg post.uartBaudrate) = some (b.toNat : ℤ)) ∨
    ConvertsTo page.config.uartBaudrate (arg post.uartBaudrate)) ∧
  (arg post.timezone ∈ timezones ∨ arg post.timezone = page.config.tzName)

theorem convertsTo_iff {b : UInt32} {s : List UInt8} :
    UInt32.ofNat (strtoull s) = b ↔ ConvertsTo b s := by
  have hb : b.toNat < 2 ^ 32 := b.toNat_lt
  have heq : UInt32.ofNat (strtoull s) = b ↔ strtoull s % 2 ^ 32 = b.toNat := by
    rw [← UInt32.toNat_inj, UInt32.toNat_ofNat']
  rw [heq, ConvertsTo]
  cases hs : numberOf s with
  | none =>
    rw [strtoull_of_none hs, ← UInt32.toNat_inj]
    exact eq_comm
  | some z =>
    rw [strtoull_of_some hs]
    dsimp only
    split_ifs with hz
    · omega
    · rw [← UInt32.toNat_inj]
      exact eq_comm

theorem ofNat_strtoull_of_mem {b : UInt32} {s : List UInt8} (h : numberOf s = some (b.toNat : ℤ)) :
    UInt32.ofNat (strtoull s) = b := by
  have hb : b.toNat < 2 ^ 32 := b.toNat_lt
  rw [convertsTo_iff, ConvertsTo, h]
  dsimp only
  rw [if_pos (by omega)]
  omega

/-- What a POST stores. -/
theorem stores_handleConfigPost_iff {timezones : List (List UInt8)} (page : ConfigPage)
    (post : ConfigPost) :
    Offered timezones (handleConfigPost page post) ↔ Offers timezones page post := by
  rw [Offers, ← convertsTo_iff]
  constructor
  · intro h
    obtain ⟨hrate, htz, hposted⟩ := h _ rfl
    refine ⟨?_, htz⟩
    by_cases hsame : UInt32.ofNat (strtoull (arg post.uartBaudrate)) = page.config.uartBaudrate
    · exact Or.inr hsame
    · exact Or.inl ⟨_, hrate.resolve_right hsame, hposted hsame⟩
  · rintro ⟨hrate, htz⟩ x hx
    obtain rfl := Option.mem_some_iff.1 hx
    refine ⟨?_, htz, fun hne => ?_⟩
    · rcases hrate with ⟨b, hb, hposted⟩ | hsame
      · refine Or.inl ?_
        change UInt32.ofNat (strtoull (arg post.uartBaudrate)) ∈ _
        rwa [ofNat_strtoull_of_mem hposted]
      · exact Or.inr hsame
    · obtain ⟨b, hb, hposted⟩ := hrate.resolve_right hne
      change numberOf _ = some ((UInt32.ofNat (strtoull (arg post.uartBaudrate))).toNat : ℤ)
      rw [ofNat_strtoull_of_mem hposted, hposted]

/-- **Only what is offered.** In a run of POSTs, each stores a baud rate and a timezone
    that the page offers, or those before it, and a new baud rate is the number posted,
    exactly if each posts such a baud rate, or a text that is converted to the one
    before, and such a timezone. -/
theorem always_offered_iff (timezones : List (List UInt8)) (config : RidenConfig)
    (eeprom : Memory) (posts : List ConfigPost) :
    Machine.Always handleConfigPost (Offered timezones) ⟨config, eeprom, none⟩ posts ↔
      Machine.Guarded handleConfigPost (Offers timezones) ⟨config, eeprom, none⟩ posts :=
  Machine.always_iff_guarded (Q := fun _ => True) (fun _ _ _ => trivial)
    (fun page post _ _ => stores_handleConfigPost_iff page post) trivial
    fun _ hx => nomatch hx

/-- A POST without any arguments stores the baud rate 0. -/
theorem not_offered_empty : ¬ Machine.Always handleConfigPost
    (Offered [[0x45, 0x74, 0x63, 0x2f, 0x55, 0x54, 0x43]])
    ⟨{ tzName := [0x45, 0x74, 0x63, 0x2f, 0x55, 0x54, 0x43] }, fun _ => 0, none⟩
    [⟨none, none, true, fun _ => 0⟩] := by
  intro h
  have hrate := (h.last _ rfl).uartBaudrate
  revert hrate
  decide

end RidenHttpServer

end RidenDongle
