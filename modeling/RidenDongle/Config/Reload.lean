import RidenDongle.Config.Basic

/-!
# Saving and loading the configuration

`commit` and `begin` against each other.

* What a committed image holds, field by field, and when `begin` finds the
  configuration in it again (`begin_commit_iff`).
* `survives_iff`: which configurations survive a reboot.
* `loads_iff`: which images are loaded and kept by saving and loading again.
-/

namespace RidenDongle

/-- Where the fields lie. -/
theorem layout : configVersionOffset = 3 ∧ tzNameOffset = 4 ∧ tzNameSize = 100 ∧
    configPortalOnBootOffset = 104 ∧ uartBaudrateOffset = 108 ∧
    sizeofHeader = 4 ∧ sizeofV1 = 105 ∧ sizeofV2 = 112 := by
  decide

theorem eepromGet_apply {eeprom stack : Memory} {size i : ℕ} :
    eepromGet eeprom size stack i = if i < size then eeprom i else stack i := by
  rw [eepromGet, Memory.write_apply]
  simp only [Nat.zero_le, true_and, Nat.zero_add, Memory.length_read, Nat.sub_zero]
  split_ifs with h
  · rw [Memory.getElem_read, Nat.zero_add]
  · rfl

theorem eepromPut_of_lt {eeprom config : Memory} {size i : ℕ} (h : i < size) :
    eepromPut eeprom size config i = config i := by
  rw [eepromPut, ← eepromGet, eepromGet_apply, if_pos h]

/-- A baud rate is its four bytes. -/
theorem baudAt_eq_iff {m : Memory} {a : ℕ} {b : UInt32} :
    baudAt m a = b ↔ ∀ i < 4, m (a + i) = (baudBytes b).getD i 0 := by
  have hb := b.toNat_lt
  have h₀ := (m a).toNat_lt
  have h₁ := (m (a + 1)).toNat_lt
  have h₂ := (m (a + 2)).toNat_lt
  have h₃ := (m (a + 3)).toNat_lt
  have hbytes : (∀ i < 4, m (a + i) = (baudBytes b).getD i 0) ↔
      m a = UInt8.ofNat b.toNat ∧ m (a + 1) = UInt8.ofNat (b.toNat / 2 ^ 8) ∧
        m (a + 2) = UInt8.ofNat (b.toNat / 2 ^ 16) ∧
        m (a + 3) = UInt8.ofNat (b.toNat / 2 ^ 24) := by
    constructor
    · intro h
      exact ⟨h 0 (by omega), h 1 (by omega), h 2 (by omega), h 3 (by omega)⟩
    · rintro ⟨e₀, e₁, e₂, e₃⟩ i hi
      obtain rfl | rfl | rfl | rfl : i = 0 ∨ i = 1 ∨ i = 2 ∨ i = 3 := by omega
      · exact e₀
      · exact e₁
      · exact e₂
      · exact e₃
  rw [hbytes, ← UInt32.toNat_inj]
  simp only [← UInt8.toNat_inj, UInt8.toNat_ofNat', baudAt, UInt32.toNat_ofNat']
  constructor
  · intro h
    refine ⟨?_, ?_, ?_, ?_⟩ <;> omega
  · rintro ⟨e₀, e₁, e₂, e₃⟩
    omega

@[simp] theorem length_baudBytes (b : UInt32) : (baudBytes b).length = 4 := by
  simp [baudBytes]

theorem boolByte_bne (b : Bool) : (boolByte b != 0) = b := by
  cases b <;> decide

theorem boolByte_le (b : Bool) : boolByte b ≤ 1 := by
  cases b <;> decide

/-- A byte that is a `bool` is stored as it was. -/
theorem boolByte_bne_zero {x : UInt8} (h : x ≤ 1) : boolByte (x != 0) = x := by
  have hle : x.toNat ≤ 1 := UInt8.le_iff_toNat_le.1 h
  rcases Nat.le_one_iff_eq_zero_or_eq_one.1 hle with hx | hx
  · obtain rfl : x = 0 := UInt8.toNat_inj.1 hx
    rfl
  · obtain rfl : x = 1 := UInt8.toNat_inj.1 hx
    rfl

namespace RidenConfig

variable {cfg : RidenConfig} {eeprom stack stack' stack₁ : Memory} {ramEnd : ℕ}

/-! ## The committed image -/

theorem image_magic : (cfg.image stack).read 0 3 = magic := by
  have hl := layout
  have hagree : Memory.AgreeOn (cfg.image stack) (stack.write 0 magic) 0 3 := by
    intro i _ hi
    rw [image, Memory.write_of_lt (by omega), Memory.store_of_ne (by omega),
      Memory.write_of_lt (by omega), Memory.store_of_ne (by omega)]
  rw [hagree.read_eq]
  exact Memory.read_write

theorem image_version : cfg.image stack configVersionOffset = 2 := by
  have hl := layout
  rw [image, Memory.write_of_lt (by omega), Memory.store_of_ne (by omega),
    Memory.write_of_lt (by omega), Memory.store_self]

/-- The bytes of the string that no later assignment sets. -/
theorem image_tzName {p : ℕ} (hp : p ≤ (nulString cfg.tzName).length) (hflag : p ≠ 100)
    (hbaud : p < 104 ∨ 108 ≤ p) :
    cfg.image stack (tzNameOffset + p) = (nulString cfg.tzName).getD p 0 := by
  have hl := layout
  have hout : cfg.image stack (tzNameOffset + p) =
      (((stack.write 0 magic).store configVersionOffset 2).write tzNameOffset
        (nulString cfg.tzName ++ [0])) (tzNameOffset + p) := by
    rcases hbaud with h | h
    · rw [image, Memory.write_of_lt (by omega), Memory.store_of_ne (by omega)]
    · rw [image, Memory.write_of_le (by rw [length_baudBytes]; omega),
        Memory.store_of_ne (by omega)]
  have hlen : p < (nulString cfg.tzName ++ [0]).length := by
    rw [List.length_append, List.length_singleton]
    omega
  rw [hout, Memory.write_add hlen, ← List.getD_eq_getElem _ 0 hlen, getD_append_nul]

theorem image_configPortalOnBoot :
    cfg.image stack configPortalOnBootOffset = boolByte cfg.configPortalOnBoot := by
  have hl := layout
  rw [image, Memory.write_of_lt (by omega), Memory.store_self]

theorem image_uartBaudrate {i : ℕ} (hi : i < 4) :
    cfg.image stack (uartBaudrateOffset + i) = (baudBytes cfg.uartBaudrate).getD i 0 := by
  have hlen : i < (baudBytes cfg.uartBaudrate).length := by rwa [length_baudBytes]
  rw [image, Memory.write_add hlen, List.getD_eq_getElem]

/-- The image that a successful `commit` stores. -/
theorem commit_apply {i : ℕ} (hi : i < sizeofV2) :
    (cfg.commit eeprom stack true).2 i = cfg.image stack i := by
  rw [commit, if_pos rfl]
  exact eepromPut_of_lt hi

theorem isVersion_commit : IsVersion 2 (cfg.commit eeprom stack true).2 := by
  have hl := layout
  refine ⟨?_, ?_⟩
  · have hagree : Memory.AgreeOn (cfg.commit eeprom stack true).2 (cfg.image stack) 0 3 :=
      fun i _ hi => commit_apply (by omega)
    rw [hagree.read_eq, image_magic]
  · rw [commit_apply (by omega), image_version]

/-! ## Loading -/

theorem begin_of_version2 (self : RidenConfig) {committed : Bool} (h : IsVersion 2 eeprom) :
    self.begin eeprom stack stack' committed ramEnd = self.beginV2 eeprom stack ramEnd := by
  have h₁ : ¬ IsVersion 1 eeprom := fun h' => absurd (h.2.symm.trans h'.2) (by decide)
  rw [begin, if_neg h₁, if_pos h]

/-- What `begin` takes from a version 2 image. -/
theorem beginV2_config_iff (self : RidenConfig) :
    (self.beginV2 eeprom stack ramEnd).map Begun.config = some cfg ↔
      cString (eepromGet eeprom sizeofV2 stack) tzNameOffset (ramEnd - tzNameOffset) =
        some cfg.tzName ∧
      (eeprom configPortalOnBootOffset != 0) = cfg.configPortalOnBoot ∧
      baudAt eeprom uartBaudrateOffset = cfg.uartBaudrate := by
  have hl := layout
  have hflag : eepromGet eeprom sizeofV2 stack configPortalOnBootOffset =
      eeprom configPortalOnBootOffset := by
    rw [eepromGet_apply, if_pos (by omega)]
  have hbaud : baudAt (eepromGet eeprom sizeofV2 stack) uartBaudrateOffset =
      baudAt eeprom uartBaudrateOffset := by
    rw [baudAt_eq_iff]
    intro i hi
    rw [eepromGet_apply, if_pos (by omega)]
    exact baudAt_eq_iff.1 rfl i hi
  rw [beginV2, Option.map_map, Option.map_eq_some_iff]
  simp only [Function.comp_apply, hflag, hbaud]
  cases cfg
  simp only [RidenConfig.mk.injEq]
  constructor
  · rintro ⟨name, hname, rfl, hrest⟩
    exact ⟨hname, hrest⟩
  · rintro ⟨hname, hrest⟩
    exact ⟨_, hname, rfl, hrest⟩

/-- The bytes of the name and its NUL that reach the flag, the baud rate or the
    memory behind the struct are the bytes that are there anyway. -/
def Intact (cfg : RidenConfig) (stack : Memory) (ramEnd : ℕ) : Prop :=
  (0 : UInt8) ∉ cfg.tzName ∧ cfg.tzName.length < ramEnd - tzNameOffset ∧
  ∀ p ≤ cfg.tzName.length,
    (p = 100 → cfg.tzName.getD p 0 = boolByte cfg.configPortalOnBoot) ∧
    (104 ≤ p → p < 108 → cfg.tzName.getD p 0 = (baudBytes cfg.uartBaudrate).getD (p - 104) 0) ∧
    (108 ≤ p → cfg.tzName.getD p 0 = stack (tzNameOffset + p))

/-- A name that leaves room for its NUL in the field is intact. -/
theorem intact_of_le (h₀ : (0 : UInt8) ∉ cfg.tzName) (h : cfg.tzName.length ≤ 99)
    (hram : sizeofV2 ≤ ramEnd) : cfg.Intact stack ramEnd := by
  have hl := layout
  exact ⟨h₀, by omega, fun p hp => ⟨fun _ => by omega, fun _ _ => by omega, fun _ => by omega⟩⟩

theorem nulString_of_notMem {s : List UInt8} (h : (0 : UInt8) ∉ s) : nulString s = s := by
  have := @nulString_append _ [] h
  simpa [nulString] using this

theorem configPortalOnBoot_commit :
    ((cfg.commit eeprom stack true).2 configPortalOnBootOffset != 0) = cfg.configPortalOnBoot := by
  have hl := layout
  rw [commit_apply (by omega), image_configPortalOnBoot, boolByte_bne]

theorem baudAt_commit :
    baudAt (cfg.commit eeprom stack true).2 uartBaudrateOffset = cfg.uartBaudrate := by
  have hl := layout
  rw [baudAt_eq_iff]
  intro i hi
  rw [commit_apply (by omega), image_uartBaudrate hi]

/-- A byte of the name is read back from the image as it was saved if the field it lies in
    has that byte anyway. -/
theorem eepromGet_commit_eq_iff (h₀ : (0 : UInt8) ∉ cfg.tzName) {p : ℕ}
    (hp : p ≤ cfg.tzName.length) :
    eepromGet (cfg.commit eeprom stack true).2 sizeofV2 stack₁ (tzNameOffset + p) =
        cfg.tzName.getD p 0 ↔
      (p = 100 → cfg.tzName.getD p 0 = boolByte cfg.configPortalOnBoot) ∧
      (104 ≤ p → p < 108 →
        cfg.tzName.getD p 0 = (baudBytes cfg.uartBaudrate).getD (p - 104) 0) ∧
      (108 ≤ p → cfg.tzName.getD p 0 = stack₁ (tzNameOffset + p)) := by
  have hl := layout
  rw [eepromGet_apply]
  have hname : p ≠ 100 → p < 104 ∨ 108 ≤ p →
      cfg.image stack (tzNameOffset + p) = cfg.tzName.getD p 0 := by
    intro h₁ h₂
    have := @image_tzName cfg stack p (by rwa [nulString_of_notMem h₀]) h₁ h₂
    rwa [nulString_of_notMem h₀] at this
  -- which field the byte lies in
  rcases Nat.lt_or_ge p 108 with hin | hout
  · rw [if_pos (by omega), commit_apply (by omega)]
    by_cases h₁ : p = 100
    · subst h₁
      rw [show tzNameOffset + 100 = configPortalOnBootOffset from rfl, image_configPortalOnBoot]
      constructor
      · intro h
        exact ⟨fun _ => h.symm, fun _ => by omega, fun _ => by omega⟩
      · intro h
        exact (h.1 rfl).symm
    · rcases Nat.lt_or_ge p 104 with h₂ | h₂
      · exact iff_of_true (hname h₁ (Or.inl h₂))
          ⟨fun h => absurd h h₁, fun _ => by omega, fun _ => by omega⟩
      · obtain ⟨i, rfl⟩ := Nat.exists_eq_add_of_le h₂
        rw [show tzNameOffset + (104 + i) = uartBaudrateOffset + i by omega,
          image_uartBaudrate (by omega), Nat.add_sub_cancel_left]
        constructor
        · intro h
          exact ⟨fun _ => by omega, fun _ _ => h.symm, fun _ => by omega⟩
        · intro h
          exact (h.2.1 h₂ hin).symm
  · rw [if_neg (by omega)]
    constructor
    · intro h
      exact ⟨fun _ => by omega, fun _ => by omega, fun _ => h.symm⟩
    · intro h
      exact (h.2.2 hout).symm

/-- The configuration is found again in the image that it was saved to exactly
    when it is intact. -/
theorem begin_commit_iff (self : RidenConfig) {committed : Bool} :
    (self.begin (cfg.commit eeprom stack true).2 stack₁ stack' committed ramEnd).map Begun.config
        = some cfg ↔ cfg.Intact stack₁ ramEnd := by
  rw [begin_of_version2 self isVersion_commit, beginV2_config_iff, cString_eq_some_iff,
    and_iff_left ⟨configPortalOnBoot_commit, baudAt_commit⟩, Intact]
  exact and_congr_right fun h₀ => and_congr_right fun _ =>
    forall₂_congr fun _ hp => eepromGet_commit_eq_iff h₀ hp

/-! ## Surviving a reboot -/

/-- If `commit` succeeds, `begin` after a reboot restores the configuration; if
    not, the image is as it was. -/
def Survives (cfg : RidenConfig) (eeprom stack stack₁ stack' : Memory) (ramEnd : ℕ) : Prop :=
  ((cfg.commit eeprom stack true).1 = true →
    (({} : RidenConfig).begin (cfg.commit eeprom stack true).2 stack₁ stack' true ramEnd).map
      Begun.config = some cfg) ∧
  ((cfg.commit eeprom stack true).1 = false → (cfg.commit eeprom stack true).2 = eeprom)

/-- **Surviving a reboot.** A configuration that was set in any way survives
    saving, rebooting and loading exactly when it is intact. -/
theorem survives_iff (self : RidenConfig) (name : List UInt8) (baudrate : UInt32)
    (portal : Bool) (eeprom stack stack₁ stack' : Memory) (ramEnd : ℕ) :
    let named := (self.setTimezoneName name).setUartBaudrate baudrate
    let cfg := if portal then named.setConfigPortalOnBoot else named
    cfg.Survives eeprom stack stack₁ stack' ramEnd ↔ cfg.Intact stack₁ ramEnd := by
  intro named cfg
  have hres : (cfg.commit eeprom stack true).1 = true := rfl
  rw [Survives, ← @begin_commit_iff cfg eeprom stack stack' stack₁ ramEnd {} true]
  constructor
  · intro h
    exact h.1 hres
  · intro h
    exact ⟨fun _ => h, fun hfalse => absurd (hres.symm.trans hfalse) (by decide)⟩

/-- With the portal asked for, a name of 100 bytes loses its end. -/
theorem not_survives_portal :
    ¬ (({} : RidenConfig).setTimezoneName (List.replicate 100 97)).setConfigPortalOnBoot.Survives
      (fun _ => 0) (fun _ => 0) (fun _ => 0) (fun _ => 0) 4096 := by
  intro h
  have := (begin_commit_iff _).1 (h.1 rfl)
  exact absurd ((this.2.2 100 (by decide)).1 rfl) (by decide)

/-! ## Loading any image -/

/-- `IsVersion 1` or `IsVersion 2`, or neither: the size of the struct found. -/
def structSize (eeprom : Memory) : ℕ :=
  if IsVersion 1 eeprom then sizeofV1 else if IsVersion 2 eeprom then sizeofV2 else sizeofHeader

/-- The configuration in a version 1 image. -/
def ofVersion1 (eeprom : Memory) : RidenConfig where
  tzName := nulString (eeprom.read tzNameOffset tzNameSize)
  configPortalOnBoot := eeprom configPortalOnBootOffset != 0

/-- A version 2 image whose name ends in its field. -/
def Valid (eeprom : Memory) : Prop :=
  IsVersion 2 eeprom ∧ ∃ i < tzNameSize, eeprom (tzNameOffset + i) = 0

/-- What loading has to do on an image: `begin` reads only bytes of the struct
    found, takes over a version 1 image, replaces an unknown one by the defaults,
    and loads the same again after it was saved. -/
structure Loads (eeprom stack stack' stack₁ stack₂ stack₃ : Memory) (ramEnd : ℕ) (b : Begun) :
    Prop where
  begun : ({} : RidenConfig).begin eeprom stack stack' true ramEnd = some b
  success : b.success = true
  reads : ∀ r ∈ b.reads, r.1 + r.2 ≤ structSize eeprom
  version1 : IsVersion 1 eeprom → b.config = ofVersion1 eeprom
  unknown : ¬ IsVersion 1 eeprom → ¬ IsVersion 2 eeprom → b.config = {} ∧ Valid b.eeprom
  saved : IsVersion 2 (b.config.commit b.eeprom stack₁ true).2
  again : (({} : RidenConfig).begin (b.config.commit b.eeprom stack₁ true).2 stack₂ stack₃ true
    ramEnd).map Begun.config = some b.config

/-- The name of a known version ends inside the struct; where it goes over the
    flag of a version 2 image, that is `0` or `1`. -/
def Loadable (eeprom : Memory) : Prop :=
  (IsVersion 1 eeprom → ∃ i < 101, eeprom (tzNameOffset + i) = 0) ∧
  (IsVersion 2 eeprom → (∃ i < 108, eeprom (tzNameOffset + i) = 0) ∧
    ((∀ i < tzNameSize, eeprom (tzNameOffset + i) ≠ 0) → eeprom configPortalOnBootOffset ≤ 1))

/-- With a NUL in reach, the string is found before it. -/
theorem exists_cString {m : Memory} {a n limit : ℕ} (hn : n ≤ limit)
    (h : ∃ i < n, m (a + i) = 0) : ∃ s, cString m a limit = some s ∧ s.length < n := by
  have hlen : (nulString (m.read a limit)).length < n := by
    rw [length_nulString_lt (by rwa [Memory.length_read])]
    obtain ⟨i, hi, h₀⟩ := h
    refine ⟨i, hi, ?_⟩
    rw [List.getElem?_eq_getElem (by rw [Memory.length_read]; omega), Memory.getElem_read, h₀]
  exact ⟨_, if_pos (by omega), hlen⟩

/-- The string of a struct that `EEPROM.get` filled in ends inside it exactly if
    the image has a NUL there. -/
theorem exists_nul_of_cString {size n limit : ℕ} {s : List UInt8} (hn : tzNameOffset + n ≤ size)
    (h : cString (eepromGet eeprom size stack) tzNameOffset limit = some s) (hs : s.length < n) :
    ∃ i < n, eeprom (tzNameOffset + i) = 0 := by
  refine ⟨s.length, hs, ?_⟩
  have := (cString_eq_some_iff.1 h).2.2 s.length le_rfl
  rwa [eepromGet_apply, if_pos (by omega), List.getD_eq_default _ _ le_rfl] at this

/-- A string inside the struct has the bytes of the image. -/
theorem cString_getD {size limit p : ℕ} {s : List UInt8}
    (h : cString (eepromGet eeprom size stack) tzNameOffset limit = some s) (hp : p ≤ s.length)
    (hsize : tzNameOffset + p < size) : s.getD p 0 = eeprom (tzNameOffset + p) := by
  rw [← (cString_eq_some_iff.1 h).2.2 p hp, eepromGet_apply, if_pos hsize]

/-- No byte of the string is a NUL in the image. -/
theorem ne_zero_of_cString {size limit p : ℕ} {s : List UInt8}
    (h : cString (eepromGet eeprom size stack) tzNameOffset limit = some s) (hp : p < s.length)
    (hsize : tzNameOffset + p < size) : eeprom (tzNameOffset + p) ≠ 0 := by
  intro h₀
  have hbyte := cString_getD h hp.le hsize
  rw [h₀, List.getD_eq_getElem _ _ hp] at hbyte
  exact (cString_eq_some_iff.1 h).1 (hbyte ▸ List.getElem_mem hp)

/-- With a NUL in the struct, the string ends before it. -/
theorem exists_cString_image {size n limit : ℕ} (hn : tzNameOffset + n ≤ size) (hlimit : n ≤ limit)
    (h : ∃ i < n, eeprom (tzNameOffset + i) = 0) :
    ∃ s, cString (eepromGet eeprom size stack) tzNameOffset limit = some s ∧ s.length < n := by
  obtain ⟨i, hi, h₀⟩ := h
  exact exists_cString hlimit ⟨i, hi, by rw [eepromGet_apply, if_pos (by omega), h₀]⟩

/-- A string of at most 100 bytes is the one in the field. -/
theorem cString_eq_field {size limit : ℕ} {s : List UInt8} (hsize : sizeofV1 ≤ size)
    (hlimit : tzNameSize ≤ limit)
    (h : cString (eepromGet eeprom size stack) tzNameOffset limit = some s)
    (hs : s.length ≤ tzNameSize) : s = nulString (eeprom.read tzNameOffset tzNameSize) := by
  have hl := layout
  have hfound : s = nulString ((eepromGet eeprom size stack).read tzNameOffset limit) := by
    rw [cString] at h
    split_ifs at h
    exact (Option.some.inj h).symm
  have hfield : ((eepromGet eeprom size stack).read tzNameOffset limit).take tzNameSize =
      eeprom.read tzNameOffset tzNameSize := by
    obtain ⟨k, rfl⟩ := Nat.exists_eq_add_of_le hlimit
    rw [Memory.read_add, List.take_left' Memory.length_read]
    refine Memory.AgreeOn.read_eq fun i _ hi => ?_
    rw [eepromGet_apply, if_pos (by omega)]
  calc s = s.take tzNameSize := (List.take_of_length_le hs).symm
    _ = nulString (((eepromGet eeprom size stack).read tzNameOffset limit).take tzNameSize) := by
        rw [nulString, ← List.take_takeWhile, ← nulString, ← hfound]
    _ = nulString (eeprom.read tzNameOffset tzNameSize) := by rw [hfield]

/-- What `begin` takes from a version 1 image. -/
theorem begin_of_version1 (self : RidenConfig) {committed : Bool} (h : IsVersion 1 eeprom) :
    self.begin eeprom stack stack' committed ramEnd = self.beginV1 eeprom stack ramEnd := by
  rw [begin, if_pos h]

theorem begin_of_unknown (self : RidenConfig) (h₁ : ¬ IsVersion 1 eeprom)
    (h₂ : ¬ IsVersion 2 eeprom) {committed : Bool} :
    self.begin eeprom stack stack' committed ramEnd =
      some ⟨self, (self.commit eeprom stack' committed).2, committed, [(0, sizeofHeader)]⟩ := by
  rw [begin, if_neg h₁, if_neg h₂]
  rfl

theorem intact_default (hram : sizeofV2 ≤ ramEnd) : ({} : RidenConfig).Intact stack ramEnd :=
  intact_of_le (by decide) (by decide) hram

/-- A committed image is valid if the name leaves room for its NUL. -/
theorem valid_commit (h : (nulString cfg.tzName).length < tzNameSize) :
    Valid (cfg.commit eeprom stack true).2 := by
  have hl := layout
  refine ⟨isVersion_commit, (nulString cfg.tzName).length, h, ?_⟩
  rw [commit_apply (by omega), image_tzName le_rfl (by omega) (by omega),
    List.getD_eq_default _ _ le_rfl]

/-- A configuration loaded from a name inside the struct is intact. -/
theorem intact_of_image {s : List UInt8} {size limit : ℕ} {flag : Bool} {baud : UInt32}
    (h : cString (eepromGet eeprom size stack) tzNameOffset limit = some s)
    (hsize : size ≤ sizeofV2) (hs : tzNameOffset + s.length < size)
    (hlimit : sizeofV2 ≤ ramEnd)
    (hflag : s.length ≥ 100 → eeprom configPortalOnBootOffset = boolByte flag)
    (hbaud : ∀ i < 4, 104 + i ≤ s.length →
      eeprom (uartBaudrateOffset + i) = (baudBytes baud).getD i 0) :
    Intact ⟨s, flag, baud⟩ stack₁ ramEnd := by
  have hl := layout
  refine ⟨(cString_eq_some_iff.1 h).1, by simp only; omega, fun p hp => ?_⟩
  simp only at hp
  have hbyte := cString_getD h hp (by omega)
  refine ⟨?_, ?_, fun _ => by omega⟩
  · rintro rfl
    simp only
    rw [hbyte, show tzNameOffset + 100 = configPortalOnBootOffset from rfl, hflag hp]
  · intro h₁ h₂
    obtain ⟨i, rfl⟩ := Nat.exists_eq_add_of_le h₁
    simp only
    rw [hbyte, show tzNameOffset + (104 + i) = uartBaudrateOffset + i by omega,
      hbaud i (by omega) hp, Nat.add_sub_cancel_left]

/-- An unknown image is replaced. -/
theorem exists_loads_of_unknown (h₁ : ¬ IsVersion 1 eeprom) (h₂ : ¬ IsVersion 2 eeprom)
    (hram : sizeofV2 ≤ ramEnd) :
    ∃ b, Loads eeprom stack stack' stack₁ stack₂ stack₃ ramEnd b := by
  refine ⟨_, begin_of_unknown _ h₁ h₂, rfl, ?_, fun h => absurd h h₁,
    fun _ _ => ⟨rfl, valid_commit (by decide)⟩, isVersion_commit,
    (begin_commit_iff _).2 (intact_default hram)⟩
  rw [structSize, if_neg h₁, if_neg h₂]
  simp

/-- The size of the struct found, version by version. -/
theorem structSize_of_version1 (h : IsVersion 1 eeprom) : structSize eeprom = sizeofV1 := if_pos h

theorem not_isVersion_one (h : IsVersion 2 eeprom) : ¬ IsVersion 1 eeprom :=
  fun h' => absurd (h.2.symm.trans h'.2) (by decide)

theorem structSize_of_version2 (h : IsVersion 2 eeprom) : structSize eeprom = sizeofV2 := by
  rw [structSize, if_neg (not_isVersion_one h), if_pos h]

theorem exists_loads_of_version1 (h₁ : IsVersion 1 eeprom) (hram : sizeofV2 ≤ ramEnd) :
    (∃ b, Loads eeprom stack stack' stack₁ stack₂ stack₃ ramEnd b) ↔
      ∃ i < 101, eeprom (tzNameOffset + i) = 0 := by
  have hl := layout
  have hflag : eepromGet eeprom sizeofV1 stack configPortalOnBootOffset =
      eeprom configPortalOnBootOffset := by
    rw [eepromGet_apply, if_pos (by omega)]
  constructor
  · rintro ⟨b, hb⟩
    have hbegun := hb.begun
    rw [begin_of_version1 _ h₁, beginV1, Option.map_eq_some_iff] at hbegun
    obtain ⟨s, hs, rfl⟩ := hbegun
    have hreads := hb.reads (tzNameOffset, s.length + 1) (by simp)
    rw [structSize_of_version1 h₁] at hreads
    simp only at hreads
    exact exists_nul_of_cString (by omega) hs (by omega)
  · intro hnul
    obtain ⟨s, hs, hlen⟩ := @exists_cString_image eeprom stack sizeofV1 101
      (ramEnd - tzNameOffset) (by omega) (by omega) hnul
    have hfield := cString_eq_field le_rfl (by omega) hs (by omega)
    have hbegun : ({} : RidenConfig).begin eeprom stack stack' true ramEnd =
        some ⟨⟨s, eeprom configPortalOnBootOffset != 0, defaultUartBaudrate⟩, eeprom, true,
          [(0, sizeofHeader), (tzNameOffset, s.length + 1), (configPortalOnBootOffset, 1)]⟩ := by
      rw [begin_of_version1 _ h₁, beginV1, hs, hflag]
      rfl
    refine ⟨_, hbegun, rfl, ?_, fun _ => ?_, fun h => absurd h₁ h, isVersion_commit, ?_⟩
    · rw [structSize_of_version1 h₁]
      simp only [List.mem_cons, List.not_mem_nil, or_false]
      rintro r (rfl | rfl | rfl) <;> simp only <;> omega
    · rw [hfield]
      rfl
    · refine (begin_commit_iff _).2 (intact_of_image hs (by omega) (by omega) hram ?_ ?_)
      · -- the flag follows a name that fills its field, and must be its terminator
        intro hlong
        have hzero := (cString_eq_some_iff.1 hs).2.2 100 hlong
        rw [eepromGet_apply, if_pos (by omega), List.getD_eq_default _ _ (by omega)] at hzero
        rw [show configPortalOnBootOffset = tzNameOffset + 100 from rfl, hzero]
        rfl
      · intro j _ hj
        omega

/-- What a version 2 image is that can be loaded: its name ends before the struct does,
    and where it fills the field, the flag is 0 or 1. -/
theorem Loads.of_version2 (h₂ : IsVersion 2 eeprom) {b : Begun}
    (hb : Loads eeprom stack stack' stack₁ stack₂ stack₃ ramEnd b) :
    (∃ i < 108, eeprom (tzNameOffset + i) = 0) ∧
      ((∀ i < tzNameSize, eeprom (tzNameOffset + i) ≠ 0) →
        eeprom configPortalOnBootOffset ≤ 1) := by
  have hl := layout
  have hbegun := hb.begun
  rw [begin_of_version2 _ h₂, beginV2, Option.map_eq_some_iff] at hbegun
  obtain ⟨s, hs, rfl⟩ := hbegun
  have hreads := hb.reads (tzNameOffset, s.length + 1) (by simp)
  rw [structSize_of_version2 h₂] at hreads
  simp only at hreads
  refine ⟨exists_nul_of_cString (by omega) hs (by omega), fun hfull => ?_⟩
  -- a full field: the flag is read as the 101st byte of the name
  have hlong : 100 ≤ s.length := by
    by_contra hshort
    obtain ⟨i, hi, h₀⟩ := exists_nul_of_cString (n := 100) (by omega) hs (by omega)
    exact hfull i (by omega) h₀
  have hintact := (begin_commit_iff _).1 hb.again
  have hbyte := (hintact.2.2 100 hlong).1 rfl
  simp only at hbyte
  rw [cString_getD hs hlong (by omega)] at hbyte
  rw [show configPortalOnBootOffset = tzNameOffset + 100 from rfl, hbyte]
  exact boolByte_le _

theorem exists_loads_of_version2 (h₂ : IsVersion 2 eeprom) (hram : sizeofV2 ≤ ramEnd) :
    (∃ b, Loads eeprom stack stack' stack₁ stack₂ stack₃ ramEnd b) ↔
      (∃ i < 108, eeprom (tzNameOffset + i) = 0) ∧
        ((∀ i < tzNameSize, eeprom (tzNameOffset + i) ≠ 0) →
          eeprom configPortalOnBootOffset ≤ 1) := by
  have hl := layout
  have hflag : eepromGet eeprom sizeofV2 stack configPortalOnBootOffset =
      eeprom configPortalOnBootOffset := by
    rw [eepromGet_apply, if_pos (by omega)]
  constructor
  · rintro ⟨b, hb⟩
    exact hb.of_version2 h₂
  · rintro ⟨hnul, hfull⟩
    obtain ⟨s, hs, hlen⟩ := @exists_cString_image eeprom stack sizeofV2 108
      (ramEnd - tzNameOffset) (by omega) (by omega) hnul
    have hbaud : ∀ j < 4, eeprom (uartBaudrateOffset + j) =
        (baudBytes (baudAt (eepromGet eeprom sizeofV2 stack) uartBaudrateOffset)).getD j 0 := by
      intro j hj
      rw [← baudAt_eq_iff.1 rfl j hj, eepromGet_apply, if_pos (by omega)]
    have hbegun : ({} : RidenConfig).begin eeprom stack stack' true ramEnd =
        some ⟨⟨s, eeprom configPortalOnBootOffset != 0,
            baudAt (eepromGet eeprom sizeofV2 stack) uartBaudrateOffset⟩, eeprom, true,
          [(0, sizeofHeader), (tzNameOffset, s.length + 1), (configPortalOnBootOffset, 1),
            (uartBaudrateOffset, 4)]⟩ := by
      rw [begin_of_version2 _ h₂, beginV2, hs, hflag]
      rfl
    refine ⟨_, hbegun, rfl, ?_, fun h => absurd h (not_isVersion_one h₂),
      fun _ h => absurd h₂ h, isVersion_commit, ?_⟩
    · rw [structSize_of_version2 h₂]
      simp only [List.mem_cons, List.not_mem_nil, or_false]
      rintro r (rfl | rfl | rfl | rfl) <;> simp only <;> omega
    · refine (begin_commit_iff _).2 (intact_of_image hs le_rfl (by omega) hram ?_ ?_)
      · -- where the name fills its field, the flag is a byte of it, and 0 or 1
        intro hlong
        have hle : eeprom configPortalOnBootOffset ≤ 1 := hfull fun j hj =>
          ne_zero_of_cString hs (Nat.lt_of_lt_of_le hj hlong) (by omega)
        exact (boolByte_bne_zero hle).symm
      · intro j hj _
        exact hbaud j hj

/-- **Loading any image.** Every image that is loadable is loaded within its
    struct and kept by saving and loading again, and no other. `more` bytes of
    the stack lie behind a struct. -/
theorem loads_iff (eeprom stack stack' stack₁ stack₂ stack₃ : Memory) (more : ℕ) :
    (∃ b, Loads eeprom stack stack' stack₁ stack₂ stack₃ (sizeofV2 + more) b) ↔
      Loadable eeprom := by
  have hram : sizeofV2 ≤ sizeofV2 + more := Nat.le_add_right ..
  by_cases h₁ : IsVersion 1 eeprom
  · have h₂ : ¬ IsVersion 2 eeprom := fun h => not_isVersion_one h h₁
    rw [exists_loads_of_version1 h₁ hram, Loadable]
    exact ⟨fun h => ⟨fun _ => h, fun h' => absurd h' h₂⟩, fun h => h.1 h₁⟩
  · by_cases h₂ : IsVersion 2 eeprom
    · rw [exists_loads_of_version2 h₂ hram, Loadable]
      exact ⟨fun h => ⟨fun h' => absurd h' h₁, fun _ => h⟩, fun h => h.2 h₂⟩
    · exact iff_of_true (exists_loads_of_unknown h₁ h₂ hram)
        ⟨fun h => absurd h h₁, fun h => absurd h h₂⟩

/-- A version 1 image filled with `a`: the name is read on past the end of the struct. -/
theorem not_loads_unterminated :
    ¬ ∃ b, Loads (Memory.write (fun _ => 97) 0 [0x52, 0x44, 0, 1]) (fun _ => 0) (fun _ => 0)
      (fun _ => 0) (fun _ => 0) (fun _ => 0) 4096 b := by
  rw [exists_loads_of_version1 (by decide) (by decide)]
  rintro ⟨i, _, h⟩
  rw [Memory.write_of_le (by simp only [List.length_cons, List.length_nil, tzNameOffset]; omega)] at h
  exact absurd h (by decide)

end RidenConfig

end RidenDongle
