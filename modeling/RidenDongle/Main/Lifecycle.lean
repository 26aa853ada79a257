import RidenDongle.Http.Config

/-!
# The life of the configuration

What becomes of the configuration while the dongle is restarted, connects to the WiFi, and
is configured and rebooted over the web (`setup` and `connect_wifi` in `main.cpp`,
`get_and_reset_config_portal_on_boot` in `riden_config.cpp`, `handle_config_post` and
`handle_reboot_dongle_get` in `riden_http_server.cpp`). Any commit of the EEPROM can fail.

* `Device`: the configuration in memory, and the image in the EEPROM.
* `Settings`: the same without bytes, what is stored and what is in use.
* `follows_settings`: along every run the device follows the settings.
* `portals_le`: the configuration portal is opened no more often than it was asked for, or
  than its request could not be withdrawn.
* `settings_in_use`: without failing commits, what was posted last is in use, over all
  restarts, and the portal is opened exactly where it was asked for.

In all of them the names of timezones that are posted fit into their field (`Settings.Ok`).
-/

namespace RidenDongle

open RidenHttpServer

/-- `get_and_reset_config_portal_on_boot`: the result, with what it leaves behind. -/
def RidenConfig.getAndResetConfigPortalOnBoot (self : RidenConfig) (eeprom stack : Memory)
    (committed : Bool) : Bool × RidenConfig × Memory :=
  if self.configPortalOnBoot then
    let self := { self with configPortalOnBoot := false }
    (true, self, (self.commit eeprom stack committed).2)
  else (false, self, eeprom)

/-- The text `true`, as the argument `config_portal` has it. -/
def trueText : List UInt8 := [0x74, 0x72, 0x75, 0x65]

/-- The memories on which `begin` puts its struct and that of a `commit`, and what the
    `EEPROM.commit` in it returns. -/
structure Restart where
  stack : Memory
  stack' : Memory
  committed : Bool

/-- The device: the configuration, and the image in the EEPROM. -/
structure Device where
  config : RidenConfig
  eeprom : Memory
  /-- for each call of `connect_wifi` whether it started the portal, the latest last -/
  portals : List Bool

namespace Device

variable (ramEnd : ℕ) (d : Device)

/-- What happens to the configuration. -/
inductive Input
  | restart (r : Restart)
  | connectWifi (stack : Memory) (committed : Bool)
  | configPost (post : ConfigPost)
  | rebootDongle (configPortal : List UInt8) (stack : Memory) (committed : Bool) (r : Restart)

/-- `riden_config.begin`, of a configuration that nothing was set in yet. -/
def restart (r : Restart) : Option Device :=
  (({} : RidenConfig).begin d.eeprom r.stack r.stack' r.committed ramEnd).map fun b =>
    { d with config := b.config, eeprom := b.eeprom }

/-- What `connect_wifi` does about the portal. -/
def connectWifi (stack : Memory) (committed : Bool) : Device :=
  let out := d.config.getAndResetConfigPortalOnBoot d.eeprom stack committed
  { config := out.2.1, eeprom := out.2.2, portals := d.portals ++ [out.1] }

/-- `handle_config_post`. -/
def configPost (post : ConfigPost) : Device :=
  let page := handleConfigPost ⟨d.config, d.eeprom, none⟩ post
  { d with config := page.config, eeprom := page.eeprom }

/-- `handle_reboot_dongle_get`, up to the reset. -/
def askForPortal (configPortal : List UInt8) (stack : Memory) (committed : Bool) : Device :=
  if configPortal = trueText then
    let config := d.config.setConfigPortalOnBoot
    { d with config := config, eeprom := (config.commit d.eeprom stack committed).2 }
  else d

def next : Input → Option Device
  | .restart r => d.restart ramEnd r
  | .connectWifi stack committed => some (d.connectWifi stack committed)
  | .configPost post => some (d.configPost post)
  | .rebootDongle configPortal stack committed r =>
    (d.askForPortal configPortal stack committed).restart ramEnd r

/-- A device that did not get past `begin` stays there. -/
def step (d : Option Device) (i : Input) : Option Device := d.bind (·.next ramEnd i)

end Device

/-! ## The settings -/

/-- The configuration without bytes. -/
structure Settings where
  /-- what is stored, unless the image is unknown -/
  flash : Option RidenConfig
  /-- what is in use -/
  ram : RidenConfig
  portals : List Bool

namespace Settings

variable (a : Settings)

/-- The configuration in use is stored, unless this fails. -/
def commit (committed : Bool) : Settings :=
  if committed then { a with flash := some a.ram } else a

/-- What is stored is in use; if it is unknown, the defaults are, and stored. -/
def restart (committed : Bool) : Settings :=
  match a.flash with
  | some config => { a with ram := config }
  | none => { a with ram := {} }.commit committed

def connectWifi (committed : Bool) : Settings :=
  if a.ram.configPortalOnBoot then
    { a with
      ram := { a.ram with configPortalOnBoot := false }
      portals := a.portals ++ [true] }.commit committed
  else { a with portals := a.portals ++ [false] }

/-- What a POST asks for. -/
def posted (config : RidenConfig) (post : ConfigPost) : RidenConfig :=
  { config with
    tzName := arg post.timezone
    uartBaudrate := UInt32.ofNat (strtoull (arg post.uartBaudrate)) }

def configPost (post : ConfigPost) : Settings :=
  { a with ram := posted a.ram post }.commit post.committed

def askForPortal (configPortal : List UInt8) (committed : Bool) : Settings :=
  if configPortal = trueText then
    { a with ram := { a.ram with configPortalOnBoot := true } }.commit committed
  else a

def step : Device.Input → Settings
  | .restart r => a.restart r.committed
  | .connectWifi _ committed => a.connectWifi committed
  | .configPost post => a.configPost post
  | .rebootDongle configPortal _ committed r =>
    (a.askForPortal configPortal committed).restart r.committed

/-- The name of a timezone that is posted fits into its field. -/
def Ok (_ : Settings) : Device.Input → Prop
  | .configPost post => (0 : UInt8) ∉ arg post.timezone ∧ (arg post.timezone).length < tzNameSize
  | _ => True

end Settings

/-! ## The device follows the settings -/

/-- The name of the timezone fits into its field. -/
def RidenConfig.Fits (config : RidenConfig) : Prop :=
  (0 : UInt8) ∉ config.tzName ∧ config.tzName.length < tzNameSize

/-- The image has this configuration, however it is loaded, or is unknown. -/
def IsStored (ramEnd : ℕ) (eeprom : Memory) : Option RidenConfig → Prop
  | none => ¬RidenConfig.IsVersion 1 eeprom ∧ ¬RidenConfig.IsVersion 2 eeprom
  | some config => ∀ stack stack' committed, ∃ b,
      ({} : RidenConfig).begin eeprom stack stack' committed ramEnd = some b ∧
        b.config = config ∧ b.eeprom = eeprom

theorem isStored_of_version2 {ramEnd : ℕ} {eeprom : Memory} {config : RidenConfig}
    (hversion : RidenConfig.IsVersion 2 eeprom)
    (h : ∀ stack stack' committed, (({} : RidenConfig).begin eeprom stack stack' committed
      ramEnd).map RidenConfig.Begun.config = some config) : IsStored ramEnd eeprom (some config) := by
  intro stack stack' committed
  obtain ⟨b, hb, hconfig⟩ := Option.map_eq_some_iff.1 (h stack stack' committed)
  refine ⟨b, hb, hconfig, ?_⟩
  rw [RidenConfig.begin_of_version2 _ hversion, RidenConfig.beginV2, Option.map_eq_some_iff] at hb
  obtain ⟨s, -, rfl⟩ := hb
  rfl

namespace Device

variable {ramEnd : ℕ} {d : Device} {a : Settings}

/-- The device has the settings. -/
structure Follows (ramEnd : ℕ) (d : Device) (a : Settings) : Prop where
  config : d.config = a.ram
  eeprom : IsStored ramEnd d.eeprom a.flash
  portals : d.portals = a.portals
  fits : a.ram.Fits
  stored : ∀ config ∈ a.flash, config.Fits

/-- Another configuration is in use, and stored, unless this fails. -/
theorem Follows.commit (hf : d.Follows ramEnd a) (hram : sizeofV2 ≤ ramEnd) {config : RidenConfig}
    (hconfig : config.Fits) (portals : List Bool) (stack : Memory) (committed : Bool) :
    Follows ramEnd ⟨config, (config.commit d.eeprom stack committed).2, portals⟩
      (Settings.commit ⟨a.flash, config, portals⟩ committed) := by
  cases committed with
  | false => exact ⟨rfl, hf.eeprom, rfl, hconfig, hf.stored⟩
  | true =>
    refine ⟨rfl, ?_, rfl, hconfig, ?_⟩
    · refine isStored_of_version2 RidenConfig.isVersion_commit fun stack₁ stack' committed => ?_
      exact (RidenConfig.begin_commit_iff _).2
        (RidenConfig.intact_of_le hconfig.1 (Nat.le_of_lt_succ hconfig.2) hram)
    · rintro c ⟨⟩
      exact hconfig

theorem Follows.restart (hf : d.Follows ramEnd a) (hram : sizeofV2 ≤ ramEnd) (r : Restart) :
    ∃ d', d.restart ramEnd r = some d' ∧ d'.Follows ramEnd (a.restart r.committed) := by
  have hstored := hf.eeprom
  rw [Settings.restart]
  cases hflash : a.flash with
  | some config =>
    rw [hflash] at hstored
    obtain ⟨b, hb, hconfig, heeprom⟩ := hstored r.stack r.stack' r.committed
    have hfits : config.Fits := hf.stored config hflash
    refine ⟨⟨b.config, b.eeprom, d.portals⟩, by rw [Device.restart, hb]; rfl, hconfig, ?_,
      hf.portals, hfits, ?_⟩
    · dsimp only
      rw [heeprom]
      exact hstored
    · rintro c ⟨⟩
      exact hfits
  | none =>
    rw [hflash] at hstored
    have hfits : ({} : RidenConfig).Fits := ⟨List.not_mem_nil, by decide⟩
    have hf' := hf.commit hram hfits d.portals r.stack' r.committed
    rw [hflash, hf.portals] at hf'
    refine ⟨_, ?_, hf'⟩
    rw [Device.restart, RidenConfig.begin_of_unknown _ hstored.1 hstored.2, hf.portals]
    rfl

theorem Follows.connectWifi (hf : d.Follows ramEnd a) (hram : sizeofV2 ≤ ramEnd) (stack : Memory)
    (committed : Bool) : (d.connectWifi stack committed).Follows ramEnd (a.connectWifi committed) := by
  rw [Device.connectWifi, RidenConfig.getAndResetConfigPortalOnBoot, Settings.connectWifi,
    hf.config, hf.portals]
  cases a.ram.configPortalOnBoot with
  | false => exact ⟨rfl, hf.eeprom, rfl, hf.fits, hf.stored⟩
  | true =>
    have hfits : ({ a.ram with configPortalOnBoot := false } : RidenConfig).Fits := hf.fits
    exact hf.commit hram hfits (a.portals ++ [true]) stack committed

theorem Follows.configPost (hf : d.Follows ramEnd a) (hram : sizeofV2 ≤ ramEnd) {post : ConfigPost}
    (hok : a.Ok (.configPost post)) : (d.configPost post).Follows ramEnd (a.configPost post) := by
  have hfits : (Settings.posted a.ram post).Fits := hok
  have hf' := hf.commit hram hfits a.portals post.stack post.committed
  rw [Device.configPost, handleConfigPost, hf.config, hf.portals]
  exact hf'

theorem Follows.askForPortal (hf : d.Follows ramEnd a) (hram : sizeofV2 ≤ ramEnd)
    (configPortal : List UInt8) (stack : Memory) (committed : Bool) :
    (d.askForPortal configPortal stack committed).Follows ramEnd
      (a.askForPortal configPortal committed) := by
  rw [Device.askForPortal, Settings.askForPortal]
  split_ifs
  · have hfits : a.ram.setConfigPortalOnBoot.Fits := hf.fits
    have hf' := hf.commit hram hfits a.portals stack committed
    rw [hf.config, hf.portals]
    exact hf'
  · exact hf

theorem Follows.next (hf : d.Follows ramEnd a) (hram : sizeofV2 ≤ ramEnd) {i : Input}
    (hok : a.Ok i) : ∃ d', d.next ramEnd i = some d' ∧ d'.Follows ramEnd (a.step i) := by
  cases i with
  | restart r => exact hf.restart hram r
  | connectWifi stack committed => exact ⟨_, rfl, hf.connectWifi hram stack committed⟩
  | configPost post => exact ⟨_, rfl, hf.configPost hram hok⟩
  | rebootDongle configPortal stack committed r =>
    exact (hf.askForPortal hram configPortal stack committed).restart hram r

/-- A run of the device follows one of the settings. -/
theorem Follows.run (hf : d.Follows ramEnd a) (hram : sizeofV2 ≤ ramEnd) {is : List Input}
    (his : Machine.Guarded Settings.step Settings.Ok a is) :
    ∃ d', Machine.run (step ramEnd) (some d) is = some d' ∧
      d'.Follows ramEnd (Machine.run Settings.step a is) := by
  have hrun : ∃ d', Machine.run (step ramEnd) (some d) (is.map id) = some d' ∧
      d'.Follows ramEnd (Machine.run Settings.step a is) :=
    Machine.related_of_guarded (R := fun d a => ∃ d', d = some d' ∧ d'.Follows ramEnd a) id his
      ⟨d, rfl, hf⟩ fun d a i hd hok => by
        obtain ⟨d', rfl, hf'⟩ := hd
        exact hf'.next hram hok
  rwa [List.map_id] at hrun

/-- In an image of a known version, the name of the timezone ends in its field. -/
def Terminated (eeprom : Memory) : Prop :=
  RidenConfig.IsVersion 1 eeprom ∨ RidenConfig.IsVersion 2 eeprom →
    ∃ i < tzNameSize, eeprom (tzNameOffset + i) = 0

/-- What is stored in an image. -/
def found (eeprom : Memory) : Option RidenConfig :=
  if RidenConfig.IsVersion 1 eeprom then some (RidenConfig.ofVersion1 eeprom)
  else if RidenConfig.IsVersion 2 eeprom then
    some { RidenConfig.ofVersion1 eeprom with uartBaudrate := baudAt eeprom uartBaudrateOffset }
  else none

theorem fits_ofVersion1 {eeprom : Memory} (h : ∃ i < tzNameSize, eeprom (tzNameOffset + i) = 0)
    (baudrate : UInt32) :
    ({ RidenConfig.ofVersion1 eeprom with uartBaudrate := baudrate } : RidenConfig).Fits := by
  have hlen : (nulString (eeprom.read tzNameOffset tzNameSize)).length < tzNameSize := by
    obtain ⟨i, hi, h₀⟩ := h
    refine (length_nulString_lt (by rw [Memory.length_read])).2 ⟨i, hi, ?_⟩
    rw [List.getElem?_eq_getElem (by rwa [Memory.length_read]), Memory.getElem_read, h₀]
  exact ⟨(nulString_eq_iff.1 ⟨rfl, by rwa [Memory.length_read]⟩).1, hlen⟩

/-- What is stored in an image is found in it. -/
theorem isStored_found {eeprom : Memory} (h : Terminated eeprom) (hram : sizeofV2 ≤ ramEnd) :
    IsStored ramEnd eeprom (found eeprom) := by
  have hl := layout
  have hname {size : ℕ} (hsize : sizeofV1 ≤ size)
      (hnul : ∃ i < tzNameSize, eeprom (tzNameOffset + i) = 0) (stack : Memory) :
      cString (eepromGet eeprom size stack) tzNameOffset (ramEnd - tzNameOffset) =
        some (nulString (eeprom.read tzNameOffset tzNameSize)) := by
    obtain ⟨s, hs, hlen⟩ := @RidenConfig.exists_cString_image eeprom stack size tzNameSize
      (ramEnd - tzNameOffset) (by omega) (by omega) hnul
    rw [hs, RidenConfig.cString_eq_field hsize (by omega) hs hlen.le]
  rw [found]
  split_ifs with h₁ h₂
  · intro stack stack' committed
    have hflag : eepromGet eeprom sizeofV1 stack configPortalOnBootOffset =
        eeprom configPortalOnBootOffset := by
      rw [eepromGet_apply, if_pos (by omega)]
    rw [RidenConfig.begin_of_version1 _ h₁, RidenConfig.beginV1, hname le_rfl (h (.inl h₁)), hflag]
    exact ⟨_, rfl, rfl, rfl⟩
  · refine isStored_of_version2 h₂ fun stack stack' committed => ?_
    rw [RidenConfig.begin_of_version2 _ h₂, RidenConfig.beginV2_config_iff]
    exact ⟨hname (by omega) (h (.inr h₂)) stack, rfl, rfl⟩
  · exact ⟨h₁, h₂⟩

theorem fits_found {eeprom : Memory} (h : Terminated eeprom) :
    ∀ config ∈ found eeprom, config.Fits := by
  rw [found]
  split_ifs with h₁ h₂
  · rintro c ⟨⟩
    exact fits_ofVersion1 (h (.inl h₁)) defaultUartBaudrate
  · rintro c ⟨⟩
    exact fits_ofVersion1 (h (.inr h₂)) _
  · exact nofun

/-- The settings of a device with this image. -/
def settings (eeprom : Memory) : Settings := ⟨found eeprom, {}, []⟩

theorem follows_start {eeprom : Memory} (h : Terminated eeprom) (hram : sizeofV2 ≤ ramEnd) :
    Follows ramEnd ⟨{}, eeprom, []⟩ (settings eeprom) :=
  ⟨rfl, isStored_found h hram, rfl, ⟨List.not_mem_nil, Nat.zero_lt_succ 99⟩, fits_found h⟩

/-- **The device follows the settings.** Over any run of restarts, connections, POSTs of names
    that fit and reboots, from any image whose name is terminated, and whichever commits fail,
    the device gets past `begin` and has the settings in use, and in an image that is loaded
    as the settings stored. -/
theorem follows_settings (hram : sizeofV2 ≤ ramEnd) {eeprom : Memory} (h : Terminated eeprom)
    {is : List Input} (his : Machine.Guarded Settings.step Settings.Ok (settings eeprom) is) :
    ∃ d, Machine.run (step ramEnd) (some ⟨{}, eeprom, []⟩) is = some d ∧
      d.Follows ramEnd (Machine.run Settings.step (settings eeprom) is) :=
  (follows_start h hram).run hram his

/-- A device that is new, gets a timezone and a baud rate, is rebooted for the portal,
    connects, and loses its power. -/
def firstDays : List Input :=
  [.restart ⟨fun _ => 0, fun _ => 0, true⟩,
    .configPost ⟨some [0x55, 0x54, 0x43], some [0x31, 0x39, 0x32, 0x30, 0x30], true, fun _ => 0⟩,
    .rebootDongle trueText (fun _ => 0) true ⟨fun _ => 0, fun _ => 0, true⟩,
    .connectWifi (fun _ => 0) true,
    .restart ⟨fun _ => 0, fun _ => 0, true⟩,
    .connectWifi (fun _ => 0) true]

theorem terminated_new : Terminated fun _ => 0 := fun h =>
  absurd h (by decide)

theorem guarded_firstDays :
    Machine.Guarded Settings.step Settings.Ok (settings fun _ => 0) firstDays :=
  ⟨trivial, ⟨by decide, by decide⟩, trivial, trivial, trivial, trivial, trivial⟩

theorem follows_settings_firstDays :
    ∃ d, Machine.run (step 4096) (some ⟨{}, fun _ => 0, []⟩) firstDays = some d ∧
      d.Follows 4096 (Machine.run Settings.step (settings fun _ => 0) firstDays) :=
  follows_settings (by decide) terminated_new guarded_firstDays

end Device

/-! ## The portal -/

namespace Settings

open Device (Input)

variable {a : Settings}

/-- What is stored asks for the portal: 1, or 0. -/
def asking (a : Settings) : ℕ := if a.flash.any (·.configPortalOnBoot) then 1 else 0

/-- What is in use asks for it only if what is stored does. -/
def Consistent (a : Settings) : Prop :=
  a.ram.configPortalOnBoot = true → a.flash.any (·.configPortalOnBoot) = true

/-- The portal is asked for, and this is stored; or the request for it that is pending cannot
    be withdrawn. -/
def asks (a : Settings) : Input → Bool
  | .rebootDongle configPortal _ committed _ => configPortal = trueText && committed
  | .connectWifi _ committed => a.ram.configPortalOnBoot && !committed
  | _ => false

/-- How often this happens in a run. -/
def asked (a : Settings) : List Input → ℕ
  | [] => 0
  | i :: is => (if a.asks i then 1 else 0) + (a.step i).asked is

theorem asking_le_one : a.asking ≤ 1 := by
  rw [asking]
  split_ifs <;> decide

theorem Consistent.asking (ha : a.Consistent) (hram : a.ram.configPortalOnBoot = true) :
    a.asking = 1 := if_pos (ha hram)

theorem restart_consistent (committed : Bool) (a : Settings) :
    (a.restart committed).Consistent ∧ (a.restart committed).asking = a.asking ∧
      (a.restart committed).portals = a.portals := by
  unfold restart
  obtain ⟨_ | config, ram, portals⟩ := a
  · cases committed <;> exact ⟨nofun, rfl, rfl⟩
  · exact ⟨id, rfl, rfl⟩

theorem asking_askForPortal (configPortal : List UInt8) (stack : Memory) (committed : Bool)
    (r : Restart) : (a.askForPortal configPortal committed).portals.count true +
        (a.askForPortal configPortal committed).asking ≤ a.portals.count true + a.asking +
      if a.asks (.rebootDongle configPortal stack committed r) then 1 else 0 := by
  rw [askForPortal]
  by_cases htrue : configPortal = trueText
  · rw [if_pos htrue]
    cases committed with
    | false => exact Nat.le_add_right _ _
    | true =>
      have hasks : a.asks (.rebootDongle configPortal stack true r) = true := by
        rw [Settings.asks, htrue]
        rfl
      have hone : Settings.asking (Settings.commit ⟨a.flash,
        { a.ram with configPortalOnBoot := true }, a.portals⟩ true) ≤ 1 := asking_le_one
      rw [if_pos hasks]
      change a.portals.count true + _ ≤ a.portals.count true + a.asking + 1
      omega
  · rw [if_neg htrue]
    exact Nat.le_add_right _ _

/-- A step opens the portal only if the stored request for it is used up, or the step
    allows for it. -/
theorem Consistent.step (ha : a.Consistent) (i : Input) :
    (a.step i).Consistent ∧ (a.step i).portals.count true + (a.step i).asking ≤
      a.portals.count true + a.asking + if a.asks i then 1 else 0 := by
  cases i with
  | restart r =>
    obtain ⟨hc, hasking, hportals⟩ := restart_consistent r.committed a
    exact ⟨hc, by rw [Settings.step, hasking, hportals]; exact Nat.le_add_right _ _⟩
  | connectWifi stack committed =>
    change (a.connectWifi committed).Consistent ∧ _
    have hcount : (a.portals ++ [true]).count true = a.portals.count true + 1 := by simp
    have hsame : (a.portals ++ [false]).count true = a.portals.count true := by simp
    cases hram : a.ram.configPortalOnBoot with
    | false =>
      have hstep : a.connectWifi committed = { a with portals := a.portals ++ [false] } := by
        rw [Settings.connectWifi, hram]
        rfl
      rw [Settings.step, hstep]
      exact ⟨ha, by rw [hsame]; exact Nat.le_add_right _ _⟩
    | true =>
      have hstep : a.connectWifi committed = Settings.commit ⟨a.flash,
          { a.ram with configPortalOnBoot := false }, a.portals ++ [true]⟩ committed := by
        rw [Settings.connectWifi, hram]
        rfl
      rw [Settings.step, hstep, ha.asking hram, Settings.asks, hram, Bool.true_and]
      refine ⟨by cases committed <;> exact nofun, ?_⟩
      cases committed with
      | false =>
        -- the request stays stored, and will open the portal again
        have : Settings.asking ⟨a.flash, { a.ram with configPortalOnBoot := false },
          a.portals ++ [true]⟩ ≤ 1 := asking_le_one
        change (a.portals ++ [true]).count true + _ ≤ a.portals.count true + 1 + 1
        rw [hcount]
        exact Nat.add_le_add_left this _
      | true => exact hcount.le
  | configPost post =>
    change (Settings.commit ⟨a.flash, posted a.ram post, a.portals⟩ post.committed).Consistent ∧ _
    rw [Settings.step, configPost]
    cases post.committed with
    | false => exact ⟨ha, Nat.le_add_right _ _⟩
    | true =>
      refine ⟨id, Nat.add_le_add_left ?_ _⟩
      cases hram : a.ram.configPortalOnBoot with
      | false =>
        have : Settings.asking ⟨some (posted a.ram post), posted a.ram post, a.portals⟩ = 0 :=
          if_neg (by rw [Option.any_some, posted, hram]; exact Bool.false_ne_true)
        exact this.trans_le (Nat.zero_le _)
      | true => exact asking_le_one.trans (ha.asking hram).ge
  | rebootDongle configPortal stack committed r =>
    obtain ⟨hc, hasking, hportals⟩ := restart_consistent r.committed
      (a.askForPortal configPortal committed)
    refine ⟨hc, ?_⟩
    rw [Settings.step, hasking, hportals]
    exact asking_askForPortal configPortal stack committed r

/-- So it does over a run, step by step. -/
theorem Consistent.run (ha : a.Consistent) (is : List Input) :
    (Machine.run Settings.step a is).portals.count true +
        (Machine.run Settings.step a is).asking ≤
      a.portals.count true + a.asking + a.asked is := by
  induction is generalizing a with
  | nil => exact le_rfl
  | cons i is ih =>
    obtain ⟨hc, hle⟩ := ha.step i
    have hrest := ih hc
    rw [Machine.run_cons, asked]
    omega

end Settings

/-- **The portal is not opened unasked.** Over any run, `connect_wifi` starts the portal no
    more often than the image asked for it at first, a request for it was stored, or a
    pending request could not be withdrawn. -/
theorem Device.portals_le {ramEnd : ℕ} (hram : sizeofV2 ≤ ramEnd) {eeprom : Memory}
    (h : Terminated eeprom) {is : List Device.Input}
    (his : Machine.Guarded Settings.step Settings.Ok (settings eeprom) is) :
    ∃ d, Machine.run (step ramEnd) (some ⟨{}, eeprom, []⟩) is = some d ∧
      d.portals.count true ≤ (settings eeprom).asking + (settings eeprom).asked is := by
  have hf : Follows ramEnd ⟨{}, eeprom, []⟩ (settings eeprom) := follows_start h hram
  obtain ⟨d, hd, hf'⟩ := hf.run hram his
  have hconsistent : (settings eeprom).Consistent := nofun
  have hle := Settings.Consistent.run hconsistent is
  refine ⟨d, hd, ?_⟩
  rw [hf'.portals]
  change _ ≤ ([] : List Bool).count true + _ + _ at hle
  rw [List.count_nil, Nat.zero_add] at hle
  omega

theorem Device.portals_le_firstDays :
    ∃ d, Machine.run (step 4096) (some ⟨{}, fun _ => 0, []⟩) firstDays = some d ∧
      d.portals.count true ≤ (settings fun _ => 0).asking +
        (settings fun _ => 0).asked firstDays :=
  portals_le (by decide) terminated_new guarded_firstDays

/-! ## Restarts without failing commits -/

namespace Settings

open Device (Input)

variable {a : Settings}

/-- Every commit succeeds. -/
def Input.Committed : Input → Prop
  | .restart r => r.committed = true
  | .connectWifi _ committed => committed = true
  | .configPost post => post.committed = true
  | .rebootDongle _ _ committed r => committed = true ∧ r.committed = true

/-- The configuration and the portals, if nothing was ever restarted: a POST sets the
    configuration, and a request for the portal waits for the next connection. -/
def wish (c : RidenConfig × List Bool) : Input → RidenConfig × List Bool
  | .restart _ => c
  | .connectWifi _ _ =>
    ({ c.1 with configPortalOnBoot := false }, c.2 ++ [c.1.configPortalOnBoot])
  | .configPost post => (posted c.1 post, c.2)
  | .rebootDongle configPortal _ _ _ =>
    (if configPortal = trueText then c.1.setConfigPortalOnBoot else c.1, c.2)

/-- What is in use is stored. -/
def InSync (a : Settings) : Prop := a.flash = some a.ram

theorem InSync.restart (ha : a.InSync) (committed : Bool) : a.restart committed = a := by
  obtain ⟨flash, ram, portals⟩ := a
  obtain rfl : flash = some ram := ha
  rfl

theorem InSync.step (ha : a.InSync) {i : Input} (hi : Input.Committed i) :
    (a.step i).InSync ∧ ((a.step i).ram, (a.step i).portals) = wish (a.ram, a.portals) i := by
  cases i with
  | restart r =>
    rw [Settings.step, ha.restart]
    exact ⟨ha, rfl⟩
  | connectWifi stack committed =>
    obtain rfl : committed = true := hi
    obtain ⟨flash, ⟨tzName, flag, baudrate⟩, portals⟩ := a
    obtain rfl : flash = some ⟨tzName, flag, baudrate⟩ := ha
    cases flag <;> exact ⟨rfl, rfl⟩
  | configPost post =>
    rw [Settings.step, configPost, show post.committed = true from hi]
    exact ⟨rfl, rfl⟩
  | rebootDongle configPortal stack committed r =>
    obtain rfl : committed = true := hi.1
    have hsync : (a.askForPortal configPortal true).InSync := by
      rw [askForPortal]
      split_ifs
      · rfl
      · exact ha
    rw [Settings.step, hsync.restart, wish]
    refine ⟨hsync, ?_⟩
    rw [askForPortal]
    split_ifs <;> rfl

theorem InSync.run (ha : a.InSync) {is : List Input} (his : ∀ i ∈ is, Input.Committed i) :
    (Machine.run Settings.step a is).InSync ∧
      ((Machine.run Settings.step a is).ram, (Machine.run Settings.step a is).portals) =
        Machine.run wish (a.ram, a.portals) is := by
  induction is generalizing a with
  | nil => exact ⟨ha, rfl⟩
  | cons i is ih =>
    obtain ⟨hi, his⟩ := List.forall_mem_cons.1 his
    obtain ⟨hsync, hwish⟩ := ha.step hi
    rw [Machine.run_cons, Machine.run_cons, ← hwish]
    exact ih hsync his

end Settings

/-- **What was posted last is in use.** If no commit fails, then restarts change nothing:
    the device has the configuration that was found or posted last, in use and stored, and
    each connection opens the portal exactly if it was asked for since the one before. -/
theorem Device.settings_in_use {ramEnd : ℕ} (hram : sizeofV2 ≤ ramEnd) {eeprom : Memory}
    (h : Terminated eeprom) {r : Restart} {is : List Device.Input}
    (his : Machine.Guarded Settings.step Settings.Ok (settings eeprom) (.restart r :: is))
    (hcommitted : ∀ i ∈ Device.Input.restart r :: is, Settings.Input.Committed i) :
    ∃ d, Machine.run (step ramEnd) (some ⟨{}, eeprom, []⟩) (.restart r :: is) = some d ∧
      (d.config, d.portals) = Machine.run Settings.wish ((found eeprom).getD {}, []) is ∧
      IsStored ramEnd d.eeprom (some d.config) := by
  obtain ⟨d, hd, hf⟩ := (follows_start h hram).run hram his
  obtain ⟨hr, his'⟩ := List.forall_mem_cons.1 hcommitted
  -- the first restart finds the image, or stores the default
  have hstart : (settings eeprom).restart r.committed =
      ⟨some ((found eeprom).getD {}), (found eeprom).getD {}, []⟩ := by
    rw [settings, Settings.restart, show r.committed = true from hr]
    cases found eeprom <;> rfl
  rw [Machine.run_cons, Settings.step, hstart] at hf
  obtain ⟨hsync, hwish⟩ := Settings.InSync.run (a := ⟨some ((found eeprom).getD {}),
    (found eeprom).getD {}, []⟩) rfl his'
  refine ⟨d, hd, ?_, ?_⟩
  · rw [hf.config, hf.portals]
    exact hwish
  · have hstored := hf.eeprom
    rw [show Settings.flash _ = some _ from hsync, ← hf.config] at hstored
    exact hstored

theorem Device.settings_in_use_firstDays :
    ∃ d, Machine.run (step 4096) (some ⟨{}, fun _ => 0, []⟩) firstDays = some d ∧
      (d.config, d.portals) = (⟨[0x55, 0x54, 0x43], false, 19200⟩, [true, false]) ∧
      IsStored 4096 d.eeprom (some d.config) := by
  have hcommitted : ∀ i ∈ firstDays, Settings.Input.Committed i := by
    simp [firstDays, Settings.Input.Committed]
  exact settings_in_use (by decide) terminated_new guarded_firstDays hcommitted

end RidenDongle
