import RidenDongle.Http.ConfigForm
import RidenDongle.Main.Lifecycle

/-!
# The choices of the user

What is in use on a dongle that is configured with the form of the configuration page only,
over restarts, connections and reboots (`setup` and `connect_wifi` in `main.cpp`,
`RidenModbus::begin`). The serial line gets its baud rate in `setup`, and the clock its
timezone when the WiFi is joined; what is configured in between is not in use yet.

* `Use`: what is done with the device; `Running.use`: what this does to the device, the
  serial line and the clock.
* `Choice`: a timezone and a baud rate; `InUse`: what is chosen, and what is in use of it.
* `choices_in_use`: along every run the choice of the user is what gets in use.
-/

namespace RidenDongle

open RidenHttpServer Html

namespace Device

/-- What is done with the device. `joined` is whether `setup` has found a power supply and the
    WiFi connects. -/
inductive Use
  | restart (r : Restart)
  | connectWifi (stack : Memory) (committed joined : Bool)
  | visit (v : Visit)
  | rebootDongle (configPortal : List UInt8) (stack : Memory) (committed : Bool) (r : Restart)

/-- The input that it comes to: a visit is to the page that shows the configuration. -/
def Use.toInput (timezones : List Timezone) (config : RidenConfig) : Use → Input
  | .restart r => .restart r
  | .connectWifi stack committed _ => .connectWifi stack committed
  | .visit v => .configPost (v.post (handleConfigGet timezones config))
  | .rebootDongle configPortal stack committed r => .rebootDongle configPortal stack committed r

/-- Every commit succeeds. -/
def Use.Committed : Use → Prop
  | .restart r => r.committed = true
  | .connectWifi _ committed _ => committed = true
  | .visit v => v.committed = true
  | .rebootDongle _ _ committed r => committed = true ∧ r.committed = true

end Device

open Device (Use)

/-- The device with what it has set up: the baud rate that `SerialRuideng.begin` was called
    with, and the timezone of `configTime`, which is `[]` without a call. -/
structure Running where
  device : Device
  uart : UInt32
  clock : List UInt8

namespace Running

variable (timezones : List Timezone)

/-- `RidenModbus::begin` and `connect_wifi`, as far as they set this up. -/
def setUp (x : Running) (d : Device) : Use → Running
  | .restart _ => ⟨d, d.config.uartBaudrate, []⟩
  | .connectWifi _ _ joined =>
    let tz := d.config.getTimezoneSpec timezones
    ⟨d, x.uart, if joined && !tz.isEmpty then tz else x.clock⟩
  | .visit _ => ⟨d, x.uart, x.clock⟩
  | .rebootDongle _ _ _ _ => ⟨d, d.config.uartBaudrate, []⟩

def use (ramEnd : ℕ) (x : Option Running) (u : Use) : Option Running :=
  x.bind fun x =>
    (x.device.next ramEnd (u.toInput timezones x.device.config)).map fun d =>
      x.setUp timezones d u

end Running

/-! ## Choices -/

/-- The specification of a timezone, and a baud rate. -/
structure Choice where
  tz : List UInt8
  uartBaudrate : UInt32
  deriving DecidableEq

def RidenConfig.choice (config : RidenConfig) (timezones : List Timezone) : Choice where
  tz := config.getTimezoneSpec timezones
  uartBaudrate := config.uartBaudrate

/-- What is chosen after a use: only what is clicked on a visit changes. -/
def Choice.after (timezones : List Timezone) (c : Choice) : Use → Choice
  | .visit v =>
    { tz := (v.timezone.bind (timezones[·]?)).elim c.tz Timezone.tz
      uartBaudrate := (v.uartBaudrate.bind (uartBaudrates[·]?)).getD c.uartBaudrate }
  | _ => c

/-- What the user has chosen, and what is in use of it. -/
structure InUse where
  choice : Choice
  uart : UInt32
  clock : List UInt8
  deriving DecidableEq

/-- A restart puts the baud rate in use, and joining the WiFi the timezone, if there is one. -/
def InUse.after (timezones : List Timezone) (x : InUse) (u : Use) : InUse :=
  let choice := x.choice.after timezones u
  match u with
  | .restart _ => ⟨choice, choice.uartBaudrate, []⟩
  | .connectWifi _ _ joined =>
    ⟨choice, x.uart, if joined && !choice.tz.isEmpty then choice.tz else x.clock⟩
  | .visit _ => ⟨choice, x.uart, x.clock⟩
  | .rebootDongle _ _ _ _ => ⟨choice, choice.uartBaudrate, []⟩

/-- What a running device has chosen and in use. -/
def Running.inUse (x : Running) (timezones : List Timezone) : InUse :=
  ⟨x.device.config.choice timezones, x.uart, x.clock⟩

variable {timezones : List Timezone} {config : RidenConfig}

theorem getTimezoneSpec_of_mem (h : TimezoneTable timezones) {t : Timezone} (ht : t ∈ timezones)
    (hname : config.tzName = t.name) : config.getTimezoneSpec timezones = t.tz := by
  have hfind : timezones.find? (fun timezone => nulString config.tzName = nulString timezone.name) =
      some t := by
    obtain ⟨as, bs, rfl⟩ := List.append_of_mem ht
    rw [List.find?_eq_some_iff_append]
    refine ⟨by simp [hname], as, bs, rfl, fun a ha => ?_⟩
    have hne : a.name ≠ t.name := by
      have hnodup := h.nodup
      rw [List.map_append, List.nodup_append] at hnodup
      exact hnodup.2.2 _ (List.mem_map_of_mem ha) _ (List.mem_map_of_mem List.mem_cons_self)
    have hclean {t' : Timezone} (ht' : t' ∈ as ++ t :: bs) : nulString t'.name = t'.name :=
      RidenConfig.nulString_of_notMem (h.fits t' ht').1
    rw [hname, hclean ht, hclean (List.mem_append_left _ ha)]
    simpa using Ne.symm hne
  rw [RidenConfig.getTimezoneSpec, hfind]

theorem getTimezoneSpec_of_not_mem (h : TimezoneTable timezones) (hnul : (0 : UInt8) ∉ config.tzName)
    (hname : config.tzName ∉ timezones.map Timezone.name) :
    config.getTimezoneSpec timezones = [] := by
  have hfind : timezones.find? (fun timezone => nulString config.tzName = nulString timezone.name) =
      none := by
    rw [List.find?_eq_none]
    intro t ht heq
    rw [RidenConfig.nulString_of_notMem hnul,
      RidenConfig.nulString_of_notMem (h.fits t ht).1, decide_eq_true_iff] at heq
    exact hname (heq ▸ List.mem_map_of_mem ht)
  rw [RidenConfig.getTimezoneSpec, hfind]

/-- The choice of the user is configured. -/
theorem choice_configured (h : TimezoneTable timezones) (hnul : (0 : UInt8) ∉ config.tzName)
    (hrate : config.uartBaudrate ∈ uartBaudrates) (v : Visit) :
    (v.configured timezones config).choice timezones =
      (config.choice timezones).after timezones (.visit v) := by
  have htz : (v.configured timezones config).getTimezoneSpec timezones =
      (v.timezone.bind (timezones[·]?)).elim (config.getTimezoneSpec timezones) Timezone.tz := by
    have hclicked : v.timezone.bind ((timezones.map Timezone.name)[·]?) =
        (v.timezone.bind (timezones[·]?)).map Timezone.name := by
      cases v.timezone with
      | none => rfl
      | some i => exact List.getElem?_map
    cases hclick : v.timezone.bind (timezones[·]?) with
    | some t =>
      obtain ⟨i, -, hi⟩ := Option.bind_eq_some_iff.1 hclick
      refine getTimezoneSpec_of_mem h (List.mem_of_getElem? hi) ?_
      rw [Visit.configured, pick, hclicked, hclick]
      rfl
    | none =>
      by_cases hmem : config.tzName ∈ timezones.map Timezone.name
      · have hsame : (v.configured timezones config).tzName = config.tzName := by
          rw [Visit.configured, pick, hclicked, hclick, if_pos hmem]
          rfl
        rw [RidenConfig.getTimezoneSpec, hsame]
        rfl
      · -- The browser submits the first row, which stands for no timezone either.
        obtain ⟨t, ts, rfl, ht⟩ := h.unset
        rw [Option.elim_none, getTimezoneSpec_of_not_mem h hnul hmem, ← ht]
        refine getTimezoneSpec_of_mem h List.mem_cons_self ?_
        rw [Visit.configured, pick, hclicked, hclick, if_neg hmem]
        rfl
  -- an offered baud rate that was not clicked is submitted as it was
  have hpick : (pick uartBaudrates config.uartBaudrate v.uartBaudrate).getD 0 =
      (v.uartBaudrate.bind (uartBaudrates[·]?)).getD config.uartBaudrate := by
    rw [pick, if_pos hrate]
    cases v.uartBaudrate.bind (uartBaudrates[·]?) <;> rfl
  rw [RidenConfig.choice, htz]
  exact congrArg (Choice.mk _) hpick

/-- Whatever is done, the name of the timezone fits, the baud rate is offered, and the
    choice is that of the user. -/
theorem wish_toInput (h : TimezoneTable timezones) (hfits : config.Fits)
    (hrate : config.uartBaudrate ∈ uartBaudrates) (portals : List Bool) (u : Use) :
    (Settings.wish (config, portals) (u.toInput timezones config)).1.Fits ∧
    (Settings.wish (config, portals) (u.toInput timezones config)).1.uartBaudrate ∈ uartBaudrates ∧
    (Settings.wish (config, portals) (u.toInput timezones config)).1.choice timezones =
      (config.choice timezones).after timezones u := by
  have hsame (flag : Bool) : ({ config with configPortalOnBoot := flag } : RidenConfig).choice
      timezones = config.choice timezones := rfl
  cases u with
  | restart r =>
    rw [Use.toInput, Settings.wish]
    exact ⟨hfits, hrate, rfl⟩
  | connectWifi stack committed joined =>
    rw [Use.toInput, Settings.wish]
    exact ⟨hfits, hrate, hsame false⟩
  | visit v =>
    -- what is posted is what the page shows, of which the browser submits one row
    have hpost (post : ConfigPost) : Settings.posted config post =
        (handleConfigPost ⟨config, fun _ => 0, none⟩ post).config := rfl
    have hposted := posted_visit h ⟨config, fun _ => 0, none⟩ v
    obtain ⟨hname, hoffered⟩ := shown_configured h config v
    obtain ⟨t, ht, hname⟩ := List.mem_map.1 hname
    rw [Use.toInput, Settings.wish, hpost, hposted]
    exact ⟨⟨hname ▸ (h.fits t ht).1, hname ▸ (h.fits t ht).2⟩, hoffered,
      choice_configured h hfits.1 hrate v⟩
  | rebootDongle configPortal stack committed r =>
    rw [Use.toInput, Settings.wish]
    split_ifs
    · exact ⟨hfits, hrate, hsame true⟩
    · exact ⟨hfits, hrate, rfl⟩

/-! ## Runs -/

namespace Settings

variable {a : Settings}

/-- What the device does, in terms of the settings. -/
def use (timezones : List Timezone) (a : Settings) (u : Use) : Settings :=
  a.step (u.toInput timezones a.ram)

/-- The baud rates that are in use and stored are offered. -/
def Rated (a : Settings) : Prop :=
  a.ram.uartBaudrate ∈ uartBaudrates ∧ ∀ config ∈ a.flash, config.uartBaudrate ∈ uartBaudrates

theorem Rated.commit (ha : a.Rated) {config : RidenConfig}
    (hrate : config.uartBaudrate ∈ uartBaudrates) (portals : List Bool) (committed : Bool) :
    (Settings.commit ⟨a.flash, config, portals⟩ committed).Rated := by
  cases committed with
  | false => exact ⟨hrate, ha.2⟩
  | true =>
    refine ⟨hrate, ?_⟩
    rintro config ⟨⟩
    exact hrate

theorem defaultUartBaudrate_mem : ({} : RidenConfig).uartBaudrate ∈ uartBaudrates := by
  decide

theorem Rated.restart (ha : a.Rated) (committed : Bool) : (a.restart committed).Rated := by
  obtain ⟨flash, ram, portals⟩ := a
  cases flash with
  | some config => exact ⟨ha.2 config rfl, ha.2⟩
  | none => exact ha.commit defaultUartBaudrate_mem portals committed

theorem Rated.use (h : TimezoneTable timezones) (ha : a.Rated) (u : Use) :
    (a.use timezones u).Rated := by
  cases u with
  | restart r => exact ha.restart r.committed
  | connectWifi stack committed joined =>
    rw [Settings.use, Use.toInput, Settings.step, Settings.connectWifi]
    split_ifs
    · have hrate : ({ a.ram with configPortalOnBoot := false } : RidenConfig).uartBaudrate ∈
          uartBaudrates := ha.1
      exact ha.commit hrate _ committed
    · exact ha
  | visit v =>
    have hpost (post : ConfigPost) : posted a.ram post =
        (handleConfigPost ⟨a.ram, fun _ => 0, none⟩ post).config := rfl
    have hposted := posted_visit h ⟨a.ram, fun _ => 0, none⟩ v
    rw [Settings.use, Use.toInput, Settings.step, Settings.configPost, hpost, hposted]
    exact ha.commit (shown_configured h a.ram v).2 a.portals _
  | rebootDongle configPortal stack committed r =>
    rw [Settings.use, Use.toInput, Settings.step]
    refine Rated.restart ?_ r.committed
    rw [Settings.askForPortal]
    split_ifs
    · have hrate : ({ a.ram with configPortalOnBoot := true } : RidenConfig).uartBaudrate ∈
          uartBaudrates := ha.1
      exact ha.commit hrate a.portals committed
    · exact ha

theorem ok_toInput (h : TimezoneTable timezones) (a : Settings) (u : Use) :
    a.Ok (u.toInput timezones a.ram) := by
  cases u with
  | visit v =>
    obtain ⟨name, hname⟩ := exists_pick h.names_ne_nil a.ram.tzName v.timezone
    obtain ⟨t, ht, rfl⟩ := List.mem_map.1 (mem_of_pick hname)
    rw [Use.toInput, post_handleConfigGet h, Settings.Ok, hname]
    exact h.fits t ht
  | restart _ => trivial
  | connectWifi _ _ _ => trivial
  | rebootDongle _ _ _ _ => trivial

theorem committed_toInput (h : TimezoneTable timezones) (config : RidenConfig) {u : Use}
    (hu : u.Committed) :
    Input.Committed (u.toInput timezones config) := by
  cases u with
  | visit v =>
    rw [Use.toInput, post_handleConfigGet h]
    exact hu
  | restart r => exact hu
  | connectWifi _ _ _ => exact hu
  | rebootDongle _ _ _ _ => exact hu

/-- Without failing commits, a use makes the choice that is clicked. -/
theorem InSync.use (h : TimezoneTable timezones) (ha : a.InSync) (hfits : a.ram.Fits)
    (hrate : a.ram.uartBaudrate ∈ uartBaudrates) {u : Use} (hu : u.Committed) :
    (a.use timezones u).InSync ∧ (a.use timezones u).ram.Fits ∧
      (a.use timezones u).ram.uartBaudrate ∈ uartBaudrates ∧
      (a.use timezones u).ram.choice timezones = (a.ram.choice timezones).after timezones u := by
  obtain ⟨hsync, hwish⟩ := ha.step (committed_toInput h a.ram hu)
  have hchosen := wish_toInput h hfits hrate a.portals u
  rw [← hwish] at hchosen
  exact ⟨hsync, hchosen⟩

end Settings

namespace Running

variable {ramEnd : ℕ} {x : Running} {a : Settings}

/-- The device follows the settings, and its baud rates are offered. -/
structure Follows (ramEnd : ℕ) (x : Running) (a : Settings) : Prop where
  device : x.device.Follows ramEnd a
  rated : a.Rated
  uart : x.uart ∈ uartBaudrates

theorem Follows.use (hram : sizeofV2 ≤ ramEnd) (h : TimezoneTable timezones)
    (hf : x.Follows ramEnd a) (u : Use) :
    ∃ x', Running.use timezones ramEnd (some x) u = some x' ∧
      x'.Follows ramEnd (a.use timezones u) ∧
      x' = x.setUp timezones x'.device u := by
  obtain ⟨d, hd, hdevice⟩ := hf.device.next hram (Settings.ok_toInput h a u)
  have hrated : (a.use timezones u).Rated := hf.rated.use h u
  have hrate : d.config.uartBaudrate ∈ uartBaudrates := hdevice.config ▸ hrated.1
  refine ⟨x.setUp timezones d u, ?_, ?_, by cases u <;> rfl⟩
  · rw [Running.use, Option.bind_some, hf.device.config, hd, Option.map_some]
  · cases u with
    | restart r => exact ⟨hdevice, hrated, hrate⟩
    | connectWifi stack committed joined => exact ⟨hdevice, hrated, hf.uart⟩
    | visit v => exact ⟨hdevice, hrated, hf.uart⟩
    | rebootDongle configPortal stack committed r => exact ⟨hdevice, hrated, hrate⟩

/-- What is chosen and in use after a use that commits. -/
theorem inUse_setUp {d : Device}
    (hchoice : d.config.choice timezones = (x.device.config.choice timezones).after timezones u) :
    (x.setUp timezones d u).inUse timezones = (x.inUse timezones).after timezones u := by
  have hrate : d.config.uartBaudrate = _ := congrArg Choice.uartBaudrate hchoice
  have htz : d.config.getTimezoneSpec timezones = _ := congrArg Choice.tz hchoice
  cases u with
  | restart r | rebootDongle configPortal stack committed r =>
    rw [inUse, setUp, hchoice, hrate]
    rfl
  | connectWifi stack committed joined =>
    rw [inUse, setUp, hchoice, htz]
    rfl
  | visit v =>
    rw [inUse, setUp, hchoice]
    rfl

theorem Follows.run (hram : sizeofV2 ≤ ramEnd) (h : TimezoneTable timezones)
    (hf : x.Follows ramEnd a) (us : List Use) :
    ∃ x', Machine.run (Running.use timezones ramEnd) (some x) us = some x' ∧
      x'.uart ∈ uartBaudrates ∧
      (a.InSync → (∀ u ∈ us, u.Committed) → x'.inUse timezones =
        Machine.run (InUse.after timezones) (x.inUse timezones) us) := by
  induction us generalizing x a with
  | nil => exact ⟨x, rfl, hf.uart, fun _ _ => rfl⟩
  | cons u us ih =>
    obtain ⟨x₁, hx₁, hf₁, hsetUp⟩ := hf.use hram h u
    obtain ⟨x', hx', huart, hinUse⟩ := ih hf₁
    refine ⟨x', by rw [Machine.run_cons, hx₁, hx'], huart, fun hsync hus => ?_⟩
    obtain ⟨hu, hus⟩ := List.forall_mem_cons.1 hus
    obtain ⟨hsync', -, -, hchoice⟩ := hsync.use h hf.device.fits hf.rated.1 hu
    rw [← hf₁.device.config, ← hf.device.config] at hchoice
    rw [hinUse hsync' hus, Machine.run_cons, ← inUse_setUp hchoice, ← hsetUp]

end Running

/-- **The choice of the user.** However often a dongle with an intact image is restarted,
    connected, rebooted and configured with the form, and whichever commits fail, it gets
    past `begin`, and the serial line has a baud rate that is offered, if the image has one.
    If no commit fails, the baud rate in use is the one chosen at the last restart, and the
    timezone the one chosen when the WiFi was joined since. -/
theorem Device.choices_in_use {ramEnd : ℕ} (hram : sizeofV2 ≤ ramEnd)
    (h : TimezoneTable timezones) {eeprom : Memory} (hterminated : Terminated eeprom)
    (hrate : ((found eeprom).getD {}).uartBaudrate ∈ uartBaudrates) (r : Restart) (us : List Use) :
    let choice := ((found eeprom).getD {}).choice timezones
    ∃ x, Machine.run (Running.use timezones ramEnd) (some ⟨⟨{}, eeprom, []⟩, defaultUartBaudrate, []⟩)
        (.restart r :: us) = some x ∧ x.uart ∈ uartBaudrates ∧
      ((∀ u ∈ Use.restart r :: us, u.Committed) → x.inUse timezones =
        Machine.run (InUse.after timezones) ⟨choice, choice.uartBaudrate, []⟩ us) := by
  intro choice
  have hstart : (settings eeprom).Rated := by
    refine ⟨Settings.defaultUartBaudrate_mem, fun config hconfig => ?_⟩
    rwa [show found eeprom = some config from hconfig] at hrate
  have hf : Running.Follows ramEnd ⟨⟨{}, eeprom, []⟩, defaultUartBaudrate, []⟩ (settings eeprom) :=
    ⟨follows_start hterminated hram, hstart, Settings.defaultUartBaudrate_mem⟩
  obtain ⟨x₁, hx₁, hf₁, hsetUp⟩ := hf.use hram h (.restart r)
  obtain ⟨x, hx, huart, hinUse⟩ := hf₁.run hram h us
  refine ⟨x, by rw [Machine.run_cons, hx₁, hx], huart, fun hcommitted => ?_⟩
  obtain ⟨hr, hus⟩ := List.forall_mem_cons.1 hcommitted
  -- the first restart finds the image, or stores the default
  have hrestart : (settings eeprom).use timezones (.restart r) =
      ⟨some ((found eeprom).getD {}), (found eeprom).getD {}, []⟩ := by
    rw [settings, Settings.use, Use.toInput, Settings.step, Settings.restart,
      show r.committed = true from hr]
    cases found eeprom <;> rfl
  rw [hrestart] at hf₁ hinUse
  rw [hinUse rfl hus]
  have hfirst : x₁.inUse timezones = ⟨choice, choice.uartBaudrate, []⟩ := by
    rw [hsetUp, Running.inUse, Running.setUp, hf₁.device.config]
    rfl
  rw [hfirst]

/-- A new dongle is configured, loses its power, and is asked for the portal, with the form
    submitted again before the reboot. -/
def secondDays : List Use :=
  [.visit ⟨some 2, some 4, true, fun _ => 0⟩,
    .restart ⟨fun _ => 0, fun _ => 0, true⟩,
    .connectWifi (fun _ => 0) true true,
    .visit ⟨none, none, true, fun _ => 0⟩,
    .rebootDongle trueText (fun _ => 0) true ⟨fun _ => 0, fun _ => 0, true⟩,
    .connectWifi (fun _ => 0) true true]

theorem Device.choices_in_use_secondDays :
    ∃ x, Machine.run (Running.use threeTimezones 4096)
        (some ⟨⟨{}, fun _ => 0, []⟩, defaultUartBaudrate, []⟩)
        (.restart ⟨fun _ => 0, fun _ => 0, true⟩ :: secondDays) = some x ∧
      x.uart ∈ uartBaudrates ∧
      ((∀ u ∈ Use.restart ⟨fun _ => 0, fun _ => 0, true⟩ :: secondDays, u.Committed) →
        x.inUse threeTimezones = ⟨⟨bytes "UTC0", 115200⟩, 115200, bytes "UTC0"⟩) := by
  have hfound : found (fun _ => 0) = none := by decide
  have hinUse : Machine.run (InUse.after threeTimezones)
      ⟨((found fun _ => 0).getD {}).choice threeTimezones,
        (((found fun _ => 0).getD {}).choice threeTimezones).uartBaudrate, []⟩ secondDays =
      ⟨⟨bytes "UTC0", 115200⟩, 115200, bytes "UTC0"⟩ := by
    rw [hfound]
    decide +kernel
  rw [← hinUse]
  exact choices_in_use (by decide) timezoneTable_three terminated_new (by rw [hfound]; decide) _ _

end RidenDongle
