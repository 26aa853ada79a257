import RidenDongle.Html.Form
import RidenDongle.Http.Config

/-!
# The form of the configuration page

What the page offers (`handle_config_get` in `riden_http_server.cpp`), and what becomes of
the configuration when a browser submits the form (`handle_config_post`). The table
`TIMEZONES` is a parameter.

* `handleConfigGet`: the text of the page, and `selects_handleConfigGet`: the elements that a
  browser finds in it.
* `Visit`: what a user clicks before submitting; `Visit.post`: what is then posted.
* `config_visited`: what the dongle is then configured to, and when submitting the form as
  it is changes nothing.
-/

namespace RidenDongle

open Html

structure Timezone where
  name : List UInt8
  tz : List UInt8
  deriving DecidableEq

/-- What is used of the table: its names are texts that fit into their field and into
    attributes, each is there once, and the first stands for no timezone. -/
structure TimezoneTable (timezones : List Timezone) : Prop where
  clean : ∀ t ∈ timezones, 0x27 ∉ t.name ∧ 0x3c ∉ t.name
  fits : ∀ t ∈ timezones, (0 : UInt8) ∉ t.name ∧ t.name.length < tzNameSize
  nodup : (timezones.map Timezone.name).Nodup
  unset : ∃ t ts, timezones = t :: ts ∧ t.tz = []

theorem TimezoneTable.names_ne_nil {timezones : List Timezone}
    (h : TimezoneTable timezones) : timezones.map Timezone.name ≠ [] := by
  obtain ⟨t, ts, rfl, -⟩ := h.unset
  simp

/-- `get_timezone_spec`. -/
def RidenConfig.getTimezoneSpec (self : RidenConfig) (timezones : List Timezone) : List UInt8 :=
  match timezones.find? fun timezone => nulString self.tzName = nulString timezone.name with
  | some timezone => timezone.tz
  | none => []

namespace RidenHttpServer

/-- `==` of two `String`s. -/
def equals (s t : List UInt8) : Bool := s.length = t.length ∧ nulString s = nulString t

def htmlConfigBody1 : List UInt8 := [
  "<form method='post'>",
  "    <div class='box'>",
  "        <h2>Dongle Configuration</h2>",
  "        <table class='info'>",
  "            <tbody>",
  "                <tr>",
  "                    <th>Time Zone</th>",
  "                    <td><select name='timezone'>"].flatMap bytes

def htmlConfigBody2 : List UInt8 := [
  "                    </select></td>",
  "                </tr>",
  "                <tr>",
  "                    <th>UART baudrate</th>",
  "                    <td><select name='uart_baudrate'>"].flatMap bytes

def htmlConfigBody3 : List UInt8 := [
  "                    </select></td>",
  "                </tr>",
  "                <tr><th></th><td><input type='submit' value='Save'></td></tr>",
  "            </tbody>",
  "        </table>",
  "    </div>",
  "</form>",
  "<form method='post' action='/firmware/update/' enctype='multipart/form-data'>",
  "    <div class='box'>",
  "        <h2>Firmware Update</h2>",
  "        <table class='info'>",
  "            <tbody>",
  "                <tr>",
  "                    <th>Firmware .bin file</th>",
  "                    <td><input type='file' name='firmware' accept='.bin,.gz'></td>",
  "                </tr>",
  "                <tr><th></th><td><input type='submit' value='Update'></td></tr>",
  "            </tbody>",
  "        </table>",
  "    </div>",
  "</form>",
  "<div class='box danger'>",
  "    <h2>Danger Zone</h2>",
  "    <a href='/reboot/dongle/'>Reboot Dongle</a><br>",
  "    <a href='/reboot/dongle/?config_portal=true'>",
  "Reboot Dongle to Web Configuration Portal</a><br>",
  "</div>"].flatMap bytes

/-- The content that is sent for an option. -/
def optionText (name : List UInt8) (selected : Bool) : List UInt8 :=
  if selected then
    bytes "<option value='" ++ name ++ bytes "' selected>" ++ name ++ bytes "</option>"
  else bytes "<option value='" ++ name ++ bytes "'>" ++ name ++ bytes "</option>"

/-- `String(option, 10)`. -/
def optionString (option : UInt32) : List UInt8 := bytes (Nat.repr option.toNat)

/-- `handle_config_get`, between the header and the footer. -/
def handleConfigGet (timezones : List Timezone) (config : RidenConfig) : List UInt8 :=
  htmlConfigBody1 ++
    timezones.flatMap (fun timezone =>
      optionText timezone.name (equals timezone.name config.tzName)) ++
    htmlConfigBody2 ++
    uartBaudrates.flatMap (fun option =>
      optionText (optionString option) (option = config.uartBaudrate)) ++
    htmlConfigBody3

/-! ## What a browser finds -/

variable {name : List UInt8} {ss : List Select} {s : Select}

theorem tagsFrom_optionText (hmark : 0x27 ∉ name) (hless : 0x3c ∉ name) (selected : Bool) :
    tagsFrom .text (optionText name selected) =
      [bytes "option value='" ++ (name ++ 0x27 :: if selected then bytes " selected" else []),
        bytes "/option"] ∧ after .text (optionText name selected) = .text := by
  have hstart : tagsFrom .text (bytes "<option value='") = [] ∧
      after .text (bytes "<option value='") = .quoted 0x27 (bytes "option value='").reverse := by
    decide +kernel
  have hend : tagsFrom .text (bytes "</option>") = [bytes "/option"] ∧
      after .text (bytes "</option>") = .text := by
    decide +kernel
  have hclose (read : List UInt8) :
      tagsFrom (.quoted 0x27 read) (bytes (if selected then "' selected>" else "'>")) =
        [read.reverse ++ 0x27 :: if selected then bytes " selected" else []] ∧
      after (.quoted 0x27 read) (bytes (if selected then "' selected>" else "'>")) = .text := by
    have hopen : bytes "' selected>" = [0x27, 0x20, 0x73, 0x65, 0x6c, 0x65, 0x63, 0x74, 0x65, 0x64,
        0x3e] ∧ bytes "'>" = [0x27, 0x3e] ∧
        bytes " selected" = [0x20, 0x73, 0x65, 0x6c, 0x65, 0x63, 0x74, 0x65, 0x64] := by
      decide +kernel
    cases selected <;> simp [hopen, tagsFrom, after, Mode.read]
  have htext : optionText name selected = bytes "<option value='" ++ (name ++
      (bytes (if selected then "' selected>" else "'>") ++ (name ++ bytes "</option>"))) := by
    cases selected <;> simp [optionText]
  rw [htext]
  simp only [tagsFrom_append, after_append, hstart, read_quoted hmark, hclose, read_text hless,
    hend, List.reverse_append, List.reverse_reverse, List.nil_append, List.append_assoc,
    List.cons_append, and_self]

/-- The options that are sent are added to the last element. -/
theorem foldl_readTag_options {α : Type} {text : α → List UInt8} (selected : α → Bool)
    {options : List α} (h : ∀ a ∈ options, 0x27 ∉ text a ∧ 0x3c ∉ text a) :
    (tagsFrom .text (options.flatMap fun a => optionText (text a) (selected a))).foldl readTag
        (ss ++ [s]) =
      ss ++ [{ s with options := s.options ++ options.map fun a => ⟨text a, selected a⟩ }] ∧
    after .text (options.flatMap fun a => optionText (text a) (selected a)) = .text := by
  induction options generalizing s with
  | nil => exact ⟨by rw [List.map_nil, List.append_nil]; rfl, rfl⟩
  | cons a options ih =>
    obtain ⟨⟨hmark, hless⟩, hoptions⟩ := List.forall_mem_cons.1 h
    obtain ⟨htags, hafter⟩ := tagsFrom_optionText hmark hless (selected a)
    have hselected : decide ((if selected a then bytes " selected" else []) = bytes " selected") =
        selected a := by
      cases selected a <;> decide +kernel
    have hother : readTag (addOption ⟨text a, selected a⟩ (ss ++ [s])) (bytes "/option") =
        addOption ⟨text a, selected a⟩ (ss ++ [s]) := rfl
    rw [List.flatMap_cons, tagsFrom_append, after_append, htags, hafter, List.foldl_append,
      List.foldl_cons, List.foldl_cons, List.foldl_nil, readTag_option hmark, hselected, hother,
      addOption_append, List.map_cons]
    obtain ⟨ih, hend⟩ := @ih { s with options := s.options ++ [⟨text a, selected a⟩] } hoptions
    refine ⟨ih.trans ?_, hend⟩
    rw [List.append_assoc]
    rfl

theorem equals_iff {s t : List UInt8} (h : (0 : UInt8) ∉ s) : equals s t = decide (s = t) := by
  rw [equals, decide_eq_decide, RidenConfig.nulString_of_notMem h]
  constructor
  · rintro ⟨hlength, heq⟩
    have hprefix : s <+: t := heq ▸ List.takeWhile_prefix _
    exact hprefix.eq_of_length hlength
  · rintro rfl
    exact ⟨rfl, (RidenConfig.nulString_of_notMem h).symm⟩

/-- A part of the page opens these elements, without options. -/
def Opens (part : List UInt8) (ss : List Select) : Prop :=
  (∀ tag ∈ tagsFrom .text part, valueAfter (bytes "option value='") tag = none) ∧
    opened (tagsFrom .text part) = ss ∧ after .text part = .text

instance (part : List UInt8) (ss : List Select) : Decidable (Opens part ss) :=
  inferInstanceAs (Decidable (_ ∧ _ ∧ _))

theorem opens_htmlConfigBody1 : Opens htmlConfigBody1 [⟨bytes "timezone", []⟩] := by
  decide +kernel

theorem opens_htmlConfigBody2 : Opens htmlConfigBody2 [⟨bytes "uart_baudrate", []⟩] := by
  decide +kernel

theorem opens_htmlConfigBody3 : Opens htmlConfigBody3 [] := by
  decide +kernel

theorem Opens.foldl_readTag {part : List UInt8} {opened : List Select} (h : Opens part opened)
    (ss : List Select) : (tagsFrom .text part).foldl readTag ss = ss ++ opened := by
  rw [Html.foldl_readTag h.1, h.2.1]

theorem forall_uartBaudrates {p : UInt32 → Prop} [DecidablePred p]
    (h : uartBaudrates.all (fun rate => p rate)) : ∀ rate ∈ uartBaudrates, p rate :=
  fun rate hrate => of_decide_eq_true (List.all_eq_true.1 h rate hrate)

/-- The browser finds the two elements, with what is configured selected. -/
theorem selects_handleConfigGet {timezones : List Timezone} (h : TimezoneTable timezones)
    (config : RidenConfig) : selects (handleConfigGet timezones config) =
      [offering (timezones.map Timezone.name) config.tzName (bytes "timezone") id,
        offering uartBaudrates config.uartBaudrate (bytes "uart_baudrate") optionString] := by
  have hbaud : ∀ option ∈ uartBaudrates, 0x27 ∉ optionString option ∧
      0x3c ∉ optionString option :=
    forall_uartBaudrates (by decide +kernel)
  obtain ⟨htz, htzend⟩ := @foldl_readTag_options [] ⟨bytes "timezone", []⟩ _ Timezone.name
    (fun timezone => equals timezone.name config.tzName) timezones h.clean
  obtain ⟨hrate, hrateend⟩ := @foldl_readTag_options
    [offering (timezones.map Timezone.name) config.tzName (bytes "timezone") id]
    ⟨bytes "uart_baudrate", []⟩ _ optionString (· = config.uartBaudrate) uartBaudrates hbaud
  have hequals : (timezones.map fun timezone => Item.mk timezone.name
      (equals timezone.name config.tzName)) = (timezones.map Timezone.name).map fun name =>
        ⟨name, decide (name = config.tzName)⟩ := by
    rw [List.map_map]
    refine List.map_congr_left fun timezone hmem => ?_
    rw [equals_iff (h.fits timezone hmem).1]
    rfl
  rw [selects, handleConfigGet]
  simp only [tagsFrom_append, after_append, List.foldl_append, opens_htmlConfigBody1.2.2, htzend,
    opens_htmlConfigBody2.2.2, hrateend, opens_htmlConfigBody1.foldl_readTag,
    opens_htmlConfigBody2.foldl_readTag, opens_htmlConfigBody3.foldl_readTag, htz]
  rw [hequals]
  exact (List.append_nil _).trans hrate

/-! ## What it submits -/

/-- A visit to the page: the options that the user clicks, what `EEPROM.commit` returns
    when the form is submitted, and the stack on which `commit` fills in its struct. -/
structure Visit where
  timezone : Option ℕ
  uartBaudrate : Option ℕ
  committed : Bool
  stack : Memory

/-- The POST of the form on the page. -/
def Visit.post (visit : Visit) (page : List UInt8) : ConfigPost :=
  let form := submit (selects page) fun name =>
    if name = bytes "timezone" then visit.timezone else visit.uartBaudrate
  { timezone := form.lookup (bytes "timezone")
    uartBaudrate := form.lookup (bytes "uart_baudrate")
    committed := visit.committed
    stack := visit.stack }

/-- What the user has configured with the visit. -/
def Visit.configured (visit : Visit) (timezones : List Timezone) (config : RidenConfig) :
    RidenConfig :=
  { config with
    tzName := (pick (timezones.map Timezone.name) config.tzName visit.timezone).getD []
    uartBaudrate := (pick uartBaudrates config.uartBaudrate visit.uartBaudrate).getD 0 }

variable {timezones : List Timezone}

theorem post_handleConfigGet (h : TimezoneTable timezones) (config : RidenConfig) (visit : Visit) :
    visit.post (handleConfigGet timezones config) =
      { timezone := pick (timezones.map Timezone.name) config.tzName visit.timezone
        uartBaudrate :=
          (pick uartBaudrates config.uartBaudrate visit.uartBaudrate).map optionString
        committed := visit.committed
        stack := visit.stack } := by
  have hne : bytes "timezone" ≠ bytes "uart_baudrate" := by decide +kernel
  have hnodup : ([offering (timezones.map Timezone.name) config.tzName (bytes "timezone") id,
      offering uartBaudrates config.uartBaudrate (bytes "uart_baudrate") optionString].map
        Select.name).Nodup :=
    List.nodup_cons.2 ⟨by simpa [offering] using hne, List.nodup_singleton _⟩
  have htz := lookup_submit hnodup List.mem_cons_self fun name =>
    if name = bytes "timezone" then visit.timezone else visit.uartBaudrate
  have hrate := lookup_submit hnodup (List.mem_cons_of_mem _ (List.mem_singleton_self _))
    fun name => if name = bytes "timezone" then visit.timezone else visit.uartBaudrate
  rw [value_offering, Option.map_id, offering, if_pos rfl] at htz
  rw [value_offering, offering, if_neg hne.symm] at hrate
  rw [Visit.post, selects_handleConfigGet h]
  exact congrArg₂ (ConfigPost.mk · · visit.committed visit.stack) htz hrate

/-- The text of a baud rate that is offered is converted back to it. -/
theorem ofNat_strtoull_optionString {rate : UInt32} (h : rate ∈ uartBaudrates) :
    UInt32.ofNat (strtoull (optionString rate)) = rate := by
  have hall : ∀ rate ∈ uartBaudrates, numberOf (optionString rate) = some (rate.toNat : ℤ) :=
    forall_uartBaudrates (by decide +kernel)
  exact ofNat_strtoull_of_mem (hall rate h)

theorem uartBaudrates_ne_nil : uartBaudrates ≠ [] := by decide

theorem posted_visit (h : TimezoneTable timezones) (page : ConfigPage) (visit : Visit) :
    (handleConfigPost page (visit.post (handleConfigGet timezones page.config))).config =
      visit.configured timezones page.config := by
  obtain ⟨rate, hrate⟩ := exists_pick uartBaudrates_ne_nil page.config.uartBaudrate
    visit.uartBaudrate
  rw [post_handleConfigGet h, handleConfigPost, Visit.configured, hrate]
  dsimp only [arg, Option.map_some, Option.getD_some]
  rw [ofNat_strtoull_optionString (mem_of_pick hrate)]
  rfl

/-- The page offers what is configured. -/
def Shown (timezones : List Timezone) (config : RidenConfig) : Prop :=
  config.tzName ∈ timezones.map Timezone.name ∧ config.uartBaudrate ∈ uartBaudrates

theorem shown_configured (h : TimezoneTable timezones) (config : RidenConfig) (visit : Visit) :
    Shown timezones (visit.configured timezones config) := by
  obtain ⟨name, hname⟩ := exists_pick h.names_ne_nil config.tzName visit.timezone
  obtain ⟨rate, hrate⟩ := exists_pick uartBaudrates_ne_nil config.uartBaudrate visit.uartBaudrate
  rw [Visit.configured, hname, hrate]
  exact ⟨mem_of_pick hname, mem_of_pick hrate⟩

theorem configured_untouched_iff (h : TimezoneTable timezones) (config : RidenConfig) {visit : Visit}
    (htz : visit.timezone = none) (hrate : visit.uartBaudrate = none) :
    visit.configured timezones config = config ↔ Shown timezones config := by
  obtain ⟨name, hname⟩ := exists_pick h.names_ne_nil config.tzName none
  obtain ⟨rate, hpick⟩ := exists_pick uartBaudrates_ne_nil config.uartBaudrate none
  rw [Shown, ← pick_none_eq_some_iff, ← pick_none_eq_some_iff, Visit.configured, htz, hrate, hname,
    hpick, Option.some_inj, Option.some_inj]
  constructor
  · intro heq
    exact ⟨congrArg RidenConfig.tzName heq, congrArg RidenConfig.uartBaudrate heq⟩
  · rintro ⟨rfl, rfl⟩
    rfl

/-- The configuration page after the form is submitted. -/
def visited (timezones : List Timezone) (page : ConfigPage) (visit : Visit) : ConfigPage :=
  handleConfigPost page (visit.post (handleConfigGet timezones page.config))

/-- **The form.** What the user has clicked is configured. What was not clicked stays as it
    is if the page offers it, and becomes the first option otherwise: the timezone of a new
    dongle, which is empty, becomes `Unset`. So submitting the form as it is changes nothing
    exactly if the page offers what is configured, and this is so after any visit. -/
theorem config_visited (h : TimezoneTable timezones) (page : ConfigPage) (visit : Visit) :
    (visited timezones page visit).config = visit.configured timezones page.config ∧
    (visit.timezone = none → visit.uartBaudrate = none →
      ((visited timezones page visit).config = page.config ↔ Shown timezones page.config)) ∧
    ∀ again : Visit, again.timezone = none → again.uartBaudrate = none →
      (visited timezones (visited timezones page visit) again).config =
        (visited timezones page visit).config := by
  have hconfig (page : ConfigPage) (visit : Visit) :
      (visited timezones page visit).config = visit.configured timezones page.config :=
    posted_visit h page visit
  refine ⟨hconfig page visit, fun htz hrate => ?_, fun again htz hrate => ?_⟩
  · rw [hconfig]
    exact configured_untouched_iff h page.config htz hrate
  · rw [hconfig, hconfig]
    exact (configured_untouched_iff h _ htz hrate).2 (shown_configured h page.config visit)

/-- Three rows of the table. -/
def threeTimezones : List Timezone :=
  [⟨bytes "Unset", []⟩, ⟨bytes "Africa/Abidjan", bytes "GMT0"⟩,
    ⟨bytes "Etc/UTC", bytes "UTC0"⟩]

theorem timezoneTable_three : TimezoneTable threeTimezones where
  clean := by decide +kernel
  fits := by decide +kernel
  nodup := by decide +kernel
  unset := ⟨_, _, rfl, rfl⟩

/-- The user selects a timezone on a new dongle. -/
theorem config_visited_new :
    (visited threeTimezones ⟨{}, fun _ => 0, none⟩ ⟨some 2, none, true, fun _ => 0⟩).config =
      Visit.configured ⟨some 2, none, true, fun _ => 0⟩ threeTimezones {} ∧
    ((some 2 : Option ℕ) = none → (none : Option ℕ) = none →
      ((visited threeTimezones ⟨{}, fun _ => 0, none⟩ ⟨some 2, none, true, fun _ => 0⟩).config =
        {} ↔ Shown threeTimezones {})) ∧
    ∀ again : Visit, again.timezone = none → again.uartBaudrate = none →
      (visited threeTimezones
        (visited threeTimezones ⟨{}, fun _ => 0, none⟩ ⟨some 2, none, true, fun _ => 0⟩)
        again).config =
        (visited threeTimezones ⟨{}, fun _ => 0, none⟩ ⟨some 2, none, true, fun _ => 0⟩).config :=
  config_visited timezoneTable_three ⟨{}, fun _ => 0, none⟩ ⟨some 2, none, true, fun _ => 0⟩

end RidenHttpServer

end RidenDongle
