import RidenDongle.Http.Control
import RidenDongle.Http.Polling
import RidenDongle.Json.Number

/-!
# The text of the status

The body that `handle_status_get` sends, and what the web page that polls it makes of
it.

* `statusText`: the text, over what `String(x, digits)` gives (`NumberFormat`).
* `parse_statusText`: it is a JSON text, of the members in `statusJson`.
* `handleStatusGet_reports`: what the members say about the registers of the power supply,
  if it answers with them.
* `stalled_iff_rejected`: a page that polls the dongle stalls by a rejected request, and
  never by what the dongle sends.

The numbers are exact here, but for the divisions.
-/

namespace RidenDongle

open Json

/-! ## Numbers as text -/

/-- What `String(x, digits)` gives, for at least one digit: the spelling of a number with
    so many places that is nearest to `x`. -/
structure NumberFormat where
  text : ℚ → ℕ → String
  spelled : ∀ (x : ℚ) (digits : ℕ), 0 < digits → Spelled (text x digits).toList
  rounds : ∀ (x : ℚ) (digits : ℕ), 0 < digits → ∃ k : ℤ, |x * 10 ^ digits - k| ≤ 1 / 2 ∧
    rational (text x digits).toList = some ((k : ℚ) / 10 ^ digits)

namespace NumberFormat

variable (fmt : NumberFormat)

/-- Halves are rounded away from zero. -/
def halfUp : NumberFormat where
  text x digits := String.ofList (Json.halfUp x digits)
  spelled x digits hdigits := by
    rw [String.toList_ofList]
    exact spelled_halfUp x hdigits
  rounds x digits hdigits := by
    rw [String.toList_ofList]
    exact exists_rational_halfUp x hdigits

variable {x : ℚ}

/-- Where only one number is nearest, the text spells it. -/
theorem rational_text {digits : ℕ} (hdigits : 0 < digits) {k : ℤ}
    (hk : |x * 10 ^ digits - k| < 1 / 2) :
    rational (fmt.text x digits).toList = some ((k : ℚ) / 10 ^ digits) := by
  obtain ⟨k', hk', hrational⟩ := fmt.rounds x digits hdigits
  have hlt : |((k' - k : ℤ) : ℚ)| < 1 := by
    rw [abs_lt] at hk ⊢
    rw [abs_le] at hk'
    push_cast
    constructor <;> linarith [hk.1, hk.2, hk'.1, hk'.2]
  have hzero : k' - k = 0 := Int.abs_lt_one_iff.1 (by exact_mod_cast hlt)
  rw [hrational, show k' = k by omega]

/-- A number with no more places is spelled as it is. -/
theorem rational_text_of_eq {digits : ℕ} (hdigits : 0 < digits) {k : ℤ}
    (hk : x * 10 ^ digits = k) : rational (fmt.text x digits).toList = some x := by
  have hpow : (10 ^ digits : ℚ) ≠ 0 := by positivity
  rw [fmt.rational_text hdigits (by rw [hk, sub_self, abs_zero]; norm_num), ← hk,
    mul_div_cancel_right₀ x hpow]

/-- What is near to `k / 100` or `k / 1000` is spelled as this number. -/
theorem rational_text_near {m : ℚ} (hm : m = 100 ∨ m = 1000) {k : ℕ} (hk : k < 2 ^ 32)
    (hnear : RidenModbus.Near m k x) : rational (fmt.text x 3).toList = some (k / m) := by
  have hk' : (k : ℚ) < 2 ^ 32 := by exact_mod_cast hk
  rw [RidenModbus.Near] at hnear
  have hclose : |x - k / m| < 1 / 2000 := by
    refine hnear.trans_lt ?_
    have hmax : max 1 (k / m) ≤ 2 ^ 32 / 100 := by
      refine max_le (by norm_num) ?_
      rcases hm with rfl | rfl <;> linarith
    calc 1 / 2 ^ 40 * max 1 (k / m) ≤ 1 / 2 ^ 40 * (2 ^ 32 / 100) := by gcongr
      _ < 1 / 2000 := by norm_num
  obtain ⟨n, hn⟩ : ∃ n : ℕ, (n : ℚ) = 1000 / m := by
    rcases hm with rfl | rfl
    · exact ⟨10, by norm_num⟩
    · exact ⟨1, by norm_num⟩
  have hpos : m ≠ 0 := by rcases hm with rfl | rfl <;> norm_num
  have hscale : x * 10 ^ 3 - ((k * n : ℕ) : ℤ) = 1000 * (x - k / m) := by
    push_cast
    rw [hn]
    field_simp
    ring
  rw [fmt.rational_text (by decide) (k := (k * n : ℕ))]
  · push_cast
    rw [hn]
    congr 1
    field_simp
    ring
  · rw [hscale, abs_mul, abs_of_pos (by norm_num : (0 : ℚ) < 1000)]
    linarith

/-- And with the other multiplier, it is spelled as one that is nearest. -/
theorem exists_rational_text_near {m : ℚ} (hm : RidenModbus.Multiplier m) {k : ℕ} (hk : k < 65536)
    (hnear : RidenModbus.Near m k x) : ∃ q, rational (fmt.text x 3).toList = some q ∧
      |q - k / m| < 1 / 1000 := by
  have hk' : (k : ℚ) < 65536 := by exact_mod_cast hk
  have hclose : |x - k / m| < 1 / 2000 := by
    refine hnear.trans_lt ?_
    have hmax : max 1 (k / m) ≤ 656 := by
      refine max_le (by norm_num) ?_
      rw [div_le_iff₀ hm.pos]
      linarith [hm.bounds.1]
    calc 1 / 2 ^ 40 * max 1 (k / m) ≤ 1 / 2 ^ 40 * 656 := by gcongr
      _ < 1 / 2000 := by norm_num
  obtain ⟨n, hn, hrational⟩ := fmt.rounds x 3 (by decide)
  refine ⟨_, hrational, ?_⟩
  rw [abs_lt] at hclose ⊢
  rw [abs_le] at hn
  constructor <;> linarith [hn.1, hn.2, hclose.1, hclose.2]

end NumberFormat

/-! ## The text -/

namespace RidenHttpServer

variable (fmt : NumberFormat)

/-- `String(b ? "true" : "false")`. -/
def truthText (b : Bool) : String := if b then "true" else "false"

/-- The text that `handle_status_get` puts together. -/
def statusText (status : Status) : String :=
  "\x7b" ++
    "\"out_on\": " ++ truthText status.outOn ++
    ",\"set_v\": " ++ fmt.text status.setV 3 ++
    ",\"set_c\": " ++ fmt.text status.setC 3 ++
    ",\"out_v\": " ++ fmt.text status.outV 3 ++
    ",\"out_c\": " ++ fmt.text status.outC 3 ++
    ",\"batt_mode\": " ++ truthText status.battMode ++
    ",\"cvmode\": " ++ truthText status.cvMode ++
    ",\"prot\": \"" ++ status.prot ++ "\"" ++
    ",\"batt_v\": " ++ fmt.text status.battV 3 ++
    status.extTC.elim ",\"ext_t_c\": null" (fun x => ",\"ext_t_c\": " ++ fmt.text x 2) ++
    ",\"int_t_c\": " ++ fmt.text status.intTC 2 ++
    ",\"ah\": " ++ fmt.text status.ah 3 ++
    ",\"wh\": " ++ fmt.text status.wh 3 ++
    ",\"max_v\": " ++ fmt.text status.maxV 3 ++
    ",\"max_c\": " ++ fmt.text status.maxC 3 ++
  "\x7d"

/-- The text of a reply. -/
def content (reply : Reply) : String :=
  match reply.body with
  | .text content => content
  | .status content => statusText fmt content

def numeral (x : ℚ) (digits : ℕ) : Json (List Char) := .number (fmt.text x digits).toList

/-- The members of the text. -/
def statusMembers (status : Status) : List (String × Json (List Char)) :=
  [("out_on", .bool status.outOn),
    ("set_v", numeral fmt status.setV 3),
    ("set_c", numeral fmt status.setC 3),
    ("out_v", numeral fmt status.outV 3),
    ("out_c", numeral fmt status.outC 3),
    ("batt_mode", .bool status.battMode),
    ("cvmode", .bool status.cvMode),
    ("prot", .string status.prot),
    ("batt_v", numeral fmt status.battV 3),
    ("ext_t_c", status.extTC.elim .null fun x => numeral fmt x 2),
    ("int_t_c", numeral fmt status.intTC 2),
    ("ah", numeral fmt status.ah 3),
    ("wh", numeral fmt status.wh 3),
    ("max_v", numeral fmt status.maxV 3),
    ("max_c", numeral fmt status.maxC 3)]

def statusJson (status : Status) : Json (List Char) := .object (statusMembers fmt status)

variable {fmt} {status : Status}

theorem print_bool (b : Bool) : print (.bool b) = (truthText b).toList := by
  cases b <;> rfl

set_option maxRecDepth 2000 in
/-- The text is the printed object: none of its strings has to be escaped. -/
theorem toList_statusText (hprot : Plain status.prot.toList) :
    (statusText fmt status).toList = print (statusJson fmt status) := by
  obtain ⟨outOn, setV, setC, outV, outC, battMode, cvMode, prot, battV, extTC, intTC, ah, wh, maxV,
    maxC⟩ := status
  have hquote : quote prot.toList = '"' :: prot.toList ++ ['"'] := Plain.quote hprot
  delta statusText
  cases extTC
  all_goals
    simp (disch := decide) only [statusJson, statusMembers, numeral, print_object, print_null,
      print_number, print_string, print_bool, printMembers_cons, hquote, List.isEmpty_cons,
      List.isEmpty_nil, Option.elim_none, Option.elim_some, Bool.false_eq_true, if_true, if_false,
      String.toList_append, List.append_assoc, List.cons_append, List.nil_append]
    rfl

theorem valid_statusJson : Valid (statusJson fmt status) := by
  have hnumeral (x : ℚ) (digits : ℕ) (hdigits : 0 < digits) : Valid (numeral fmt x digits) :=
    fmt.spelled x digits hdigits
  have hnames : (statusMembers fmt status).map Prod.fst = ["out_on", "set_v", "set_c", "out_v",
      "out_c", "batt_mode", "cvmode", "prot", "batt_v", "ext_t_c", "int_t_c", "ah", "wh", "max_v",
      "max_c"] := rfl
  refine ⟨by rw [hnames]; decide, ?_⟩
  cases hext : status.extTC with
  | none =>
    simp (disch := decide) only [statusMembers, hext, ValidMembers, hnumeral, Option.elim_none]
    simp [Valid]
  | some x =>
    simp (disch := decide) only [statusMembers, hext, ValidMembers, hnumeral, Option.elim_some]
    simp [Valid]

theorem parse_statusText (hprot : Plain status.prot.toList) :
    parse (statusText fmt status).toList = some (statusJson fmt status) := by
  rw [toList_statusText hprot]
  exact parse_print valid_statusJson

/-! ## What it says about the power supply -/

/-- The member is a number, which spells `x`. -/
def Spells (member : Option (Json (List Char))) (x : ℚ) : Prop :=
  ∃ n, member = some (.number n) ∧ rational n = some x

/-- The members say what is in the registers: the voltages and temperatures, the counters
    and the limits as they are, and the currents to the third place. -/
structure Reports (s : RidenModbus) (registers : ℕ → ℕ) (ps : List (String × Json (List Char))) :
    Prop where
  outOn : ps.lookup "out_on" = some (.bool (registers Register.output != 0))
  voltages : ∀ m ∈ [("set_v", RidenModbus.Register.voltageSet), ("out_v", Register.voltageOut),
      ("batt_v", Register.voltageBattery)],
    Spells (ps.lookup m.1) (registers m.2 / s.vMulti)
  currents : ∀ m ∈ [("set_c", RidenModbus.Register.currentSet),
      ("out_c", Register.currentOut)],
    ∃ x, Spells (ps.lookup m.1) x ∧ |x - registers m.2 / s.iMulti| < 1 / 1000 ∧
      (s.iMulti ≠ 10000 → x = registers m.2 / s.iMulti)
  battMode : ps.lookup "batt_mode" = some (.bool (registers Register.batteryMode != 0))
  cvMode : ps.lookup "cvmode" = some (.bool (decide (registers Register.outputMode = 0)))
  prot : ps.lookup "prot" = some (.string
    (if registers Register.protection = 1 then "OVP"
      else if registers Register.protection = 2 then "OCP" else "None"))
  probe : if RidenModbus.getProbeTemperatureCelsius.on registers < -50 then
      ps.lookup "ext_t_c" = some .null
    else Spells (ps.lookup "ext_t_c") (RidenModbus.getProbeTemperatureCelsius.on registers)
  system : Spells (ps.lookup "int_t_c") (RidenModbus.getSystemTemperatureCelsius.on registers)
  counters : ∀ m ∈ [("ah", Register.ahH), ("wh", Register.whH)],
    Spells (ps.lookup m.1) ((registers m.2 * 2 ^ 16 + registers (m.2 + 1) : ℕ) / 1000)
  limits : Spells (ps.lookup "max_v") s.vMax ∧ Spells (ps.lookup "max_c") s.iMax

variable {div : ℚ → ℚ → ℚ} {s : RidenModbus} {registers : ℕ → ℕ} {t : Transfers}
  {locals : ℕ → ℕ} {all : AllValues}

/-- The values that `get_all_values` decodes for the status. -/
def statusValues (div : ℚ → ℚ → ℚ) (s : RidenModbus) (registers : ℕ → ℕ) : AllValues :=
  (s.getAllValues div true).decode ((List.range (Register.subsetEnd + 1)).map registers)

/-- No read of a chunk of the status is answered by an exception. -/
def NoException (t : Transfers) : Prop :=
  ∀ k, 20 * k ≤ Register.subsetEnd → t.status (20 * k) ≠ .exception

theorem handleStatusGet_eq (h : StatusRead t) (hstored : NoException t) :
    handleStatusGet div s true registers t.status locals all =
      ⟨200, "application/json", .status (toStatus s (statusValues div s registers))⟩ := by
  have hresult := (@getAllValuesInto_subset_iff div s registers t locals all).2 h
  have hvalues : (List.range (Register.subsetEnd + 1)).map
      (readChunks registers t.status (RidenModbus.totalNofRegs true) 0 locals).values =
        (List.range (Register.subsetEnd + 1)).map registers := by
    refine List.map_congr_left fun k hk => ?_
    have hk' : 20 * (k / 20) ≤ Register.subsetEnd :=
      (Nat.mul_div_le k 20).trans (Nat.le_of_lt_succ (List.mem_range.1 hk))
    rw [RidenModbus.values_of_result hresult]
    exact if_pos ⟨List.mem_range.1 hk, (Exchange.result_iff (hstored _ hk')).1 (h _ hk')⟩
  rw [handleStatusGet_of_statusRead h, RidenModbus.getAllValuesInto_of_result hresult]
  change Reply.mk 200 "application/json" (.status (toStatus s ((s.getAllValues div true).decode
    ((List.range (Register.subsetEnd + 1)).map _)))) = _
  rw [hvalues]
  rfl

theorem plain_protectionToString (p : Protection) : Plain (protectionToString p).toList := by
  cases p <;> decide

/-- The text of a status is an object with its members, whatever they say. -/
theorem exists_parse_content (h : StatusRead t) : ∃ v,
    parse (content fmt (handleStatusGet div s true registers t.status locals all)).toList =
      some (statusJson fmt (toStatus s v)) := by
  rw [handleStatusGet_of_statusRead h]
  exact ⟨_, parse_statusText (plain_protectionToString _)⟩

theorem parse_content (h : StatusRead t) (hstored : NoException t) :
    parse (content fmt (handleStatusGet div s true registers t.status locals all)).toList =
      some (statusJson fmt (toStatus s (statusValues div s registers))) := by
  rw [handleStatusGet_eq h hstored]
  exact parse_statusText (plain_protectionToString _)

theorem lookup_probe (v : AllValues) : (statusMembers fmt (toStatus s v)).lookup "ext_t_c" =
    some (if v.probeTemperatureCelsius < -50 then .null
      else numeral fmt v.probeTemperatureCelsius 2) := by
  change some ((if v.probeTemperatureCelsius < -50 then none
    else some v.probeTemperatureCelsius).elim .null fun x => numeral fmt x 2) = _
  split_ifs <;> rfl

/-- Multipliers and limits of the power supplies that `begin` accepts. -/
theorem limits_of_begin {id : ℕ} (h : RidenModbus.begin id = some s) :
    (s.vMulti = 100 ∨ s.vMulti = 1000) ∧ (∃ k : ℤ, s.vMax * 10 ^ 3 = k) ∧
      ∃ k : ℤ, s.iMax * 10 ^ 3 = k := by
  unfold RidenModbus.begin at h
  have hv : ∃ k : ℤ, (601 / 10 : ℚ) * 10 ^ 3 = k := ⟨60100, by norm_num⟩
  split_ifs at h <;> obtain rfl := Option.some.inj h
  · exact ⟨.inl rfl, hv, 18100, by norm_num⟩
  · exact ⟨.inl rfl, hv, 12100, by norm_num⟩
  · exact ⟨.inr rfl, hv, 12100, by norm_num⟩
  · exact ⟨.inl rfl, hv, 6000, by norm_num⟩
  · exact ⟨.inr rfl, hv, 6000, by norm_num⟩
  · exact ⟨.inl rfl, hv, 30100, by norm_num⟩
  · exact ⟨.inl rfl, hv, 24100, by norm_num⟩

/-- A temperature is a whole number. -/
theorem temperature_scaled (values : List ℕ) (k : ℕ) :
    ∃ z : ℤ, RidenModbus.valuesToTemperature values k * 10 ^ 2 = z := by
  refine ⟨(if RidenModbus.valueAt values k = 0 then 1 else -1) *
    RidenModbus.valueAt values (k + 1) * 100, ?_⟩
  rw [RidenModbus.valuesToTemperature]
  push_cast
  norm_num

section

variable (hregisters : ∀ k, registers k < 65536)

theorem valueAt_status {k : ℕ} (hk : k < 43) : RidenModbus.valueAt
    ((List.range (Register.subsetEnd + 1)).map registers) k = registers k :=
  RidenModbus.valueAt_map hk

include hregisters

theorem spells_voltage (hv : s.vMulti = 100 ∨ s.vMulti = 1000) (hdiv : RidenModbus.Rounded div)
    (k : ℕ) : Spells (some (numeral fmt (s.valueToVoltage div (registers k)) 3))
      (registers k / s.vMulti) := by
  have hm : RidenModbus.Multiplier s.vMulti := hv.elim .inl fun h => .inr (.inl h)
  exact ⟨_, rfl, fmt.rational_text_near hv ((hregisters k).trans (by decide))
    (hdiv _ hm _ (hregisters k))⟩

theorem spells_current (hi : RidenModbus.Multiplier s.iMulti) (hdiv : RidenModbus.Rounded div)
    (k : ℕ) : ∃ x, Spells (some (numeral fmt (s.valueToCurrent div (registers k)) 3)) x ∧
      |x - registers k / s.iMulti| < 1 / 1000 ∧
      (s.iMulti ≠ 10000 → x = registers k / s.iMulti) := by
  have hnear := hdiv _ hi _ (hregisters k)
  obtain ⟨x, hx, hclose⟩ := fmt.exists_rational_text_near hi (hregisters k) hnear
  refine ⟨x, ⟨_, rfl, hx⟩, hclose, fun hne => ?_⟩
  have hexact := fmt.rational_text_near (hi.imp_right fun h => h.resolve_right hne)
    ((hregisters k).trans (by decide)) hnear
  exact Option.some.inj (hx.symm.trans hexact)

theorem spells_counter (hlong : ∀ k < 2 ^ 32, RidenModbus.Near 1000 k (div k 1000)) {k : ℕ}
    (hk : k + 1 < 43) :
    Spells (some (numeral fmt (div (RidenModbus.longAt
        ((List.range (Register.subsetEnd + 1)).map registers) k : ℕ) 1000) 3))
      ((registers k * 2 ^ 16 + registers (k + 1) : ℕ) / 1000) := by
  have hhigh := hregisters k
  have hlow := hregisters (k + 1)
  have hlong' : RidenModbus.longAt ((List.range (Register.subsetEnd + 1)).map registers) k =
      registers k * 2 ^ 16 + registers (k + 1) := by
    rw [RidenModbus.longAt_map hk, Nat.mod_eq_of_lt (by omega)]
  have hlt : registers k * 2 ^ 16 + registers (k + 1) < 2 ^ 32 := by omega
  rw [hlong']
  exact ⟨_, rfl, fmt.rational_text_near (.inr rfl) hlt (hlong _ hlt)⟩

end

theorem reports_statusMembers {id : ℕ} (hs : RidenModbus.begin id = some s)
    (hdiv : RidenModbus.Rounded div)
    (hlong : ∀ k < 2 ^ 32, RidenModbus.Near 1000 k (div k 1000))
    (hregisters : ∀ k, registers k < 65536) :
    Reports s registers (statusMembers fmt (toStatus s (statusValues div s registers))) := by
  obtain ⟨hv, ⟨kv, hkv⟩, ki, hki⟩ := limits_of_begin hs
  have hi := (RidenModbus.multiplier_of_begin hs).2
  have hprobe := @RidenModbus.on_readTemperature (Register.subsetEnd + 1) registers
    Register.probeTemperatureCelsiusSign (by decide)
  have hsystem := @RidenModbus.on_readTemperature (Register.subsetEnd + 1) registers
    Register.systemTemperatureCelsiusSign (by decide)
  have htemperature (k : ℕ) := temperature_scaled
    ((List.range (Register.subsetEnd + 1)).map registers) k
  exact
    { outOn := by
        change some (Json.bool (RidenModbus.valueAt _ Register.output != 0)) = _
        rw [valueAt_status (by decide)]
      voltages := by
        have hspells {k : ℕ} (hk : k < 43) : Spells (some (numeral fmt (s.valueToVoltage div
            (RidenModbus.valueAt ((List.range (Register.subsetEnd + 1)).map registers) k)) 3))
            (registers k / s.vMulti) := by
          rw [valueAt_status hk]
          exact spells_voltage hregisters hv hdiv k
        simp only [List.forall_mem_cons, List.not_mem_nil, false_imp_iff, implies_true, and_true]
        exact ⟨hspells (by decide), hspells (by decide), hspells (by decide)⟩
      currents := by
        have hspells {k : ℕ} (hk : k < 43) : ∃ x, Spells (some (numeral fmt (s.valueToCurrent div
            (RidenModbus.valueAt ((List.range (Register.subsetEnd + 1)).map registers) k)) 3)) x ∧
            |x - registers k / s.iMulti| < 1 / 1000 ∧
            (s.iMulti ≠ 10000 → x = registers k / s.iMulti) := by
          rw [valueAt_status hk]
          exact spells_current hregisters hi hdiv k
        simp only [List.forall_mem_cons, List.not_mem_nil, false_imp_iff, implies_true, and_true]
        exact ⟨hspells (by decide), hspells (by decide)⟩
      battMode := by
        change some (Json.bool (RidenModbus.valueAt _ Register.batteryMode != 0)) = _
        rw [valueAt_status (by decide)]
      cvMode := by
        change some (Json.bool (decide (RidenModbus.valueToOutputMode
          (RidenModbus.valueAt _ Register.outputMode) = .constantVoltage))) = _
        rw [valueAt_status (by decide)]
        rcases registers Register.outputMode with _ | _ | n <;> rfl
      prot := by
        change some (Json.string (protectionToString (RidenModbus.valueToProtection
          (RidenModbus.valueAt _ Register.protection)))) = _
        rw [valueAt_status (by decide)]
        rcases registers Register.protection with _ | _ | _ | n <;> rfl
      probe := by
        rw [RidenModbus.getProbeTemperatureCelsius, hprobe]
        obtain ⟨z, hz⟩ := htemperature Register.probeTemperatureCelsiusSign
        rw [lookup_probe]
        change if RidenModbus.valuesToTemperature _ _ < -50 then
          some (if RidenModbus.valuesToTemperature _ _ < -50 then _ else _) = _ else
          Spells (some (if RidenModbus.valuesToTemperature _ _ < -50 then _ else _)) _
        split_ifs
        · rfl
        · exact ⟨_, rfl, fmt.rational_text_of_eq (by decide) hz⟩
      system := by
        rw [RidenModbus.getSystemTemperatureCelsius, hsystem]
        obtain ⟨z, hz⟩ := htemperature Register.systemTemperatureCelsiusSign
        exact ⟨_, rfl, fmt.rational_text_of_eq (by decide) hz⟩
      counters := by
        simp only [List.forall_mem_cons, List.not_mem_nil, false_imp_iff, implies_true, and_true]
        exact ⟨spells_counter hregisters hlong (by decide),
          spells_counter hregisters hlong (by decide)⟩
      limits := ⟨⟨_, rfl, fmt.rational_text_of_eq (by decide) hkv⟩, _, rfl,
        fmt.rational_text_of_eq (by decide) hki⟩ }

/-- **The status is what is in the registers.** The text of a reply with 200 is a JSON text,
    and its members say what the registers of the power supply hold, if it has answered no
    read with an exception. -/
theorem handleStatusGet_reports (fmt : NumberFormat) {id : ℕ}
    (hs : RidenModbus.begin id = some s) (hdiv : RidenModbus.Rounded div)
    (hlong : ∀ k < 2 ^ 32, RidenModbus.Near 1000 k (div k 1000))
    (hregisters : ∀ k, registers k < 65536) (connected : Bool) (t : Transfers)
    (hstored : NoException t) (locals : ℕ → ℕ) (all : AllValues) :
    let reply := handleStatusGet div s connected registers t.status locals all
    reply.code = 200 → reply.contentType = "application/json" ∧
      ∃ ps, parse (content fmt reply).toList = some (.object ps) ∧ Reports s registers ps := by
  intro reply hcode
  obtain ⟨rfl, hstatus⟩ := statusRead_of_code hcode
  exact ⟨congrArg Reply.contentType (handleStatusGet_eq hstatus hstored), _,
    parse_content hstatus hstored, reports_statusMembers hs hdiv hlong hregisters⟩

def rd6006 : RidenModbus := ⟨"RD6006", 601 / 10, 6, 100, 1000, 100, 100⟩

/-- The reply of a power supply whose first registers hold their own addresses. -/
def addressReply : Reply :=
  handleStatusGet (· / ·) rd6006 true (fun k => min k 119) (fun _ => .done) (fun _ => 0)
    (statusValues (· / ·) rd6006 fun _ => 0)

theorem handleStatusGet_reports_addresses :
    addressReply.contentType = "application/json" ∧
      ∃ ps, parse (content .halfUp addressReply).toList = some (.object ps) ∧
        Reports rd6006 (fun k => min k 119) ps := by
  have hs : RidenModbus.begin 60062 = some rd6006 := rfl
  have hlong : ∀ k < 2 ^ 32, RidenModbus.Near 1000 k ((k : ℚ) / 1000) := fun k _ => by
    rw [RidenModbus.Near, sub_self, abs_zero]
    positivity
  have hstatus : StatusRead ⟨.done, .done, fun _ => .done⟩ := fun _ _ => rfl
  have hstored : NoException ⟨.done, .done, fun _ => .done⟩ := fun _ _ h => by cases h
  exact handleStatusGet_reports .halfUp hs RidenModbus.rounded_exact hlong
    (fun k => (Nat.min_le_right k 119).trans_lt (by decide)) true ⟨.done, .done, fun _ => .done⟩
    hstored _ _ (congrArg Reply.code (handleStatusGet_of_statusRead hstatus))

/-! ## The page -/

variable {ν : Type} {b : Browser ν} {num : List Char → ν}

/-- The browser parses the texts that `Json.parse` does, with its own numbers. -/
def Conforms (b : Browser ν) (num : List Char → ν) : Prop :=
  ∀ text v, parse text.toList = some v → b.parse text = some (v.map num)

theorem lookup_numbers (fmt : NumberFormat) (status : Status) :
    ∀ name ∈ SetData.numbers true, ∃ n, (statusMembers fmt status).lookup name =
      some (.number n) := by
  simp only [SetData.numbers, if_true, List.cons_append, List.nil_append, List.forall_mem_cons,
    List.not_mem_nil, false_imp_iff, implies_true, and_true]
  exact ⟨⟨_, rfl⟩, ⟨_, rfl⟩, ⟨_, rfl⟩, ⟨_, rfl⟩, ⟨_, rfl⟩, ⟨_, rfl⟩, ⟨_, rfl⟩, ⟨_, rfl⟩, ⟨_, rfl⟩,
    _, rfl⟩

/-- The page can display a status. -/
theorem displays_statusJson (fmt : NumberFormat) (num : List Char → ν) (status : Status)
    (fullSet : Bool) {chart : Option Bool} (hchart : chart ≠ some false) :
    SetData.Displays ((statusJson fmt status).map num) fullSet chart := by
  have hlookup (name : String) : (mapProperties num (statusMembers fmt status)).lookup name =
      ((statusMembers fmt status).lookup name).map (Json.map num) := lookup_mapProperties ..
  refine ⟨fun name hname => ?_, ?_, hchart⟩
  · have hmem : name ∈ SetData.numbers true := by
      cases fullSet with
      | true => exact hname
      | false =>
        revert hname
        simp only [SetData.numbers]
        grind
    obtain ⟨n, hn⟩ := lookup_numbers fmt status name hmem
    exact ⟨_, num n, rfl, by rw [hlookup, hn]; rfl⟩
  · cases hext : status.extTC with
    | none =>
      refine .inl ⟨_, rfl, ?_⟩
      rw [hlookup]
      change some (Json.map num (status.extTC.elim .null _)) = _
      rw [hext]
      rfl
    | some x =>
      refine .inr ⟨_, num (fmt.text x 2).toList, rfl, ?_⟩
      rw [hlookup]
      change some (Json.map num (status.extTC.elim .null _)) = _
      rw [hext]
      rfl

end RidenHttpServer

namespace Polling

open RidenHttpServer

variable {ν : Type} {b : Browser ν} {num : List Char → ν} {p : Polling ν}

/-- The texts come from the dongle, in replies with 200, and the chart takes the points. -/
def FromDongle (fmt : NumberFormat) : Input → Prop
  | .text _ data chart => chart ≠ some false ∧ ∃ div s connected registers t locals all,
      let reply := handleStatusGet div s connected registers (Transfers.status t) locals all
      reply.code = 200 ∧ data = content fmt reply
  | _ => True

/-- No request that is outstanding is rejected. -/
def Kept (p : Polling ν) : Input → Prop
  | .reject n => p.requests[n]? = none
  | _ => True

theorem heard_iff (hb : Conforms b num) {fmt : NumberFormat} {i : Input} (hi : FromDongle fmt i) :
    p.Heard b i ↔ p.Kept i := by
  cases i with
  | tick | response | reject => exact Iff.rfl
  | text n data chart =>
    refine iff_of_true (fun fullSet _ => .inr ?_) trivial
    obtain ⟨hchart, div, s, connected, registers, t, locals, all, hcode, rfl⟩ := hi
    obtain ⟨rfl, hstatus⟩ := statusRead_of_code hcode
    obtain ⟨v, hv⟩ := exists_parse_content hstatus
    exact ⟨_, hb _ _ hv, displays_statusJson fmt num _ fullSet hchart⟩

/-- **What the dongle sends does not stall the page.** A page that polls the dongle makes no
    request any more at the end of a run exactly if a request was rejected on the way. -/
theorem stalled_iff_rejected (fmt : NumberFormat) (hb : Conforms b num) {is : List Input}
    (his : ∀ i ∈ is, FromDongle fmt i) :
    (Machine.run (Polling.step b) start is).Stalled ↔
      ¬Machine.Guarded (Polling.step b) Kept start is := by
  have hlost (p : Polling ν) (i : Input) (hp : ¬¬p.Stalled) : ¬¬(p.step b i).Stalled := by
    rw [(not_not.1 hp).step]
    exact hp
  have hstep (p : Polling ν) (i : Input) (hi : FromDongle fmt i) (h : p.Single) (hp : ¬p.Stalled) :
      ¬(p.step b i).Stalled ↔ p.Kept i := by
    rw [h.stalled_step_iff hp, not_not]
    exact heard_iff hb hi
  have hiff : ¬(Machine.run (Polling.step b) start is).Stalled ↔
      Machine.Guarded (Polling.step b) Kept start is :=
    Machine.run_iff_guarded (P := fun p => ¬p.Stalled) (fun _ i h => h.step i) hstep hlost
      single_start (fun hs => nomatch hs.tickDone) his
  rw [← hiff, not_not]

/-- The browser whose numbers are their spellings. -/
def spelling : Browser (List Char) where
  parse text := (parse text.toList).map (Json.map fun x => x)
  toFixed x _ := String.ofList x
  isZero x := rational x = some 0

/-- A page that gets one status, and whose next request is rejected. -/
theorem stalled_iff_rejected_second :
    (Machine.run (Polling.step spelling) start [.tick true false, .response 0 true,
        .text 0 (content .halfUp addressReply) none, .tick false false, .reject 0]).Stalled ↔
      ¬Machine.Guarded (Polling.step spelling) Kept start [.tick true false, .response 0 true,
        .text 0 (content .halfUp addressReply) none, .tick false false, .reject 0] := by
  have hconforms : Conforms spelling fun x => x := fun text v h => by
    change (parse text.toList).map _ = _
    rw [h]
    rfl
  have hstatus : StatusRead ⟨.done, .done, fun _ => .done⟩ := fun _ _ => rfl
  refine stalled_iff_rejected .halfUp hconforms fun i hi => ?_
  simp only [List.mem_cons, List.not_mem_nil, or_false] at hi
  rcases hi with rfl | rfl | rfl | rfl | rfl
  case inr.inr.inl =>
    exact ⟨nofun, _, _, _, _, ⟨.done, .done, fun _ => .done⟩, _, _,
      congrArg Reply.code (handleStatusGet_of_statusRead hstatus), rfl⟩
  all_goals trivial

end Polling

end RidenDongle
