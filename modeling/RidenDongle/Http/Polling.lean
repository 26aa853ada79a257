import RidenDongle.Json.Value
import RidenDongle.Machine.Run

/-!
# The polling of the status

The script of the web page that polls `/status` (`tick` and `set_data` in
`mockup.html`): the flag `tick_done`, and the promises of the requests.

* `setData_isOk_iff`: the bodies that `set_data` gets through.
* `always_polls_iff`: in which runs polling goes on, and why it does not in the others:
  `tick_done` is set again by the last callback of a request alone, and a request that is
  rejected, or whose `set_data` throws, does not get to the end of it.
* `stalled_run`: from then on there is no request any more.

What the script takes from the browser is in `Browser`. The field `writes` is what
`set_data` has done to the page.
-/

namespace RidenDongle

/-- An exception of the script. -/
inductive JsError where
  | syntaxError
  | typeError
  /-- one of `appendData`, whose code draws by a library -/
  | chart
deriving DecidableEq, Repr

/-- What an expression or a statement of the script gives, or what it throws. -/
abbrev Script := Except JsError

/-- What the script takes from the browser: `JSON.parse`, and its numbers. -/
structure Browser (ν : Type) where
  parse : String → Option (Json ν)
  toFixed : ν → ℕ → String
  isZero : ν → Bool

/-- What `set_data` does to an element of the page, or to its chart. -/
inductive PageWrite (ν : Type) where
  | innerHTML (id text : String)
  | value (id text : String)
  | max (id text : String)
  | addClass (id name : String)
  | removeClass (id name : String)
  | visibility (id style : String)
  | display (id style : String)
  | appendData (outV outC : Option (Json ν))

namespace Json

variable {ν : Type} (b : Browser ν) (obj : Json ν)

/-- The property `name`, where `none` is undefined; null has no properties. -/
def property (name : String) : Script (Option (Json ν)) :=
  match obj with
  | .null => .error .typeError
  | .object properties => .ok (properties.lookup name)
  | _ => .ok none

/-- `toFixed`, a method of numbers only. -/
def toFixed (digits : ℕ) : Option (Json ν) → Script String
  | some (.number x) => .ok (b.toFixed x digits)
  | _ => .error .typeError

def truthy : Option (Json ν) → Bool
  | none => false
  | some .null => false
  | some (.bool x) => x
  | some (.number x) => !b.isZero x
  | some (.string s) => s != ""
  | some _ => true

/-- `===`, with a string. -/
def isString (s : String) : Option (Json ν) → Bool
  | some (.string t) => t == s
  | _ => false

/-- The property is a number. -/
def IsNumber (name : String) : Prop :=
  ∃ properties x, obj = .object properties ∧ properties.lookup name = some (.number x)

/-- The property is null. -/
def IsNull (name : String) : Prop :=
  ∃ properties, obj = .object properties ∧ properties.lookup name = some .null

end Json

/-- `padStart(width, " ")`. -/
def padStart (width : ℕ) (s : String) : String := .ofList (s.toList.leftpad width ' ')

/-! ## `set_data` -/

namespace SetData

variable {ν : Type} (b : Browser ν) (obj : Json ν)

/-- `obj.name.toFixed(digits)`. -/
def formatted (name : String) (digits : ℕ) : Script String :=
  obj.property name >>= Json.toFixed b digits

def showNumber (id name : String) (digits width : ℕ) (unit : String) :
    Script (List (PageWrite ν)) :=
  (formatted b obj name digits).map fun text => [.innerHTML id (padStart width text ++ unit)]

def setValue (id name : String) : Script (List (PageWrite ν)) :=
  (formatted b obj name 2).map fun text => [.value id text]

def setMax (id name : String) : Script (List (PageWrite ν)) :=
  (formatted b obj name 2).map fun text => [.max id text]

def toggleClass : Script (List (PageWrite ν)) :=
  (obj.property "out_on").map fun on =>
    if Json.truthy b on then [.addClass "toggle" "is_on"] else [.removeClass "toggle" "is_on"]

def cvmode : Script (List (PageWrite ν)) :=
  (obj.property "cvmode").map fun cv =>
    if Json.truthy b cv then [.visibility "cv" "visible", .visibility "cc" "hidden"]
    else [.visibility "cv" "hidden", .visibility "cc" "visible"]

def extTemperature : Script (List (PageWrite ν)) := do
  match ← obj.property "ext_t_c" with
  | some .null => .ok [.innerHTML "ext_t_c" "  --.-"]
  | _ => showNumber b obj "ext_t_c" "ext_t_c" 1 6 ""

def image : Script (List (PageWrite ν)) := do
  let prot ← obj.property "prot"
  let battMode ← obj.property "batt_mode"
  let img :=
    if Json.isString "OVP" prot then "ovp"
    else if Json.isString "OCP" prot then "ocp"
    else if Json.truthy b battMode then "batt"
    else "nobatt"
  .ok (["batt", "nobatt", "ovp", "ocp"].map (.display · "none") ++ [.display img "inline"])

/-- The chart, if there is one: whether its `appendData` returns. -/
def appendData (chart : Option Bool) : List (Script (List (PageWrite ν))) :=
  match chart with
  | none => []
  | some returns =>
    [do
      let outV ← obj.property "out_v"
      let outC ← obj.property "out_c"
      .ok [.appendData outV outC],
    if returns then .ok [] else .error .chart]

/-- The statements that follow `JSON.parse`. -/
def statements (fullSet : Bool) (chart : Option Bool) : List (Script (List (PageWrite ν))) :=
  [showNumber b obj "out_v" "out_v" 2 6 " V",
    showNumber b obj "out_i" "out_c" 2 6 " A"] ++
  (if fullSet then [setValue b obj "set_v" "set_v", setValue b obj "set_c" "set_c"] else []) ++
  [setMax b obj "set_v" "max_v",
    setMax b obj "set_c" "max_c",
    toggleClass b obj,
    cvmode b obj,
    extTemperature b obj,
    showNumber b obj "int_t_c" "int_t_c" 1 6 "",
    showNumber b obj "batt_v" "batt_v" 2 6 "",
    showNumber b obj "ah" "ah" 3 8 "",
    showNumber b obj "wh" "wh" 3 8 "",
    image b obj] ++
  appendData obj chart

/-- The statements one after another, until one throws. -/
def exec : List (Script (List (PageWrite ν))) → Script Unit × List (PageWrite ν)
  | [] => (.ok (), [])
  | .error e :: _ => (.error e, [])
  | .ok writes :: rest =>
    let (result, writes') := exec rest
    (result, writes ++ writes')

/-- The properties that are formatted without a look at what they are. -/
def numbers (fullSet : Bool) : List String :=
  ["out_v", "out_c"] ++ (if fullSet then ["set_v", "set_c"] else []) ++
    ["max_v", "max_c", "int_t_c", "batt_v", "ah", "wh"]

/-- The page can display `obj`: what is formatted is a number, but for the external
    temperature, which may be null; and the chart takes the point. -/
structure Displays (fullSet : Bool) (chart : Option Bool) : Prop where
  numbers : ∀ name ∈ numbers fullSet, obj.IsNumber name
  temperature : obj.IsNull "ext_t_c" ∨ obj.IsNumber "ext_t_c"
  chart : chart ≠ some false

variable {b obj}

theorem exec_isOk (l : List (Script (List (PageWrite ν)))) :
    (exec l).1.isOk ↔ ∀ s ∈ l, s.isOk := by
  induction l with
  | nil => simp [exec, Except.isOk, Except.toBool]
  | cons s l ih =>
    rw [List.forall_mem_cons, ← ih]
    cases s with
    | error e => simp [exec, Except.isOk, Except.toBool]
    | ok writes => simp [exec, Except.isOk, Except.toBool]

theorem isOk_map {α β : Type} (f : α → β) (x : Script α) : (x.map f).isOk = x.isOk := by
  cases x <;> rfl

theorem formatted_isOk {name : String} {digits : ℕ} :
    (formatted b obj name digits).isOk ↔ obj.IsNumber name := by
  constructor
  · intro h
    cases obj with
    | object properties =>
      change (Json.toFixed b digits (properties.lookup name)).isOk at h
      cases hlookup : properties.lookup name with
      | none => rw [hlookup] at h; cases h
      | some v =>
        rw [hlookup] at h
        cases v with
        | number x => exact ⟨properties, x, rfl, hlookup⟩
        | _ => cases h
    | _ => cases h
  · rintro ⟨properties, x, rfl, hlookup⟩
    change (Json.toFixed b digits (properties.lookup name)).isOk
    rw [hlookup]
    rfl

theorem extTemperature_of_not_isNull (h : ¬obj.IsNull "ext_t_c") :
    extTemperature b obj = showNumber b obj "ext_t_c" "ext_t_c" 1 6 "" := by
  cases obj with
  | object properties =>
    have hlookup : properties.lookup "ext_t_c" ≠ some .null := fun heq =>
      h ⟨properties, rfl, heq⟩
    change (match properties.lookup "ext_t_c" with
      | some .null => _
      | _ => _) = _
    split
    · contradiction
    · rfl
  | _ => rfl

theorem extTemperature_isOk :
    (extTemperature b obj).isOk ↔ obj.IsNull "ext_t_c" ∨ obj.IsNumber "ext_t_c" := by
  by_cases hnull : obj.IsNull "ext_t_c"
  · obtain ⟨properties, rfl, hlookup⟩ := hnull
    refine iff_of_true ?_ (.inl ⟨properties, rfl, hlookup⟩)
    change Except.isOk (match properties.lookup "ext_t_c" with
      | some .null => _
      | _ => _)
    rw [hlookup]
    rfl
  · rw [or_iff_right hnull, extTemperature_of_not_isNull hnull, showNumber, isOk_map,
      formatted_isOk]

@[simp] theorem showNumber_isOk {id name : String} {digits width : ℕ} {unit : String} :
    (showNumber b obj id name digits width unit).isOk ↔ obj.IsNumber name := by
  rw [showNumber, isOk_map, formatted_isOk]

@[simp] theorem setValue_isOk {id name : String} :
    (setValue b obj id name).isOk ↔ obj.IsNumber name := by
  rw [setValue, isOk_map, formatted_isOk]

@[simp] theorem setMax_isOk {id name : String} :
    (setMax b obj id name).isOk ↔ obj.IsNumber name := by
  rw [setMax, isOk_map, formatted_isOk]

theorem forall_numbers (fullSet : Bool) :
    (∀ name ∈ numbers fullSet, obj.IsNumber name) ↔
      (obj.IsNumber "out_v" ∧ obj.IsNumber "out_c") ∧
        (fullSet = true → obj.IsNumber "set_v" ∧ obj.IsNumber "set_c") ∧
        obj.IsNumber "max_v" ∧ obj.IsNumber "max_c" ∧ obj.IsNumber "int_t_c" ∧
          obj.IsNumber "batt_v" ∧ obj.IsNumber "ah" ∧ obj.IsNumber "wh" := by
  cases fullSet <;> simp [numbers, and_assoc]

theorem appendData_isOk {properties : List (String × Json ν)} (chart : Option Bool) :
    (∀ s ∈ appendData (.object properties) chart, s.isOk) ↔ chart ≠ some false := by
  rcases chart with _ | _ | _
  · exact iff_of_true (by simp [appendData]) nofun
  · refine iff_of_false (fun h => ?_) (fun h => h rfl)
    cases h (.error .chart) (by simp [appendData])
  · refine iff_of_true (fun s hs => ?_) nofun
    rcases List.mem_cons.1 hs with rfl | hs
    · rfl
    · obtain rfl := List.mem_singleton.1 hs
      rfl

/-- The script gets to its end, where the page can display what it has parsed. -/
theorem statements_isOk {fullSet : Bool} {chart : Option Bool} :
    (∀ s ∈ statements b obj fullSet chart, s.isOk) ↔ Displays obj fullSet chart := by
  have hsets : (∀ s ∈ (if fullSet then
        [setValue b obj "set_v" "set_v", setValue b obj "set_c" "set_c"] else []), s.isOk) ↔
      (fullSet = true → obj.IsNumber "set_v" ∧ obj.IsNumber "set_c") := by
    cases fullSet <;> simp
  have hdisplays : Displays obj fullSet chart ↔
      (∀ name ∈ numbers fullSet, obj.IsNumber name) ∧
        (obj.IsNull "ext_t_c" ∨ obj.IsNumber "ext_t_c") ∧ chart ≠ some false :=
    ⟨fun h => ⟨h.numbers, h.temperature, h.chart⟩, fun h => ⟨h.1, h.2.1, h.2.2⟩⟩
  rw [statements, List.forall_mem_append, List.forall_mem_append, List.forall_mem_append, hsets,
    hdisplays, forall_numbers]
  simp only [List.forall_mem_cons, showNumber_isOk, setMax_isOk, extTemperature_isOk]
  by_cases hv : obj.IsNumber "out_v"
  · -- what has a property that is a number is an object, whose properties do not throw
    obtain ⟨properties, -, rfl, -⟩ := id hv
    rw [appendData_isOk]
    have htoggle : (toggleClass b (.object properties)).isOk := rfl
    have hcv : (cvmode b (.object properties)).isOk := rfl
    have himage : (image b (.object properties)).isOk := rfl
    simp only [htoggle, hcv, himage]
    grind
  · grind

/-- `set_data`. -/
def setData (b : Browser ν) (data : String) (fullSet : Bool) (chart : Option Bool) :
    Script Unit × List (PageWrite ν) :=
  if data = "" then (.ok (), [])
  else
    match b.parse data with
    | none => (.error .syntaxError, [])
    | some obj => exec (statements b obj fullSet chart)

/-- The body is one that `set_data` gets through. -/
def Accepted (b : Browser ν) (data : String) (fullSet : Bool) (chart : Option Bool) : Prop :=
  data = "" ∨ ∃ obj, b.parse data = some obj ∧ Displays obj fullSet chart

theorem setData_isOk_iff {data : String} {fullSet : Bool} {chart : Option Bool} :
    (setData b data fullSet chart).1.isOk ↔ Accepted b data fullSet chart := by
  unfold setData Accepted
  split_ifs with hempty
  · exact iff_of_true rfl (.inl hempty)
  · rw [or_iff_right hempty]
    cases hparse : b.parse data with
    | none => simp [Except.isOk, Except.toBool]
    | some obj =>
      rw [exec_isOk, statements_isOk]
      simp

end SetData

/-! ## `tick` -/

/-- A request that is outstanding: the argument of its `tick`, and whether its response
    has come, whose text is then awaited. -/
structure StatusRequest where
  fullSet : Bool
  responded : Bool
deriving DecidableEq, Repr

/-- The state of the script: `tick_done`, the requests that are outstanding, and what
    `set_data` has done to the page. -/
structure Polling (ν : Type) where
  tickDone : Bool
  requests : List StatusRequest
  writes : List (PageWrite ν)

namespace Polling

variable {ν : Type} (b : Browser ν) (p : Polling ν)

def start : Polling ν := ⟨true, [], []⟩

inductive Input where
  /-- a call of `tick`, whose `fetch` returns a promise, or throws -/
  | tick (fullSet throws : Bool)
  /-- the response to the `n`th request that is outstanding -/
  | response (n : ℕ) (ok : Bool)
  /-- the text of that response -/
  | text (n : ℕ) (data : String) (chart : Option Bool)
  /-- the rejection of that request, or of the text of its response -/
  | reject (n : ℕ)

def tick (fullSet throws : Bool) : Polling ν :=
  if !p.tickDone then p
  else
    let p := { p with tickDone := false }
    if throws then { p with tickDone := true }
    else { p with requests := p.requests ++ [⟨fullSet, false⟩] }

/-- The last callback of a request. What it throws rejects a promise that nobody
    handles: the `catch` of `tick` is long over. -/
def settle (n : ℕ) (data : String) (fullSet : Bool) (chart : Option Bool) : Polling ν :=
  let p := { p with requests := p.requests.eraseIdx n }
  if data ≠ "" then
    let (result, writes) := SetData.setData b data fullSet chart
    let p := { p with writes := p.writes ++ writes }
    match result with
    | .ok () => { p with tickDone := true }
    | .error _ => p
  else { p with tickDone := true }

def step : Input → Polling ν
  | .tick fullSet throws => p.tick fullSet throws
  | .response n ok =>
    match p.requests[n]? with
    | some ⟨fullSet, false⟩ =>
      if !ok then p.settle b n "" fullSet none
      else { p with requests := p.requests.set n ⟨fullSet, true⟩ }
    | _ => p
  | .text n data chart =>
    match p.requests[n]? with
    | some ⟨fullSet, true⟩ => p.settle b n data fullSet chart
    | _ => p
  | .reject n => { p with requests := p.requests.eraseIdx n }

/-- Polling goes on: with no request outstanding, the next `tick` makes one; and there
    is never more than one. -/
structure Polls : Prop where
  atMostOne : p.requests.length ≤ 1
  tickDone : p.requests = [] → p.tickDone = true
  issues : p.requests = [] → ∀ fullSet, (p.tick fullSet false).requests = [⟨fullSet, false⟩]

/-- No request that is outstanding is rejected, and `set_data` gets through the texts. -/
def Heard : Input → Prop
  | .tick _ _ => True
  | .response _ _ => True
  | .text n data chart =>
    ∀ fullSet, p.requests[n]? = some ⟨fullSet, true⟩ → SetData.Accepted b data fullSet chart
  | .reject n => p.requests[n]? = none

/-- The invariant of every run: `tick_done` is not set while a request is outstanding. -/
structure Single : Prop where
  atMostOne : p.requests.length ≤ 1
  of_tickDone : p.tickDone = true → p.requests = []

/-- No request is outstanding, and `tick_done` is not set. -/
structure Stalled : Prop where
  requests : p.requests = []
  tickDone : p.tickDone = false

variable {b p}

@[simp] theorem settle_requests (n : ℕ) (data : String) (fullSet : Bool) (chart : Option Bool) :
    (p.settle b n data fullSet chart).requests = p.requests.eraseIdx n := by
  unfold settle
  split
  · rcases SetData.setData b data fullSet chart with ⟨_ | _, writes⟩ <;> rfl
  · rfl

theorem settle_tickDone_iff {n : ℕ} {data : String} {fullSet : Bool} {chart : Option Bool} :
    (p.settle b n data fullSet chart).tickDone ↔
      p.tickDone ∨ SetData.Accepted b data fullSet chart := by
  rw [← SetData.setData_isOk_iff]
  unfold settle
  split_ifs with hdata
  · rcases SetData.setData b data fullSet chart with ⟨_ | _, writes⟩ <;>
      simp [Except.isOk, Except.toBool]
  · rw [not_ne_iff.1 hdata]
    exact iff_of_true rfl (.inr rfl)

theorem single_start : (start : Polling ν).Single := ⟨by simp [start], fun _ => rfl⟩

/-- The request that is outstanding is the only one, and `tick_done` is not set. -/
theorem Single.of_getElem? (h : p.Single) {n : ℕ} {r : StatusRequest}
    (hr : p.requests[n]? = some r) : p.requests = [r] ∧ n = 0 ∧ p.tickDone = false := by
  obtain ⟨hn, hget⟩ := List.getElem?_eq_some_iff.1 hr
  have hzero : n = 0 := by
    have := h.atMostOne
    omega
  subst hzero
  obtain ⟨r', hr'⟩ := List.length_eq_one_iff.1 (le_antisymm h.atMostOne hn)
  refine ⟨?_, rfl, ?_⟩
  · simp only [hr', List.getElem_cons_zero] at hget ⊢
    rw [hget]
  · by_contra htrue
    have hnil := h.of_tickDone (by simpa using htrue)
    rw [hnil] at hr'
    cases hr'

/-- With at most one request, the erased one leaves none. -/
theorem Single.eraseIdx_eq_nil (h : p.Single) {n : ℕ} {r : StatusRequest}
    (hr : p.requests[n]? = some r) : p.requests.eraseIdx n = [] := by
  obtain ⟨hone, rfl, -⟩ := h.of_getElem? hr
  rw [hone]
  rfl

theorem Single.settle (h : p.Single) {n : ℕ} {r : StatusRequest} (hr : p.requests[n]? = some r)
    (data : String) (fullSet : Bool) (chart : Option Bool) :
    (p.settle b n data fullSet chart).Single := by
  have hnil : (p.settle b n data fullSet chart).requests = [] := by
    rw [settle_requests, h.eraseIdx_eq_nil hr]
  exact ⟨by rw [hnil]; exact Nat.zero_le 1, fun _ => hnil⟩

theorem Single.tick (h : p.Single) (fullSet throws : Bool) : (p.tick fullSet throws).Single := by
  unfold Polling.tick
  cases hdone : p.tickDone with
  | false => exact h
  | true =>
    have hnil := h.of_tickDone hdone
    cases throws with
    | true => exact ⟨h.atMostOne, fun _ => hnil⟩
    | false => exact ⟨by simp [hnil], nofun⟩

theorem Single.step (h : p.Single) (i : Input) : (p.step b i).Single := by
  cases i with
  | tick fullSet throws => exact h.tick fullSet throws
  | response n ok =>
    simp only [Polling.step]
    split
    · rename_i fullSet hr
      obtain ⟨hone, rfl, hdone⟩ := h.of_getElem? hr
      cases ok with
      | false => exact h.settle (b := b) hr "" fullSet none
      | true => exact ⟨by simp [hone], by simp [hdone]⟩
    · exact h
  | text n data chart =>
    simp only [Polling.step]
    split
    · rename_i fullSet hr
      exact h.settle hr data fullSet chart
    · exact h
  | reject n =>
    refine ⟨?_, fun hdone => ?_⟩
    · exact (List.length_eraseIdx_le _ _).trans h.atMostOne
    · change p.requests.eraseIdx n = []
      rw [h.of_tickDone hdone]
      rfl

theorem Single.polls_iff (h : p.Single) : p.Polls ↔ ¬p.Stalled := by
  constructor
  · intro hp hs
    have := hp.tickDone hs.requests
    rw [hs.tickDone] at this
    cases this
  · intro hs
    have hdone : p.requests = [] → p.tickDone = true := fun hnil => by
      by_contra hfalse
      exact hs ⟨hnil, by simpa using hfalse⟩
    refine ⟨h.atMostOne, hdone, fun hnil fullSet => ?_⟩
    rw [Polling.tick, hdone hnil]
    simp [hnil]

theorem not_stalled_tick (hp : ¬p.Stalled) (fullSet throws : Bool) :
    ¬(p.tick fullSet throws).Stalled := by
  unfold Polling.tick
  cases hdone : p.tickDone with
  | false => exact hp
  | true =>
    cases throws with
    | true => exact fun hs => nomatch hs.tickDone
    | false => exact fun hs => by simpa using hs.requests

/-- The last callback of a request stalls if `set_data` throws in it. -/
theorem Single.stalled_settle_iff (h : p.Single) {n : ℕ} {r : StatusRequest}
    (hr : p.requests[n]? = some r) {data : String} {fullSet : Bool} {chart : Option Bool} :
    (p.settle b n data fullSet chart).Stalled ↔ ¬SetData.Accepted b data fullSet chart := by
  obtain ⟨-, -, hdone⟩ := h.of_getElem? hr
  have hiff : (p.settle b n data fullSet chart).tickDone ↔
      SetData.Accepted b data fullSet chart := by
    rw [settle_tickDone_iff, hdone, or_iff_right Bool.false_ne_true]
  rw [← hiff, Bool.not_eq_true]
  exact ⟨Stalled.tickDone, fun hfalse =>
    ⟨by rw [settle_requests, h.eraseIdx_eq_nil hr], hfalse⟩⟩

/-- A response does not stall the script: it ends the request only without `ok`, and then
    `set_data` gets the empty text. -/
theorem Single.not_stalled_response (h : p.Single) (hp : ¬p.Stalled) (n : ℕ) (ok : Bool) :
    ¬(p.step b (.response n ok)).Stalled := by
  simp only [Polling.step]
  split
  · rename_i fullSet hr
    cases ok with
    | false =>
      change ¬(p.settle b n "" fullSet none).Stalled
      rw [h.stalled_settle_iff hr]
      exact not_not_intro (.inl rfl)
    | true =>
      obtain ⟨hone, rfl, -⟩ := h.of_getElem? hr
      exact fun hs => by simpa [hone] using hs.requests
  · exact hp

/-- A body does if `set_data` throws on it. -/
theorem Single.stalled_text_iff (h : p.Single) (hp : ¬p.Stalled) (n : ℕ) (data : String)
    (chart : Option Bool) :
    (p.step b (.text n data chart)).Stalled ↔ ¬p.Heard b (.text n data chart) := by
  simp only [Polling.step, Heard]
  split
  · rename_i fullSet hr
    rw [h.stalled_settle_iff hr, not_iff_not, hr]
    constructor
    · rintro haccepted fullSet' heq
      cases heq
      exact haccepted
    · exact fun hall => hall fullSet rfl
  · rename_i hr
    exact iff_of_false hp (not_not_intro fun fullSet heq => absurd heq (hr fullSet))

/-- A step stalls if it is the rejection of a request, or if `set_data` throws in it. -/
theorem Single.stalled_step_iff (h : p.Single) (hp : ¬p.Stalled) (i : Input) :
    (p.step b i).Stalled ↔ ¬p.Heard b i := by
  cases i with
  | tick fullSet throws =>
    -- what `fetch` throws is caught, and `tick_done` set again
    exact iff_of_false (not_stalled_tick hp fullSet throws) (not_not_intro trivial)
  | response n ok =>
    exact iff_of_false (h.not_stalled_response hp n ok) (not_not_intro trivial)
  | text n data chart => exact h.stalled_text_iff hp n data chart
  | reject n =>
    change Stalled { p with requests := p.requests.eraseIdx n } ↔ ¬p.requests[n]? = none
    cases hr : p.requests[n]? with
    | none =>
      rw [List.eraseIdx_of_length_le (List.getElem?_eq_none_iff.1 hr)]
      exact iff_of_false hp (not_not_intro rfl)
    | some r =>
      -- no callback runs: the flag stays as the `tick` of this request has left it
      obtain ⟨-, -, hdone⟩ := h.of_getElem? hr
      exact iff_of_true ⟨h.eraseIdx_eq_nil hr, hdone⟩ nofun

/-- Once stalled, the script does nothing any more: no `tick` makes a request. -/
theorem Stalled.step (h : p.Stalled) (i : Input) : p.step b i = p := by
  have hnone (n : ℕ) : p.requests[n]? = none := by rw [h.requests]; rfl
  cases i with
  | tick fullSet throws => rw [Polling.step, Polling.tick, h.tickDone]; rfl
  | response n ok => rw [Polling.step, hnone]
  | text n data chart => rw [Polling.step, hnone]
  | reject n =>
    rw [Polling.step, List.eraseIdx_of_length_le (List.getElem?_eq_none_iff.1 (hnone n))]

theorem Stalled.run (h : p.Stalled) (is : List Input) : Machine.run (Polling.step b) p is = p := by
  induction is with
  | nil => rfl
  | cons i is ih => rw [Machine.run_cons, h.step, ih]

/-- At most one request is outstanding in any run; and polling goes on in those in which
    no request is rejected, and `set_data` gets through each text. -/
theorem always_polls_iff (b : Browser ν) (is : List Input) :
    Machine.Always (Polling.step b) (fun p => p.requests.length ≤ 1) start is ∧
      (Machine.Always (Polling.step b) Polls start is ↔
        Machine.Guarded (Polling.step b) (Heard b) start is) := by
  have hstart : (start : Polling ν).Polls :=
    single_start.polls_iff.2 fun hs => nomatch hs.tickDone
  constructor
  · exact (Machine.always_of_step single_start (fun _ i h => h.step i) is).mono
      fun _ h => h.atMostOne
  · refine Machine.always_iff_guarded (fun _ i h => h.step i) (fun p i h hp => ?_)
      single_start hstart
    rw [(h.step i).polls_iff, h.stalled_step_iff (h.polls_iff.1 hp), not_not]

/-- One request is made, and rejected. -/
theorem not_always_polls :
    ¬∀ (b : Browser ℤ) (is : List Input), Machine.Always (Polling.step b) Polls start is := by
  intro h
  have hlast := (h ⟨fun _ => none, fun _ _ => "", fun x => x == 0⟩
    [.tick true false, .reject 0]).last
  cases hlast.tickDone rfl

end Polling

end RidenDongle
