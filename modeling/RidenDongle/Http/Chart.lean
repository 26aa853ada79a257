import RidenDongle.Machine.Run
import Mathlib.Data.Fintype.Basic
import Mathlib.Data.Int.Order.Basic
import Mathlib.Data.List.Basic
import Mathlib.Tactic.FinCases

/-!
# The chart of the control page

What the chart displays (`TimeSeriesChart`, `selectionHandler` and `timescale` in
`mockup.html`). The rows are kept in one array; what is displayed is this same array as long
as there are no limits, and otherwise a filtered copy of it. The copy is made again whenever
a row is appended, unless the user has selected an area.

* `ChartPage`: the chart, and the button of the timescale that is active.
* `Faithful`: the rows within the limits are displayed, and the button tells these limits.
* `always_faithful_iff`: in which runs this is always so.
* `always_tooltip_nearest`: the row that the mouse points at is the nearest one.

The field `time` is ghost: the time of the last input. Dates are in milliseconds. The
bisector is that of a library, and so a parameter.
-/

namespace RidenDongle

/-- A row of the data, with numbers in `ν`. -/
structure Row (ν : Type) where
  date : ℤ
  outV : ν
  outC : ν
  deriving DecidableEq

/-- A limit: so long before the present, or a date. -/
inductive Limit
  | number (offset : ℕ)
  | date (d : ℤ)
  deriving DecidableEq

namespace Limit

/-- `typeof limit === "number"`. -/
def isNumber : Limit → Bool
  | .number _ => true
  | .date _ => false

/-- The date that the limit stands for, unless it is falsy. -/
def bound (now : ℤ) : Limit → Option ℤ
  | .number 0 => none
  | .number offset => some (now - offset)
  | .date d => some d

end Limit

variable {ν : Type}

structure TimeSeriesChart (ν : Type) where
  sourcedata : List (Row ν)
  /-- the copy that is displayed, or `none` if it is the array `sourcedata` itself -/
  data : Option (List (Row ν))
  xStart : Limit
  xEnd : Limit

namespace TimeSeriesChart

variable (c : TimeSeriesChart ν)

/-- The rows that are displayed. -/
def visible : List (Row ν) := c.data.getD c.sourcedata

def refreshData (now : ℤ) : TimeSeriesChart ν :=
  let newdata : Option (List (Row ν)) := none
  let newdata :=
    match c.xStart.bound now with
    | some xStart => some ((newdata.getD c.sourcedata).filter fun d => xStart ≤ d.date)
    | none => newdata
  let newdata :=
    match c.xEnd.bound now with
    | some xEnd => some ((newdata.getD c.sourcedata).filter fun d => d.date ≤ xEnd)
    | none => newdata
  { c with data := newdata }

def appendData (newdata : Row ν) (now : ℤ) : TimeSeriesChart ν :=
  let c := { c with sourcedata := c.sourcedata ++ [newdata] }
  if !c.xStart.isNumber && !c.xEnd.isNumber then c else c.refreshData now

def clearData (now : ℤ) : TimeSeriesChart ν :=
  { c with sourcedata := [], xStart := .number 0, xEnd := .number 0 }.refreshData now

def setXLimits (startOffset endOffset : Limit) (now : ℤ) : TimeSeriesChart ν :=
  { c with xStart := startOffset, xEnd := endOffset }.refreshData now

/-- The row that the mouse points at with this date; without one, reading its date fails. -/
def tooltipRow (bisect : List (Row ν) → ℤ → ℕ → ℕ) (date : ℤ) : Option (Row ν) :=
  let index := bisect c.visible date 1
  match c.visible[index - 1]?, c.visible[index]? with
  | some before, some after =>
    some (if date - before.date > after.date - date then after else before)
  | _, _ => none

end TimeSeriesChart

structure ChartPage (ν : Type) where
  chart : TimeSeriesChart ν
  /-- the button of the timescale that is active -/
  active : Option ℕ
  time : ℤ

namespace ChartPage

/-- What happens on the page: a row is appended, the user selects an area, or clicks a
    button of the timescale. -/
inductive Input (ν : Type)
  | append (row : Row ν) (now : ℤ)
  | select (start stop now : ℤ)
  | timescale (t : Fin 5) (now : ℤ)

def timescale (p : ChartPage ν) (t : ℤ) (now : ℤ) : ChartPage ν where
  chart :=
    if t = 0 then p.chart.setXLimits (.number 0) (.number 0) now
    else if t = 1 then p.chart.setXLimits (.number (60 * 60 * 1000)) (.number 0) now
    else if t = 2 then p.chart.setXLimits (.number (5 * 60 * 1000)) (.number 0) now
    else if t = 3 then p.chart.setXLimits (.number (30 * 1000)) (.number 0) now
    else if t = 4 then p.chart.clearData now
    else p.chart
  active := if 0 ≤ t then some (if t < 4 then t.toNat else 0) else none
  time := now

def step (p : ChartPage ν) : Input ν → ChartPage ν
  | .append row now => { p with chart := p.chart.appendData row now, time := now }
  | .select start stop now =>
    timescale { p with chart := p.chart.setXLimits (.date start) (.date stop) now } (-1) now
  | .timescale t now => p.timescale t.val now

def start : ChartPage ν := ⟨⟨[], none, .number 0, .number 0⟩, some 0, 0⟩

end ChartPage

/-! ## Limits -/

namespace TimeSeriesChart

variable {c : TimeSeriesChart ν} {now : ℤ} {row : Row ν}

/-- The row is within the limits. -/
def Within (xStart xEnd : Limit) (now : ℤ) (row : Row ν) : Prop :=
  (∀ x ∈ xStart.bound now, x ≤ row.date) ∧ ∀ x ∈ xEnd.bound now, row.date ≤ x

instance (xStart xEnd : Limit) (now : ℤ) (row : Row ν) : Decidable (Within xStart xEnd now row) :=
  inferInstanceAs (Decidable (_ ∧ _))

/-- What should be displayed. -/
def within (c : TimeSeriesChart ν) (now : ℤ) : List (Row ν) :=
  c.sourcedata.filter (Within c.xStart c.xEnd now ·)

theorem visible_refreshData : (c.refreshData now).visible = c.within now := by
  rw [visible, refreshData, within]
  cases hstart : c.xStart.bound now with
  | none =>
    cases hend : c.xEnd.bound now with
    | none => simp [Within, hstart, hend]
    | some x => simp [Within, hstart, hend]
  | some x =>
    cases hend : c.xEnd.bound now with
    | none => simp [Within, hstart, hend]
    | some y => simp [Within, hstart, hend, List.filter_filter, Bool.and_comm]

theorem visible_appendData : (c.appendData row now).visible =
    if c.xStart.isNumber || c.xEnd.isNumber then (c.appendData row now).within now
    else c.data.getD (c.sourcedata ++ [row]) := by
  rw [appendData]
  cases c.xStart.isNumber <;> cases c.xEnd.isNumber <;>
    first | rfl | exact visible_refreshData

end TimeSeriesChart

/-! ## What is displayed -/

namespace ChartPage

open TimeSeriesChart

/-- How far the chart goes back, by the button. -/
def span : ℕ → ℕ
  | 1 => 60 * 60 * 1000
  | 2 => 5 * 60 * 1000
  | 3 => 30 * 1000
  | _ => 0

/-- The button tells the limits: without one, the user has selected an area. -/
def Labelled (p : ChartPage ν) : Prop :=
  match p.active with
  | some t => p.chart.xStart = .number (span t) ∧ p.chart.xEnd = .number 0
  | none => p.chart.xStart.isNumber = false ∧ p.chart.xEnd.isNumber = false

/-- The rows within the limits are displayed, as they were at the last input. -/
structure Faithful (p : ChartPage ν) : Prop where
  visible : p.chart.visible = p.chart.within p.time
  labelled : p.Labelled

/-- In a selected area, rows that are appended are not wanted. -/
def Outside (p : ChartPage ν) : Input ν → Prop
  | .append row now => p.active = none → ¬Within p.chart.xStart p.chart.xEnd now row
  | _ => True

/-- A selected area is displayed from a copy. -/
def Copied (p : ChartPage ν) : Prop := p.Labelled ∧ (p.active = none → p.chart.data.isSome)

variable {p : ChartPage ν} {row : Row ν} {now : ℤ}

theorem limits_appendData (c : TimeSeriesChart ν) (row : Row ν) (now : ℤ) :
    (c.appendData row now).xStart = c.xStart ∧ (c.appendData row now).xEnd = c.xEnd ∧
      (c.appendData row now).sourcedata = c.sourcedata ++ [row] := by
  rw [appendData]
  split_ifs <;> exact ⟨rfl, rfl, rfl⟩

/-- With an active button, appending a row makes the copy again. -/
theorem isNumber_of_labelled (h : p.Labelled) :
    (p.chart.xStart.isNumber || p.chart.xEnd.isNumber) = p.active.isSome := by
  rw [Labelled] at h
  cases hactive : p.active with
  | none =>
    rw [hactive] at h
    rw [h.1, h.2]
    rfl
  | some t =>
    rw [hactive] at h
    rw [h.1, h.2]
    rfl

theorem Labelled.step (h : p.Labelled) (i : Input ν) : (p.step i).Labelled := by
  cases i with
  | append row now =>
    obtain ⟨hstart, hend, -⟩ := limits_appendData p.chart row now
    rw [Labelled, ChartPage.step]
    dsimp only
    rw [hstart, hend]
    exact h
  | select start stop now => exact ⟨rfl, rfl⟩
  | timescale t now => fin_cases t <;> exact ⟨rfl, rfl⟩

theorem Copied.step (h : p.Copied) (i : Input ν) : (p.step i).Copied := by
  refine ⟨h.1.step i, fun hactive => ?_⟩
  cases i with
  | append row now =>
    have hnumber := isNumber_of_labelled h.1
    rw [show p.active = none from hactive] at hnumber
    have hdata : (p.chart.appendData row now).data = p.chart.data := by
      rw [appendData, ← Bool.not_or, hnumber]
      rfl
    rw [ChartPage.step]
    exact hdata ▸ h.2 hactive
  | select start stop now => rfl
  | timescale t now => fin_cases t <;> cases hactive

/-- A refreshed chart displays the rows within its limits. -/
theorem visible_step_of_ne_append (p : ChartPage ν) {i : Input ν}
    (h : ∀ row now, i ≠ .append row now) :
    (p.step i).chart.visible = (p.step i).chart.within (p.step i).time := by
  cases i with
  | append row now => exact absurd rfl (h row now)
  | select start stop now => exact visible_refreshData
  | timescale t now => fin_cases t <;> exact visible_refreshData

theorem bound_of_date {l : Limit} (h : l.isNumber = false) (now now' : ℤ) :
    l.bound now = l.bound now' := by
  cases l with
  | number offset => cases h
  | date d => rfl

theorem within_congr {c : TimeSeriesChart ν} (hstart : c.xStart.isNumber = false)
    (hend : c.xEnd.isNumber = false) (now now' : ℤ) : c.within now = c.within now' := by
  have hwithin (row : Row ν) :
      Within c.xStart c.xEnd now row ↔ Within c.xStart c.xEnd now' row := by
    rw [Within, Within, bound_of_date hstart now now', bound_of_date hend now now']
  rw [TimeSeriesChart.within, TimeSeriesChart.within]
  exact List.filter_congr fun row _ => decide_eq_decide.2 (hwithin row)

theorem within_appendData (c : TimeSeriesChart ν) : (c.appendData row now).within now =
    c.within now ++ if Within c.xStart c.xEnd now row then [row] else [] := by
  obtain ⟨hstart, hend, hsource⟩ := limits_appendData c row now
  rw [TimeSeriesChart.within, hstart, hend, hsource, List.filter_append, List.filter_singleton,
    Bool.cond_decide]
  rfl

theorem faithful_step_iff (hc : p.Copied) (hp : p.Faithful) (i : Input ν) :
    (p.step i).Faithful ↔ p.Outside i := by
  have hlabelled := hc.1.step i
  cases i with
  | select start stop now =>
    exact iff_of_true ⟨visible_step_of_ne_append p nofun, hlabelled⟩ trivial
  | timescale t now =>
    exact iff_of_true ⟨visible_step_of_ne_append p nofun, hlabelled⟩ trivial
  | append row now =>
    obtain ⟨hstart, hend, -⟩ := limits_appendData p.chart row now
    have hvisible : (p.step (.append row now)).Faithful ↔
        (p.chart.appendData row now).visible = (p.chart.appendData row now).within now :=
      ⟨fun h => h.visible, fun h => ⟨h, hlabelled⟩⟩
    have hnumber := isNumber_of_labelled hc.1
    rw [hvisible, Outside]
    cases hactive : p.active with
    | some t =>
      rw [hactive] at hnumber
      rw [visible_appendData, hnumber]
      exact iff_of_true (if_pos rfl) nofun
    | none =>
      rw [hactive] at hnumber
      obtain ⟨hstart, hend⟩ := Bool.or_eq_false_iff.1 hnumber
      obtain ⟨copy, hcopy⟩ := Option.isSome_iff_exists.1 (hc.2 hactive)
      -- the copy is that of the last input, which has the same limits
      have hsame : copy = p.chart.within now := by
        have hp := hp.visible
        rw [visible, hcopy, Option.getD_some] at hp
        rw [hp, within_congr hstart hend]
      rw [visible_appendData, hnumber, Option.isSome_none, if_neg Bool.false_ne_true, hcopy,
        Option.getD_some, within_appendData, hsame, imp_iff_right rfl]
      split_ifs with hwithin
      · exact iff_of_false (by simp) (not_not_intro hwithin)
      · exact iff_of_true (List.append_nil _).symm hwithin

theorem copied_start : (start : ChartPage ν).Copied := ⟨⟨rfl, rfl⟩, nofun⟩

theorem faithful_start : (start : ChartPage ν).Faithful := ⟨rfl, rfl, rfl⟩

/-- **The chart is faithful.** Although an append in a selected area does not refresh the
    chart, it displays the rows within its limits all along a run, and the active button
    tells them, exactly if no row is appended that lies within a selected area. -/
theorem always_faithful_iff (is : List (Input ν)) :
    Machine.Always ChartPage.step Faithful start is ↔
      Machine.Guarded ChartPage.step Outside start is :=
  Machine.always_iff_guarded (Q := Copied) (fun _ i h => h.step i)
    (fun _ i hc hp => faithful_step_iff hc hp i) copied_start faithful_start

/-- A page that gets rows, in between shows the last half minute, and then an area. -/
def fourRows : List (Input ℕ) :=
  [.append ⟨1000, 5, 1⟩ 1000, .timescale 3 1500, .append ⟨40000, 5, 2⟩ 40000,
    .append ⟨41000, 6, 2⟩ 41000, .select 500 40500 41500, .append ⟨42000, 7, 2⟩ 42000]

example : (Machine.run ChartPage.step start fourRows).chart.visible.map Row.date =
    [1000, 40000] := by
  decide

end ChartPage

/-! ## The tooltip -/

/-- The older rows come first. -/
def Sorted (rows : List (Row ν)) : Prop := rows.Pairwise fun r r' => r.date ≤ r'.date

/-- What is taken from the library: in sorted rows, the bisector finds the first index from
    `lo` on whose row is not older than the date. -/
structure Bisects (bisect : List (Row ν) → ℤ → ℕ → ℕ) : Prop where
  bounds : ∀ rows date lo, Sorted rows → lo ≤ rows.length →
    lo ≤ bisect rows date lo ∧ bisect rows date lo ≤ rows.length
  older : ∀ rows date lo i, Sorted rows → lo ≤ i → i < bisect rows date lo →
    ∀ row ∈ rows[i]?, row.date < date
  newer : ∀ rows date lo i, Sorted rows → bisect rows date lo ≤ i →
    ∀ row ∈ rows[i]?, date ≤ row.date

/-- The row is one of these, and none of them is nearer to the date. -/
def Nearest (rows : List (Row ν)) (date : ℤ) (row : Row ν) : Prop :=
  row ∈ rows ∧ ∀ r ∈ rows, (row.date - date).natAbs ≤ (r.date - date).natAbs

theorem Sorted.le {rows : List (Row ν)} (h : Sorted rows) {i j : ℕ} (hij : i ≤ j)
    (hj : j < rows.length) : rows[i].date ≤ rows[j].date := by
  rcases Nat.lt_or_eq_of_le hij with hlt | rfl
  · exact List.pairwise_iff_getElem.1 h i j (by omega) hj hlt
  · exact le_refl _

/-- The nearer of the two neighbours of an index is the nearest row. -/
theorem Sorted.nearest {rows : List (Row ν)} (h : Sorted rows) {date : ℤ} {i : ℕ} (hi : 1 ≤ i)
    (hlt : i < rows.length)
    (holder : ∀ k (hk : k < rows.length), 1 ≤ k → k < i → rows[k].date < date)
    (hnewer : ∀ k (hk : k < rows.length), i ≤ k → date ≤ rows[k].date) :
    Nearest rows date
      (if date - rows[i - 1].date > rows[i].date - date then rows[i] else rows[i - 1]) := by
  have hafter : date ≤ rows[i].date := hnewer i hlt le_rfl
  refine ⟨?_, fun r hr => ?_⟩
  · split_ifs
    · exact List.getElem_mem _
    · exact List.getElem_mem _
  · obtain ⟨k, hk, rfl⟩ := List.getElem_of_mem hr
    rcases Nat.lt_or_ge k i with hki | hik
    · have hle : rows[k].date ≤ rows[i - 1].date := h.le (by omega) (by omega)
      rcases Nat.lt_or_ge 1 i with hone | hone
      · have hbefore : rows[i - 1].date < date := holder (i - 1) (by omega) (by omega) (by omega)
        split_ifs <;> omega
      · obtain rfl : k = i - 1 := by omega
        split_ifs <;> omega
    · have hle : rows[i].date ≤ rows[k].date := h.le hik hk
      have hfirst : rows[i - 1].date ≤ rows[i].date := h.le (by omega) hlt
      split_ifs <;> omega

variable {bisect : List (Row ν) → ℤ → ℕ → ℕ}

/-- The mouse points at the nearest row; there is none if all rows but the first are older. -/
theorem TimeSeriesChart.tooltipRow_nearest (hb : Bisects bisect) {c : TimeSeriesChart ν}
    (h : Sorted c.visible) (date : ℤ) :
    (∀ row, c.tooltipRow bisect date = some row → Nearest c.visible date row) ∧
    (c.tooltipRow bisect date = none ↔ ∀ row ∈ c.visible.tail, row.date < date) := by
  rw [tooltipRow]
  generalize c.visible = rows at h ⊢
  cases rows with
  | nil => exact ⟨nofun, iff_of_true rfl nofun⟩
  | cons first rows =>
    obtain ⟨hlow, hhigh⟩ := hb.bounds (first :: rows) date 1 h (Nat.le_add_left ..)
    have holder := fun i => hb.older (first :: rows) date 1 i h
    have hnewer := fun i => hb.newer (first :: rows) date 1 i h
    generalize bisect (first :: rows) date 1 = index at hlow hhigh holder hnewer
    have holder' : ∀ k (hk : k < (first :: rows).length), 1 ≤ k → k < index →
        (first :: rows)[k].date < date := fun k hk h₁ hlt =>
      holder k h₁ hlt _ (List.getElem?_eq_getElem hk)
    have hnewer' : ∀ k (hk : k < (first :: rows).length), index ≤ k →
        date ≤ (first :: rows)[k].date := fun k hk hle =>
      hnewer k hle _ (List.getElem?_eq_getElem hk)
    rw [List.getElem?_eq_getElem (show index - 1 < (first :: rows).length by omega)]
    -- there is a row that is not older than the date, or all but the first are older
    rcases Nat.lt_or_ge index (first :: rows).length with hlt | hge
    · rw [List.getElem?_eq_getElem hlt]
      refine ⟨?_, iff_of_false nofun fun hall => ?_⟩
      · rintro _ ⟨⟩
        exact h.nearest hlow hlt holder' hnewer'
      · have hmem : (first :: rows)[index] ∈ rows := by
          rw [List.getElem_cons, dif_neg (by omega)]
          exact List.getElem_mem _
        exact absurd (hall _ hmem) (not_lt.2 (hnewer' index hlt le_rfl))
    · rw [List.getElem?_eq_none hge]
      refine ⟨nofun, iff_of_true rfl fun row hrow => ?_⟩
      rw [List.tail_cons] at hrow
      obtain ⟨k, hk, rfl⟩ := List.getElem_of_mem hrow
      rw [List.length_cons] at hge
      exact holder' (k + 1) (Nat.succ_lt_succ hk) (by omega) (by omega)

namespace ChartPage

open TimeSeriesChart

variable {p : ChartPage ν}

/-- The clock does not run backwards. -/
def Ordered (p : ChartPage ν) : Input ν → Prop
  | .append row _ => ∀ r ∈ p.chart.sourcedata, r.date ≤ row.date
  | _ => True

instance (p : ChartPage ν) : ∀ i, Decidable (p.Ordered i)
  | .append row _ => inferInstanceAs (Decidable (∀ r ∈ p.chart.sourcedata, r.date ≤ row.date))
  | .select .. => inferInstanceAs (Decidable True)
  | .timescale .. => inferInstanceAs (Decidable True)

/-- What is displayed are some of the rows, in their order. -/
def InOrder (p : ChartPage ν) : Prop :=
  Sorted p.chart.sourcedata ∧ p.chart.visible.Sublist p.chart.sourcedata

theorem visible_refreshData_sublist (c : TimeSeriesChart ν) (now : ℤ) :
    (c.refreshData now).visible.Sublist c.sourcedata := by
  rw [visible_refreshData]
  exact List.filter_sublist

theorem InOrder.step (h : p.InOrder) {i : Input ν} (hi : p.Ordered i) : (p.step i).InOrder := by
  cases i with
  | append row now =>
    have hsorted : Sorted (p.chart.sourcedata ++ [row]) := by
      rw [Sorted, List.pairwise_append]
      refine ⟨h.1, List.pairwise_singleton .., fun r hr r' hr' => ?_⟩
      obtain rfl := List.mem_singleton.1 hr'
      exact hi r hr
    obtain ⟨-, -, hsource⟩ := limits_appendData p.chart row now
    rw [ChartPage.step]
    refine ⟨hsource ▸ hsorted, ?_⟩
    dsimp only
    rw [hsource, visible_appendData]
    split_ifs
    · exact hsource ▸ List.filter_sublist
    · have hsublist := h.2
      rw [visible] at hsublist
      cases hdata : p.chart.data with
      | none => exact List.Sublist.refl _
      | some copy =>
        rw [hdata] at hsublist
        exact hsublist.trans (List.sublist_append_left ..)
  | select start stop now => exact ⟨h.1, visible_refreshData_sublist _ now⟩
  | timescale t now =>
    fin_cases t
    all_goals first
      | exact ⟨h.1, visible_refreshData_sublist _ now⟩
      | exact ⟨List.Pairwise.nil, visible_refreshData_sublist _ now⟩

theorem inOrder_start : (start : ChartPage ν).InOrder := ⟨List.Pairwise.nil, List.Sublist.refl _⟩

/-- **The tooltip.** All along a run on a clock that does not run backwards, with a date that
    is not beyond all rows but the first, the mouse points at the displayed row that is
    nearest to the date; otherwise it points at none. -/
theorem always_tooltip_nearest {bisect : List (Row ν) → ℤ → ℕ → ℕ} (hb : Bisects bisect)
    {is : List (Input ν)} (his : Machine.Guarded ChartPage.step Ordered start is) :
    Machine.Always ChartPage.step (fun p => ∀ date,
      (∀ row, p.chart.tooltipRow bisect date = some row → Nearest p.chart.visible date row) ∧
      (p.chart.tooltipRow bisect date = none ↔ ∀ row ∈ p.chart.visible.tail, row.date < date))
      start is := by
  have halways : Machine.Always ChartPage.step InOrder start is :=
    his.always inOrder_start fun _ _ h hi => h.step hi
  exact halways.mono fun p h => tooltipRow_nearest hb (h.1.sublist h.2)

/-- The first index from `lo` on whose row is not older. -/
def firstNewer (rows : List (Row ν)) (date : ℤ) (lo : ℕ) : ℕ :=
  lo + (rows.drop lo).findIdx (date ≤ ·.date)

theorem bisects_firstNewer : Bisects (firstNewer : List (Row ν) → ℤ → ℕ → ℕ) where
  bounds rows date lo _ hlo := by
    have hle : (rows.drop lo).findIdx (date ≤ ·.date) ≤ (rows.drop lo).length :=
      List.findIdx_le_length
    rw [List.length_drop] at hle
    exact ⟨Nat.le_add_right .., by rw [firstNewer]; omega⟩
  older rows date lo i _ hlo hlt row hrow := by
    obtain ⟨hi, rfl⟩ := List.getElem?_eq_some_iff.1 hrow
    have hnot := List.not_of_lt_findIdx (show i - lo < (rows.drop lo).findIdx (date ≤ ·.date) by
      rw [firstNewer] at hlt
      omega)
    rw [decide_eq_false_iff_not, not_le, List.getElem_drop] at hnot
    simpa [Nat.add_sub_cancel' hlo] using hnot
  newer rows date lo i h hle row hrow := by
    obtain ⟨hi, rfl⟩ := List.getElem?_eq_some_iff.1 hrow
    rw [firstNewer] at hle
    have hlt : (rows.drop lo).findIdx (date ≤ ·.date) < (rows.drop lo).length := by
      rw [List.length_drop]
      omega
    have hfound := List.findIdx_getElem (w := hlt)
    rw [decide_eq_true_iff, List.getElem_drop] at hfound
    exact hfound.trans (h.le hle hi)

theorem always_tooltip_nearest_fourRows :
    Machine.Always ChartPage.step (fun p => ∀ date,
      (∀ row, p.chart.tooltipRow firstNewer date = some row →
        Nearest p.chart.visible date row) ∧
      (p.chart.tooltipRow firstNewer date = none ↔
        ∀ row ∈ p.chart.visible.tail, row.date < date)) start fourRows :=
  always_tooltip_nearest bisects_firstNewer (by decide)

end ChartPage

end RidenDongle
