import RidenDongle.Modbus.Setters

/-!
# Preset indices

Which preset an index means to the functions that take one, and to `get_all_values`
(`riden_modbus.cpp`). The header documents one-based indices, `1` refers to `M1`; the
presets of `AllValues` are an array, with `M1` in front.

* `Serves`: to all functions, the index is that of a preset which `get_all_values`
  reports.
* `Refuses`: no function reads or writes a register for the index.
* `namesPreset_iff`: for which indices the functions agree.
-/

namespace RidenDongle.RidenModbus

variable (div mul : ℚ → ℚ → ℚ) (s : RidenModbus)

namespace PresetField

/-- The field of a preset. -/
def of (p : Preset) : PresetField → ℚ
  | voltage => p.voltage
  | current => p.current
  | overVoltage => p.overVoltageProtection
  | overCurrent => p.overCurrentProtection

/-- The getter of the field. -/
def get (index : ℕ) : PresetField → Option (Getter ℚ)
  | voltage => s.getPresetVoltageOut div index
  | current => s.getPresetCurrentOut div index
  | overVoltage => s.getPresetOverVoltageProtection div index
  | overCurrent => s.getPresetOverCurrentProtection div index

/-- The setter of the field. -/
def set (index : ℕ) (v : ℚ) : PresetField → Setting
  | voltage => .presetVoltageOut index v
  | current => .presetCurrentOut index v
  | overVoltage => .presetOverVoltageProtection index v
  | overCurrent => .presetOverCurrentProtection index v

/-- The register value for the field. -/
def toValue (v : ℚ) : PresetField → ℕ
  | voltage | overVoltage => s.voltageToValue mul v
  | current | overCurrent => s.currentToValue mul v

/-- What is made of a register value. -/
def ofValue (value : ℕ) : PresetField → ℚ
  | voltage | overVoltage => s.valueToVoltage div value
  | current | overCurrent => s.valueToCurrent div value

end PresetField

/-- `presets[index - 1]`, as `get_all_values` reports it. -/
def reported (registers : ℕ → ℕ) (index : ℕ) : Option Preset :=
  ((s.getAllValues div false).on registers).settings.bind (·.presets[index - 1]?)

/-- The index is that of a preset `M`: all functions succeed, with the registers of this
    preset only, and agree with what `get_all_values` reports. -/
structure Serves (index : ℕ) : Prop where
  select : (setPreset index (.sent true)).result = true
  get : ∃ g, s.getPreset div index = some g ∧ g.reads = [(Register.m0V + 4 * index, 4)] ∧
    ∀ registers, s.reported div registers index = some (g.on registers)
  getField (field : PresetField) : ∃ g, field.get div s index = some g ∧
    g.reads = [((Quantity.preset index field).register, 1)] ∧
    ∀ registers, (s.reported div registers index).map (field.of ·) = some (g.on registers)
  set (p : Preset) (hp : (Setting.preset index p).Representable div s) :
    ((Setting.preset index p).set mul s (.sent true)).result = true ∧
    (((Setting.preset index p).set mul s (.sent true)).written.map Prod.fst =
      [(Quantity.preset index .voltage).register, (Quantity.preset index .current).register,
        (Quantity.preset index .overVoltage).register,
        (Quantity.preset index .overCurrent).register]) ∧
    ∀ registers, s.reported div ((Setting.preset index p).store mul s (.sent true) registers) index =
      some (s.valuesToPreset div (s.presetToValues mul p))
  setField (field : PresetField) (v : ℚ) (hv : (field.set index v).Representable div s) :
    ((field.set index v).set mul s (.sent true)).result = true ∧
    (((field.set index v).set mul s (.sent true)).written.map Prod.fst =
      [(Quantity.preset index field).register]) ∧
    ∀ registers, (s.reported div ((field.set index v).store mul s (.sent true) registers) index).map
      (field.of ·) = some (field.ofValue div s (field.toValue mul s v))

/-- No function reads or writes a register for the index. -/
structure Refuses (index : ℕ) : Prop where
  select (t : Transfer) : setPreset index t = ⟨false, []⟩
  get : s.getPreset div index = none
  getField (field : PresetField) : field.get div s index = none
  set (p : Preset) (t : Transfer) : (Setting.preset index p).set mul s t = ⟨false, []⟩
  setField (field : PresetField) (v : ℚ) (t : Transfer) :
    (field.set index v).set mul s t = ⟨false, []⟩

/-- The index means the same to all functions. -/
def NamesPreset (index : ℕ) : Prop :=
  if 1 ≤ index ∧ index ≤ numberOfPresets then Serves div mul s index else Refuses div mul s index

variable {div mul s} {index : ℕ} {registers : ℕ → ℕ}

/-! ## What is reported -/

theorem on_getAllValues : (s.getAllValues div false).on registers =
    (s.getAllValues div false).decode ((List.range 120).map registers) := by
  have hcalls : (s.getAllValues div false).calls.flatMap (ModbusCall.carried registers) =
      (List.range 120).map registers := rfl
  rw [Getter.on, hcalls]

theorem presetAt_map {f : ℕ → ℕ} {n k : ℕ} (hk : k + 3 < n) :
    s.presetAt div ((List.range n).map f) k =
      s.valuesToPreset div ⟨f k, f (k + 1), f (k + 2), f (k + 3)⟩ := by
  rw [presetAt, valueAt_map (by omega), valueAt_map (by omega), valueAt_map (by omega),
    valueAt_map hk]

/-- The registers of a preset follow one another. -/
theorem presetAt_registers {f : ℕ → ℕ} :
    s.valuesToPreset div ⟨f (Register.m0V + 4 * index), f (Register.m0V + 4 * index + 1),
      f (Register.m0V + 4 * index + 2), f (Register.m0V + 4 * index + 3)⟩ =
    s.valuesToPreset div
      ⟨f (Quantity.preset index .voltage).register, f (Quantity.preset index .current).register,
        f (Quantity.preset index .overVoltage).register,
        f (Quantity.preset index .overCurrent).register⟩ := by
  have hnext : ∀ k, Register.m0V + 4 * index + k = Register.m0V + k + 4 * index :=
    fun k => Nat.add_right_comm ..
  rw [hnext 1, hnext 2, hnext 3]
  rfl

/-- What is reported for an index is decoded from the registers of its preset. -/
theorem reported_eq (h : 1 ≤ index ∧ index ≤ numberOfPresets) :
    s.reported div registers index = some (s.valuesToPreset div
      ⟨registers (Quantity.preset index .voltage).register,
        registers (Quantity.preset index .current).register,
        registers (Quantity.preset index .overVoltage).register,
        registers (Quantity.preset index .overCurrent).register⟩) := by
  obtain ⟨hlow, hhigh⟩ := h
  have hlast : Register.m0V + 4 * index + 3 < 120 := by
    change 80 + 4 * index + 3 < 120
    have : index ≤ 9 := hhigh
    omega
  have hindex : ((List.range numberOfPresets).map fun i => s.presetAt div
      ((List.range 120).map registers) (Register.m0V + 4 * (i + 1)))[index - 1]? =
        some (s.presetAt div ((List.range 120).map registers) (Register.m0V + 4 * index)) := by
    rw [List.getElem?_map, List.getElem?_range (by omega), Option.map_some,
      Nat.sub_add_cancel hlow]
  rw [reported, on_getAllValues]
  refine hindex.trans ?_
  rw [presetAt_map hlast, presetAt_registers]

theorem reported_field (h : 1 ≤ index ∧ index ≤ numberOfPresets) (field : PresetField) :
    (s.reported div registers index).map (field.of ·) =
      some (field.ofValue div s (registers (Quantity.preset index field).register)) := by
  rw [reported_eq h]
  cases field <;> rfl

/-! ## The functions -/

theorem write_set (h : ¬ numberOfPresets ≤ index) (field : PresetField) (v : ℚ) :
    (field.set index v).write mul s =
      some ((Quantity.preset index field).register, [field.toValue mul s v]) := by
  cases field <;> exact if_neg h

/-- An index in the range of the array is that of a preset, but for the first. -/
theorem serves (h : 1 ≤ index) (h' : ¬ numberOfPresets ≤ index) : Serves div mul s index := by
  have hrange : 1 ≤ index ∧ index ≤ numberOfPresets := ⟨h, (Nat.lt_of_not_le h').le⟩
  refine ⟨?_, ⟨_, if_neg h', rfl, fun registers => ?_⟩, fun field => ?_, fun p _ => ?_,
    fun field v _ => ?_⟩
  · rw [setPreset, if_neg (by omega)]
    rfl
  · rw [reported_eq hrange, on_readOnce, presetAt_map (by decide), ← presetAt_registers]
    rfl
  · refine ⟨readOnce (Quantity.preset index field).register 1 fun values =>
      field.ofValue div s (valueAt values 0), ?_, rfl, fun registers => ?_⟩
    · cases field <;> exact if_neg h'
    · rw [reported_field hrange, on_readOnce, valueAt_map Nat.one_pos, Nat.add_zero]
  · have hw : (Setting.preset index p).write mul s = some (Register.m0V + 4 * index,
        [s.voltageToValue mul p.voltage, s.currentToValue mul p.current,
          s.voltageToValue mul p.overVoltageProtection,
          s.currentToValue mul p.overCurrentProtection]) :=
      if_neg h'
    refine ⟨?_, ?_, fun registers => ?_⟩
    · rw [Setting.set_eq, hw]
      rfl
    · exact Setting.keys_of_write hw
    · have hstored : ∀ k (hk : k < 4), _ := fun k hk =>
        @Cells.assign_block_of_lt _ registers (Register.m0V + 4 * index)
          [s.voltageToValue mul p.voltage, s.currentToValue mul p.current,
            s.voltageToValue mul p.overVoltageProtection,
            s.currentToValue mul p.overCurrentProtection]
          k hk
      rw [reported_eq hrange, Setting.store_of_write hw, ← presetAt_registers,
        hstored 1 (by decide), hstored 2 (by decide), hstored 3 (by decide)]
      exact congrArg (fun n => some (s.valuesToPreset div ⟨n, _, _, _⟩)) (hstored 0 (by decide))
  · refine ⟨?_, ?_, fun registers => ?_⟩
    · rw [Setting.set_eq, write_set h']
      rfl
    · rw [Setting.keys_of_write (write_set h' field v)]
      cases field <;> rfl
    · rw [reported_field hrange, Setting.store_of_write (write_set h' field v)]
      exact congrArg (fun n => some (field.ofValue div s n))
        (@Cells.assign_block_of_lt _ registers _ [_] 0 Nat.one_pos)

theorem refuses (h : numberOfPresets < index) : Refuses div mul s index where
  select t := if_pos (Or.inr (Nat.le_sub_one_of_lt h))
  get := if_pos h.le
  getField field := by cases field <;> exact if_pos h.le
  set p t := if_pos h.le
  setField field v t := by cases field <;> exact if_pos h.le

/-- For 0, the preset `M0` is read. -/
theorem not_namesPreset_zero : ¬ NamesPreset div mul s 0 := by
  intro h
  rw [NamesPreset, if_neg (by decide)] at h
  exact absurd h.get (Option.some_ne_none _)

/-- The last preset is reported and can be selected, but it is not read. -/
theorem not_namesPreset_last : ¬ NamesPreset div mul s numberOfPresets := by
  intro h
  rw [NamesPreset, if_pos (by decide)] at h
  obtain ⟨g, hg, -⟩ := h.get
  cases hg

/-- **Preset indices.** An index means the same to all functions, unless it is 0 or that
    of the last preset. -/
theorem namesPreset_iff : NamesPreset div mul s index ↔ index ≠ 0 ∧ index ≠ numberOfPresets := by
  constructor
  · intro h
    refine ⟨?_, ?_⟩
    · rintro rfl
      exact not_namesPreset_zero h
    · rintro rfl
      exact not_namesPreset_last h
  · rintro ⟨hzero, hlast⟩
    rw [NamesPreset]
    split_ifs with h
    · exact serves h.1 (Nat.not_le.2 (Nat.lt_of_le_of_ne h.2 hlast))
    · exact refuses (by omega)

/-- On an RD6006, `M9` cannot be read. -/
theorem not_namesPreset_nine : ¬ NamesPreset (· / ·) (· * ·)
    ⟨"RD6006", 601 / 10, 6, 100, 1000, 100, 100⟩ numberOfPresets :=
  not_namesPreset_last

end RidenDongle.RidenModbus
