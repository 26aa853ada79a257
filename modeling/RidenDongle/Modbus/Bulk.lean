import RidenDongle.Modbus.Getters

/-!
# Reading in bulk

`RidenModbus::get_all_values` as it reads and decodes (`riden_modbus.cpp`): chunks of
at most 20 registers into one array, and then each field from its offset in the array,
unless a chunk could not be read.

* `readChunks`: the loop over the chunks, with the requests that it makes.
* `readChunks_spec`: what the loop has requested and stored.
* `BulkAgrees`: each field is what its getter returns.
* `bulkAgrees_iff`: which answers of the power supply, and which memory, make it so.
-/

namespace RidenDongle

/-- What the loop over the chunks leaves behind. -/
structure ChunkRead where
  result : Bool
  values : ℕ → ℕ
  /-- the requests, as offsets and numbers of registers -/
  requests : List (ℕ × ℕ)

/-- The array once `numregs` registers from `first` on were read into it. -/
def storeChunk (registers : ℕ → ℕ) (first numregs : ℕ) (values : ℕ → ℕ) (k : ℕ) : ℕ :=
  if first ≤ k ∧ k < first + numregs then registers k else values k

/-- The loop over the chunks from `first` on. `chunk` tells of a chunk, by its first
    register, how its read goes. -/
def readChunks (registers : ℕ → ℕ) (chunk : ℕ → Exchange) (total first : ℕ) (values : ℕ → ℕ) :
    ChunkRead :=
  if first < total then
    let regsToRead := min 20 (total - first)
    if (chunk first).result then
      let r := readChunks registers chunk total (first + 20)
        (if chunk first = .done then storeChunk registers first regsToRead values else values)
      { r with requests := (first, regsToRead) :: r.requests }
    else ⟨false, values, [(first, regsToRead)]⟩
  else ⟨true, values, []⟩
termination_by total - first

variable {registers : ℕ → ℕ} {chunk : ℕ → Exchange} {total first : ℕ} {values : ℕ → ℕ}

theorem readChunks_of_le (h : total ≤ first) :
    readChunks registers chunk total first values = ⟨true, values, []⟩ := by
  rw [readChunks, if_neg (Nat.not_lt.2 h)]

theorem readChunks_of_result (h : first < total) (hchunk : (chunk first).result = true) :
    readChunks registers chunk total first values =
      { readChunks registers chunk total (first + 20)
          (if chunk first = .done then storeChunk registers first (min 20 (total - first)) values
            else values) with
        requests := (first, min 20 (total - first)) ::
          (readChunks registers chunk total (first + 20)
            (if chunk first = .done then storeChunk registers first (min 20 (total - first)) values
              else values)).requests } := by
  rw [readChunks, if_pos h]
  exact if_pos hchunk

theorem readChunks_of_not_result (h : first < total) (hchunk : (chunk first).result = false) :
    readChunks registers chunk total first values =
      ⟨false, values, [(first, min 20 (total - first))]⟩ := by
  rw [readChunks, if_pos h]
  exact if_neg (by rw [hchunk]; exact Bool.false_ne_true)

/-- The loop is done when the reads of all chunks have returned `true`. -/
theorem readChunks_result : (readChunks registers chunk total first values).result = true ↔
    ∀ k, first + 20 * k < total → (chunk (first + 20 * k)).result = true := by
  induction hn : total - first using Nat.strong_induction_on generalizing first values with
  | _ n ih =>
    rcases Nat.lt_or_ge first total with hlt | hle
    · cases hchunk : (chunk first).result with
      | false =>
        rw [readChunks_of_not_result hlt hchunk]
        refine iff_of_false Bool.false_ne_true fun h => ?_
        have hfirst : (chunk first).result = true := h 0 hlt
        rw [hchunk] at hfirst
        cases hfirst
      | true =>
        rw [readChunks_of_result hlt hchunk]
        refine (ih _ (by omega) rfl).trans ⟨fun h k hk => ?_, fun h k hk => ?_⟩
        · cases k with
          | zero => exact hchunk
          | succ k =>
            rw [show first + 20 * (k + 1) = first + 20 + 20 * k by omega] at hk ⊢
            exact h k hk
        · rw [show first + 20 + 20 * k = first + 20 * (k + 1) by omega] at hk ⊢
          exact h (k + 1) hk
    · rw [readChunks_of_le hle]
      exact iff_of_true rfl fun k hk => by omega

/-- What the loop has done once it is done: each register was requested once, in
    chunks of at most 20, and stored at its own index, unless its chunk was answered
    by an exception. -/
theorem readChunks_spec (h : (readChunks registers chunk total first values).result = true) :
    (readChunks registers chunk total first values).requests.flatMap
        (fun q => List.range' q.1 q.2) = List.range' first (total - first) ∧
    (∀ q ∈ (readChunks registers chunk total first values).requests, q.2 ≤ 20) ∧
    ∀ k, (readChunks registers chunk total first values).values k =
      if first ≤ k ∧ k < total ∧ chunk (first + 20 * ((k - first) / 20)) = .done then registers k
      else values k := by
  -- on the registers that are left, of which a chunk takes 20, and the last one all
  induction hn : total - first using Nat.strong_induction_on generalizing first values with
  | _ n ih =>
    rcases Nat.lt_or_ge first total with hlt | hle
    · cases hchunk : (chunk first).result with
      | false =>
        rw [readChunks_of_not_result hlt hchunk] at h
        cases h
      | true =>
        rw [readChunks_of_result hlt hchunk] at h ⊢
        obtain ⟨hrequests, hlen, hvalues⟩ := ih _ (by omega) h rfl
        refine ⟨?_, fun q hq => ?_, fun k => ?_⟩
        · rw [List.flatMap_cons, hrequests, ← hn]
          rcases Nat.lt_or_ge (total - first) 20 with hlast | hmore
          · have hdone : total - (first + 20) = 0 := by omega
            rw [Nat.min_eq_right hlast.le, hdone, List.range'_zero, List.append_nil]
          · have hsplit : total - first = 20 + (total - (first + 20)) := by omega
            rw [Nat.min_eq_left hmore, hsplit, ← List.range'_append_1]
        · rcases List.mem_cons.1 hq with rfl | hq
          · exact Nat.min_le_left ..
          · exact hlen q hq
        · rw [hvalues]
          rcases Nat.lt_or_ge k (first + 20) with hk | hk
          · -- the register is in the chunk, or it is not read at all
            rw [if_neg (by omega)]
            have hfirst : first ≤ k → first + 20 * ((k - first) / 20) = first := by omega
            by_cases hdone : chunk first = .done
            · rw [if_pos hdone, storeChunk]
              refine if_congr ⟨fun hmem => ⟨hmem.1, by omega, ?_⟩, fun hmem => by omega⟩ rfl rfl
              rw [hfirst hmem.1, hdone]
            · rw [if_neg hdone, if_neg]
              rintro ⟨hle, -, hstored⟩
              exact hdone (hfirst hle ▸ hstored)
          · -- the register is in the same chunk of the rest of the loop
            have hindex : first + 20 + 20 * ((k - (first + 20)) / 20) =
                first + 20 * ((k - first) / 20) := by omega
            have hrest : (if chunk first = .done then
                storeChunk registers first (min 20 (total - first)) values else values) k =
                  values k := by
              split_ifs
              · exact if_neg (by omega)
              · rfl
            rw [hindex, hrest]
            exact if_congr ⟨fun hmem => ⟨by omega, hmem.2⟩, fun hmem => ⟨hk, hmem.2⟩⟩ rfl rfl
    · rw [readChunks_of_le hle, ← hn, Nat.sub_eq_zero_of_le hle]
      refine ⟨rfl, fun q hq => absurd hq List.not_mem_nil, fun k => ?_⟩
      rw [if_neg (by omega)]

namespace RidenModbus

variable (div : ℚ → ℚ → ℚ) (s : RidenModbus)

/-- The number of registers that `get_all_values` reads. -/
def totalNofRegs (subset : Bool) : ℕ :=
  (if subset then Register.subsetEnd else Register.m9Ocp) + 1

/-- `get_all_values` into `allValues`; the array of registers held `locals`. -/
def getAllValuesInto (subset : Bool) (registers : ℕ → ℕ) (chunk : ℕ → Exchange) (locals : ℕ → ℕ)
    (allValues : AllValues) : Bool × AllValues :=
  let r := readChunks registers chunk (totalNofRegs subset) 0 locals
  if r.result then
    let out := (s.getAllValues div subset).decode ((List.range (totalNofRegs subset)).map r.values)
    -- what the subset does not cover is left alone
    (true, { out with settings := out.settings.or allValues.settings })
  else (false, allValues)

/-! ## Decoding at an offset -/

variable {f : ℕ → ℕ} {n k : ℕ}

theorem valueAt_map (hk : k < n) : valueAt ((List.range n).map f) k = f k := by
  simp [valueAt, List.getD_eq_getElem?_getD, hk]

theorem longAt_map (hk : k + 1 < n) :
    longAt ((List.range n).map f) k = (f k * 2 ^ 16 + f (k + 1)) % 2 ^ 32 := by
  rw [longAt, valueAt_map (by omega), valueAt_map hk]

theorem valuesToTemperature_map (hk : k + 1 < n) :
    valuesToTemperature ((List.range n).map f) k = (if f k = 0 then 1 else -1) * f (k + 1) := by
  rw [valuesToTemperature, valueAt_map (by omega), valueAt_map hk]

theorem valuesToTm_map (hk : k + 5 < n) : valuesToTm ((List.range n).map f) k =
    ⟨f k - 1900, f (k + 1) - 1, f (k + 2), f (k + 3), f (k + 4), f (k + 5)⟩ := by
  rw [valuesToTm, valueAt_map (by omega), valueAt_map (by omega), valueAt_map (by omega),
    valueAt_map (by omega), valueAt_map (by omega), valueAt_map hk]

theorem valuesToCalibration_map (hk : k + 7 < n) : valuesToCalibration ((List.range n).map f) k =
    ⟨f k, f (k + 1), f (k + 2), f (k + 3), f (k + 4), f (k + 5), f (k + 6), f (k + 7)⟩ := by
  rw [valuesToCalibration, valueAt_map (by omega), valueAt_map (by omega), valueAt_map (by omega),
    valueAt_map (by omega), valueAt_map (by omega), valueAt_map (by omega),
    valueAt_map (by omega), valueAt_map hk]

theorem on_readOnce {τ : Type} (reg numregs : ℕ) (decode : List ℕ → τ) (registers : ℕ → ℕ) :
    (readOnce reg numregs decode).on registers =
      decode ((List.range numregs).map fun k => registers (reg + k)) := by
  rw [Getter.on, Getter.calls, readOnce, List.map_singleton, List.flatMap_singleton,
    ModbusCall.carried]

/-! What a getter returns is what is decoded at its register from an array of the
    registers. -/

section

variable {registers : ℕ → ℕ} {reg : ℕ} {div s}

theorem on_readValue (h : reg < n) :
    (readValue reg).on registers = valueAt ((List.range n).map registers) reg := by
  rw [readValue, on_readOnce, valueAt_map Nat.one_pos, valueAt_map h, Nat.add_zero]

theorem on_readVoltage (h : reg < n) : (s.readVoltage div reg).on registers =
    s.valueToVoltage div (valueAt ((List.range n).map registers) reg) := by
  rw [readVoltage, on_readOnce, valueAt_map Nat.one_pos, valueAt_map h, Nat.add_zero]

theorem on_readCurrent (h : reg < n) : (s.readCurrent div reg).on registers =
    s.valueToCurrent div (valueAt ((List.range n).map registers) reg) := by
  rw [readCurrent, on_readOnce, valueAt_map Nat.one_pos, valueAt_map h, Nat.add_zero]

theorem readBoolean_on : (readBoolean reg).on registers = (registers reg != 0) :=
  on_readOnce reg 1 (fun values => valueAt values 0 != 0) registers

theorem on_readBoolean (h : reg < n) : (readBoolean reg).on registers =
    (valueAt ((List.range n).map registers) reg != 0) := by
  rw [readBoolean_on, valueAt_map h]

theorem on_readTemperature (h : reg + 1 < n) : (readTemperature reg).on registers =
    valuesToTemperature ((List.range n).map registers) reg := by
  rw [readTemperature, on_readOnce, valuesToTemperature_map (by decide),
    valuesToTemperature_map h, Nat.add_zero, Nat.zero_add]

/-- Two registers as one number, whatever is made of it. -/
theorem longAt_on (h : reg + 1 < n) :
    longAt ((List.range 2).map fun k => registers (reg + k)) 0 =
      longAt ((List.range n).map registers) reg := by
  rw [longAt_map (by decide), longAt_map h, Nat.add_zero, Nat.zero_add]

theorem on_getClock (h : Register.year + 5 < n) : getClock.on registers =
    valuesToTm ((List.range n).map registers) Register.year := by
  rw [getClock, on_readOnce, valuesToTm_map (by decide), valuesToTm_map h]

theorem on_getCalibration (h : Register.vOutZero + 7 < n) : getCalibration.on registers =
    valuesToCalibration ((List.range n).map registers) Register.vOutZero := by
  rw [getCalibration, on_readOnce, valuesToCalibration_map (by decide), valuesToCalibration_map h]

theorem on_getBrightness (h : Register.brightness < n) : getBrightness.on registers =
    valueAt ((List.range n).map registers) Register.brightness % 2 ^ 8 := by
  rw [getBrightness, on_readOnce, valueAt_map Nat.one_pos, valueAt_map h, Nat.add_zero]

end

/-- The fields are what their getters return. -/
structure AgreesWithGetters (registers : ℕ → ℕ) (v : AllValues) : Prop where
  systemTemperatureCelsius :
    v.systemTemperatureCelsius = getSystemTemperatureCelsius.on registers
  systemTemperatureFahrenheit :
    v.systemTemperatureFahrenheit = getSystemTemperatureFahrenheit.on registers
  voltageSet : v.voltageSet = (s.getVoltageSet div).on registers
  currentSet : v.currentSet = (s.getCurrentSet div).on registers
  voltageOut : v.voltageOut = (s.getVoltageOut div).on registers
  currentOut : v.currentOut = (s.getCurrentOut div).on registers
  powerOut : v.powerOut = (s.getPowerOut div).on registers
  keypadLocked : v.keypadLocked = isKeypadLocked.on registers
  protection : v.protection = getProtection.on registers
  outputMode : v.outputMode = getOutputMode.on registers
  outputOn : v.outputOn = getOutputOn.on registers
  currentRange : v.currentRange = getCurrentRange.on registers
  isBatteryMode : v.isBatteryMode = RidenModbus.isBatteryMode.on registers
  voltageBattery : v.voltageBattery = (s.getVoltageBattery div).on registers
  probeTemperatureCelsius : v.probeTemperatureCelsius = getProbeTemperatureCelsius.on registers
  probeTemperatureFahrenheit :
    v.probeTemperatureFahrenheit = getProbeTemperatureFahrenheit.on registers
  ah : v.ah = (getAh div).on registers
  wh : v.wh = (getWh div).on registers

/-- So are the fields that the subset leaves out. -/
structure SettingsAgree (registers : ℕ → ℕ) (x : AllSettings) : Prop where
  clock : x.clock = getClock.on registers
  isTakeOk : x.isTakeOk = RidenModbus.isTakeOk.on registers
  isTakeOut : x.isTakeOut = RidenModbus.isTakeOut.on registers
  isPowerOnBoot : x.isPowerOnBoot = RidenModbus.isPowerOnBoot.on registers
  isBuzzerEnabled : x.isBuzzerEnabled = RidenModbus.isBuzzerEnabled.on registers
  isLogo : x.isLogo = RidenModbus.isLogo.on registers
  language : x.language = getLanguage.on registers
  brightness : x.brightness = getBrightness.on registers
  calibration : x.calibration = getCalibration.on registers

variable {registers : ℕ → ℕ} {chunk : ℕ → Exchange} {values : ℕ → ℕ} {div s}

/-- An array of the registers of the subset is enough for the fields of the subset. -/
theorem agreesWithGetters_decode (subset : Bool) (hn : 42 < n) : s.AgreesWithGetters div registers
    ((s.getAllValues div subset).decode ((List.range n).map registers)) := by
  have hlt : ∀ {k : ℕ}, k < 43 → k < n := fun hk => Nat.lt_of_lt_of_le hk hn
  have hvalue : ∀ {k : ℕ}, k < 43 →
      valueAt ((List.range 1).map fun j => registers (k + j)) 0 =
        valueAt ((List.range n).map registers) k := fun hk => by
    rw [valueAt_map Nat.one_pos, valueAt_map (hlt hk), Nat.add_zero]
  exact
    { systemTemperatureCelsius := (on_readTemperature (hlt (by decide))).symm
      systemTemperatureFahrenheit := (on_readTemperature (hlt (by decide))).symm
      voltageSet := (on_readVoltage (hlt (by decide))).symm
      currentSet := (on_readCurrent (hlt (by decide))).symm
      voltageOut := (on_readVoltage (hlt (by decide))).symm
      currentOut := (on_readCurrent (hlt (by decide))).symm
      powerOut := by
        rw [getPowerOut, readPower, on_readOnce, valuesToPower, longAt_on (hlt (by decide))]
        rfl
      keypadLocked := (on_readBoolean (hlt (by decide))).symm
      protection := by
        rw [getProtection, on_readOnce, hvalue (by decide)]
        rfl
      outputMode := by
        rw [getOutputMode, on_readOnce, hvalue (by decide)]
        rfl
      outputOn := (on_readBoolean (hlt (by decide))).symm
      currentRange := (on_readValue (hlt (by decide))).symm
      isBatteryMode := (on_readBoolean (hlt (by decide))).symm
      voltageBattery := (on_readVoltage (hlt (by decide))).symm
      probeTemperatureCelsius := (on_readTemperature (hlt (by decide))).symm
      probeTemperatureFahrenheit := (on_readTemperature (hlt (by decide))).symm
      ah := by
        rw [getAh, on_readOnce, valuesToAh, longAt_on (hlt (by decide))]
        rfl
      wh := by
        rw [getWh, on_readOnce, valuesToWh, longAt_on (hlt (by decide))]
        rfl }

theorem settingsAgree_allSettings (hn : Register.m9Ocp < n) :
    SettingsAgree registers (s.allSettings div ((List.range n).map registers)) := by
  have hlt : ∀ {k : ℕ}, k < 120 → k < n := fun hk => Nat.lt_of_lt_of_le hk hn
  exact
    { clock := (on_getClock (hlt (by decide))).symm
      isTakeOk := (on_readBoolean (hlt (by decide))).symm
      isTakeOut := (on_readBoolean (hlt (by decide))).symm
      isPowerOnBoot := (on_readBoolean (hlt (by decide))).symm
      isBuzzerEnabled := (on_readBoolean (hlt (by decide))).symm
      isLogo := (on_readBoolean (hlt (by decide))).symm
      language := (on_readValue (hlt (by decide))).symm
      brightness := (on_getBrightness (hlt (by decide))).symm
      calibration := (on_getCalibration (hlt (by decide))).symm }

/-! ## The whole function -/

variable {subset : Bool} {locals : ℕ → ℕ} {v : AllValues}

theorem getAllValuesInto_fst : (s.getAllValuesInto div subset registers chunk locals v).1 =
    (readChunks registers chunk (totalNofRegs subset) 0 locals).result := by
  rw [getAllValuesInto]
  dsimp only
  generalize readChunks registers chunk _ 0 locals = r
  cases hr : r.result <;> simp

theorem getAllValuesInto_fst_iff :
    (s.getAllValuesInto div subset registers chunk locals v).1 = true ↔
      ∀ k, 20 * k < totalNofRegs subset → (chunk (20 * k)).result = true := by
  have h := @readChunks_result registers chunk (totalNofRegs subset) 0 locals
  rw [getAllValuesInto_fst, h]
  simp only [Nat.zero_add]

theorem getAllValuesInto_of_not_result
    (h : (s.getAllValuesInto div subset registers chunk locals v).1 = false) :
    s.getAllValuesInto div subset registers chunk locals v = (false, v) := by
  rw [getAllValuesInto_fst] at h
  rw [getAllValuesInto]
  exact if_neg (by rw [h]; exact Bool.false_ne_true)

theorem getAllValuesInto_of_result
    (h : (s.getAllValuesInto div subset registers chunk locals v).1 = true) :
    s.getAllValuesInto div subset registers chunk locals v =
      (true, { (s.getAllValues div subset).decode ((List.range (totalNofRegs subset)).map
          (readChunks registers chunk (totalNofRegs subset) 0 locals).values) with
        settings := ((s.getAllValues div subset).decode ((List.range (totalNofRegs subset)).map
          (readChunks registers chunk (totalNofRegs subset) 0 locals).values)).settings.or
            v.settings }) := by
  rw [getAllValuesInto_fst] at h
  rw [getAllValuesInto]
  exact if_pos h

/-- Once the reads have returned `true`, the array holds what was stored, or what it held. -/
theorem values_of_result (h : (s.getAllValuesInto div subset registers chunk locals v).1 = true)
    (k : ℕ) : (readChunks registers chunk (totalNofRegs subset) 0 locals).values k =
      if k < totalNofRegs subset ∧ chunk (20 * (k / 20)) = .done then registers k else locals k := by
  rw [getAllValuesInto_fst] at h
  rw [(readChunks_spec h).2.2]
  refine if_congr ?_ rfl rfl
  rw [Nat.zero_add, Nat.sub_zero, and_iff_right (Nat.zero_le k)]

/-- What the bulk read owes to the single getters. It succeeds when the reads of all its
    chunks do; then it has requested each register once, in chunks of at most 20, and
    stored it at its own index; the fields that it sets are what their getters return for
    the same registers (`voltage_in`, which has none, is the same in both modes), and the
    subset leaves the others alone. When a chunk fails, all fields are unchanged. -/
structure BulkAgrees (div : ℚ → ℚ → ℚ) (s : RidenModbus) (subset : Bool) (registers : ℕ → ℕ)
    (chunk : ℕ → Exchange) (locals : ℕ → ℕ) (v : AllValues) (r : ChunkRead)
    (out : Bool × AllValues) : Prop where
  result : out.1 = true ↔ ∀ k, 20 * k < totalNofRegs subset → (chunk (20 * k)).result = true
  requests (h : out.1 = true) :
    r.requests.flatMap (fun q => List.range' q.1 q.2) = List.range (totalNofRegs subset) ∧
      ∀ q ∈ r.requests, q.2 ≤ 20
  stored (h : out.1 = true) (k : ℕ) :
    r.values k = if k < totalNofRegs subset then registers k else locals k
  fields (h : out.1 = true) : s.AgreesWithGetters div registers out.2 ∧
    out.2.voltageIn = s.valueToVoltageIn div (registers Register.voltageIn)
  settings (h : out.1 = true) : if subset then out.2.settings = v.settings
    else ∃ x, out.2.settings = some x ∧ SettingsAgree registers x
  unchanged (h : out.1 = false) : out.2 = v

/-- An array of the registers is decoded to what the getters return. -/
theorem bulkAgrees_of_stored
    (h : (s.getAllValuesInto div subset registers chunk locals v).1 = true)
    (hstored : ∀ k < totalNofRegs subset,
      (readChunks registers chunk (totalNofRegs subset) 0 locals).values k = registers k) :
    BulkAgrees div s subset registers chunk locals v
      (readChunks registers chunk (totalNofRegs subset) 0 locals)
      (s.getAllValuesInto div subset registers chunk locals v) := by
  have hmap : (List.range (totalNofRegs subset)).map
      (readChunks registers chunk (totalNofRegs subset) 0 locals).values =
        (List.range (totalNofRegs subset)).map registers :=
    List.map_congr_left fun k hk => hstored k (List.mem_range.1 hk)
  have hlarge : 42 < totalNofRegs subset ∧ Register.voltageIn < totalNofRegs subset := by
    cases subset <;> decide
  have hagrees : s.AgreesWithGetters div registers _ := agreesWithGetters_decode subset hlarge.1
  have hspec := @readChunks_spec registers chunk (totalNofRegs subset) 0 locals
    (getAllValuesInto_fst.symm.trans h)
  have hout := getAllValuesInto_of_result h
  rw [hmap] at hout
  refine ⟨getAllValuesInto_fst_iff, fun _ => ⟨?_, hspec.2.1⟩, fun _ k => ?_, fun _ => ?_,
    fun _ => ?_, fun hfalse => ?_⟩
  · rw [hspec.1, Nat.sub_zero, List.range_eq_range']
  · split_ifs with hk
    · exact hstored k hk
    · rw [values_of_result h, if_neg fun hand => hk hand.1]
  · rw [hout]
    refine ⟨{ hagrees with }, ?_⟩
    change s.valueToVoltageIn div (valueAt _ _) = _
    rw [valueAt_map hlarge.2]
  · rw [hout]
    cases subset with
    | true => rfl
    | false => exact ⟨_, rfl, settingsAgree_allSettings (Nat.lt_succ_self _)⟩
  · rw [h] at hfalse
    cases hfalse

/-- **Bulk reading agrees with the single getters**, exactly if the read of a chunk fails,
    or no chunk is answered by an exception, unless the array already held its registers. -/
theorem bulkAgrees_iff (div : ℚ → ℚ → ℚ) (s : RidenModbus) (subset : Bool)
    (registers : ℕ → ℕ) (chunk : ℕ → Exchange) (locals : ℕ → ℕ) (v : AllValues) :
    BulkAgrees div s subset registers chunk locals v
        (readChunks registers chunk (totalNofRegs subset) 0 locals)
        (s.getAllValuesInto div subset registers chunk locals v) ↔
      (∃ k, 20 * k < totalNofRegs subset ∧ chunk (20 * k) = .failed) ∨
        ∀ k < totalNofRegs subset, chunk (20 * (k / 20)) = .done ∨ locals k = registers k := by
  cases hresult : (s.getAllValuesInto div subset registers chunk locals v).1 with
  | false =>
    -- a chunk has failed, and no field was set
    have hfailed : ∃ k, 20 * k < totalNofRegs subset ∧ chunk (20 * k) = .failed := by
      by_contra hcon
      refine Bool.false_ne_true (hresult.symm.trans (getAllValuesInto_fst_iff.2 fun k hk => ?_))
      cases hchunk : chunk (20 * k) with
      | failed => exact absurd ⟨k, hk, hchunk⟩ hcon
      | done | exception => rfl
    have hnot {p : Prop} (h : (s.getAllValuesInto div subset registers chunk locals v).1 = true) :
        p := absurd (hresult.symm.trans h) Bool.false_ne_true
    exact iff_of_true
      { result := getAllValuesInto_fst_iff
        requests := hnot
        stored := hnot
        fields := hnot
        settings := hnot
        unchanged := fun _ => congrArg Prod.snd (getAllValuesInto_of_not_result hresult) }
      (Or.inl hfailed)
  | true =>
    -- no chunk has failed, and one that was answered by an exception has left its part
    -- of the array as it was
    have hnone : ¬ ∃ k, 20 * k < totalNofRegs subset ∧ chunk (20 * k) = .failed := by
      rintro ⟨k, hk, hfailed⟩
      have hall := getAllValuesInto_fst_iff.1 hresult k hk
      rw [hfailed] at hall
      cases hall
    rw [or_iff_right hnone]
    constructor
    · intro h k hk
      have hvalue := (values_of_result hresult k).symm.trans (h.stored hresult k)
      rw [if_pos hk] at hvalue
      by_cases hdone : chunk (20 * (k / 20)) = .done
      · exact Or.inl hdone
      · rw [if_neg fun hand => hdone hand.2] at hvalue
        exact Or.inr hvalue
    · intro h
      refine bulkAgrees_of_stored hresult fun k hk => ?_
      rw [values_of_result hresult]
      split_ifs with hdone
      · rfl
      · exact (h k hk).resolve_left fun hdone' => hdone ⟨hk, hdone'⟩

/-- The second chunk is answered by an exception: the read succeeds, and the registers from
    20 on, of which 33 is the voltage of the battery, are what the array held. -/
theorem not_bulkAgrees_exception : ¬ BulkAgrees (· / ·)
    ⟨"RD6006", 601 / 10, 6, 100, 1000, 100, 100⟩ true (fun _ => 0)
    (fun k => if k = 20 then .exception else .done) (fun _ => 1)
    ((getAllValues (· / ·) ⟨"RD6006", 601 / 10, 6, 100, 1000, 100, 100⟩ true).on fun _ => 0)
    (readChunks (fun _ => 0) (fun k => if k = 20 then .exception else .done)
      (totalNofRegs true) 0 fun _ => 1)
    (getAllValuesInto (· / ·) ⟨"RD6006", 601 / 10, 6, 100, 1000, 100, 100⟩ true (fun _ => 0)
      (fun k => if k = 20 then .exception else .done) (fun _ => 1)
      ((getAllValues (· / ·) ⟨"RD6006", 601 / 10, 6, 100, 1000, 100, 100⟩ true).on fun _ => 0)) := by
  intro h
  have hresult := h.result.2 fun k _ => by split_ifs <;> rfl
  have hwrong := (values_of_result hresult 33).symm.trans (h.stored hresult 33)
  rw [if_neg (by decide), if_pos (by decide)] at hwrong
  cases hwrong

end RidenModbus

end RidenDongle
