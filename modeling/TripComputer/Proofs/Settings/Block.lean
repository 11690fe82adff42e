import Mathlib.Data.List.Basic
import TripComputer.Proofs.Image.Access

/-!
# The settings block

`loadSettings_eq_stored_iff` says which blocks load: those that saving writes for tables whose
values fit their widths.  What a table was saved as, what writes elsewhere leave of it and
what a loaded table is like are all read off it.
-/

namespace TripComputer

namespace Setting

theorem toNat_maxValue (setting : Setting) : setting.maxValue.toNat + 1 = 1 <<< setting.bits := by
  cases setting <;> decide

theorem le_maxValue_iff {setting : Setting} {value : UInt32} :
    value ≤ setting.maxValue ↔ value.toNat < 1 <<< setting.bits := by
  rw [UInt32.le_iff_toNat_le, ← toNat_maxValue, Nat.lt_succ_iff]

end Setting

namespace Settings

/-- Every value fits the width of its setting.  The defaults do, and whatever an editor or a
program changes keeps it so. -/
def InRange (settings : Settings) : Prop :=
  ∀ setting, settings.get setting ≤ setting.maxValue

theorem InRange.lt {settings : Settings} (inRange : settings.InRange) (setting : Setting) :
    (settings.get setting).toNat < 1 <<< setting.bits :=
  Setting.le_maxValue_iff.mp (inRange setting)

theorem toNat_get_pos {settings : Settings} {setting : Setting}
    (nonzero : settings.get setting ≠ 0) : 0 < (settings.get setting).toNat :=
  UInt32.lt_iff_toNat_lt.mp (UInt32.pos_iff_ne_zero.mpr nonzero)

theorem inRange_defaults : defaults.InRange := by
  intro setting
  cases setting <;> decide

theorem InRange.put {settings : Settings} (inRange : settings.InRange) {setting : Setting}
    {value : UInt32} (fits : value ≤ setting.maxValue) : (settings.put setting value).InRange := by
  intro other
  by_cases same : other = setting
  · subst same
    rwa [get_put_self]
  · rw [get_put_of_ne settings value same]
    exact inRange other

/-- What a program stores fits, whatever it is. -/
theorem InRange.store {settings : Settings} (inRange : settings.InRange) (setting : Setting)
    (value : UInt64) : (settings.store setting value).InRange := by
  apply inRange.put
  split
  case isTrue fits =>
    rw [UInt64.le_iff_toNat_le, UInt32.toNat_toUInt64] at fits
    rw [UInt32.le_iff_toNat_le, UInt64.toNat_toUInt32]
    exact Nat.le_trans (Nat.mod_le _ _) fits
  case isFalse => exact UInt32.le_refl _

/-- What a program stores of a number is limited to the width of the setting. -/
theorem store_eq (settings : Settings) (setting : Setting) (value : UInt64) :
    settings.store setting value =
      settings.put setting (min setting.maxValue.toNat value.toNat).toUInt32 := by
  rw [store]
  congr 1
  apply UInt32.toNat_inj.mp
  have narrow : min setting.maxValue.toNat value.toNat < 2 ^ 32 :=
    Nat.lt_of_le_of_lt (Nat.min_le_left _ _) setting.maxValue.toNat_lt
  show _ = min setting.maxValue.toNat value.toNat % 2 ^ 32
  rw [Nat.mod_eq_of_lt narrow]
  split
  next fits =>
    have less : value.toNat ≤ setting.maxValue.toNat := UInt64.le_iff_toNat_le.mp fits
    rw [Nat.min_eq_right less] at narrow ⊢
    exact Nat.mod_eq_of_lt narrow
  next exceeds =>
    exact (Nat.min_eq_left (Nat.le_of_not_ge (mt UInt64.le_iff_toNat_le.mpr exceeds))).symm

theorem set_eq_ok_iff {settings changed : Settings} {setting : Setting} {value : UInt32} :
    settings.set setting value = .ok changed ↔
      value ≤ setting.maxValue ∧ settings.put setting value = changed := by
  unfold set
  split
  case isTrue wide => simp [UInt32.not_le.mpr wide]
  case isFalse fits => simp [UInt32.not_lt.mp fits]

theorem set_eq_error_iff {settings : Settings} {setting : Setting} {value : UInt32}
    {refusal : SettingError} :
    settings.set setting value = .error refusal ↔
      setting.maxValue < value ∧ .outOfRange setting value = refusal := by
  unfold set
  split
  case isTrue wide => simp [show setting.maxValue < value from wide]
  case isFalse fits => simp [show ¬setting.maxValue < value from fits]

/-- What the editor accepts fits. -/
theorem InRange.set {settings changed : Settings} (inRange : settings.InRange) {setting : Setting}
    {value : UInt32} (accepted : settings.set setting value = .ok changed) : changed.InRange := by
  obtain ⟨fits, rfl⟩ := set_eq_ok_iff.mp accepted
  exact inRange.put fits

theorem exists_position (place : Fin Setting.count) :
    ∃ setting : Setting, setting.position = place := by
  refine ⟨Setting.all.get place, ?_⟩
  revert place
  decide

/-- Tables with the same values are the same. -/
theorem ext_get {settings other : Settings}
    (same : ∀ setting, settings.get setting = other.get setting) : settings = other := by
  obtain ⟨values⟩ := settings
  obtain ⟨others⟩ := other
  congr 1
  apply Vector.ext
  intro place inside
  obtain ⟨setting, here⟩ := exists_position ⟨place, inside⟩
  have value := same setting
  simp only [get, here] at value
  exact value

end Settings

namespace BigEndian

/-- Writing undoes reading. -/
theorem encode_decode {bytes : List UInt8} (four : bytes.length = 4) :
    encode (decode bytes) = bytes := by
  match bytes, four with
  | [first, second, third, fourth], _ =>
      simp only [encode, decode, List.foldl_cons, List.foldl_nil, List.cons.injEq, and_true,
        ← UInt8.toBitVec_inj, UInt32.toBitVec_or, UInt32.toBitVec_shiftLeft,
        UInt8.toBitVec_toUInt32, UInt32.toBitVec_toUInt8, UInt32.toBitVec_shiftRight]
      refine ⟨?_, ?_, ?_, ?_⟩
      all_goals
        apply BitVec.eq_of_getLsbD_eq
        intro position bound
        have above : ¬8 + position < 8 ∧ ¬16 + position < 8 ∧ ¬24 + position < 8 ∧
            ¬16 + position - 8 < 8 ∧ ¬24 + position - 8 < 8 ∧ ¬24 + position - 16 < 8 := by omega
        simp (disch := omega) [bound, above, Nat.sub_sub]

theorem eq_encode_iff {bytes : List UInt8} (four : bytes.length = 4) (word : UInt32) :
    bytes = encode word ↔ decode bytes = word := by
  constructor
  · rintro rfl
    exact decode_encode word
  · rintro rfl
    exact (encode_decode four).symm

/-- Bytes spell a list of words where each four of them spell one. -/
theorem take_eq_flatMap_iff (cells : List UInt8) (words : List UInt32)
    (long : 4 * words.length ≤ cells.length) :
    cells.take (4 * words.length) = words.flatMap encode ↔
      ∀ (place : Nat) (word : UInt32), words[place]? = some word →
        decode ((cells.drop (4 * place)).take 4) = word := by
  induction words generalizing cells with
  | nil => exact ⟨nofun, fun _ => rfl⟩
  | cons first rest induction =>
      rw [List.length_cons] at long
      have four : (cells.take 4).length = 4 := by
        rw [List.length_take]
        omega
      have later := induction (cells.drop 4) (by rw [List.length_drop]; omega)
      simp only [List.drop_drop] at later
      rw [List.length_cons, Nat.mul_succ, Nat.add_comm, List.take_add, List.flatMap_cons,
        List.append_eq_append_iff_of_size_eq_left (four.trans (length_encode first).symm),
        eq_encode_iff four, later]
      constructor
      · rintro ⟨here, behind⟩ (_ | place) word found
        · cases found
          exact here
        · have spelled := behind place word found
          rwa [Nat.add_comm, ← Nat.mul_succ] at spelled
      · intro all
        refine ⟨all 0 first rfl, fun place word found => ?_⟩
        rw [Nat.add_comm, ← Nat.mul_succ]
        exact all (place + 1) word found

end BigEndian

namespace Image

variable {store : Store} {settings base : Settings}

/-- The words of the settings block. -/
def blockWords (settings : Settings) : List UInt32 :=
  settingsSignature :: settings.toList.map (·.2)

theorem blockWords_of_position (settings : Settings) (setting : Setting) :
    (blockWords settings)[setting.position.val + 1]? = some (settings.get setting) := by
  simp [blockWords, Settings.toList, Setting.all_getElem?_position]

theorem readWord_eq_ok_iff {address : Nat} {word : UInt32} :
    store.readWord address = .ok word ↔
      address + 4 ≤ store.capacity ∧
        BigEndian.decode ((store.cells.drop address).take 4) = word := by
  unfold Store.readWord Store.read
  split
  case isTrue inside => simp [Except.map, inside]
  case isFalse outside => simp [Except.map, outside]

theorem loadValues_cons_iff {first : Setting} {rest : List Setting} :
    loadValues store base (first :: rest) = .ok (some settings) ↔
      ∃ value, store.readWord (settingAddress first) = .ok value ∧ value ≤ first.maxValue ∧
        loadValues store (base.put first value) rest = .ok (some settings) := by
  rw [loadValues, bind_eq_ok_iff]
  refine exists_congr fun value => and_congr mapError_eq_ok_iff ?_
  cases stored : base.set first value with
  | error refusal =>
      obtain ⟨wide, _⟩ := Settings.set_eq_error_iff.mp stored
      simp [UInt32.not_le.mpr wide]
  | ok changed =>
      obtain ⟨fits, rfl⟩ := Settings.set_eq_ok_iff.mp stored
      simp [fits]

/-- Loading takes over the words of the settings that it is asked for, where all of them fit. -/
theorem loadValues_eq_iff {names : List Setting} :
    loadValues store base names = .ok (some settings) ↔
      (∀ setting ∈ names, store.readWord (settingAddress setting) = .ok (settings.get setting) ∧
        settings.get setting ≤ setting.maxValue) ∧
      ∀ setting, setting ∉ names → settings.get setting = base.get setting := by
  induction names generalizing base with
  | nil =>
      constructor
      · intro loaded
        cases loaded
        exact ⟨nofun, fun _ _ => rfl⟩
      · rintro ⟨_, same⟩
        rw [Settings.ext_get fun setting => same setting List.not_mem_nil]
        rfl
  | cons first rest induction =>
      rw [loadValues_cons_iff]
      constructor
      · rintro ⟨value, read, fits, loaded⟩
        obtain ⟨taken, left⟩ := induction.mp loaded
        -- a setting that is asked for again has the value of its later word
        have here : first ∈ rest ∨ settings.get first = value := by
          by_cases again : first ∈ rest
          · exact .inl again
          · rw [left first again, Settings.get_put_self]
            exact .inr rfl
        refine ⟨fun setting member => ?_, fun setting absent => ?_⟩
        · rcases List.mem_cons.mp member with rfl | later
          · rcases here with again | rfl
            · exact taken setting again
            · exact ⟨read, fits⟩
          · exact taken setting later
        · obtain ⟨different, later⟩ := not_or.mp (mt List.mem_cons.mpr absent)
          rw [left setting later, Settings.get_put_of_ne base value different]
      · rintro ⟨taken, left⟩
        obtain ⟨read, fits⟩ := taken first List.mem_cons_self
        refine ⟨settings.get first, read, fits, induction.mpr ⟨fun setting member =>
          taken setting (List.mem_cons_of_mem first member), fun setting absent => ?_⟩⟩
        by_cases same : setting = first
        · rw [same, Settings.get_put_self]
        · rw [Settings.get_put_of_ne base _ same]
          exact left setting (mt List.mem_cons.mp (not_or.mpr ⟨same, absent⟩))

theorem loadSettings_eq_stored_iff_words :
    loadSettings store = .ok (.stored settings) ↔
      settings.InRange ∧ store.readWord 0 = .ok settingsSignature ∧
        ∀ setting, store.readWord (settingAddress setting) = .ok (settings.get setting) := by
  have loads : loadSettings store = .ok (.stored settings) ↔
      store.readWord 0 = .ok settingsSignature ∧
        loadValues store Settings.defaults Setting.all = .ok (some settings) := by
    rw [loadSettings, bind_eq_ok_iff]
    constructor
    · rintro ⟨found, read, loaded⟩
      split at loaded
      case isTrue => cases loaded
      case isFalse signed =>
        obtain ⟨values, valuesLoaded, loaded⟩ := bind_eq_ok_iff.mp loaded
        cases values with
        | none => cases loaded
        | some values =>
            cases loaded
            rw [not_not.mp signed] at read
            exact ⟨mapError_eq_ok_iff.mp read, valuesLoaded⟩
    · rintro ⟨read, loaded⟩
      refine ⟨settingsSignature, mapError_eq_ok_iff.mpr read, ?_⟩
      simp [loaded, bind, Except.bind, pure, Except.pure]
  have every : ∀ {Holds : Setting → Prop}, (∀ setting ∈ Setting.all, Holds setting) ↔
      ∀ setting, Holds setting :=
    ⟨fun holds setting => holds setting setting.mem_all, fun holds setting _ => holds setting⟩
  have none : ∀ setting, setting ∉ Setting.all → settings.get setting = Settings.defaults.get setting :=
    fun setting absent => absurd setting.mem_all absent
  rw [loads, loadValues_eq_iff, every]
  constructor
  · rintro ⟨signed, taken, _⟩
    exact ⟨fun setting => (taken setting).2, signed, fun setting => (taken setting).1⟩
  · rintro ⟨inRange, signed, taken⟩
    exact ⟨signed, fun setting => ⟨taken setting, inRange setting⟩, none⟩

/-- The blocks that load are those that saving writes for tables within their widths. -/
theorem loadSettings_eq_stored_iff :
    loadSettings store = .ok (.stored settings) ↔
      settings.InRange ∧ store.read 0 settingsLength = .ok (settingsBytes settings) := by
  have spells (long : settingsLength ≤ store.capacity) :=
    BigEndian.take_eq_flatMap_iff store.cells (blockWords settings) long
  have block : store.read 0 settingsLength = .ok (settingsBytes settings) ↔
      settingsLength ≤ store.capacity ∧
        store.cells.take settingsLength = (blockWords settings).flatMap BigEndian.encode := by
    rw [Store.read, Nat.zero_add]
    split
    case isTrue long => simp [long, settingsBytes, blockWords]
    case isFalse short => simp [short]
  have address (setting : Setting) :
      settingAddress setting = 4 * (setting.position.val + 1) := by
    rw [settingAddress, Nat.mul_succ, Nat.add_comm]
  rw [loadSettings_eq_stored_iff_words, block]
  refine and_congr_right fun _ => ?_
  simp only [readWord_eq_ok_iff, address]
  constructor
  · rintro ⟨⟨_, signed⟩, taken⟩
    refine ⟨(taken .scratchpad).1, (spells (taken .scratchpad).1).mpr ?_⟩
    rintro (_ | place) word found
    · cases found
      exact signed
    · obtain ⟨inside, _⟩ := List.getElem?_eq_some_iff.mp found
      obtain ⟨setting, here⟩ := Settings.exists_position ⟨place, Nat.lt_of_succ_lt_succ inside⟩
      have same := blockWords_of_position settings setting
      rw [here, found] at same
      have spelled := (taken setting).2
      rw [here] at spelled
      exact spelled.trans (Option.some.inj same).symm
  · rintro ⟨long, whole⟩
    have words := (spells long).mp whole
    have size : settingsLength = 96 := rfl
    refine ⟨⟨by omega, words 0 _ rfl⟩, fun setting => ⟨?_, words _ _ (blockWords_of_position ..)⟩⟩
    have last : setting.position.val < 23 := setting.position.isLt
    omega

theorem eq_defaults_of_defaulted (loaded : loadSettings store = .ok (.defaulted settings)) :
    settings = Settings.defaults := by
  rw [loadSettings, bind_eq_ok_iff] at loaded
  obtain ⟨found, _, loaded⟩ := loaded
  split at loaded
  case isTrue =>
    cases loaded
    rfl
  case isFalse =>
    obtain ⟨values, _, loaded⟩ := bind_eq_ok_iff.mp loaded
    cases values with
    | none =>
        cases loaded
        rfl
    | some values => cases loaded

theorem capacity_of_stored (stored : loadSettings store = .ok (.stored settings)) :
    settingsLength ≤ store.capacity := by
  have block := (loadSettings_eq_stored_iff.mp stored).2
  rw [Store.read, Nat.zero_add] at block
  split at block
  case isTrue long => exact long
  case isFalse => cases block

/-- A table within its widths is stored where there is room for it. -/
theorem stored_of_saveSettings {saved : Store} (inRange : settings.InRange)
    (wrote : saveSettings store settings = .ok saved) :
    loadSettings saved = .ok (.stored settings) :=
  loadSettings_eq_stored_iff.mpr
    ⟨inRange, Store.read_write (saveSettings_eq_ok_iff.mp wrote)⟩

theorem exists_saveSettings (settings : Settings) (long : settingsLength ≤ store.capacity) :
    ∃ saved, saveSettings store settings = .ok saved := by
  have inside : 0 + (settingsBytes settings).length ≤ store.capacity := by
    rw [Nat.zero_add]
    exact long
  exact ⟨_, saveSettings_eq_ok_iff.mpr (Store.write_eq_ok_iff.mpr ⟨inside, rfl⟩)⟩

/-- Trips are saved behind the settings block. -/
theorem stored_of_saveTrip {saved : Store} {slot : Nat} {trip : Trip} {timestamp : UInt32}
    (stored : loadSettings store = .ok (.stored settings))
    (wrote : saveTrip store slot trip timestamp = .ok saved) :
    loadSettings saved = .ok (.stored settings) := by
  obtain ⟨address, located, wrote⟩ := saveTrip_eq_ok_iff.mp wrote
  have behind : settingsLength ≤ address := by
    rw [slotAddress] at located
    split at located
    case isTrue =>
      cases located
      exact Nat.le_add_right _ _
    case isFalse => cases located
  obtain ⟨inRange, block⟩ := loadSettings_eq_stored_iff.mp stored
  have kept : saved.read 0 settingsLength = store.read 0 settingsLength :=
    Store.read_write_of_disjoint wrote (.inl (by rwa [Nat.zero_add]))
  exact loadSettings_eq_stored_iff.mpr ⟨inRange, kept.trans block⟩

end Image

end TripComputer
