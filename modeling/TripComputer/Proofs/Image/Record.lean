import TripComputer.Proofs.Settings.Block

/-!
# The image as a record

Seen through loading, an image is one table of settings and ten trips.  Saving changes one of
these eleven parts and no other: each part has its own bytes, and loading a part reads nothing
but its bytes.
-/

namespace TripComputer

namespace Trip

theorem join_split (counter : UInt64) :
    join counter.toUInt32 (counter >>> 32).toUInt32 = counter := by
  apply UInt64.toBitVec_inj.mp
  apply BitVec.eq_of_getLsbD_eq
  intro position bound
  simp only [join, UInt64.toBitVec_or, UInt64.toBitVec_shiftLeft, UInt32.toBitVec_toUInt64,
    UInt64.toBitVec_toUInt32, UInt64.toBitVec_shiftRight]
  by_cases low : position < 32
  · simp [low, bound]
  · have high : position - 32 < 32 := by omega
    have place : 32 + (position - 32) = position := by omega
    simp [low, bound, high, place]

theorem length_encode (trip : Trip) (timestamp : UInt32) :
    (trip.encode timestamp).length = imageLength := rfl

/-- An image reads back as what it was written from. -/
theorem decode?_encode (trip : Trip) (timestamp : UInt32) :
    decode? (trip.encode timestamp) = some (timestamp, trip) := by
  have signed : (trip.encode timestamp)[imageLength - 1]? = some signature := rfl
  have spelled : ∀ place word, (timestamp :: trip.words)[place]? = some word →
      wordAt (trip.encode timestamp) place = word := by
    apply (BigEndian.take_eq_flatMap_iff (trip.encode timestamp) (timestamp :: trip.words) _).mp
    · rfl
    · simp [words, split, length_encode]
  rw [decode?, if_pos signed]
  simp only [spelled 0 _ rfl, spelled 1 _ rfl, spelled 2 _ rfl, spelled 3 _ rfl, spelled 4 _ rfl,
    spelled 5 _ rfl, spelled 6 _ rfl, spelled 7 _ rfl, spelled 8 _ rfl, join_split]

end Trip

namespace Image

variable {store other written : Store}

/-- Bytes of the settings block and the trip slots. -/
abbrev recordLength : Nat := settingsLength + slotCount * Trip.imageLength

theorem slotAddress_of_lt {slot : Nat} (inside : slot < slotCount) :
    slotAddress slot = .ok (settingsLength + slot * Trip.imageLength) := by
  rw [slotAddress, if_pos inside]

theorem slotAddress_of_le {slot : Nat} (outside : slotCount ≤ slot) :
    slotAddress slot = .error (.slotOutOfRange slot) := by
  rw [slotAddress, if_neg (Nat.not_lt.mpr outside)]

theorem settingAddress_le (setting : Setting) : settingAddress setting + 4 ≤ settingsLength := by
  have last : setting.position.val < 23 := setting.position.isLt
  simp only [settingAddress, settingsLength, Setting.count]
  omega

theorem loadValues_congr (settings : Settings) (names : List Setting)
    (same : ∀ setting, store.readWord (settingAddress setting) =
      other.readWord (settingAddress setting)) :
    loadValues store settings names = loadValues other settings names := by
  induction names generalizing settings with
  | nil => rfl
  | cons first rest induction =>
      simp only [loadValues, same first, induction]

/-- Loading the settings reads the words of the settings block, and nothing else. -/
theorem loadSettings_congr
    (same : ∀ address, address + 4 ≤ settingsLength →
      store.readWord address = other.readWord address) :
    loadSettings store = loadSettings other := by
  have signature := same 0 (by decide)
  have values := loadValues_congr Settings.defaults Setting.all
    fun setting => same (settingAddress setting) (settingAddress_le setting)
  rw [loadSettings, loadSettings, signature, values]

theorem exists_readWord {address : Nat} (inside : address + 4 ≤ store.capacity) :
    ∃ word, store.readWord address = .ok word :=
  ⟨_, readWord_eq_ok_iff.mpr ⟨inside, rfl⟩⟩

theorem exists_loadValues (settings : Settings) (names : List Setting)
    (room : settingsLength ≤ store.capacity) :
    ∃ values, loadValues store settings names = .ok values := by
  induction names generalizing settings with
  | nil => exact ⟨_, rfl⟩
  | cons first rest induction =>
      obtain ⟨word, read⟩ := exists_readWord (Nat.le_trans (settingAddress_le first) room)
      simp only [loadValues, read, Except.mapError, bind, Except.bind]
      cases settings.set first word with
      | error refusal => exact ⟨_, rfl⟩
      | ok changed => exact induction changed

/-- Whatever its bytes, a settings block that lies in the store loads, if only as the
defaults. -/
theorem exists_loadSettings (room : settingsLength ≤ store.capacity) :
    ∃ loaded, loadSettings store = .ok loaded := by
  obtain ⟨found, read⟩ := exists_readWord (Nat.le_trans (show 0 + 4 ≤ settingsLength by decide) room)
  obtain ⟨values, loaded⟩ := exists_loadValues Settings.defaults Setting.all room
  simp only [loadSettings, read, loaded, Except.mapError, bind, Except.bind, pure, Except.pure]
  split
  · exact ⟨_, rfl⟩
  · cases values <;> exact ⟨_, rfl⟩

theorem slot_end_le {slot : Nat} (inside : slot < slotCount) :
    settingsLength + slot * Trip.imageLength + Trip.imageLength ≤ recordLength := by
  simp only [slotCount] at inside
  simp only [recordLength, settingsLength, slotCount, Trip.imageLength, Setting.count]
  omega

theorem loadTrip_eq_ok_iff {slot : Nat} (inside : slot < slotCount)
    {saved : Option (UInt32 × Trip)} :
    loadTrip store slot = .ok saved ↔
      ∃ image, store.read (settingsLength + slot * Trip.imageLength) Trip.imageLength =
        .ok image ∧ Trip.decode? image = saved := by
  simp only [loadTrip, bind_eq_ok_iff, slotAddress_of_lt inside, mapError_eq_ok_iff]
  constructor
  · rintro ⟨_, ⟨⟩, image, read, ⟨⟩⟩
    exact ⟨image, read, rfl⟩
  · rintro ⟨image, read, rfl⟩
    exact ⟨_, rfl, image, read, rfl⟩

theorem exists_loadTrip {slot : Nat} (inside : slot < slotCount)
    (room : settingsLength + slot * Trip.imageLength + Trip.imageLength ≤ store.capacity) :
    ∃ saved, loadTrip store slot = .ok saved := by
  have read : store.read (settingsLength + slot * Trip.imageLength) Trip.imageLength = .ok _ :=
    if_pos room
  exact ⟨_, (loadTrip_eq_ok_iff inside).mpr ⟨_, read, rfl⟩⟩

/-- What an image holds for those who load it: one table and ten trips. -/
structure Record where
  settings : LoadedSettings
  trips : Fin slotCount → Option (UInt32 × Trip)

/-- Loading finds what a record says. -/
structure Holds (store : Store) (record : Record) : Prop where
  settings : loadSettings store = .ok record.settings
  trips : ∀ slot : Fin slotCount, loadTrip store slot = .ok (record.trips slot)

theorem exists_record (room : recordLength ≤ store.capacity) : ∃ record, Holds store record := by
  obtain ⟨settings, loaded⟩ := exists_loadSettings (Nat.le_trans (Nat.le_add_right _ _) room)
  have saved : ∀ slot : Fin slotCount, ∃ trip, loadTrip store slot = .ok trip := by
    intro slot
    exact exists_loadTrip slot.isLt (Nat.le_trans (slot_end_le slot.isLt) room)
  choose trips found using saved
  exact ⟨⟨settings, trips⟩, loaded, found⟩

/-- Something to be saved. -/
inductive Save where
  | settings (table : Settings)
  | trip (slot : Nat) (counts : Trip) (timestamp : UInt32)

namespace Save

/-- The access to the store that a save makes. -/
def access : Save → Store.Access StorageError Unit
  | .settings table => putSettings table
  | .trip slot counts timestamp => putTrip slot counts timestamp

def run (store : Store) (save : Save) : Except StorageError Store :=
  save.access.outcome store

/-- The store that a save leaves, whether it is refused or not. -/
def after (store : Store) (save : Save) : Store :=
  save.access.after store

/-- Where the bytes of a save begin. -/
def address : Save → Except StorageError Nat
  | .settings _ => .ok 0
  | .trip slot _ _ => slotAddress slot

def bytes : Save → List UInt8
  | .settings table => settingsBytes table
  | .trip _ counts timestamp => counts.encode timestamp

/-- Whether the values of what is saved fit. -/
def Fits : Save → Prop
  | .settings table => table.InRange
  | .trip _ _ _ => True

/-- Every save writes its bytes at its address. -/
theorem run_eq (store : Store) (save : Save) :
    save.run store =
      save.address >>= fun address => (store.write address save.bytes).mapError .access := by
  cases save with
  | settings table => exact saveSettings_eq store table
  | trip slot counts timestamp => exact saveTrip_eq store slot counts timestamp

theorem run_eq_ok_iff {save : Save} :
    save.run store = .ok written ↔
      ∃ address, save.address = .ok address ∧ store.write address save.bytes = .ok written := by
  simp only [run_eq, bind_eq_ok_iff, mapError_eq_ok_iff]

theorem after_of_ok {save : Save} (wrote : save.run store = .ok written) :
    save.after store = written :=
  Store.Access.after_of_ok wrote

theorem atomic_access (save : Save) : save.access.Atomic := by
  cases save with
  | settings table => exact atomic_putSettings table
  | trip slot counts timestamp => exact atomic_putTrip slot counts timestamp

theorem after_of_error {save : Save} {error : StorageError}
    (refused : save.run store = .error error) : save.after store = store :=
  save.atomic_access.after_of_error refused

/-- A save whose bytes lie in the store is carried out. -/
theorem write_after (save : Save) {address : Nat} (placed : save.address = .ok address)
    (inside : address + save.bytes.length ≤ store.capacity) :
    store.write address save.bytes = .ok (save.after store) := by
  have wrote := Store.write_eq_ok_iff.mpr ⟨inside, rfl⟩
  rw [after_of_ok (run_eq_ok_iff.mpr ⟨address, placed, wrote⟩)]
  exact wrote

end Save

/-- The record after a save: the part that is saved is replaced. -/
def Record.after (record : Record) : Save → Record
  | .settings table => { record with settings := .stored table }
  | .trip slot counts timestamp =>
      { record with
        trips := fun place =>
          if place.val = slot then some (timestamp, counts) else record.trips place }

theorem run_of_no_slot (store : Store) {slot : Nat} (outside : slotCount ≤ slot) (counts : Trip)
    (timestamp : UInt32) :
    (Save.trip slot counts timestamp).run store = .error (.slotOutOfRange slot) := by
  rw [Save.run_eq, Save.address, slotAddress_of_le outside]
  rfl

theorem record_after_of_no_slot {slot : Nat} (outside : slotCount ≤ slot) (record : Record)
    (counts : Trip) (timestamp : UInt32) :
    record.after (.trip slot counts timestamp) = record := by
  have apart : ∀ place : Fin slotCount, place.val ≠ slot := by
    intro place same
    exact absurd place.isLt (Nat.not_lt.mpr (same ▸ outside))
  simp only [Record.after, apart, if_false]

theorem holds_after_settings {record : Record} {table : Settings} (holds : Holds store record)
    (room : recordLength ≤ store.capacity) (inRange : table.InRange) :
    Holds ((Save.settings table).after store) (record.after (.settings table)) := by
  have inside : 0 + (Save.settings table).bytes.length ≤ store.capacity :=
    Nat.le_trans (show 0 + settingsLength ≤ recordLength by decide) room
  have wrote := Save.write_after (.settings table) rfl inside
  constructor
  · exact stored_of_saveSettings inRange (saveSettings_eq_ok_iff.mpr wrote)
  · intro slot
    obtain ⟨image, read, decoded⟩ := (loadTrip_eq_ok_iff slot.isLt).mp (holds.trips slot)
    apply (loadTrip_eq_ok_iff slot.isLt).mpr
    refine ⟨image, ?_, decoded⟩
    rw [Store.read_write_of_disjoint wrote, read]
    right
    rw [Nat.zero_add]
    exact Nat.le_add_right settingsLength _

theorem holds_after_trip {record : Record} {slot : Nat} (holds : Holds store record)
    (room : recordLength ≤ store.capacity) (inside : slot < slotCount) (counts : Trip)
    (timestamp : UInt32) :
    Holds ((Save.trip slot counts timestamp).after store)
      (record.after (.trip slot counts timestamp)) := by
  have ending := slot_end_le inside
  have wrote := Save.write_after (.trip slot counts timestamp) (slotAddress_of_lt inside)
    (Nat.le_trans ending room)
  constructor
  · rw [Record.after, ← holds.settings]
    apply loadSettings_congr
    intro address before
    rw [Store.readWord, Store.readWord, Store.read_write_of_disjoint wrote]
    left
    omega
  · intro place
    obtain ⟨image, read, decoded⟩ := (loadTrip_eq_ok_iff place.isLt).mp (holds.trips place)
    apply (loadTrip_eq_ok_iff place.isLt).mpr
    by_cases same : place.val = slot
    · subst same
      refine ⟨counts.encode timestamp, Store.read_write wrote, ?_⟩
      simp [Record.after, Trip.decode?_encode]
    · refine ⟨image, ?_, ?_⟩
      · rw [Store.read_write_of_disjoint wrote, read]
        simp only [Save.bytes, Trip.length_encode, Trip.imageLength]
        omega
      · simp [Record.after, same, decoded]

/-- The bytes behind the slots belong to no save. -/
theorem cells_after {save : Save} (place : Nat) (behind : recordLength ≤ place) :
    (save.after store).cells[place]? = store.cells[place]? := by
  cases outcome : save.run store with
  | error error => rw [Save.after_of_error outcome]
  | ok written =>
      rw [Save.after_of_ok outcome]
      obtain ⟨address, placed, wrote⟩ := Save.run_eq_ok_iff.mp outcome
      have ending : address + save.bytes.length ≤ recordLength := by
        cases save with
        | settings table =>
            cases placed
            exact (by decide : 0 + settingsLength ≤ recordLength)
        | trip slot counts timestamp =>
            rcases Nat.lt_or_ge slot slotCount with inside | outside
            · rw [Save.address, slotAddress_of_lt inside] at placed
              cases placed
              exact slot_end_le inside
            · rw [Save.address, slotAddress_of_le outside] at placed
              cases placed
      rw [Store.getElem?_write wrote, if_neg (by omega)]

theorem capacity_after (save : Save) : (save.after store).capacity = store.capacity := by
  cases outcome : save.run store with
  | error error => rw [Save.after_of_error outcome]
  | ok written =>
      rw [Save.after_of_ok outcome]
      obtain ⟨address, _, wrote⟩ := Save.run_eq_ok_iff.mp outcome
      exact Store.capacity_write wrote

theorem holds_after {record : Record} {save : Save} (holds : Holds store record)
    (room : recordLength ≤ store.capacity) (fits : save.Fits) :
    Holds (save.after store) (record.after save) := by
  cases save with
  | settings table => exact holds_after_settings holds room fits
  | trip slot counts timestamp =>
      rcases Nat.lt_or_ge slot slotCount with inside | outside
      · exact holds_after_trip holds room inside counts timestamp
      · rwa [Save.after_of_error (run_of_no_slot store outside counts timestamp),
          record_after_of_no_slot outside]

theorem holds_run {record : Record} {saves : List Save} (holds : Holds store record)
    (room : recordLength ≤ store.capacity) (fits : ∀ save ∈ saves, save.Fits) :
    Holds (saves.foldl Save.after store)
      (saves.foldl Record.after record) := by
  -- on the saves, for every store and the record that it holds
  induction saves generalizing store record with
  | nil => exact holds
  | cons first rest induction =>
      obtain ⟨fitsFirst, fitsRest⟩ := List.forall_mem_cons.mp fits
      apply induction (holds_after holds room fitsFirst) _ fitsRest
      rwa [capacity_after]

theorem cells_run (saves : List Save) (place : Nat) (behind : recordLength ≤ place) :
    (saves.foldl Save.after store).cells[place]? =
      store.cells[place]? := by
  induction saves generalizing store with
  | nil => rfl
  | cons first rest induction =>
      rw [List.foldl_cons, induction, cells_after place behind]

/-- The reasons for which a save is refused. -/
theorem refused_of_error {save : Save} {error : StorageError}
    (refused : save.run store = .error error) :
    (∃ slot counts timestamp, save = .trip slot counts timestamp ∧ slotCount ≤ slot ∧
        error = .slotOutOfRange slot) ∨
      ∃ address, save.address = .ok address ∧ store.capacity < address + save.bytes.length ∧
        error = .access (.outOfRange address save.bytes.length store.capacity) := by
  rw [Save.run_eq] at refused
  rcases bind_eq_error_iff.mp refused with unplaced | ⟨address, placed, unwritten⟩
  · left
    cases save with
    | settings table => cases unplaced
    | trip slot counts timestamp =>
        rcases Nat.lt_or_ge slot slotCount with inside | outside
        · rw [Save.address, slotAddress_of_lt inside] at unplaced
          cases unplaced
        · rw [Save.address, slotAddress_of_le outside] at unplaced
          cases unplaced
          exact ⟨slot, counts, timestamp, rfl, outside, rfl⟩
  · right
    refine ⟨address, placed, ?_⟩
    obtain ⟨cause, refusal, rfl⟩ := mapError_eq_error_iff.mp unwritten
    obtain ⟨outside, rfl⟩ := Store.write_eq_error_iff.mp refusal
    exact ⟨outside, rfl⟩

/-- An image is a record of one table and ten trips.  In a store with room for it, whatever the
store held, after any saves loading finds what was saved last in each of the eleven places, and
what it found at first where nothing was saved; the bytes behind the slots stay as they were.
A save to a slot that there is not is refused as such.  In a store of any size, a save that is
refused, be it for lack of room, leaves every byte. -/
theorem saves_refine_record (store : Store) (saves : List Save)
    (room : recordLength ≤ store.capacity) (fits : ∀ save ∈ saves, save.Fits) :
    let final := saves.foldl Save.after store
    (∃ record, Holds store record ∧ Holds final (saves.foldl Record.after record)) ∧
      (∀ place, recordLength ≤ place → final.cells[place]? = store.cells[place]?) ∧
      (∀ slot counts timestamp, slotCount ≤ slot →
        (Save.trip slot counts timestamp).run final = .error (.slotOutOfRange slot) ∧
          (Save.trip slot counts timestamp).after final = final) ∧
      ∀ (small : Store) (save : Save) (error : StorageError), save.run small = .error error →
        save.after small = small ∧
          ((∃ slot counts timestamp, save = .trip slot counts timestamp ∧ slotCount ≤ slot ∧
              error = .slotOutOfRange slot) ∨
            ∃ address, save.address = .ok address ∧
              small.capacity < address + save.bytes.length ∧
              error = .access (.outOfRange address save.bytes.length small.capacity)) := by
  intro final
  obtain ⟨record, holds⟩ := exists_record room
  refine ⟨⟨record, holds, holds_run holds room fits⟩, ?_, ?_, ?_⟩
  · intro place behind
    exact cells_run saves place behind
  · intro slot counts timestamp outside
    have refused := run_of_no_slot final outside counts timestamp
    exact ⟨refused, Save.after_of_error refused⟩
  · intro small save error refused
    exact ⟨Save.after_of_error refused, refused_of_error refused⟩

/-- Two saves to the last slot around one behind it and one of the settings, in a store that ends
with the last slot. -/
theorem last_slot_saved_twice :
    let store := Store.erased recordLength
    let first : Trip := ⟨5, 0, 0, 0, 0x10000000000⟩
    let second : Trip := ⟨6, 7, 0x8000000000000000, 8, 9⟩
    let saves : List Save :=
      [.trip 9 first 98, .settings .defaults, .trip 10 first 99, .trip 9 second 100]
    recordLength ≤ store.capacity ∧ (∀ save ∈ saves, save.Fits) ∧
      loadTrip (saves.foldl Save.after store) 9 = .ok (some (100, second)) ∧
      loadSettings (saves.foldl Save.after store) = .ok (.stored .defaults) := by
  intro store first second saves
  have room : recordLength ≤ store.capacity := by
    simp [store, Store.erased, Store.capacity]
  have fits : ∀ save ∈ saves, save.Fits := by
    simp [saves, Save.Fits, Settings.inRange_defaults]
  obtain ⟨⟨record, _, holds⟩, _⟩ := saves_refine_record store saves room fits
  exact ⟨room, fits, holds.trips 9, holds.settings⟩

end Image

end TripComputer
