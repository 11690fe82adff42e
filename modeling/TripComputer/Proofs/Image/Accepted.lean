import Mathlib.Data.Set.Function
import TripComputer.Proofs.Image.Record

/-!
# What loading accepts

Loading takes an image for what saving writes, and for nothing else.  The words of a block and the
halves of a wide counter can be taken apart and put together again in either order, so that the
images which are accepted are exactly those that can have been written, each of them from one
table or one trip.
-/

namespace TripComputer

namespace Trip

theorem toUInt32_join (low high : UInt32) : (join low high).toUInt32 = low := by
  apply UInt32.toBitVec_inj.mp
  apply BitVec.eq_of_getLsbD_eq
  intro position bound
  simp [join, bound]

theorem toUInt32_join_shift (low high : UInt32) : ((join low high) >>> 32).toUInt32 = high := by
  apply UInt32.toBitVec_inj.mp
  apply BitVec.eq_of_getLsbD_eq
  intro position bound
  have above : ¬32 + position < 32 := by omega
  have inside : 32 + position < 64 := by omega
  simp [join, bound, above, inside]

/-- A wide counter that is put together from two words comes apart into them. -/
theorem split_join (low high : UInt32) : split (join low high) = [low, high] := by
  rw [split, toUInt32_join, toUInt32_join_shift]

variable {image : List UInt8} {timestamp : UInt32} {trip : Trip}

theorem decode?_eq_none_iff :
    decode? image = none ↔ image[imageLength - 1]? ≠ some signature := by
  unfold decode?
  split
  next signed => exact ⟨nofun, fun unsigned => absurd signed unsigned⟩
  next unsigned => exact ⟨fun _ => unsigned, fun _ => rfl⟩

theorem getElem?_eq_getLast? (whole : image.length = imageLength) :
    image[imageLength - 1]? = image.getLast? := by
  rw [List.getLast?_eq_getElem?, whole]

/-- An image that ends with the signature is spelled by its nine words. -/
theorem eq_encode_of_signed (whole : image.length = imageLength)
    (signed : image.getLast? = some signature)
    (words : timestamp :: trip.words = (List.range 9).map (wordAt image)) :
    image = trip.encode timestamp := by
  have long : 4 * ((List.range 9).map (wordAt image)).length ≤ image.length := by
    rw [whole, List.length_map, List.length_range]
    decide
  have spelled : image.take (4 * ((List.range 9).map (wordAt image)).length) =
      ((List.range 9).map (wordAt image)).flatMap BigEndian.encode := by
    refine (BigEndian.take_eq_flatMap_iff image _ long).mpr fun place word found => ?_
    obtain ⟨inside, rfl⟩ := List.getElem?_eq_some_iff.mp found
    simp [wordAt]
  have before : image.dropLast = image.take (4 * ((List.range 9).map (wordAt image)).length) := by
    rw [List.dropLast_eq_take, whole, List.length_map, List.length_range]
    rfl
  rw [encode, words, ← spelled, ← before, List.dropLast_append_getLast? signature signed]

/-- An image of the right length decodes to what it can have been written from. -/
theorem decode?_eq_some_iff (whole : image.length = imageLength) :
    decode? image = some (timestamp, trip) ↔ image = trip.encode timestamp := by
  constructor
  · intro decoded
    unfold decode? at decoded
    split at decoded
    next signed =>
      cases decoded
      rw [getElem?_eq_getLast? whole] at signed
      refine eq_encode_of_signed whole signed ?_
      simp only [words, split_join]
      rfl
    next => cases decoded
  · rintro rfl
    exact decode?_encode trip timestamp

theorem getLast?_encode (trip : Trip) (timestamp : UInt32) :
    (trip.encode timestamp).getLast? = some signature := List.getLast?_concat

/-- Every image that ends with the signature is that of one trip at one time. -/
theorem bijOn_encode :
    Set.BijOn (fun saved : UInt32 × Trip => saved.2.encode saved.1) Set.univ
      {image | image.length = imageLength ∧ image.getLast? = some signature} := by
  refine ⟨fun saved _ => ?_, fun saved _ other _ same => ?_, ?_⟩
  · exact ⟨length_encode saved.2 saved.1, getLast?_encode saved.2 saved.1⟩
  · have decoded := congrArg decode? same
    rw [decode?_encode, decode?_encode] at decoded
    exact Option.some.inj decoded
  · rintro image ⟨whole, signed⟩
    rw [← getElem?_eq_getLast? whole] at signed
    cases decoded : decode? image with
    | none => exact absurd signed (decode?_eq_none_iff.mp decoded)
    | some saved => exact ⟨saved, trivial, ((decode?_eq_some_iff whole).mp decoded).symm⟩

end Trip

namespace Image

variable {store saved : Store} {settings : Settings}

/-- A table within its widths, and a store that begins with what saving it writes. -/
def Bears (store : Store) (settings : Settings) : Prop :=
  settings.InRange ∧ ∃ saved, saveSettings store settings = .ok saved ∧
    store.cells.take settingsLength = saved.cells.take settingsLength

theorem read_settings (room : settingsLength ≤ store.capacity) :
    store.read 0 settingsLength = .ok (store.cells.take settingsLength) := by
  rw [Store.read, Nat.zero_add, if_pos room, List.drop_zero]

theorem take_saved (wrote : saveSettings store settings = .ok saved) :
    saved.cells.take settingsLength = settingsBytes settings := by
  have written := saveSettings_eq_ok_iff.mp wrote
  have room : settingsLength ≤ saved.capacity := by
    rw [Store.capacity_write written]
    have inside := (Store.write_eq_ok_iff.mp written).1
    rwa [Nat.zero_add] at inside
  exact Except.ok.inj ((read_settings room).symm.trans (Store.read_write written))

theorem loadSettings_eq_stored_iff_bears (room : settingsLength ≤ store.capacity) :
    loadSettings store = .ok (.stored settings) ↔ Bears store settings := by
  rw [loadSettings_eq_stored_iff, read_settings room, Bears]
  refine and_congr_right fun _ => ⟨fun read => ?_, ?_⟩
  · obtain ⟨saved, wrote⟩ := exists_saveSettings settings room
    exact ⟨saved, wrote, (Except.ok.inj read).trans (take_saved wrote).symm⟩
  · rintro ⟨saved, wrote, same⟩
    rw [same, take_saved wrote]

theorem loadSettings_eq_defaulted (room : settingsLength ≤ store.capacity)
    (none : ∀ settings, ¬Bears store settings) :
    loadSettings store = .ok (.defaulted .defaults) := by
  obtain ⟨loaded, found⟩ := exists_loadSettings room
  cases loaded with
  | stored settings =>
      exact absurd ((loadSettings_eq_stored_iff_bears room).mp found) (none settings)
  | defaulted settings =>
      rw [found, eq_defaults_of_defaulted found]

/-- A settings block loads as the table that saving writes it for, and as the defaults where there
is no such table.  An image of a trip decodes as the trip that it is written from, and not at all
where there is no such trip.  Every trip has one image at one time, and every image that ends with
the signature is one. -/
theorem loading_accepts_what_saving_writes :
    (∀ store : Store, settingsLength ≤ store.capacity →
      (∀ settings, loadSettings store = .ok (.stored settings) ↔ Bears store settings) ∧
      ((∀ settings, ¬Bears store settings) →
        loadSettings store = .ok (.defaulted .defaults))) ∧
    (∀ image : List UInt8, image.length = Trip.imageLength →
      (∀ timestamp trip, Trip.decode? image = some (timestamp, trip) ↔
        image = trip.encode timestamp) ∧
      ((∀ timestamp (trip : Trip), image ≠ trip.encode timestamp) → Trip.decode? image = none)) ∧
    Set.BijOn (fun saved : UInt32 × Trip => saved.2.encode saved.1) Set.univ
      {image | image.length = Trip.imageLength ∧ image.getLast? = some Trip.signature} := by
  refine ⟨fun store room => ?_, fun image whole => ?_, Trip.bijOn_encode⟩
  · exact ⟨fun settings => loadSettings_eq_stored_iff_bears room, loadSettings_eq_defaulted room⟩
  · refine ⟨fun timestamp trip => Trip.decode?_eq_some_iff whole, fun foreign => ?_⟩
    cases decoded : Trip.decode? image with
    | none => rfl
    | some saved => exact absurd ((Trip.decode?_eq_some_iff whole).mp decoded) (foreign _ _)

/-- A block that has been written, one with a value that is too wide, and an image of ones. -/
theorem written_and_widened_blocks :
    let written := Store.ofCells (settingsBytes .defaults)
    let widened := Store.ofCells (settingsBytes (Settings.defaults.put .metricMode 2))
    let image := List.replicate 36 (0xFF : UInt8) ++ [Trip.signature]
    settingsLength ≤ written.capacity ∧ loadSettings written = .ok (.stored .defaults) ∧
      settingsLength ≤ widened.capacity ∧ (∀ settings, ¬Bears widened settings) ∧
      loadSettings widened = .ok (.defaulted .defaults) ∧
      image.length = Trip.imageLength ∧
      Trip.decode? image = some (0xFFFFFFFF, ⟨0xFFFFFFFF, 0xFFFFFFFF, 0xFFFFFFFFFFFFFFFF,
        0xFFFFFFFFFFFFFFFF, 0xFFFFFFFFFFFFFFFF⟩) := by
  intro written widened image
  have room : settingsLength ≤ written.capacity := by decide
  have wideRoom : settingsLength ≤ widened.capacity := by decide
  have whole : image.length = Trip.imageLength := by decide
  obtain ⟨blocks, images, -⟩ := loading_accepts_what_saving_writes
  obtain ⟨loads, -⟩ := blocks written room
  obtain ⟨loadsWide, defaults⟩ := blocks widened wideRoom
  have bears : Bears written .defaults := by
    obtain ⟨saved, wrote⟩ := exists_saveSettings .defaults room
    exact ⟨Settings.inRange_defaults, saved, wrote, (take_saved wrote).symm⟩
  have refused : (match loadSettings widened with
      | .ok (.stored _) => true
      | _ => false) = false := by
    decide +kernel
  have none (settings : Settings) : ¬Bears widened settings := by
    intro bearing
    rw [(loadsWide settings).mpr bearing] at refused
    cases refused
  refine ⟨room, (loads _).mpr bears, wideRoom, none, defaults none, whole, ?_⟩
  exact ((images image whole).1 _ _).mpr (by decide)

end Image

end TripComputer
