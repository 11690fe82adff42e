import Mathlib.Data.List.Basic
import TripComputer.Image
import TripComputer.Proofs.Outcome

/-!
# Accesses to the store

An access leaves a store whether it is refused or not.  Each one checks the bounds before it
writes, and it writes once: `Access.Atomic` says what follows for an access that is refused, and
`write_eq_ok_iff` what one that is not refused leaves.
-/

namespace TripComputer

namespace Store

namespace Access

variable {ε ε' α β : Type} {access : Access ε Unit} {store written : Store} {error : ε}

/-- The store that an access leaves, whether it is refused or not. -/
def after (access : Access ε α) (store : Store) : Store :=
  match access store with
  | .ok _ changed => changed
  | .error _ changed => changed

/-- An access that is refused leaves the store as it was. -/
def Atomic (access : Access ε α) : Prop :=
  ∀ store error left, access store = .error error left → left = store

theorem outcome_eq_ok_iff : access.outcome store = .ok written ↔ access store = .ok () written := by
  unfold outcome
  cases access store <;> simp

theorem outcome_eq_error_iff :
    access.outcome store = .error error ↔ ∃ left, access store = .error error left := by
  unfold outcome
  cases access store <;> simp

theorem after_of_ok (wrote : access.outcome store = .ok written) : access.after store = written := by
  rw [after, outcome_eq_ok_iff.mp wrote]

theorem Atomic.after_of_error (atomic : access.Atomic) (refused : access.outcome store = .error error) :
    access.after store = store := by
  obtain ⟨left, refused⟩ := outcome_eq_error_iff.mp refused
  rw [after, refused]
  exact atomic store error left refused

theorem outcome_adaptExcept (wrap : ε → ε') (access : Access ε Unit) (store : Store) :
    outcome (access.adaptExcept wrap) store = (access.outcome store).mapError wrap := by
  unfold outcome EStateM.adaptExcept
  cases access store <;> rfl

theorem Atomic.adaptExcept {access : Access ε α} (atomic : access.Atomic) (wrap : ε → ε') :
    Atomic (access.adaptExcept wrap) := by
  intro store error left refused
  unfold EStateM.adaptExcept at refused
  cases result : access store with
  | ok answer changed =>
      rw [result] at refused
      cases refused
  | error inner changed =>
      rw [result] at refused
      cases refused
      exact atomic store inner left result

/-- A check that comes before the access to the store. -/
theorem outcome_ofExcept_bind (checked : Except ε β) (rest : β → Access ε Unit) (store : Store) :
    outcome (MonadExcept.ofExcept checked >>= rest) store =
      checked >>= fun answer => (rest answer).outcome store := by
  cases checked <;> rfl

theorem Atomic.ofExcept_bind {rest : β → Access ε α} (atomic : ∀ answer, (rest answer).Atomic)
    (checked : Except ε β) : Atomic (MonadExcept.ofExcept checked >>= rest) := by
  intro store error left refused
  cases checked with
  | ok answer => exact atomic answer store error left refused
  | error failure =>
      cases refused
      rfl

end Access

variable {store written : Store} {address length : Nat} {bytes : List UInt8}

/-- The bounds are checked first, and all bytes are put at once. -/
theorem put_eq (address : Nat) (bytes : List UInt8) (store : Store) :
    put address bytes store =
      if address + bytes.length ≤ store.capacity then
        let cells := store.cells.take address ++ bytes ++ store.cells.drop (address + bytes.length)
        .ok () ⟨cells, store.file.map fun _ => cells⟩
      else .error (.outOfRange address bytes.length store.capacity) store := by
  show (if _ then _ else _ : Access StoreError Unit) store = _
  split <;> rfl

theorem atomic_put (address : Nat) (bytes : List UInt8) : (put address bytes).Atomic := by
  intro store error left refused
  rw [put_eq] at refused
  split at refused
  case isTrue => cases refused
  case isFalse =>
    cases refused
    rfl

theorem write_eq_ok_iff :
    store.write address bytes = .ok written ↔
      address + bytes.length ≤ store.capacity ∧
        let cells := store.cells.take address ++ bytes ++ store.cells.drop (address + bytes.length)
        ⟨cells, store.file.map fun _ => cells⟩ = written := by
  rw [write, Access.outcome_eq_ok_iff, put_eq]
  split
  case isTrue inside => simp [inside]
  case isFalse outside => simp [outside]

theorem write_eq_error_iff {error : StoreError} :
    store.write address bytes = .error error ↔
      store.capacity < address + bytes.length ∧
        .outOfRange address bytes.length store.capacity = error := by
  rw [write, Access.outcome_eq_error_iff, put_eq]
  split
  case isTrue inside => simp [Nat.not_lt.mpr inside]
  case isFalse outside => simp [Nat.not_le.mp outside]

theorem capacity_erased (capacity : Nat) : (erased capacity).capacity = capacity :=
  List.length_replicate

theorem capacity_write (wrote : store.write address bytes = .ok written) :
    written.capacity = store.capacity := by
  obtain ⟨inside, rfl⟩ := write_eq_ok_iff.mp wrote
  rw [capacity] at inside
  simp only [capacity, List.length_append, List.length_take, List.length_drop]
  omega

theorem getElem?_write (wrote : store.write address bytes = .ok written) (place : Nat) :
    written.cells[place]? =
      if address ≤ place ∧ place < address + bytes.length then bytes[place - address]?
      else store.cells[place]? := by
  obtain ⟨inside, rfl⟩ := write_eq_ok_iff.mp wrote
  rw [capacity] at inside
  have before : (store.cells.take address).length = address := by
    rw [List.length_take]
    omega
  rw [List.append_assoc, List.getElem?_append, List.getElem?_append, before]
  split
  case isTrue here => simp [here, Nat.not_le.mpr here]
  case isFalse past =>
    rw [List.getElem?_drop]
    split
    case isTrue here =>
      rw [if_pos (by omega)]
    case isFalse beyond =>
      rw [if_neg (by omega)]
      congr 1
      omega

theorem read_write (wrote : store.write address bytes = .ok written) :
    written.read address bytes.length = .ok bytes := by
  have same := capacity_write wrote
  obtain ⟨inside, _⟩ := write_eq_ok_iff.mp wrote
  rw [read, if_pos (by rw [same]; exact inside)]
  congr 1
  apply List.ext_getElem?
  intro place
  rw [List.getElem?_take, List.getElem?_drop, getElem?_write wrote, Nat.add_sub_cancel_left]
  by_cases within : place < bytes.length <;> simp [within]

/-- A write leaves the bytes before and behind it as they were. -/
theorem read_write_of_disjoint (wrote : store.write address bytes = .ok written) {other : Nat}
    (apart : other + length ≤ address ∨ address + bytes.length ≤ other) :
    written.read other length = store.read other length := by
  unfold read
  rw [capacity_write wrote]
  congr 2
  apply List.ext_getElem?
  intro place
  rw [List.getElem?_take, List.getElem?_take]
  split
  case isTrue within =>
    rw [List.getElem?_drop, List.getElem?_drop, getElem?_write wrote, if_neg (by omega)]
  case isFalse => rfl

end Store

namespace Image

variable {store saved : Store} {settings : Settings} {slot : Nat} {trip : Trip}
  {timestamp : UInt32}

theorem saveSettings_eq (store : Store) (settings : Settings) :
    saveSettings store settings = (store.write 0 (settingsBytes settings)).mapError .access :=
  Store.Access.outcome_adaptExcept ..

theorem saveTrip_eq (store : Store) (slot : Nat) (trip : Trip) (timestamp : UInt32) :
    saveTrip store slot trip timestamp = slotAddress slot >>= fun address =>
      (store.write address (trip.encode timestamp)).mapError .access := by
  simp only [Store.write, ← Store.Access.outcome_adaptExcept]
  exact Store.Access.outcome_ofExcept_bind ..

theorem saveSettings_eq_ok_iff :
    saveSettings store settings = .ok saved ↔
      store.write 0 (settingsBytes settings) = .ok saved := by
  rw [saveSettings_eq, mapError_eq_ok_iff]

theorem saveTrip_eq_ok_iff :
    saveTrip store slot trip timestamp = .ok saved ↔
      ∃ address, slotAddress slot = .ok address ∧
        store.write address (trip.encode timestamp) = .ok saved := by
  simp only [saveTrip_eq, bind_eq_ok_iff, mapError_eq_ok_iff]

theorem atomic_putSettings (settings : Settings) : (putSettings settings).Atomic :=
  (Store.atomic_put _ _).adaptExcept _

theorem atomic_putTrip (slot : Nat) (trip : Trip) (timestamp : UInt32) :
    (putTrip slot trip timestamp).Atomic :=
  .ofExcept_bind (fun _ => (Store.atomic_put _ _).adaptExcept _) _

end Image

end TripComputer
