import Mathlib.Data.FinEnum
import TripComputer.Instruction.Packed
import TripComputer.Proofs.Machine.Agreement
import TripComputer.Proofs.Outcome

/-!
# The bytes of one instruction

The fields of an instruction read as the instruction.  In the other direction, whatever fields
read as an instruction are its own, except for the low nibble of a selector that names one
register: nothing looks at it.  `scan_bytes` and `reads_of_scan` say the same of a packed
program, instruction by instruction.
-/

namespace TripComputer

/-- In a list without repetitions, an item stands in one place. -/
theorem eq_of_getElem?_eq_some {α : Type} {items : List α} (distinct : items.Nodup)
    {first second : UInt8} {item : α} (left : items[first.toNat]? = some item)
    (right : items[second.toNat]? = some item) : first = second := by
  apply UInt8.toNat_inj.mp
  have inside := (List.getElem?_eq_some_iff.mp left).1
  exact (List.getElem?_inj inside distinct).mp (left.trans right.symm)

theorem Program.ofIndex?_index (program : Program) : ofIndex? program.index = some program := by
  cases program <;> rfl

theorem Program.index_of_ofIndex? {index : UInt8} {program : Program}
    (found : ofIndex? index = some program) : program.index = index :=
  eq_of_getElem?_eq_some (by decide) (ofIndex?_index program) found

theorem Constant.ofIndex?_index (constant : Constant) :
    ofIndex? constant.index = some constant := by
  cases constant <;> rfl

theorem Constant.index_of_ofIndex? {index : UInt8} {constant : Constant}
    (found : ofIndex? index = some constant) : constant.index = index :=
  eq_of_getElem?_eq_some (by decide) (ofIndex?_index constant) found

theorem Setting.ofIndex?_index (setting : Setting) : ofIndex? setting.index = some setting := by
  cases setting <;> rfl

theorem Setting.index_of_ofIndex? {index : UInt8} {setting : Setting}
    (found : ofIndex? index = some setting) : setting.index = index :=
  eq_of_getElem?_eq_some (by decide) (ofIndex?_index setting) found

theorem Counter.ofIndex?_index (counter : Counter) : ofIndex? counter.index = some counter := by
  cases counter <;> rfl

theorem Counter.index_of_ofIndex? {index : UInt8} {counter : Counter}
    (found : ofIndex? index = some counter) : counter.index = index :=
  eq_of_getElem?_eq_some (by decide) (ofIndex?_index counter) found

namespace Instruction

/-- Whether the selector names one register.  Its low nibble is then not read. -/
def namesOneRegister (instruction : Instruction) : Bool :=
  instruction.operands.length == 1

/-- Which bytes follow the opcode byte of an instruction. -/
def shape (instruction : Instruction) : Shape :=
  ⟨instruction.fields.selector.isSome, instruction.fields.operand.isSome⟩

theorem bytes_eq (instruction : Instruction) :
    instruction.bytes = (instruction.fields.opcode ||| instruction.shape.flags) ::
      (instruction.fields.selector.toList ++ instruction.fields.operand.toList) :=
  rfl

theorem packedLength_pos (instruction : Instruction) : 0 < instruction.packedLength := by
  rw [packedLength, bytes_eq]
  exact Nat.succ_pos _

/-- What the opcode byte of an instruction says of it. -/
theorem opcode_byte (instruction : Instruction) :
    let first := instruction.fields.opcode ||| instruction.shape.flags
    first &&& 0x3F = instruction.fields.opcode ∧ first &&& 0xC0 = instruction.shape.flags ∧
      Shape.ofOpcode? instruction.fields.opcode.toNat = some instruction.shape := by
  cases instruction <;> simp [fields, shape, Shape.flags, Shape.ofOpcode?] <;> decide

theorem ofNumber?_selectOne (x : Register) : Register.ofNumber? (selectOne x >>> 4) = some x := by
  cases x <;> rfl

theorem ofNumber?_selectTwo (x y : Register) :
    Register.ofNumber? (selectTwo x y >>> 4) = some x ∧
      Register.ofNumber? (selectTwo x y &&& 0x0F) = some y := by
  cases x <;> cases y <;> exact ⟨rfl, rfl⟩

/-- What is used of single bytes, checked for each of them: the flags and the number of an opcode
byte, and the nibbles of a selector. -/
theorem byte_facts : ∀ byte : UInt8,
    (byte &&& 0x3F) ||| (byte &&& 0xC0) = byte ∧
      (byte &&& 0x0F = 0 → byte &&& 0xF0 = byte) ∧
      ∀ x, Register.ofNumber? (byte >>> 4) = some x →
        selectOne x = byte &&& 0xF0 ∧
          ∀ y, Register.ofNumber? (byte &&& 0x0F) = some y → selectTwo x y = byte := by
  decide +kernel

/-- An opcode byte is its number together with the flags of its shape. -/
theorem opcode_or_flags (first : UInt8) : (first &&& 0x3F) ||| (first &&& 0xC0) = first :=
  (byte_facts first).1

theorem selectOne_of_high {selector : UInt8} {x : Register}
    (high : Register.ofNumber? (selector >>> 4) = some x) : selectOne x = selector &&& 0xF0 :=
  ((byte_facts selector).2.2 x high).1

theorem high_of_low_clear {selector : UInt8} (clear : selector &&& 0x0F = 0) :
    selector &&& 0xF0 = selector :=
  (byte_facts selector).2.1 clear

theorem selectTwo_of_nibbles {selector : UInt8} {x y : Register}
    (high : Register.ofNumber? (selector >>> 4) = some x)
    (low : Register.ofNumber? (selector &&& 0x0F) = some y) : selectTwo x y = selector :=
  ((byte_facts selector).2.2 x high).2 y low

/-- The fields of an instruction read as the instruction. -/
theorem ofFields_fields (instruction : Instruction) (offset : Nat) :
    ofFields instruction.fields.opcode (instruction.fields.selector.getD 0)
      (instruction.fields.operand.getD 0) offset = .ok instruction := by
  cases instruction <;>
    simp [fields, ofFields, ofNumber?_selectOne, ofNumber?_selectTwo, Program.ofIndex?_index,
      Constant.ofIndex?_index, Setting.ofIndex?_index, Counter.ofIndex?_index, bind, Except.bind,
      pure, Except.pure]

/-- Fields that read as an instruction are its own, save for a low nibble that is not read. -/
theorem fields_of_ofFields {opcode selector operand : UInt8} {offset : Nat}
    {instruction : Instruction}
    (read : ofFields opcode selector operand offset = .ok instruction) :
    instruction.fields.opcode = opcode ∧
      (∀ own ∈ instruction.fields.selector,
        own = if instruction.namesOneRegister then selector &&& 0xF0 else selector) ∧
      ∀ own ∈ instruction.fields.operand, own = operand := by
  unfold ofFields at read
  dsimp only at read
  split at read
  case h_36 => cases read
  all_goals
    rename_i number
    have numbered := congrArg Nat.toUInt8 number
    rw [Nat.toUInt8_eq, UInt8.ofNat_toNat] at numbered
    subst numbered
    simp only [bind_eq_ok_iff, elim_eq_ok_iff, Except.ok.injEq, pure, Except.pure] at read
  -- the opcodes of one kind of operands together, in the order of `ofFields`
  case h_1 | h_2 | h_7 | h_8 | h_11 | h_12 =>
    subst read
    simp [fields, namesOneRegister, operands]
  case h_9 | h_10 =>
    obtain ⟨callee, found, rfl⟩ := read
    simp [fields, Program.index_of_ofIndex? found]
  case h_14 =>
    obtain ⟨x, high, constant, found, rfl⟩ := read
    simp [fields, namesOneRegister, operands, selectOne_of_high high,
      Constant.index_of_ofIndex? found]
  case h_15 | h_18 =>
    obtain ⟨x, high, setting, found, rfl⟩ := read
    simp [fields, namesOneRegister, operands, selectOne_of_high high,
      Setting.index_of_ofIndex? found]
  case h_22 =>
    obtain ⟨x, high, counter, found, rfl⟩ := read
    simp [fields, namesOneRegister, operands, selectOne_of_high high,
      Counter.index_of_ofIndex? found]
  case h_4 | h_25 | h_26 | h_27 | h_28 | h_29 | h_30 | h_31 | h_32 =>
    obtain ⟨x, high, y, low, rfl⟩ := read
    simp [fields, namesOneRegister, operands, selectTwo_of_nibbles high low]
  all_goals
    obtain ⟨x, high, rfl⟩ := read
    simp [fields, namesOneRegister, operands, selectOne_of_high high]

theorem selector_of_namesOneRegister {instruction : Instruction}
    (one : instruction.namesOneRegister = true) : instruction.shape.selector = true := by
  cases instruction <;> first | rfl | cases one

theorem two_le_packedLength (instruction : Instruction) (one : instruction.namesOneRegister = true) :
    2 ≤ instruction.packedLength := by
  have selected : instruction.fields.selector.isSome = true := selector_of_namesOneRegister one
  obtain ⟨selector, named⟩ := Option.isSome_iff_exists.mp selected
  simp [packedLength, bytes_eq, named]

/-- Bytes of an instruction, with the nibble that is not read blanked. -/
def tidy (instruction : Instruction) (bytes : List UInt8) : List UInt8 :=
  bytes.mapIdx fun place byte =>
    if instruction.namesOneRegister ∧ place = 1 then byte &&& 0xF0 else byte

/-- The bytes from which an instruction was read are its own, but for a nibble that is not. -/
theorem bytes_of_ofFields {first selector operand : UInt8} {shape : Shape} {offset : Nat}
    {instruction : Instruction}
    (shaped : Shape.ofOpcode? (first &&& 0x3F).toNat = some shape)
    (flagged : first &&& 0xC0 = shape.flags)
    (read : ofFields (first &&& 0x3F) selector operand offset = .ok instruction) :
    instruction.bytes = instruction.tidy (first ::
      ((if shape.selector then [selector] else []) ++ if shape.operand then [operand] else [])) := by
  obtain ⟨opcode, ownSelector, ownOperand⟩ := fields_of_ofFields read
  obtain ⟨_, _, ownShape⟩ := instruction.opcode_byte
  rw [opcode, shaped] at ownShape
  obtain rfl := Option.some.inj ownShape
  have whole : (first &&& 0x3F) ||| instruction.shape.flags = first := by
    rw [← flagged, opcode_or_flags]
  have named : instruction.namesOneRegister = true → instruction.shape.selector = true :=
    selector_of_namesOneRegister
  rw [bytes_eq, opcode, whole]
  rw [Instruction.shape] at named ⊢
  cases selected : instruction.fields.selector with
  | none =>
      have several : instruction.namesOneRegister = false := by simpa [selected] using named
      cases operated : instruction.fields.operand with
      | none => simp [tidy]
      | some own => simp [tidy, several, ownOperand own operated]
  | some own =>
      cases operated : instruction.fields.operand with
      | none => simp [tidy, ownSelector own selected]
      | some operand => simp [tidy, ownSelector own selected, ownOperand operand operated]

end Instruction

namespace Packed

open Instruction

/-- An instruction is read from its own bytes, and the rest from those after them. -/
theorem scan_bytes (offset : Nat) (instruction : Instruction) (rest : List UInt8) :
    scan offset (instruction.bytes ++ rest) =
      (scan (offset + instruction.packedLength) rest).map (instruction :: ·) := by
  obtain ⟨opcode, flags, shape⟩ := instruction.opcode_byte
  have read := ofFields_fields instruction offset
  rw [packedLength, bytes_eq, List.cons_append, scan]
  simp only [opcode, flags, shape, ne_eq, not_true_eq_false, if_false]
  rw [Instruction.shape]
  cases selector : instruction.fields.selector <;> cases operand : instruction.fields.operand <;>
    simp only [selector, operand, Option.getD] at read <;>
    simp [read, bind, Except.bind, Except.map, pure, Except.pure]

/-- The bytes of a program whose skip distances are in bytes read as the program. -/
theorem scan_flatMap (offset : Nat) (code : List Instruction) :
    scan offset (code.flatMap Instruction.bytes) = .ok code := by
  induction code generalizing offset with
  | nil => rfl
  | cons first rest induction =>
      rw [List.flatMap_cons, scan_bytes, induction]
      rfl

/-- Bytes that read as a program, cut into those of its instructions. -/
inductive Reads : List UInt8 → List Instruction → Prop where
  | nil : Reads [] []
  | cons {instruction : Instruction} {bytes rest : List UInt8} {code : List Instruction} :
      instruction.bytes = instruction.tidy bytes → Reads rest code →
      Reads (bytes ++ rest) (instruction :: code)

theorem reads_of_scan {offset : Nat} {bytes : List UInt8} {code : List Instruction}
    (read : scan offset bytes = .ok code) : Reads bytes code := by
  fun_induction scan offset bytes generalizing code with
  | case1 =>
      cases read
      exact .nil
  | case2 | case3 | case8 => cases read
  | case4 offset first opcode rest shaped flagged
  | case5 offset first opcode operand rest shaped flagged
  | case6 offset first opcode selector rest shaped flagged
  | case7 offset first opcode selector operand rest shaped flagged =>
      rename_i induction
      obtain ⟨instruction, head, later, tail, whole⟩ := by
        simpa only [bind_eq_ok_iff] using read
      cases whole
      exact .cons (bytes_of_ofFields shaped (not_not.mp flagged) head) (induction tail)

end Packed

end TripComputer
