import TripComputer.Catalog
import TripComputer.Proofs.Machine.Agreement
import TripComputer.Proofs.Word.Longhand

/-!
# Multiplication and division as programs

The two subroutines that exist once for each arithmetic.  Natively each is one instruction;
in primitive arithmetic each is a loop over the bits of a word.  `kernel_reaches` is what
every later proof uses of them: whatever the arithmetic, they reach their end within
`kernelCost` instructions and leave the product, or quotient and rest, in place.
-/

namespace TripComputer

/-- The registers that arithmetic subroutines use for themselves. -/
def Register.isScratch : Register → Bool
  | .r4 | .r5 => true
  | _ => false

/-- The programs that exist once for each arithmetic. -/
def Program.isKernel : Program → Bool
  | .multiply | .divide => true
  | _ => false

/-- What a kernel program computes, native or not. -/
def Program.kernelResult (program : Program) (registers : Registers) : Registers :=
  match program with
  | .multiply => registers.set .r2 (Word.multiply registers.r2 registers.r1)
  | .divide =>
      let (quotient, remainder) := Word.divide registers.r2 registers.r1
      (registers.set .r2 quotient).set .r1 remainder
  | _ => registers

/-- Instructions that a kernel program takes at most, its return included. -/
def Arithmetic.kernelCost : Arithmetic → Program → Nat
  | .native, _ => 2
  -- three to set up, one round per bit, one to leave the loop, one to return
  | .primitive, .multiply => 3 + (6 * 64 + 1) + 1
  | .primitive, _ => 7 + (4 * 63 + 1) + (7 * 64 + 1) + 1

/-- Agreement on the registers that arithmetic subroutines do not use for themselves. -/
abbrev Registers.SameResults : Registers → Registers → Prop :=
  AgreeOn fun register => register.isScratch = false

namespace Machine

variable {σ : Type} {table : ProgramTable} {index : UInt8}

/-- The state with control at a position of a program, untraced. -/
def State.within (state : State σ) (program : Program) (pc : Nat) (registers : Registers) :
    State σ :=
  { state with program := program, pc := pc, registers := registers, tracing := false }

variable [Environment σ] {state : State σ} {program : Program} {pc : Nat}
  {registers later : Registers}

theorem step_within (state : State σ) (registers : Registers) {instruction : Instruction}
    (fetched : (table program)[pc]? = some instruction) :
    step table index (state.within program pc registers) =
      apply table index (state.within program pc registers) instruction := by
  have here : (table (state.within program pc registers).program)[
      (state.within program pc registers).pc]? = some instruction := fetched
  rw [step_of_fetched here, State.traced_eq_self rfl]

theorem step_data (instruction : Instruction)
    (fetched : (table program)[pc]? = some instruction)
    (data : instruction.isData = true)
    (performed : perform index registers state.environment instruction =
      .ok (later, state.environment)) :
    step table index (state.within program pc registers) =
      .running (state.within program (pc + 1) later) := by
  rw [step_within state registers fetched, apply_data data]
  simp only [State.within, performed]

theorem step_taken (instruction : Instruction)
    (fetched : (table program)[pc]? = some instruction)
    {distance : Int8} (skip : instruction.distance? = some distance) {target : Nat}
    (lands : landing? (table program).length pc distance = some target)
    (taken : skips index registers state.environment instruction = true) :
    step table index (state.within program pc registers) =
      .running (state.within program target registers) := by
  rw [step_within state registers fetched, apply_skip skip]
  simp only [State.within, taken, lands, if_true]

theorem step_passed (instruction : Instruction)
    (fetched : (table program)[pc]? = some instruction)
    {distance : Int8} (skip : instruction.distance? = some distance)
    (notTaken : skips index registers state.environment instruction = false) :
    step table index (state.within program pc registers) =
      .running (state.within program (pc + 1) registers) := by
  rw [step_within state registers fetched, apply_skip skip]
  simp only [State.within, notTaken, Bool.false_eq_true, if_false]

end Machine

namespace Catalog

open Machine

variable {σ : Type} [Environment σ] (index : UInt8) (state : State σ)

/-- One bit of the multiplier: six instructions, whether it is set or not. -/
theorem multiply_iteration (r1 sum r3 multiplier multiplicand : UInt64)
    (nonzero : multiplier ≠ 0) :
    Reaches (table .primitive) index 6
      (state.within .multiply 3 ⟨r1, sum, r3, multiplier, multiplicand⟩)
      (state.within .multiply 3
        ⟨r1, if Word.isOdd multiplier then Word.add sum multiplicand else sum, r3,
          Word.shiftRight multiplier, Word.shiftLeft multiplicand⟩) := by
  have notZero := Word.isZero_of_ne_zero nonzero
  refine .head (step_passed (.skipIfZero .r4 6) rfl rfl notZero) ?_
  by_cases odd : Word.isOdd multiplier = true
  · rw [if_pos odd]
    refine .head (step_taken (.skipIfOdd .r4 1) rfl rfl rfl odd) ?_
    refine .head (step_data (.add .r2 .r5) rfl rfl rfl) ?_
    refine .head (step_data (.shiftLeft .r5) rfl rfl rfl) ?_
    refine .head (step_data (.shiftRight .r4) rfl rfl rfl) ?_
    exact .single (step_taken (.skip (-7)) rfl rfl rfl rfl)
  · rw [if_neg odd]
    refine .head (step_passed (.skipIfOdd .r4 1) rfl rfl (Bool.eq_false_iff.mpr odd)) ?_
    refine .head (step_taken (.skip 1) rfl rfl rfl rfl) ?_
    refine .head (step_data (.shiftLeft .r5) rfl rfl rfl) ?_
    refine .head (step_data (.shiftRight .r4) rfl rfl rfl) ?_
    exact .single (step_taken (.skip (-7)) rfl rfl rfl rfl)

theorem multiply_exit (r1 sum r3 multiplicand : UInt64) :
    Reaches (table .primitive) index 1
      (state.within .multiply 3 ⟨r1, sum, r3, 0, multiplicand⟩)
      (state.within .multiply 10
        ⟨r1, Word.accumulate sum multiplicand 0, r3, 0, multiplicand⟩) := by
  rw [Word.accumulate, if_pos rfl]
  exact .single (step_taken (.skipIfZero .r4 6) rfl rfl rfl rfl)

/-- The loop of the multiplication adds up what longhand multiplication does. -/
theorem multiply_loop (bits : Nat) (r1 sum r3 multiplier multiplicand : UInt64)
    (bound : multiplier.toNat < 2 ^ bits) :
    ∃ count r5, count ≤ 6 * bits + 1 ∧
      Reaches (table .primitive) index count
        (state.within .multiply 3 ⟨r1, sum, r3, multiplier, multiplicand⟩)
        (state.within .multiply 10
          ⟨r1, Word.accumulate sum multiplicand multiplier, r3, 0, r5⟩) := by
  induction bits generalizing sum multiplier multiplicand with
  | zero =>
      obtain rfl : multiplier = 0 := UInt64.toNat_inj.mp (by simpa using bound)
      exact ⟨1, multiplicand, by omega, multiply_exit index state r1 sum r3 multiplicand⟩
  | succ bits induction =>
      by_cases zero : multiplier = 0
      · subst zero
        exact ⟨1, multiplicand, by omega, multiply_exit index state r1 sum r3 multiplicand⟩
      · have halved : (Word.shiftRight multiplier).toNat < 2 ^ bits := by
          rw [Word.toNat_shiftRight]
          omega
        obtain ⟨count, r5, few, rest⟩ := induction _ _ _ halved
        rw [Word.accumulate, if_neg zero]
        exact ⟨6 + count, r5, by omega,
          (multiply_iteration index state r1 sum r3 multiplier multiplicand zero).trans rest⟩

theorem multiply_reaches (registers : Registers) :
    ∃ count later, count < Arithmetic.primitive.kernelCost .multiply ∧
      Reaches (table .primitive) index count (state.within .multiply 0 registers)
        (state.within .multiply 10 later) ∧
      Registers.SameResults (Program.kernelResult .multiply registers) later := by
  obtain ⟨r1, r2, r3, r4, r5⟩ := registers
  obtain ⟨count, multiplicand, few, loop⟩ :=
    multiply_loop index state 64 r1 0 r3 r1 r2 r1.toNat_lt
  refine ⟨3 + count, ⟨r1, Word.accumulate 0 r2 r1, r3, 0, multiplicand⟩, ?_, ?_, ?_⟩
  · simp only [Arithmetic.kernelCost]
    omega
  · refine .trans ?_ loop
    refine .head (step_data (.copy .r4 .r1) rfl rfl rfl) ?_
    refine .head (step_data (.copy .r5 .r2) rfl rfl rfl) ?_
    exact .single (step_data (.loadImmediate .r2 0) rfl rfl rfl)
  · intro register results
    cases register with
    | r2 => exact (Word.multiplyLonghand_eq r2 r1).symm
    | r1 | r3 => rfl
    | r4 | r5 => cases results

/-- One place of the normalization: four instructions. -/
theorem normalize_iteration (r1 r2 r3 divisor marker : UInt64)
    (noTopBit : Word.hasTopBit divisor = false) :
    Reaches (table .primitive) index 4
      (state.within .divide 14 ⟨r1, r2, r3, divisor, marker⟩)
      (state.within .divide 14
        ⟨r1, r2, r3, Word.shiftLeft divisor, Word.shiftLeft marker⟩) := by
  refine .head (step_passed (.skipIfTopBit .r4 3) rfl rfl noTopBit) ?_
  refine .head (step_data (.shiftLeft .r4) rfl rfl rfl) ?_
  refine .head (step_data (.shiftLeft .r5) rfl rfl rfl) ?_
  exact .single (step_taken (.skip (-4)) rfl rfl rfl rfl)

theorem normalize_exit (r1 r2 r3 marker : UInt64) {divisor : UInt64}
    (topBit : Word.hasTopBit divisor = true) :
    Reaches (table .primitive) index 1
      (state.within .divide 14 ⟨r1, r2, r3, divisor, marker⟩)
      (state.within .divide 18
        ⟨r1, r2, r3, (Word.normalize divisor marker).1,
          (Word.normalize divisor marker).2⟩) := by
  rw [Word.normalize, if_pos (.inr topBit)]
  exact .single (step_taken (.skipIfTopBit .r4 3) rfl rfl rfl topBit)

/-- The first loop of the division normalizes the divisor. -/
theorem normalize_loop (places : Nat) (r1 r2 r3 divisor marker : UInt64)
    (nonzero : divisor ≠ 0) (bound : 2 ^ 63 ≤ divisor.toNat * 2 ^ places) :
    ∃ count, count ≤ 4 * places + 1 ∧
      Reaches (table .primitive) index count
        (state.within .divide 14 ⟨r1, r2, r3, divisor, marker⟩)
        (state.within .divide 18
          ⟨r1, r2, r3, (Word.normalize divisor marker).1,
            (Word.normalize divisor marker).2⟩) := by
  induction places generalizing divisor marker with
  | zero =>
      have topBit := (Word.hasTopBit_iff divisor).mpr (by simpa using bound)
      exact ⟨1, by omega, normalize_exit index state r1 r2 r3 marker topBit⟩
  | succ places induction =>
      by_cases topBit : Word.hasTopBit divisor = true
      · exact ⟨1, by omega, normalize_exit index state r1 r2 r3 marker topBit⟩
      · have noTopBit : Word.hasTopBit divisor = false := Bool.eq_false_iff.mpr topBit
        have doubled := Word.toNat_shiftLeft_of_not_hasTopBit noTopBit
        have stillNonzero := Word.shiftLeft_ne_zero nonzero noTopBit
        have stillBound : 2 ^ 63 ≤ (Word.shiftLeft divisor).toNat * 2 ^ places := by
          rw [doubled, Nat.mul_comm 2, Nat.mul_assoc, ← Nat.pow_succ']
          exact bound
        obtain ⟨count, few, rest⟩ := induction _ _ stillNonzero stillBound
        rw [Word.normalize, if_neg (not_or.mpr ⟨nonzero, topBit⟩)]
        exact ⟨4 + count, by omega,
          (normalize_iteration index state r1 r2 r3 divisor marker noTopBit).trans rest⟩

/-- One place of the quotient: at most seven instructions. -/
theorem reduce_iteration (remainder quotient r3 divisor marker : UInt64)
    (nonzero : marker ≠ 0) :
    ∃ count, count ≤ 7 ∧
      Reaches (table .primitive) index count
        (state.within .divide 18 ⟨remainder, quotient, r3, divisor, marker⟩)
        (state.within .divide 18
          ⟨Word.placeRemainder divisor remainder,
            Word.placeQuotient divisor marker quotient remainder, r3,
            Word.shiftRight divisor, Word.shiftRight marker⟩) := by
  have notZero := Word.isZero_of_ne_zero nonzero
  unfold Word.placeRemainder Word.placeQuotient
  by_cases fits : Word.atMost divisor remainder = true
  · refine ⟨7, Nat.le_refl 7, ?_⟩
    rw [if_pos fits, if_pos fits]
    refine .head (step_passed (.skipIfZero .r5 7) rfl rfl notZero) ?_
    refine .head (step_taken (.skipIfAtMost .r4 .r1 1) rfl rfl rfl fits) ?_
    refine .head (step_data (.subtract .r1 .r4) rfl rfl rfl) ?_
    refine .head (step_data (.add .r2 .r5) rfl rfl rfl) ?_
    refine .head (step_data (.shiftRight .r4) rfl rfl rfl) ?_
    refine .head (step_data (.shiftRight .r5) rfl rfl rfl) ?_
    exact .single (step_taken (.skip (-8)) rfl rfl rfl rfl)
  · refine ⟨6, by omega, ?_⟩
    rw [if_neg fits, if_neg fits]
    refine .head (step_passed (.skipIfZero .r5 7) rfl rfl notZero) ?_
    refine .head (step_passed (.skipIfAtMost .r4 .r1 1) rfl rfl (Bool.eq_false_iff.mpr fits)) ?_
    refine .head (step_taken (.skip 2) rfl rfl rfl rfl) ?_
    refine .head (step_data (.shiftRight .r4) rfl rfl rfl) ?_
    refine .head (step_data (.shiftRight .r5) rfl rfl rfl) ?_
    exact .single (step_taken (.skip (-8)) rfl rfl rfl rfl)

theorem reduce_exit (remainder quotient r3 divisor : UInt64) :
    Reaches (table .primitive) index 1
      (state.within .divide 18 ⟨remainder, quotient, r3, divisor, 0⟩)
      (state.within .divide 26
        ⟨(Word.reduce divisor 0 quotient remainder).2,
          (Word.reduce divisor 0 quotient remainder).1, r3, divisor, 0⟩) := by
  rw [Word.reduce, if_pos rfl]
  exact .single (step_taken (.skipIfZero .r5 7) rfl rfl rfl rfl)

/-- The second loop of the division finds quotient and rest. -/
theorem reduce_loop (bits : Nat) (remainder quotient r3 divisor marker : UInt64)
    (bound : marker.toNat < 2 ^ bits) :
    ∃ count r4, count ≤ 7 * bits + 1 ∧
      Reaches (table .primitive) index count
        (state.within .divide 18 ⟨remainder, quotient, r3, divisor, marker⟩)
        (state.within .divide 26
          ⟨(Word.reduce divisor marker quotient remainder).2,
            (Word.reduce divisor marker quotient remainder).1, r3, r4, 0⟩) := by
  induction bits generalizing remainder quotient divisor marker with
  | zero =>
      obtain rfl : marker = 0 := UInt64.toNat_inj.mp (by simpa using bound)
      exact ⟨1, divisor, by omega, reduce_exit index state remainder quotient r3 divisor⟩
  | succ bits induction =>
      by_cases zero : marker = 0
      · subst zero
        exact ⟨1, divisor, by omega, reduce_exit index state remainder quotient r3 divisor⟩
      · have halved : (Word.shiftRight marker).toNat < 2 ^ bits := by
          rw [Word.toNat_shiftRight]
          omega
        obtain ⟨first, few, place⟩ :=
          reduce_iteration index state remainder quotient r3 divisor marker zero
        obtain ⟨count, r4, some, rest⟩ := induction _ _ _ _ halved
        rw [Word.reduce_of_marker_ne_zero zero]
        exact ⟨first + count, r4, by omega, place.trans rest⟩

/-- The division proper, of a dividend and a divisor that are not zero. -/
theorem divide_reaches_of_ne_zero (registers : Registers) (dividend : registers.r2 ≠ 0)
    (divisor : registers.r1 ≠ 0) :
    ∃ count r4, count < Arithmetic.primitive.kernelCost .divide ∧
      Reaches (table .primitive) index count (state.within .divide 0 registers)
        (state.within .divide 26
          ⟨(Word.divide registers.r2 registers.r1).2, (Word.divide registers.r2 registers.r1).1,
            registers.r3, r4, 0⟩) := by
  obtain ⟨r1, r2, r3, r4, r5⟩ := registers
  dsimp only at dividend divisor ⊢
  have longhand : Word.divide r2 r1 =
      Word.reduce (Word.normalize r1 1).1 (Word.normalize r1 1).2 0 r2 := by
    rw [← Word.divideLonghand_eq, Word.divideLonghand, if_neg dividend, if_neg divisor]
  have notZeroDividend := Word.isZero_of_ne_zero dividend
  have notZeroDivisor := Word.isZero_of_ne_zero divisor
  have positive := Word.toNat_pos divisor
  obtain ⟨normalizing, few, normalized⟩ :=
    normalize_loop index state 63 r2 0 r3 r1 1 divisor (by omega)
  obtain ⟨reducing, rest, some, reduced⟩ :=
    reduce_loop index state 64 r2 0 r3 (Word.normalize r1 1).1 (Word.normalize r1 1).2
      (Word.normalize r1 1).2.toNat_lt
  refine ⟨7 + (normalizing + reducing), rest, ?_, ?_⟩
  · simp only [Arithmetic.kernelCost]
    omega
  · rw [longhand]
    refine .trans ?_ (normalized.trans reduced)
    refine .head (step_passed (.skipIfZero .r2 7) rfl rfl notZeroDividend) ?_
    refine .head (step_passed (.skipIfZero .r1 1) rfl rfl notZeroDivisor) ?_
    refine .head (step_taken (.skip 7) rfl rfl rfl rfl) ?_
    refine .head (step_data (.copy .r4 .r1) rfl rfl rfl) ?_
    refine .head (step_data (.copy .r1 .r2) rfl rfl rfl) ?_
    refine .head (step_data (.loadImmediate .r5 1) rfl rfl rfl) ?_
    exact .single (step_data (.loadImmediate .r2 0) rfl rfl rfl)

/-- The dividend zero leaves at once, and is the rest as well. -/
theorem divide_reaches_of_dividend_zero (registers : Registers) (dividend : registers.r2 = 0) :
    ∃ later, Reaches (table .primitive) index 2 (state.within .divide 0 registers)
        (state.within .divide 9 later) ∧
      Registers.SameResults (Program.kernelResult .divide registers) later := by
  obtain ⟨r1, r2, r3, r4, r5⟩ := registers
  obtain rfl : r2 = 0 := dividend
  refine ⟨⟨0, 0, r3, r4, r5⟩, ?_, ?_⟩
  · refine .head (step_taken (.skipIfZero .r2 7) rfl rfl rfl rfl) ?_
    exact .single (step_data (.copy .r1 .r2) rfl rfl rfl)
  · intro register results
    cases register with
    | r1 | r2 | r3 => rfl
    | r4 | r5 => cases results

/-- The divisor zero gives the largest quotient, with the dividend as the rest. -/
theorem divide_reaches_of_divisor_zero (registers : Registers) (dividend : registers.r2 ≠ 0)
    (divisor : registers.r1 = 0) :
    ∃ later, Reaches (table .primitive) index 6 (state.within .divide 0 registers)
        (state.within .divide 7 later) ∧
      Registers.SameResults (Program.kernelResult .divide registers) later := by
  obtain ⟨r1, r2, r3, r4, r5⟩ := registers
  obtain rfl : r1 = 0 := divisor
  have notZero := Word.isZero_of_ne_zero dividend
  refine ⟨⟨r2, Word.subtract 0 1, r3, r4, 1⟩, ?_, ?_⟩
  · refine .head (step_passed (.skipIfZero .r2 7) rfl rfl notZero) ?_
    refine .head (step_taken (.skipIfZero .r1 1) rfl rfl rfl rfl) ?_
    refine .head (step_data (.copy .r1 .r2) rfl rfl rfl) ?_
    refine .head (step_data (.loadImmediate .r2 0) rfl rfl rfl) ?_
    refine .head (step_data (.loadImmediate .r5 1) rfl rfl rfl) ?_
    exact .single (step_data (.subtract .r2 .r5) rfl rfl rfl)
  · have overflow : Word.divide r2 0 = (0xFFFFFFFFFFFFFFFF, r2) := by
      rw [Word.divide, if_neg dividend, if_pos rfl]
    have largest : Word.subtract 0 1 = 0xFFFFFFFFFFFFFFFF := by
      rw [Word.subtract_eq]
      rfl
    intro register results
    cases register with
    | r1 | r2 | r3 =>
        simp [Program.kernelResult, overflow, largest, Registers.get, Registers.set]
    | r4 | r5 => cases results

theorem divide_reaches (registers : Registers) :
    ∃ count pc later, count < Arithmetic.primitive.kernelCost .divide ∧
      Reaches (table .primitive) index count (state.within .divide 0 registers)
        (state.within .divide pc later) ∧
      dividePrimitive[pc]? = some .done ∧
      Registers.SameResults (Program.kernelResult .divide registers) later := by
  by_cases noDividend : registers.r2 = 0
  · obtain ⟨later, reached, same⟩ :=
      divide_reaches_of_dividend_zero index state registers noDividend
    exact ⟨2, 9, later, by decide, reached, rfl, same⟩
  · by_cases noDivisor : registers.r1 = 0
    · obtain ⟨later, reached, same⟩ :=
        divide_reaches_of_divisor_zero index state registers noDividend noDivisor
      exact ⟨6, 7, later, by decide, reached, rfl, same⟩
    · obtain ⟨count, r4, few, reached⟩ :=
        divide_reaches_of_ne_zero index state registers noDividend noDivisor
      refine ⟨count, 26, _, few, reached, rfl, ?_⟩
      intro register results
      cases register with
      | r1 | r2 | r3 => rfl
      | r4 | r5 => cases results

/-- Whatever the arithmetic, a kernel program reaches its end with its result in place. -/
theorem kernel_reaches (arithmetic : Arithmetic) {program : Program}
    (kernel : program.isKernel = true) (registers : Registers) :
    ∃ count pc later, count < arithmetic.kernelCost program ∧
      Reaches (table arithmetic) index count (state.within program 0 registers)
        (state.within program pc later) ∧
      (table arithmetic program)[pc]? = some .done ∧
      Registers.SameResults (program.kernelResult registers) later := by
  cases arithmetic with
  | native =>
      cases program with
      | multiply =>
          exact ⟨1, 1, _, by decide, .single (step_data (.multiply .r2 .r1) rfl rfl rfl), rfl,
            fun _ _ => rfl⟩
      | divide =>
          exact ⟨1, 1, _, by decide, .single (step_data (.divide .r2 .r1) rfl rfl rfl), rfl,
            fun _ _ => rfl⟩
      | _ => cases kernel
  | primitive =>
      cases program with
      | multiply =>
          obtain ⟨count, later, few, reached, same⟩ := multiply_reaches index state registers
          exact ⟨count, 10, later, few, reached, rfl, same⟩
      | divide => exact divide_reaches index state registers
      | _ => cases kernel

end Catalog

end TripComputer
