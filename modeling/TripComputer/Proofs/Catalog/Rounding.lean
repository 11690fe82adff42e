import TripComputer.Proofs.Catalog.Backends
import TripComputer.Proofs.Catalog.Safety
import TripComputer.Proofs.Machine.Returns

/-!
# What the arithmetic subroutines answer

`rounded` and `scaled` are the quotients that the quantity programs are made of, on natural
numbers.  The programs are followed in the table with native arithmetic; `run_of_answers`
carries what they answer over to runs in either arithmetic, which no program can tell apart.
-/

namespace TripComputer.Catalog

open Machine

/-- A quotient rounded half up.  Nothing over nothing is nothing, and anything else over nothing
is the largest word. -/
def rounded (dividend divisor : Nat) : Nat :=
  if divisor = 0 then if dividend = 0 then 0 else 2 ^ 64 - 1
  else (2 * dividend + divisor) / (2 * divisor)

/-- A product of words over a divisor, rounded. -/
def scaled (value factor divisor : Nat) : Nat :=
  rounded (value * factor % 2 ^ 64) divisor

/-- Programs may be entered with any registers, and multiplications where a condition holds of
their product. -/
def Multiplying (Holds : Nat → Prop) : Program → Registers → Prop
  | .multiply, registers => Holds (registers.r2.toNat * registers.r1.toNat)
  | _, _ => True

variable {σ : Type} [Environment σ] {arithmetic : Arithmetic} {index : UInt8} {environment : σ}
  {program : Program} {registers : Registers} {Allowed : Program → Registers → Prop}

/-- Whatever the arithmetic, a kernel program comes back with its result, and enters nothing. -/
theorem kernel_leads (kernel : program.isKernel = true) :
    Leads (table arithmetic) index Allowed environment program 0 registers
      fun later => Registers.SameResults (program.kernelResult registers) later := by
  have flat : ∀ instruction ∈ table arithmetic program,
      instruction.callee? = none ∧ instruction.isTrace = false := by
    cases arithmetic <;> cases program <;> first | contradiction | decide
  obtain ⟨count, position, later, _, reached, ended, same⟩ := kernel_reaches index
    ((Machine.mk registers [] false).start environment program) arithmetic kernel registers
  exact ⟨later, .of_reaches flat rfl rfl reached ended, same⟩

theorem adjust_answers :
    Leads (table arithmetic) index Allowed environment .adjust 0 registers
      (·.r2.toNat = if registers.r3.toNat = 0 then registers.r2.toNat
        else if registers.r3.toNat ≤ (registers.r1 + registers.r1).toNat then
          (registers.r2 + 1).toNat
        else registers.r2.toNat) := by
  refine .ifZero rfl rfl rfl (fun _ => ?_) (fun _ => ?_)
  · exact .done rfl rfl
  · refine .data rfl rfl rfl ?_
    rw [← Word.shiftLeft_eq]
    refine .ifAtMost rfl rfl rfl rfl (fun _ => ?_) (fun _ => ?_)
    · refine .data rfl rfl rfl (.data rfl rfl rfl (.done rfl ?_))
      exact congrArg UInt64.toNat (Word.add_eq registers.r2 1)
    · exact .done rfl rfl

/-- Half up is up where twice the rest is at least the divisor. -/
theorem rounded_of_pos {dividend divisor : Nat} (positive : 0 < divisor) :
    rounded dividend divisor =
      if divisor ≤ 2 * (dividend % divisor) then dividend / divisor + 1
      else dividend / divisor := by
  have below := Nat.mod_lt dividend positive
  have whole := Nat.div_add_mod dividend divisor
  have split : 2 * dividend + divisor =
      2 * (dividend % divisor) + divisor + 2 * divisor * (dividend / divisor) := by
    rw [Nat.mul_assoc]
    omega
  rw [rounded, if_neg (Nat.ne_of_gt positive), split, Nat.add_mul_div_left _ _ (by omega)]
  split
  case isTrue up =>
    rw [Nat.div_eq_of_lt_le (k := 1) (by omega) (by omega), Nat.add_comm]
  case isFalse down =>
    rw [Nat.div_eq_of_lt (by omega), Nat.zero_add]

/-- What division and adjustment leave.  A divisor up to half of the words leaves room to
double the rest. -/
theorem rounded_eq {dividend divisor : UInt64} (moderate : divisor.toNat ≤ 2 ^ 63) :
    rounded dividend.toNat divisor.toNat =
      let (quotient, rest) := Word.divide dividend divisor
      if divisor.toNat = 0 then quotient.toNat
      else if divisor.toNat ≤ (rest + rest).toNat then (quotient + 1).toNat
      else quotient.toNat := by
  by_cases noDividend : dividend = 0
  · subst noDividend
    by_cases noDivisor : divisor.toNat = 0
    · simp [Word.divide, rounded, noDivisor]
    · simp [Word.divide, rounded_of_pos (Nat.pos_of_ne_zero noDivisor), noDivisor]
  · by_cases noDivisor : divisor = 0
    · subst noDivisor
      have someDividend : dividend.toNat ≠ 0 := Nat.ne_of_gt (Word.toNat_pos noDividend)
      simp [Word.divide, rounded, noDividend, someDividend]
    · have positive := Word.toNat_pos noDivisor
      have below := Nat.mod_lt dividend.toNat positive
      have bound := dividend.toNat_lt
      have doubled : (dividend % divisor + dividend % divisor).toNat =
          2 * (dividend.toNat % divisor.toNat) := by
        rw [UInt64.toNat_add, UInt64.toNat_mod]
        omega
      simp only [Word.divide, noDividend, noDivisor, if_false]
      rw [rounded_of_pos positive, if_neg (Nat.ne_of_gt positive), doubled, UInt64.toNat_div]
      split
      case isTrue up =>
        -- a divisor of one leaves no rest: where the quotient is raised, it is at most half of
        -- the largest word
        have notOne : 2 ≤ divisor.toNat := by omega
        have halved : dividend.toNat / divisor.toNat ≤ dividend.toNat / 2 :=
          Nat.div_le_div_left notOne Nat.two_pos
        rw [UInt64.toNat_add, UInt64.toNat_div]
        exact (Nat.mod_eq_of_lt (by omega)).symm
      case isFalse => rfl

theorem toNat_divide (dividend divisor : UInt64) :
    (Word.divide dividend divisor).1.toNat =
      if divisor.toNat = 0 then if dividend.toNat = 0 then 0 else 2 ^ 64 - 1
      else dividend.toNat / divisor.toNat := by
  by_cases noDividend : dividend = 0
  · simp [Word.divide, noDividend]
  · have someDividend : dividend.toNat ≠ 0 := Nat.ne_of_gt (Word.toNat_pos noDividend)
    by_cases noDivisor : divisor = 0
    · simp [Word.divide, noDividend, noDivisor, someDividend]
    · have someDivisor : divisor.toNat ≠ 0 := Nat.ne_of_gt (Word.toNat_pos noDivisor)
      simp [Word.divide, noDividend, noDivisor, someDivisor, UInt64.toNat_div]

theorem divide_returns (r1 r2 r3 r4 r5 : UInt64) :
    Returns (table .native) index .divide 0 ⟨r1, r2, r3, r4, r5⟩ environment
      ⟨(Word.divide r2 r1).2, (Word.divide r2 r1).1, r3, r4, r5⟩ environment :=
  .data rfl rfl rfl (.done rfl)

section

variable {value factor divisor : Nat} {Holds : Nat → Prop}

theorem divideRound_leads (holdsValue : registers.r2.toNat = value)
    (holdsDivisor : registers.r1.toNat = divisor) (moderate : divisor ≤ 2 ^ 63) :
    Leads (table arithmetic) index (Multiplying Holds) environment .divideRound 0 registers
      (·.r2.toNat = rounded value divisor) := by
  subst holdsValue holdsDivisor
  rw [rounded_eq moderate]
  refine .data rfl rfl rfl ?_
  refine .callWithin rfl trivial (kernel_leads rfl) fun between same => ?_
  obtain ⟨rest, quotient, divisor⟩ := Registers.sameResults_iff.mp same
  have adjusts : Leads (table arithmetic) index (Multiplying Holds) environment .adjust 0 between _ :=
    adjust_answers
  rw [← rest, ← quotient, ← divisor] at adjusts
  exact .jumpWithin rfl trivial adjusts

theorem divideRound_answers (holdsValue : registers.r2.toNat = value)
    (holdsDivisor : registers.r1.toNat = divisor) (moderate : divisor ≤ 2 ^ 63) :
    Answers (table .native) index environment .divideRound 0 registers
      (rounded value divisor) := by
  have leads : Leads (table .native) index (Multiplying fun _ => True) environment .divideRound 0
      registers _ := divideRound_leads holdsValue holdsDivisor moderate
  exact leads.mono fun _ _ _ => trivial

theorem mulDivRound_leads (holdsValue : registers.r2.toNat = value)
    (holdsFactor : registers.r1.toNat = factor) (holdsDivisor : registers.r3.toNat = divisor)
    (moderate : divisor ≤ 2 ^ 63) (product : Holds (value * factor)) :
    Leads (table arithmetic) index (Multiplying Holds) environment .mulDivRound 0 registers
      (·.r2.toNat = scaled value factor divisor) := by
  subst holdsValue holdsFactor holdsDivisor
  refine .callWithin rfl product (kernel_leads rfl) fun between same => ?_
  obtain ⟨_, multiplied, kept⟩ := Registers.sameResults_iff.mp same
  refine .data rfl rfl rfl (.jumpWithin rfl trivial (divideRound_leads ?_ ?_ moderate))
  · exact (congrArg UInt64.toNat multiplied.symm).trans (UInt64.toNat_mul registers.r2 registers.r1)
  · exact congrArg UInt64.toNat kept.symm

theorem mulDivRound_answers (holdsValue : registers.r2.toNat = value)
    (holdsFactor : registers.r1.toNat = factor) (holdsDivisor : registers.r3.toNat = divisor)
    (moderate : divisor ≤ 2 ^ 63) :
    Answers (table .native) index environment .mulDivRound 0 registers
      (scaled value factor divisor) := by
  have leads : Leads (table .native) index (Multiplying fun _ => True) environment .mulDivRound 0
      registers _ := mulDivRound_leads holdsValue holdsFactor holdsDivisor moderate trivial
  exact leads.mono fun _ _ _ => trivial

theorem multiply_leads :
    Leads (table arithmetic) index Allowed environment .multiply 0 registers fun later =>
      later.r2.toNat = registers.r2.toNat * registers.r1.toNat % 2 ^ 64 ∧
        later.r1 = registers.r1 ∧ later.r3 = registers.r3 := by
  obtain ⟨later, returns, same⟩ : Leads (table arithmetic) index Allowed environment .multiply 0
      registers _ := kernel_leads rfl
  obtain ⟨r1, multiplied, r3⟩ := Registers.sameResults_iff.mp same
  refine ⟨later, returns, ?_, r1.symm, r3.symm⟩
  exact (congrArg UInt64.toNat multiplied.symm).trans (UInt64.toNat_mul registers.r2 registers.r1)

theorem multiply_answers (holdsValue : registers.r2.toNat = value)
    (holdsFactor : registers.r1.toNat = factor) :
    Leads (table arithmetic) index Allowed environment .multiply 0 registers
      (·.r2.toNat = value * factor % 2 ^ 64) := by
  subst holdsValue holdsFactor
  obtain ⟨later, returns, product, _⟩ : Leads (table arithmetic) index Allowed environment
      .multiply 0 registers _ := multiply_leads
  exact ⟨later, returns, product⟩

theorem toNat_subtract {x y : UInt64} (fits : y.toNat ≤ x.toNat) :
    (Word.subtract x y).toNat = x.toNat - y.toNat := by
  rw [Word.subtract_eq, UInt64.toNat_sub_of_le _ _ (UInt64.le_iff_toNat_le.mpr fits)]

/-- Settings and rates are far below half of the words. -/
theorem toNat_le_half (word : UInt32) : word.toNat ≤ 2 ^ 63 :=
  Nat.le_of_lt (Nat.lt_trans word.toNat_lt (by decide))

theorem toMicros_answers (holdsValue : registers.r2.toNat = value) :
    Answers (table .native) index environment .toMicros 0 registers
      (scaled value 1000000 (Environment.cyclesPerSecond environment).toNat) := by
  refine .data rfl rfl rfl (.data rfl rfl rfl ?_)
  exact .jump rfl (mulDivRound_answers holdsValue rfl rfl (toNat_le_half _))

end

theorem overflow_answers :
    Leads (table arithmetic) index Allowed environment .overflow 0 registers
      (·.r2.toNat = 2 ^ 64 - 1) := by
  have largest : (Word.subtract 0 1).toNat = 2 ^ 64 - 1 := by decide
  exact .data rfl rfl rfl (.data rfl rfl rfl (.data rfl rfl rfl (.done rfl largest)))

/-- Runs of one program in different arithmetics end alike. -/
theorem run_alike (left right : Arithmetic) (machine : Machine) (environment : σ)
    (entry : Program) (index : UInt8) :
    Run.Alike (fun register => register.isScratch = false)
      (machine.run (table left) environment entry index)
      (machine.run (table right) environment entry index) := by
  have enough : ∀ arithmetic, remaining arithmetic (machine.start environment entry) < stepLimit := by
    intro arithmetic
    rw [remaining_start]
    exact budget_lt_stepLimit arithmetic entry
  exact execute_alike left right index ⟨fun _ _ => rfl, rfl, rfl, rfl, rfl, rfl, rfl⟩
    (.start machine environment entry) (enough left) (enough right)

/-- A run does what its program does in native arithmetic, the scratch registers apart. -/
theorem run_of_native (arithmetic : Arithmetic) (machine : Machine) {entry : Program}
    {later : Registers} {final : σ}
    (returns : Returns (table .native) index entry 0 machine.registers environment later final) :
    (machine.run (table arithmetic) environment entry index).result = .ok later.r2 ∧
      Registers.SameResults
        (machine.run (table arithmetic) environment entry index).machine.registers later ∧
      (machine.run (table arithmetic) environment entry index).environment = final := by
  -- the stack and the budget are settled for the catalog as a whole
  obtain ⟨ended, left, kept⟩ := run_of_returns (ranked_table .native) machine
    (height_le_stackDepth entry) (halts_start .native index machine environment entry) returns
  have alike := run_alike arithmetic .native machine environment entry index
  exact ⟨alike.result.trans ended, left ▸ alike.registers, alike.environment.trans kept⟩

/-- A run ends with what its program answers, whatever the arithmetic. -/
theorem run_of_answers (arithmetic : Arithmetic) (machine : Machine) {entry : Program} {value : Nat}
    (answers : Answers (table .native) index environment entry 0 machine.registers value) :
    ∃ raw, (machine.run (table arithmetic) environment entry index).result = .ok raw ∧
      raw.toNat = value ∧
      (machine.run (table arithmetic) environment entry index).environment = environment := by
  obtain ⟨later, returns, result⟩ := answers
  obtain ⟨ended, _, kept⟩ := run_of_native arithmetic machine returns
  exact ⟨later.r2, ended, result, kept⟩

end TripComputer.Catalog
