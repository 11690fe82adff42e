import TripComputer.Proofs.Catalog.Nearest

/-!
# Runs of the arithmetic subroutines

Multiplication, division and the two roundings, each run by itself, in either arithmetic and
whatever the registers hold.  A run comes to its end with what the subroutine is for; the
roundings double a rest within a word, and so they are right up to a divisor of half the words.
-/

namespace TripComputer.Catalog

open Machine

/-- Quotient and rest, where zero goes into nothing at all, and into anything else as often as a
word can say, with all of it left over. -/
structure Divided (dividend divisor quotient rest : Nat) : Prop where
  whole : 0 < divisor → quotient = dividend / divisor ∧ rest = dividend % divisor
  overflow : divisor = 0 → 0 < dividend → quotient = 2 ^ 64 - 1 ∧ rest = dividend
  nothing : dividend = 0 → quotient = 0 ∧ rest = 0

theorem divided_divide (dividend divisor : UInt64) :
    Divided dividend.toNat divisor.toNat (Word.divide dividend divisor).1.toNat
      (Word.divide dividend divisor).2.toNat := by
  by_cases noDividend : dividend = 0
  · subst noDividend
    constructor <;> simp [Word.divide]
  · have someDividend := Word.toNat_pos noDividend
    by_cases noDivisor : divisor = 0
    · subst noDivisor
      constructor
      · intro positive
        exact absurd positive (Nat.lt_irrefl 0)
      · intro _ _
        simp [Word.divide, noDividend]
      · intro none
        exact absurd none (Nat.ne_of_gt someDividend)
    · have someDivisor := Word.toNat_pos noDivisor
      constructor
      · intro _
        simp [Word.divide, noDividend, noDivisor, UInt64.toNat_div, UInt64.toNat_mod]
      · intro none
        exact absurd none (Nat.ne_of_gt someDivisor)
      · intro none
        exact absurd none (Nat.ne_of_gt someDividend)

variable {σ : Type} {environment : σ}

/-- A run came to the end of its program, with register 2 as its result and a condition on the
registers that it left, and stored nothing. -/
structure Ended (environment : σ) (run : Run σ) (Post : Registers → Prop) : Prop where
  result : run.result = .ok run.machine.registers.r2
  left : Post run.machine.registers
  kept : run.environment = environment

theorem Ended.result_eq {run : Run σ} {value : Nat} {raw : UInt64}
    (ended : Ended environment run (·.r2.toNat = value)) (same : value = raw.toNat) :
    run.result = .ok raw :=
  ended.result.trans (congrArg _ (UInt64.toNat_inj.mp (ended.left.trans same)))

variable [Environment σ] {arithmetic : Arithmetic} {index : UInt8} {program : Program}
  {registers : Registers} {Allowed : Program → Registers → Prop} {Post : Registers → Prop}

/-- What programs lead to is what their runs end with. -/
theorem ended_of_leads {machine : Machine}
    (leads : Leads (table arithmetic) index Allowed environment program 0 machine.registers Post) :
    Ended environment (machine.run (table arithmetic) environment program index) Post := by
  obtain ⟨later, returns, holds⟩ := leads
  obtain ⟨ended, left, kept⟩ := run_of_returns (ranked_table arithmetic) machine
    (height_le_stackDepth program) (halts_start arithmetic index machine environment program)
    returns
  subst left
  exact ⟨ended, holds, kept⟩

theorem leads_divided :
    Leads (table arithmetic) index Allowed environment .divide 0 registers fun later =>
      Divided registers.r2.toNat registers.r1.toNat later.r2.toNat later.r1.toNat ∧
        later.r3 = registers.r3 := by
  obtain ⟨later, returns, same⟩ : Leads (table arithmetic) index Allowed environment .divide 0
      registers _ := kernel_leads rfl
  obtain ⟨rest, quotient, r3⟩ := Registers.sameResults_iff.mp same
  refine ⟨later, returns, ?_, r3.symm⟩
  rw [← quotient, ← rest]
  exact divided_divide registers.r2 registers.r1

/-- The arithmetic subroutines keep what they promise, whatever the registers and the arithmetic.
Multiplication leaves the product modulo the words and both other operands; division leaves
quotient and rest; the roundings leave the nearest whole number to the quotient, up to a divisor
of half the words, and over zero nothing or the largest word. -/
theorem subroutines_keep_contracts (arithmetic : Arithmetic) (machine : Machine) (environment : σ)
    (index : UInt8) :
    let before := machine.registers
    let run program := machine.run (table arithmetic) environment program index
    let product := before.r2.toNat * before.r1.toNat % 2 ^ 64
    Ended environment (run .multiply) (fun later =>
      later.r2.toNat = product ∧ later.r1 = before.r1 ∧ later.r3 = before.r3) ∧
    Ended environment (run .divide) (fun later =>
      Divided before.r2.toNat before.r1.toNat later.r2.toNat later.r1.toNat ∧
        later.r3 = before.r3) ∧
    (1 ≤ before.r1.toNat → before.r1.toNat ≤ 2 ^ 63 →
      Ended environment (run .divideRound)
        (·.r2.toNat = nearest before.r2.toNat before.r1.toNat)) ∧
    (before.r1.toNat = 0 →
      Ended environment (run .divideRound)
        (·.r2.toNat = if before.r2.toNat = 0 then 0 else 2 ^ 64 - 1)) ∧
    (1 ≤ before.r3.toNat → before.r3.toNat ≤ 2 ^ 63 →
      Ended environment (run .mulDivRound) (·.r2.toNat = nearest product before.r3.toNat)) ∧
    (before.r3.toNat = 0 →
      Ended environment (run .mulDivRound)
        (·.r2.toNat = if product = 0 then 0 else 2 ^ 64 - 1)) := by
  intro before run product
  have multiplies : Leads (table arithmetic) index (fun _ _ => True) environment .multiply 0 before
      _ := multiply_leads
  have divides : Leads (table arithmetic) index (fun _ _ => True) environment .divide 0 before _ :=
    leads_divided
  have rounds (moderate : before.r1.toNat ≤ 2 ^ 63) : Leads (table arithmetic) index
      (Multiplying fun _ => True) environment .divideRound 0 before _ :=
    divideRound_leads rfl rfl moderate
  have scales (moderate : before.r3.toNat ≤ 2 ^ 63) : Leads (table arithmetic) index
      (Multiplying fun _ => True) environment .mulDivRound 0 before
        (·.r2.toNat = rounded product before.r3.toNat) :=
    mulDivRound_leads rfl rfl rfl moderate trivial
  refine ⟨?_, ?_, ?_, ?_, ?_, ?_⟩
  · exact ended_of_leads multiplies
  · exact ended_of_leads divides
  · intro positive moderate
    rw [← rounded_eq_nearest positive]
    exact ended_of_leads (rounds moderate)
  · intro none
    have overZero := ended_of_leads (rounds (by omega))
    rwa [rounded, if_pos none] at overZero
  · intro positive moderate
    rw [← rounded_eq_nearest positive]
    exact ended_of_leads (scales moderate)
  · intro none
    have overZero := ended_of_leads (scales (by omega))
    rwa [rounded, if_pos none] at overZero

/-- A product that does not fit in a word, over half of the words, and a quotient that is rounded
down.  Over zero, something is the largest word and nothing is nothing. -/
theorem subroutines_at_their_bounds :
    let surroundings : Surroundings :=
      { settings := .defaults, cyclesPerSecond := Board.cyclesPerSecond,
        tickCycles := Board.tickCycles, metricOverride := none, trip? := fun _ => none,
        tankFuel := 0, reading? := fun _ => none }
    let large : Registers := ⟨3, 0x8000000000000005, 0x8000000000000000, 0, 0⟩
    let overZero : Registers := ⟨0, 7, 0, 0, 0⟩
    let result registers program := ((Machine.mk registers [] false).run (table .primitive)
      surroundings program 0).result
    large.r3.toNat = 2 ^ 63 ∧
      result large .divideRound = .ok 3074457345618258604 ∧ result large .mulDivRound = .ok 1 ∧
      result overZero .divideRound = .ok 0xFFFFFFFFFFFFFFFF ∧
      result overZero .mulDivRound = .ok 0 := by
  intro surroundings large overZero result
  obtain ⟨_, _, rounds, _, scales, _⟩ :=
    subroutines_keep_contracts .primitive ⟨large, [], false⟩ surroundings 0
  obtain ⟨_, _, _, roundsZero, _, scalesZero⟩ :=
    subroutines_keep_contracts .primitive ⟨overZero, [], false⟩ surroundings 0
  have half : large.r3.toNat = 2 ^ 63 := by decide
  refine ⟨half, ?_, ?_, ?_, ?_⟩
  · exact (rounds (by decide) (by decide)).result_eq (by decide)
  · exact (scales (by decide) (Nat.le_of_eq half)).result_eq (by decide)
  · exact (roundsZero rfl).result_eq rfl
  · exact (scalesZero rfl).result_eq rfl

/-- One past half of the words, the doubled rest is lost. -/
example :
    let environment : Surroundings :=
      { settings := .defaults, cyclesPerSecond := 0, tickCycles := 0, metricOverride := none,
        trip? := fun _ => none, tankFuel := 0, reading? := fun _ => none }
    let machine : Machine := ⟨⟨2 ^ 63 + 1, 2 ^ 63, 0, 0, 0⟩, [], false⟩
    (machine.run (table .native) environment .divideRound 0).result = .ok 0 ∧
      nearest (2 ^ 63) (2 ^ 63 + 1) = 1 := by
  cbv

end TripComputer.Catalog
