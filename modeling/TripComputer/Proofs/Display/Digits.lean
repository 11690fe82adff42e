import Mathlib.Logic.Basic
import TripComputer.Display
import TripComputer.Proofs.Catalog.Rounding

/-!
# The digits of a value

What the rounding program and the two programs of digits leave behind, as numbers: the value
rounded to the decimals that a context index asks for, and its digits in pairs.
-/

namespace TripComputer

namespace Display

/-- The largest value that has digits. -/
def ceiling : Nat := 0xFFFFFFFE

/-- A value, or the largest word where it has no digits. -/
def capped (value : Nat) : Nat :=
  if value ≤ ceiling then value else 2 ^ 64 - 1

/-- Half a unit of the last decimal shown.  A context index below 4 asks for that many decimals,
and values that are too large for them get fewer. -/
def halfUnit (index : UInt8) (value : Nat) : Nat :=
  if index < 1 ∨ 10000000 ≤ value then 500
  else if index < 2 ∨ 1000000 ≤ value then 50
  else if index < 3 ∨ 100000 ≤ value then 5
  else 0

/-- What the rounding program answers. -/
def roundedAt (index : UInt8) (value : Nat) : Nat :=
  if value ≤ ceiling then
    if index < 4 then capped (value + halfUnit index value) else value
  else 2 ^ 64 - 1

theorem roundedAt_eq_or_le (index : UInt8) (value : Nat) :
    roundedAt index value = 2 ^ 64 - 1 ∨ roundedAt index value ≤ ceiling := by
  unfold roundedAt capped
  split
  next small =>
    split
    next =>
      split
      next fits => exact .inr fits
      next => exact .inl rfl
    next => exact .inr small
  next => exact .inl rfl

/-- Pairs of decimal digits, the lowest pair last. -/
def digitPairs : (count : Nat) → (value : Nat) → List UInt8
  | 0, _ => []
  | count + 1, value => digitPairs count (value / 100) ++ [(value % 100).toUInt8]

/-- Hours, minutes and seconds. -/
def clock (seconds : Nat) : List Nat :=
  [seconds / 3600 % 100, seconds / 60 % 60, seconds % 60]

end Display

namespace Catalog

open Machine Display

variable {σ : Type} [Environment σ] {index : UInt8} {environment : σ} {registers : Registers}
  {value : Nat}

/-- The end of the rounding program: the ceiling is checked again. -/
theorem roundOff_ceiling_answers (holds : registers.r2.toNat = value) :
    Answers (table .native) index environment .roundOff 21 registers (capped value) := by
  refine .data rfl rfl rfl ?_
  exact .ifAtMost rfl rfl holds rfl (fun _ => .done rfl holds) fun _ => .jump rfl overflow_answers

theorem roundOff_add_answers {half : Nat} (holdsValue : registers.r2.toNat = value)
    (holdsHalf : registers.r1.toNat = half) (fits : value + half < 2 ^ 64) :
    Answers (table .native) index environment .roundOff 20 registers (capped (value + half)) := by
  refine .data rfl rfl rfl (roundOff_ceiling_answers ?_)
  show (Word.add registers.r2 registers.r1).toNat = value + half
  rw [Word.add_eq, UInt64.toNat_add, holdsValue, holdsHalf, Nat.mod_eq_of_lt fits]

theorem roundOff_answers (holds : registers.r2.toNat = value) :
    Answers (table .native) index environment .roundOff 0 registers (roundedAt index value) := by
  unfold roundedAt halfUnit
  refine .data rfl rfl rfl ?_
  refine .ifAtMost rfl rfl holds rfl (fun small => ?_) fun _ => .jump rfl overflow_answers
  have fits : ∀ half ≤ 500, value + half < 2 ^ 64 := by
    intro half few
    have bound : value ≤ 0xFFFFFFFE := small
    omega
  -- the three places at which the program loads half a unit
  have five (registers : Registers) (holds : registers.r2.toNat = value) :
      Answers (table .native) index environment .roundOff 19 registers (capped (value + 5)) :=
    .data rfl rfl rfl (roundOff_add_answers holds rfl (fits 5 (by decide)))
  have fifty (registers : Registers) (holds : registers.r2.toNat = value) :
      Answers (table .native) index environment .roundOff 17 registers (capped (value + 50)) :=
    .data rfl rfl rfl (.taken rfl rfl rfl rfl
      (roundOff_add_answers holds rfl (fits 50 (by decide))))
  have fiveHundred (registers : Registers) (holds : registers.r2.toNat = value) :
      Answers (table .native) index environment .roundOff 15 registers (capped (value + 500)) :=
    .data rfl rfl rfl (.taken rfl rfl rfl rfl
      (roundOff_add_answers holds rfl (fits 500 (by decide))))
  refine .ifIndexBelow rfl rfl ?_ (.done rfl holds)
  simp only [ite_or, apply_ite (value + ·), apply_ite capped]
  refine .ifIndexBelow rfl rfl (fiveHundred _ holds) (.data rfl rfl rfl ?_)
  refine .ifAtMost rfl rfl rfl holds (fun _ => fiveHundred _ holds) fun _ => ?_
  refine .ifIndexBelow rfl rfl (fifty _ holds) (.data rfl rfl rfl ?_)
  refine .ifAtMost rfl rfl rfl holds (fun _ => fifty _ holds) fun _ => ?_
  refine .ifIndexBelow rfl rfl (five _ holds) (.data rfl rfl rfl ?_)
  refine .ifAtMost rfl rfl rfl holds (fun _ => five _ holds) fun _ => ?_
  exact .taken rfl rfl rfl rfl (roundOff_ceiling_answers holds)

/-- Three instructions split the last digits off register 2 and put them into a byte of
register 3. -/
theorem digits_leads {program : Program} {pc : Nat} {divisor position : UInt8}
    {kept : List UInt8} {r1 r2 r4 r5 : UInt64} {Post : Registers → Prop}
    (loads : (table .native program)[pc]? = some (.loadImmediate .r1 divisor))
    (divides : (table .native program)[pc + 1]? = some (.call .divide))
    (stores : (table .native program)[pc + 2]? = some (.storeByte .r1 .r3 position))
    (nonzero : divisor.toUInt64 ≠ 0) (inside : position.toNat < 8) (eight : kept.length = 8)
    (rest : Leads (table .native) index (fun _ _ => True) environment program (pc + 3)
      ⟨r2 % divisor.toUInt64, r2 / divisor.toUInt64,
        Word.ofBytes (kept.set position.toNat (r2 % divisor.toUInt64).toUInt8), r4, r5⟩ Post) :
    Leads (table .native) index (fun _ _ => True) environment program pc
      ⟨r1, r2, Word.ofBytes kept, r4, r5⟩ Post := by
  have stored : perform index ⟨r2 % divisor.toUInt64, r2 / divisor.toUInt64, Word.ofBytes kept, r4,
      r5⟩ environment (.storeByte .r1 .r3 position) =
        .ok (⟨r2 % divisor.toUInt64, r2 / divisor.toUInt64,
          Word.ofBytes (kept.set position.toNat (r2 % divisor.toUInt64).toUInt8), r4, r5⟩,
          environment) := by
    simp only [perform, Registers.get, Word.setByte?_ofBytes eight inside]
    rfl
  refine .data loads rfl rfl ?_
  refine .callWithin divides trivial ⟨_, divide_returns _ _ _ _ _, rfl⟩ ?_
  rintro _ rfl
  rw [Word.divide_of_ne_zero r2 nonzero]
  exact .data stores rfl stored rest

/-- Where the rounded value has digits, they end up in register 3. -/
theorem formatNumber_leads (holds : registers.r2.toNat = value) :
    Leads (table .native) index (fun _ _ => True) environment .formatNumber 0 registers
      fun later =>
        if roundedAt index value ≤ ceiling then
          later.r2 = 0 ∧ (Word.bytes later.r3).take 5 = digitPairs 5 (roundedAt index value)
        else later.r2.toNat = roundedAt index value := by
  refine .callWithin rfl trivial (roundOff_answers holds) ?_
  rintro ⟨r1, r2, r3, r4, r5⟩ rounded
  rw [← rounded]
  refine .data rfl rfl rfl ?_
  apply Leads.onAtMost rfl rfl
  · intro small
    have fits : r2.toNat ≤ ceiling := UInt64.le_iff_toNat_le.mp small
    have empty : (0 : UInt8).toUInt64 = Word.ofBytes (List.replicate 8 0) := by decide
    simp only [if_pos fits]
    refine .data rfl rfl rfl ?_
    rw [Registers.set, empty]
    refine digits_leads rfl rfl rfl (by decide) (by decide) rfl ?_
    refine digits_leads rfl rfl rfl (by decide) (by decide) rfl ?_
    refine digits_leads rfl rfl rfl (by decide) (by decide) rfl ?_
    refine digits_leads rfl rfl rfl (by decide) (by decide) rfl ?_
    refine digits_leads rfl rfl rfl (by decide) (by decide) rfl ?_
    refine .done rfl ⟨?_, ?_⟩
    · apply UInt64.toNat_inj.mp
      have bound : r2.toNat ≤ 4294967294 := fits
      have hundred : UInt64.toNat (UInt8.toUInt64 100) = 100 := rfl
      simp only [UInt64.toNat_div, hundred]
      show _ = 0
      omega
    · rw [Word.bytes_ofBytes rfl]
      have hundred : UInt64.toNat (UInt8.toUInt64 100) = 100 := rfl
      simp only [digitPairs, UInt64.toUInt8, UInt64.toNat_mod, UInt64.toNat_div, hundred]
      rfl
  · intro exceeds
    have large : ¬r2.toNat ≤ ceiling := fun fits => exceeds (UInt64.le_iff_toNat_le.mpr fits)
    simp only [if_neg large]
    exact .done rfl rfl

/-- Hours, minutes and seconds end up in register 3, and what is left of the hours in
register 2. -/
theorem formatTime_leads (holds : registers.r2.toNat = value) :
    Leads (table .native) index (fun _ _ => True) environment .formatTime 0 registers
      fun later =>
        later.r2.toNat = value / 360000 ∧
          (Word.bytes later.r3).take 3 = (clock value).map Nat.toUInt8 := by
  obtain ⟨r1, r2, r3, r4, r5⟩ := registers
  subst holds
  have empty : (0 : UInt8).toUInt64 = Word.ofBytes (List.replicate 8 0) := by decide
  have sixty : UInt64.toNat (UInt8.toUInt64 60) = 60 := rfl
  have hundred : UInt64.toNat (UInt8.toUInt64 100) = 100 := rfl
  refine .data rfl rfl rfl ?_
  rw [Registers.set, empty]
  refine digits_leads rfl rfl rfl (by decide) (by decide) rfl ?_
  refine digits_leads rfl rfl rfl (by decide) (by decide) rfl ?_
  refine digits_leads rfl rfl rfl (by decide) (by decide) rfl ?_
  refine .done rfl ⟨?_, ?_⟩
  · simp only [UInt64.toNat_div, sixty, hundred, Nat.div_div_eq_div_mul]
  · rw [Word.bytes_ofBytes rfl]
    simp only [UInt64.toUInt8, UInt64.toNat_mod, UInt64.toNat_div, sixty, hundred,
      Nat.div_div_eq_div_mul]
    rfl

end Catalog

end TripComputer
