import TripComputer.Proofs.Catalog.Demand
import TripComputer.Proofs.Display.Digits

/-!
# What the renderings show

Every rendering gives the text that belongs to its value, and never fails, whatever the
calculator was left with.  The digits come from `formatNumber_leads` and `formatTime_leads`;
everything behind them looks at digits alone.

`Calculator.history_independent` puts this beside the demands of the quantity programs: nothing
that a calculator did before can be seen in what it evaluates and renders.
-/

namespace TripComputer

namespace Display

variable {α β : Type}

/-- A computation answers with a value, whatever calculator it is given. -/
def Gives (calculation : Calculation α) (answer : α) : Prop :=
  ∀ calculator, ∃ changed, calculation calculator = .ok answer changed

namespace Gives

theorem pure (answer : α) : Gives (Pure.pure answer) answer :=
  fun calculator => ⟨calculator, rfl⟩

theorem bind {calculation : Calculation α} {rest : α → Calculation β} {answer : α} {result : β}
    (gives : Gives calculation answer) (goesOn : Gives (rest answer) result) :
    Gives (calculation >>= rest) result := by
  intro calculator
  obtain ⟨changed, done⟩ := gives calculator
  obtain ⟨later, ended⟩ := goesOn changed
  exact ⟨later, (bind_of_ok done).trans ended⟩

end Gives

/-- A formatting program leaves in the registers what it leads to. -/
theorem runDetached_of_leads {program : Program} {index : UInt8} {value : UInt64}
    {Post : Registers → Prop}
    (leads : ∀ registers : Registers, registers.r2.toNat = value.toNat →
      Machine.Leads (Catalog.table .native) index (fun _ _ => True) Surroundings.detached program 0
        registers Post)
    (calculator : Calculator) :
    ∃ later changed, Post later ∧ changed.register .r3 = later.r3 ∧
      runDetached program index value calculator = .ok later.r2 changed := by
  obtain ⟨later, returns, holds⟩ := leads (calculator.machine.setRegister .r2 value).registers rfl
  obtain ⟨ended, left, _⟩ := Catalog.run_of_native calculator.arithmetic
    (calculator.machine.setRegister .r2 value) returns
  refine ⟨later, calculator.after (calculator.call Surroundings.detached program index value),
    holds, left .r3 rfl, ?_⟩
  simp only [runDetached, Calculator.call, ended]

/-- The digits of a value rounded at a context index, where it has any. -/
def digitsAt (index : UInt8) (value : Nat) : Option (List Char) :=
  if roundedAt index value ≤ ceiling then
    some ((digitPairs 5 (roundedAt index value)).flatMap digitPair)
  else none

theorem digits_gives (value : UInt64) (index : UInt8) :
    Gives (digits value index) (digitsAt index value.toNat) := by
  intro calculator
  obtain ⟨later, changed, holds, left, ran⟩ := runDetached_of_leads
    (fun _ holds => Catalog.formatNumber_leads holds) calculator
  refine ⟨changed, ?_⟩
  rw [digits, bind_of_ok ran, digitsAt]
  by_cases small : roundedAt index value.toNat ≤ ceiling
  · rw [if_pos small] at holds ⊢
    have shown : (Reading.ofRaw later.r2).isOverflow = false := by
      rw [holds.1]
      rfl
    rw [← holds.2, ← left, shown]
    rfl
  · rw [if_neg small] at holds ⊢
    have largest : later.r2 = 0xFFFFFFFFFFFFFFFF := by
      apply UInt64.toNat_inj.mp
      exact holds.trans ((roundedAt_eq_or_le index value.toNat).resolve_right small)
    rw [largest]
    rfl

theorem number_gives (value : UInt64) (decimals : UInt8) :
    Gives (number value decimals)
      ((digitsAt (min decimals maxDecimals) value.toNat).elim overflowText fun digits =>
        (fit (min decimals maxDecimals).toNat (pointed digits)).elim overflowText
          String.ofList) := by
  apply (digits_gives value (min decimals maxDecimals)).bind
  cases digitsAt (min decimals maxDecimals) value.toNat <;> exact .pure _

theorem count_gives (value : UInt64) :
    Gives (count value)
      ((digitsAt unroundedIndex value.toNat).elim overflowText fun digits =>
        Text.Column.right countWidth (String.ofList
          (digits.drop ((digits.take 9).takeWhile (· == '0')).length))) := by
  apply (digits_gives value unroundedIndex).bind
  cases digitsAt unroundedIndex value.toNat <;> exact .pure _

theorem unrounded_gives (value : UInt64) :
    Gives (unrounded value)
      ((digitsAt unroundedIndex value.toNat).elim overflowText fun digits =>
        String.ofList (pointed digits)) := by
  apply (digits_gives value unroundedIndex).bind
  cases digitsAt unroundedIndex value.toNat <;> exact .pure _

theorem time_gives (seconds : UInt64) :
    Gives (time seconds)
      (if seconds.toNat / 360000 = 0 then
        ":".intercalate ((clock seconds.toNat).map (Text.Column.zeros 2))
      else overflowText) := by
  intro calculator
  obtain ⟨later, changed, ⟨hours, bytes⟩, left, ran⟩ := runDetached_of_leads
    (fun _ holds => Catalog.formatTime_leads holds) calculator
  refine ⟨changed, ?_⟩
  rw [time, bind_of_ok ran, ← hours]
  by_cases noHours : later.r2.toNat = 0
  · have narrow : ∀ number ∈ clock seconds.toNat, number.toUInt8.toNat = number := by
      intro number member
      apply Nat.mod_eq_of_lt
      simp only [clock, List.mem_cons, List.not_mem_nil, or_false] at member
      omega
    have same : (clock seconds.toNat).map (Text.Column.zeros 2) =
        ((Word.bytes (changed.register .r3)).take 3).map
          fun byte => Text.Column.zeros 2 byte.toNat := by
      rw [left, bytes, List.map_map]
      apply List.map_congr_left
      intro number member
      rw [Function.comp_apply, narrow number member]
    have zero : later.r2 = 0 := UInt64.toNat_inj.mp noHours
    rw [if_pos noHours, zero, same]
    rfl
  · have nonzero : later.r2 ≠ 0 := fun zero => noHours (by rw [zero]; rfl)
    rw [if_neg noHours, if_pos nonzero]
    rfl

/-- Every evaluation has a text. -/
theorem evaluation_gives (shown : Evaluation) : ∃ text, Gives (evaluation shown) text := by
  unfold evaluation
  cases shown.quantity.display with
  | number => exact ⟨_, number_gives _ _⟩
  | count => exact ⟨_, count_gives _⟩
  | time => exact ⟨_, time_gives _⟩

/-- The upper half of the words is shown as no value at all. -/
theorem evaluation_gives_overflowText {shown : Evaluation} (large : 2 ^ 63 ≤ shown.raw.toNat) :
    Gives (evaluation shown) overflowText := by
  have digitless (index : UInt8) : digitsAt index shown.raw.toNat = none := by
    have exceeds : ¬shown.raw.toNat ≤ ceiling := by
      unfold ceiling
      omega
    rw [digitsAt, roundedAt, if_neg exceeds]
    rfl
  unfold evaluation
  cases shown.quantity.display with
  | number =>
      have gives := number_gives shown.raw shown.quantity.decimals
      rwa [digitless] at gives
  | count =>
      have gives := count_gives shown.raw
      rwa [digitless] at gives
  | time =>
      have gives := time_gives shown.raw
      rwa [if_neg (by omega)] at gives

/-- A computation answers with one and the same text on two calculators. -/
def SameText (calculation : Calculation String) (first second : Calculator) : Prop :=
  ∃ text, (∃ changed, calculation first = .ok text changed) ∧
    ∃ changed, calculation second = .ok text changed

theorem Gives.sameText {calculation : Calculation String} {text : String}
    (gives : Gives calculation text) (first second : Calculator) :
    SameText calculation first second :=
  ⟨text, gives first, gives second⟩

end Display

theorem Quantity.takes_program (quantity : Quantity) : quantity.program.takes = [] := by
  cases quantity <;> rfl

namespace Calculator

open Display

/-- What a calculator evaluates and renders does not depend on what it did before. -/
theorem history_independent {σ : Type} [Environment σ] (first second : Calculator) :
    (∀ (environment : σ) (quantity : Quantity) (index : UInt8),
      (first.evaluate environment quantity index).1 =
        (second.evaluate environment quantity index).1) ∧
    (∀ value decimals, SameText (number value decimals) first second) ∧
    (∀ seconds, SameText (time seconds) first second) ∧
    (∀ value, SameText (count value) first second) ∧
    (∀ value, SameText (unrounded value) first second) ∧
    ∀ shown, SameText (evaluation shown) first second := by
  refine ⟨?_, ?_, ?_, ?_, ?_, ?_⟩
  · intro environment quantity index
    have operands : Registers.AgreeOn
        (fun register => register = .r2 ∨ register ∈ quantity.program.takes)
        (first.machine.setRegister .r2 0).registers
        (second.machine.setRegister .r2 0).registers := by
      rintro register (rfl | taken)
      · rfl
      · rw [quantity.takes_program] at taken
        cases taken
    have alike := Catalog.run_of_operands first.arithmetic second.arithmetic environment
      quantity.program index operands
    exact congrArg (Except.map _) alike.result
  · exact fun value decimals => (number_gives value decimals).sameText first second
  · exact fun seconds => (time_gives seconds).sameText first second
  · exact fun value => (count_gives value).sameText first second
  · exact fun value => (unrounded_gives value).sameText first second
  · intro shown
    obtain ⟨text, gives⟩ := evaluation_gives shown
    exact gives.sameText first second

end Calculator

end TripComputer
