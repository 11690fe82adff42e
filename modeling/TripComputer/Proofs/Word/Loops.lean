import TripComputer.Proofs.Word.Longhand

/-!
# The loops of longhand arithmetic

Shift-and-add multiplication is one loop, and restoring division is two, one behind the other.
Here they stand as loops, with nothing about them that says they end: a condition, and what one
turn makes of the words under work.  Every turn halves a multiplier or a marker, or doubles a
divisor, so that a loop has no more turns than a word has bits.  What the recursive form of the
loop answers for the words under work is the same after a turn as before it, and so it is what
the words say in the end.
-/

namespace TripComputer

/-- Whether to go on from a state, and what one turn makes of it. -/
structure Loop (σ : Type) where
  goesOn : σ → Bool
  turn : σ → σ

namespace Loop

variable {σ α : Type} {loop : Loop σ} {within : Nat → σ → Prop} {answer result : σ → α}

/-- From a state, the loop stops after a number of turns, and with which state. -/
inductive Ends (loop : Loop σ) : Nat → σ → σ → Prop where
  | stop {state : σ} : loop.goesOn state = false → Ends loop 0 state state
  | turn {turns : Nat} {state last : σ} :
      loop.goesOn state = true → Ends loop turns (loop.turn state) last →
      Ends loop (turns + 1) state last

/-- A loop finds an answer when it has a limit of turns, each of which leaves the answer as it is,
and when the result is the answer wherever the loop stops. -/
structure Finds (loop : Loop σ) (within : Nat → σ → Prop) (answer result : σ → α) : Prop where
  stops : ∀ {state}, within 0 state → loop.goesOn state = false
  spends : ∀ {limit state}, loop.goesOn state = true → within (limit + 1) state →
    within limit (loop.turn state)
  keeps : ∀ {limit state}, loop.goesOn state = true → within limit state →
    answer (loop.turn state) = answer state
  tells : ∀ {state}, loop.goesOn state = false → result state = answer state

theorem Finds.ends (finds : Finds loop within answer result) (limit : Nat) (state : σ)
    (start : within limit state) :
    ∃ turns ≤ limit, ∃ last, loop.Ends turns state last ∧ result last = answer state := by
  induction limit generalizing state with
  | zero =>
      have done := finds.stops start
      exact ⟨0, Nat.le_refl 0, state, .stop done, finds.tells done⟩
  | succ limit induction =>
      cases more : loop.goesOn state with
      | false => exact ⟨0, Nat.zero_le _, state, .stop more, finds.tells more⟩
      | true =>
          obtain ⟨turns, few, last, ends, found⟩ := induction _ (finds.spends more start)
          exact ⟨turns + 1, Nat.succ_le_succ few, last, .turn more ends,
            found.trans (finds.keeps more start)⟩

end Loop

namespace Word

/-- The words under work in a multiplication. -/
structure Multiplication where
  sum : UInt64
  multiplicand : UInt64
  multiplier : UInt64

/-- The words under work in a division. -/
structure Division where
  divisor : UInt64
  marker : UInt64
  quotient : UInt64
  remainder : UInt64

/-- As long as the multiplier has bits left, adds the multiplicand if the lowest of them is set. -/
def adding : Loop Multiplication where
  goesOn words := words.multiplier != 0
  turn words :=
    { sum := if isOdd words.multiplier then add words.sum words.multiplicand else words.sum
      multiplicand := shiftLeft words.multiplicand
      multiplier := shiftRight words.multiplier }

/-- Moves the divisor up to the top bit, and the marker along with it. -/
def aligning : Loop Division where
  goesOn words := !hasTopBit words.divisor
  turn words :=
    { words with divisor := shiftLeft words.divisor, marker := shiftLeft words.marker }

/-- As long as the marker is in the word, takes the divisor off the remainder if it fits, and
moves both down. -/
def subtracting : Loop Division where
  goesOn words := words.marker != 0
  turn words :=
    { divisor := shiftRight words.divisor
      marker := shiftRight words.marker
      quotient := placeQuotient words.divisor words.marker words.quotient words.remainder
      remainder := placeRemainder words.divisor words.remainder }

/-- The product that the loop of a multiplication comes to, and after how many turns. -/
inductive Multiplies (multiplicand multiplier : UInt64) : Nat → UInt64 → Prop where
  | added {turns : Nat} {last : Multiplication} :
      adding.Ends turns ⟨0, multiplicand, multiplier⟩ last →
      Multiplies multiplicand multiplier turns last.sum

/-- The ways through a division: quotient and remainder, and after how many turns of both loops.
The loops are for a divisor that can be aligned. -/
inductive Divides (dividend divisor : UInt64) : Nat → UInt64 × UInt64 → Prop where
  | nothing : dividend = 0 → Divides dividend divisor 0 (0, 0)
  | byZero : dividend ≠ 0 → divisor = 0 → Divides dividend divisor 0 (subtract 0 1, dividend)
  | subtracted {shifts places : Nat} {aligned last : Division} :
      dividend ≠ 0 → divisor ≠ 0 →
      aligning.Ends shifts ⟨divisor, 1, 0, dividend⟩ aligned →
      subtracting.Ends places aligned last →
      Divides dividend divisor (shifts + places) (last.quotient, last.remainder)

theorem eq_zero_of_lt_two_pow_zero {x : UInt64} (below : x.toNat < 2 ^ 0) : x = 0 :=
  UInt64.toNat_inj.mp (Nat.lt_one_iff.mp below)

theorem shiftRight_lt_two_pow {x : UInt64} {places : Nat} (below : x.toNat < 2 ^ (places + 1)) :
    (shiftRight x).toNat < 2 ^ places := by
  rw [Nat.pow_succ] at below
  rw [toNat_shiftRight]
  omega

theorem adding_finds :
    adding.Finds (fun turns words => words.multiplier.toNat < 2 ^ turns)
      (fun words => accumulate words.sum words.multiplicand words.multiplier)
      (fun words => words.sum) where
  stops below := by simp [adding, eq_zero_of_lt_two_pow_zero below]
  spends _ below := shiftRight_lt_two_pow below
  keeps {_ words} more _ := by
    have nonzero : words.multiplier ≠ 0 := bne_iff_ne.mp more
    conv => rhs; rw [accumulate, if_neg nonzero]
    rfl
  tells {words} done := by
    have zero : words.multiplier = 0 := by simpa [adding] using done
    rw [accumulate, if_pos zero]

/-- The words under work with divisor and marker normalized. -/
def aligned (words : Division) : Division :=
  { words with
    divisor := (normalize words.divisor words.marker).1
    marker := (normalize words.divisor words.marker).2 }

theorem aligning_finds :
    aligning.Finds (fun turns words => 2 ^ 63 ≤ words.divisor.toNat * 2 ^ turns) aligned
      (fun words => words) where
  stops {words} top := by
    have topBit := (hasTopBit_iff words.divisor).mpr (by simpa using top)
    simp [aligning, topBit]
  spends {turns words} more reaches := by
    have clear : hasTopBit words.divisor = false := by simpa [aligning] using more
    show 2 ^ 63 ≤ (shiftLeft words.divisor).toNat * 2 ^ turns
    calc
      2 ^ 63 ≤ words.divisor.toNat * 2 ^ (turns + 1) := reaches
      _ = 2 * words.divisor.toNat * 2 ^ turns := by rw [Nat.pow_succ]; grind only
      _ = (shiftLeft words.divisor).toNat * 2 ^ turns := by
        rw [toNat_shiftLeft_of_not_hasTopBit clear]
  keeps {_ words} more reaches := by
    have clear : hasTopBit words.divisor = false := by simpa [aligning] using more
    -- the recursive form leaves a zero divisor alone, but no number of doublings lifts it that high
    have nonzero : words.divisor ≠ 0 := by
      intro zero
      simp [zero] at reaches
    have pending : ¬(words.divisor = 0 ∨ hasTopBit words.divisor = true) := by
      simp [nonzero, clear]
    conv => rhs; rw [aligned, normalize, if_neg pending]
    rfl
  tells {words} done := by
    have topBit : hasTopBit words.divisor = true := by simpa [aligning] using done
    rw [aligned, normalize, if_pos (.inr topBit)]

/-- No number of turns brings a bit of a zero divisor to the top. -/
theorem not_aligning_ends_of_zero {turns : Nat} {words last : Division}
    (zero : words.divisor = 0) : ¬aligning.Ends turns words last := by
  intro ends
  induction ends with
  | stop done => simp [aligning, zero, hasTopBit] at done
  | turn _ _ induction => exact induction (by simp [aligning, zero, shiftLeft])

theorem subtracting_finds :
    subtracting.Finds (fun turns words => words.marker.toNat < 2 ^ turns)
      (fun words => reduce words.divisor words.marker words.quotient words.remainder)
      (fun words => (words.quotient, words.remainder)) where
  stops below := by simp [subtracting, eq_zero_of_lt_two_pow_zero below]
  spends _ below := shiftRight_lt_two_pow below
  keeps {_ words} more _ := by
    have nonzero : words.marker ≠ 0 := bne_iff_ne.mp more
    exact (reduce_of_marker_ne_zero nonzero).symm
  tells {words} done := by
    have zero : words.marker = 0 := by simpa [subtracting] using done
    rw [reduce, if_pos zero]

theorem exists_multiplies (x y : UInt64) :
    ∃ turns ≤ 64, Multiplies x y turns (multiplyLonghand x y) := by
  obtain ⟨turns, few, last, ends, found⟩ :=
    adding_finds.ends 64 ⟨0, x, y⟩ y.toNat_lt
  refine ⟨turns, few, ?_⟩
  rw [multiplyLonghand, ← found]
  exact .added ends

theorem exists_divides (x y : UInt64) :
    ∃ turns ≤ 127, Divides x y turns (divideLonghand x y) := by
  by_cases noDividend : x = 0
  · rw [divideLonghand, if_pos noDividend]
    exact ⟨0, Nat.zero_le _, .nothing noDividend⟩
  · by_cases noDivisor : y = 0
    · rw [divideLonghand, if_neg noDividend, if_pos noDivisor]
      exact ⟨0, Nat.zero_le _, .byZero noDividend noDivisor⟩
    · have highEnough : 2 ^ 63 ≤ y.toNat * 2 ^ 63 := Nat.le_mul_of_pos_left _ (toNat_pos noDivisor)
      obtain ⟨shifts, fewShifts, _, aligns, rfl⟩ :=
        aligning_finds.ends 63 ⟨y, 1, 0, x⟩ highEnough
      obtain ⟨places, fewPlaces, last, subtracts, found⟩ :=
        subtracting_finds.ends 64 (aligned ⟨y, 1, 0, x⟩) (UInt64.toNat_lt _)
      have answered : divideLonghand x y = (last.quotient, last.remainder) := by
        rw [divideLonghand, if_neg noDividend, if_neg noDivisor]
        exact found.symm
      rw [answered]
      exact ⟨shifts + places, Nat.add_le_add fewShifts fewPlaces,
        .subtracted noDividend noDivisor aligns subtracts⟩

/-- Longhand arithmetic comes to an end and is arithmetic, whatever the words: the loops stop, with
the product modulo the words and with the quotient and remainder that one instruction gives, those
of and by zero included.  The sum with the ones' complement is the difference modulo the words, the
carry is what the sum has beyond them, and the bytes of two words are in the order of the words. -/
theorem longhand_arithmetic_exact (x y : UInt64) (carry : Bool) :
    (∃ turns ≤ 64, Multiplies x y turns (multiplyLonghand x y)) ∧
      multiplyLonghand x y = multiply x y ∧
      (multiply x y).toNat = x.toNat * y.toNat % 2 ^ 64 ∧
      (∃ turns ≤ 127, Divides x y turns (divideLonghand x y)) ∧
      divideLonghand x y = divide x y ∧
      ((subtract x y).toNat : Int) = ((x.toNat : Int) - y.toNat) % 2 ^ 64 ∧
      (addCarry x y carry).2.toNat = (x.toNat + y.toNat + carry.toNat) / 2 ^ 64 ∧
      (atMost x y = true ↔ x.toNat ≤ y.toNat) := by
  refine ⟨exists_multiplies x y, multiplyLonghand_eq x y, ?_, exists_divides x y,
    divideLonghand_eq x y, subtract_emod x y, toNat_carry x y carry, ?_⟩
  · exact UInt64.toNat_mul x y
  · rw [atMost_iff, UInt64.le_iff_toNat_le]

end Word

end TripComputer
