import Mathlib.Order.Bounds.Basic
import TripComputer.Proofs.Display.Numeral

/-!
# Numbers in six characters

The rounding program chooses how much of a value it rounds away before it has rounded, by
comparing the value with powers of ten, while `fit` cuts the text afterwards, by counting blanks.
The two agree, also where rounding adds a digit: the text is the value rounded half up to as many
decimals as six characters have room for.
-/

namespace TripComputer.Display

variable {decimals places rest units value : Nat}

/-- A value in thousandths, rounded half up to some decimals. -/
def halfUp (value places : Nat) : List Char :=
  numeral places (Catalog.rounded value (10 ^ (3 - places)))

theorem eq_point_or_isDigit_of_mem_numeral {character : Char}
    (member : character ∈ numeral places units) : character = '.' ∨ character.isDigit := by
  have ofDigits {number : Nat} (member : character ∈ Nat.toDigits 10 number) :
      character.isDigit :=
    Nat.isDigit_of_mem_toDigits (by decide) (by decide) member
  rw [numeral, List.mem_append] at member
  obtain whole | fraction := member
  · exact .inr (ofDigits whole)
  · split at fraction
    next => cases fraction
    next =>
      simp only [List.leftpad, List.mem_cons, List.mem_append, List.mem_replicate] at fraction
      obtain point | ⟨-, zero⟩ | digit := fraction
      · exact .inl point
      · exact .inr (zero ▸ rfl)
      · exact .inr (ofDigits digit)

/-- No numeral looks like the text that stands for the lack of one. -/
theorem ofList_leftpad_numeral_ne (places units : Nat) :
    String.ofList ((numeral places units).leftpad numberWidth ' ') ≠ overflowText := by
  intro same
  have dash : '-' ∈ (numeral places units).leftpad numberWidth ' ' := by
    rw [← String.toList_ofList (l := (numeral places units).leftpad numberWidth ' '), same]
    decide
  rw [List.leftpad, List.mem_append] at dash
  obtain blank | shown := dash
  · exact absurd (List.eq_of_mem_replicate blank) (by decide)
  · exact absurd (eq_point_or_isDigit_of_mem_numeral shown) (by decide)

theorem length_numeral (few : 0 < places) :
    (numeral places units).length = (Nat.toDigits 10 (units / 10 ^ places)).length + places + 1 := by
  have short : (Nat.toDigits 10 (units % 10 ^ places)).length ≤ places :=
    (Nat.length_toDigits_le_iff (by decide) few).mpr (Nat.mod_lt _ (Nat.pow_pos (by decide)))
  rw [numeral, if_neg (Nat.ne_of_gt few), List.length_append, List.length_cons,
    List.length_leftpad, Nat.max_eq_left short]
  rfl

/-- Six characters are six digits, or five and a point. -/
theorem length_numeral_le_iff (few : places ≤ 3) :
    (numeral places units).length ≤ numberWidth ↔
      units < if places = 0 then 10 ^ 6 else 10 ^ 5 := by
  obtain rfl | positive := Nat.eq_zero_or_pos places
  · simp only [numeral, Nat.pow_zero, Nat.div_one, if_true, List.append_nil]
    exact Nat.length_toDigits_le_iff (by decide) (by decide)
  · have digits := Nat.length_toDigits_le_iff (b := 10) (n := units / 10 ^ places) (k := 5 - places)
      (by decide) (by omega)
    have power : 10 ^ (5 - places) * 10 ^ places = 10 ^ 5 := by
      rw [← Nat.pow_add, Nat.sub_add_cancel (by omega)]
    rw [Nat.div_lt_iff_lt_mul (Nat.pow_pos (by decide)), power] at digits
    rw [length_numeral positive, if_neg (Nat.ne_of_gt positive), ← digits]
    show _ ≤ 6 ↔ _
    omega

theorem drop_leftpad {text : List Char} {skipped width : Nat} (fits : text.length ≤ width) :
    (text.leftpad (skipped + width) ' ').drop skipped = text.leftpad width ' ' := by
  have split : skipped + width - text.length = skipped + (width - text.length) := by omega
  rw [List.leftpad, split, ← List.replicate_append_replicate, List.append_assoc,
    List.drop_left' List.length_replicate, List.leftpad]

theorem leftpad_append (text behind : List Char) (width : Nat) :
    (text ++ behind).leftpad (width + behind.length) ' ' = text.leftpad width ' ' ++ behind := by
  simp only [List.leftpad, List.length_append, Nat.add_sub_add_right, List.append_assoc]

theorem blanks_before {first : Char} (solid : first ≠ ' ') (others : List Char)
    (blanks taken : Nat) :
    (((List.replicate blanks ' ' ++ first :: others).take taken).takeWhile (· == ' ')).length =
      min taken blanks := by
  have stops : ((first :: others).take (taken - blanks)).takeWhile (· == ' ') = [] := by
    cases taken - blanks with
    | zero => rfl
    | succ left => exact List.takeWhile_cons_of_neg (by simpa using solid)
  rw [List.take_append, List.take_replicate, List.length_replicate,
    List.takeWhile_append_of_pos (by simp), stops, List.append_nil, List.length_replicate]

section

variable {whole fraction : List Char}

theorem drop_aligned {skipped width : Nat} (fits : whole.length ≤ width)
    (seven : skipped + width = 7) :
    (whole.leftpad 7 ' ' ++ '.' :: fraction).drop skipped =
      whole.leftpad width ' ' ++ '.' :: fraction := by
  rw [List.drop_append_of_le_length (by rw [List.length_leftpad]; omega), ← seven,
    drop_leftpad fits]

/-- The blanks that are counted are the places that decimals can take. -/
theorem blanks_aligned (solid : ∀ character ∈ whole, character ≠ ' ') (nonempty : 0 < whole.length)
    (short : whole.length ≤ 7) :
    ((((whole.leftpad 7 ' ' ++ '.' :: fraction).drop 2).take decimals).takeWhile
      (· == ' ')).length = min decimals (5 - whole.length) := by
  obtain ⟨first, others, cut⟩ : ∃ first others, whole.drop (whole.length - 5) = first :: others :=
    List.exists_cons_of_length_pos (by rw [List.length_drop]; omega)
  have behind : (whole.leftpad 7 ' ').drop 2 =
      List.replicate (5 - whole.length) ' ' ++ first :: others := by
    have skipped : 2 - (7 - whole.length) = whole.length - 5 := by omega
    have left : 7 - whole.length - 2 = 5 - whole.length := by omega
    rw [List.leftpad, List.drop_append, List.drop_replicate, List.length_replicate, skipped, left,
      cut]
  rw [List.drop_append_of_le_length (by rw [List.length_leftpad]; omega), behind,
    List.append_assoc, List.cons_append, blanks_before]
  exact solid first (List.mem_of_mem_drop (cut ▸ List.mem_cons_self))

theorem head?_aligned_iff (solid : ∀ character ∈ whole, character ≠ ' ')
    (nonempty : 0 < whole.length) (short : whole.length ≤ 7) :
    (whole.leftpad 7 ' ' ++ '.' :: fraction).head? = some ' ' ↔ whole.length ≤ 6 := by
  by_cases fits : whole.length ≤ 6
  · refine iff_of_true ?_ fits
    have first : 7 - whole.length = 6 - whole.length + 1 := by omega
    rw [List.leftpad, first, List.replicate_succ]
    rfl
  · refine iff_of_false ?_ fits
    have full : 7 - whole.length = 0 := by omega
    obtain ⟨first, others, rfl⟩ := List.exists_cons_of_length_pos nonempty
    rw [List.leftpad, full]
    exact fun same => solid first List.mem_cons_self (Option.some.inj same)

/-- Decimals give way to what stands before the point. -/
theorem fit_aligned (solid : ∀ character ∈ whole, character ≠ ' ') (nonempty : 0 < whole.length)
    (short : whole.length ≤ 7) (enough : decimals ≤ fraction.length) :
    fit decimals (whole.leftpad 7 ' ' ++ '.' :: fraction) =
      let room := min decimals (5 - whole.length)
      if whole.length ≤ numberWidth then
        some ((whole ++ if room = 0 then [] else '.' :: fraction.take room).leftpad numberWidth ' ')
      else none := by
  have size : numberWidth = 6 := rfl
  rw [fit, blanks_aligned solid nonempty short]
  generalize holds : min decimals (5 - whole.length) = room
  simp only [size]
  obtain rfl | positive := Nat.eq_zero_or_pos room
  · -- without decimals the point goes too, and leaves its place to a sixth digit
    simp only [if_true, List.append_nil, head?_aligned_iff solid nonempty short]
    by_cases fits : whole.length ≤ 6
    · rw [if_pos fits, if_pos fits, drop_aligned fits rfl,
        List.take_left' (by rw [List.length_leftpad, Nat.max_eq_left fits])]
    · rw [if_neg fits, if_neg fits]
  · have fits : whole.length ≤ 5 - room := by omega
    have tail : ('.' :: fraction.take room).length = room + 1 := by
      rw [List.length_cons, List.length_take, Nat.min_eq_left (by omega)]
    have width : 5 - room + ('.' :: fraction.take room).length = 6 := by omega
    have split : whole.leftpad (5 - room) ' ' ++ '.' :: fraction =
        (whole ++ '.' :: fraction.take room).leftpad 6 ' ' ++ fraction.drop room := by
      rw [← width, leftpad_append, List.append_assoc, List.cons_append, List.take_append_drop]
    have six : ((whole ++ '.' :: fraction.take room).leftpad 6 ' ').length = 6 := by
      rw [List.length_leftpad, List.length_append]
      omega
    rw [if_neg (Nat.ne_of_gt positive), if_neg (Nat.ne_of_gt positive), if_pos (by omega),
      drop_aligned fits (by omega), split, List.take_left' six]

end

/-- Cutting decimals off a number is the same as cutting them off its numeral. -/
theorem numeral_div (few : places ≤ 3) :
    numeral places (value / 10 ^ (3 - places)) =
      Nat.toDigits 10 (value / 1000) ++
        if places = 0 then [] else '.' :: (padded 3 value).take places := by
  have three : places + (3 - places) = 3 := by omega
  have whole : value / 10 ^ (3 - places) / 10 ^ places = value / 1000 := by
    rw [Nat.div_div_eq_div_mul, ← Nat.pow_add, Nat.add_comm, three]
  rw [numeral, whole]
  split
  next => rfl
  next some =>
    have cut := take_padded places (3 - places) value
    rw [three] at cut
    rw [cut, ← padded_mod, padded_eq_leftpad (Nat.pos_of_ne_zero some)
      (Nat.mod_lt _ (Nat.pow_pos (by decide)))]

/-- How many decimals a number in thousandths leaves room for. -/
def room (value : Nat) : Nat :=
  5 - (Nat.toDigits 10 (value / 1000)).length

theorem le_room_iff (positive : 0 < places) (few : places ≤ 3) :
    places ≤ room value ↔ value < 10 ^ (8 - places) := by
  have digits := Nat.length_toDigits_le_iff (b := 10) (n := value / 1000) (k := 5 - places)
    (by decide) (by omega)
  have power : 10 ^ (5 - places) * 1000 = 10 ^ (8 - places) := by
    have exponent : 8 - places = 5 - places + 3 := by omega
    rw [exponent, Nat.pow_add]
  rw [Nat.div_lt_iff_lt_mul (by decide), power] at digits
  rw [← digits, room]
  have nonempty := Nat.length_toDigits_pos (b := 10) (n := value / 1000)
  omega

theorem fit_padded (few : decimals ≤ 3) (fits : value < 10 ^ 10) :
    fit decimals (pointed (padded 10 value)) =
      if value < 10 ^ 9 then
        some ((numeral (min decimals (room value))
          (value / 10 ^ (3 - min decimals (room value)))).leftpad numberWidth ' ')
      else none := by
  have digits (count : Nat) (positive : 0 < count) :=
    Nat.length_toDigits_le_iff (b := 10) (n := value / 1000) (k := count) (by decide) positive
  have solid : ∀ character ∈ Nat.toDigits 10 (value / 1000), character ≠ ' ' := by
    rintro _ member rfl
    exact absurd (Nat.isDigit_of_mem_toDigits (by decide) (by decide) member) (by decide)
  have nine : (Nat.toDigits 10 (value / 1000)).length ≤ numberWidth ↔ value < 10 ^ 9 := by
    refine (digits 6 (by decide)).trans ?_
    omega
  rw [pointed_padded fits, fit_aligned solid Nat.length_toDigits_pos
    ((digits 7 (by decide)).mpr (by omega)) (by rwa [length_padded]), numeral_div (by omega)]
  by_cases small : value < 10 ^ 9
  · rw [if_pos small, if_pos (nine.mpr small)]
    rfl
  · rw [if_neg small, if_neg fun short => small (nine.mp short)]

section

variable {index : UInt8}

theorem halfUnit_eq (index : UInt8) (value : Nat) :
    halfUnit index value =
      if index.toNat < 1 ∨ 10000000 ≤ value then 500
      else if index.toNat < 2 ∨ 1000000 ≤ value then 50
      else if index.toNat < 3 ∨ 100000 ≤ value then 5
      else 0 := by
  simp only [halfUnit, UInt8.lt_iff_toNat_lt]
  rfl

/-- A number that reaches the next power of ten by being rounded does so at the decimals it was
rounded to, and at those that it is shown with. -/
theorem lt_iff_rounded_lt (positive : 0 < places) (asked : places ≤ index.toNat)
    (few : index.toNat ≤ 3) :
    value + halfUnit index value < 10 ^ (8 - places) ↔
      Catalog.rounded value (10 ^ (3 - places)) < 10 ^ 5 := by
  have cases : places = 1 ∨ places = 2 ∨ places = 3 := by omega
  rw [halfUnit_eq]
  obtain rfl | rfl | rfl := cases
  all_goals
    simp only [Catalog.rounded, Nat.reducePow, Nat.reduceSub, Nat.reduceMul, Nat.reduceEqDiff,
      if_false]
    split_ifs <;> omega

/-- What is cut off the rounded number is what rounding to the shown decimals leaves out. -/
theorem div_eq_rounded (asked : places ≤ index.toNat) (few : index.toNat ≤ 3)
    (fits : 0 < places → value + halfUnit index value < 10 ^ (8 - places))
    (full : places < index.toNat → 10 ^ (7 - places) ≤ value + halfUnit index value) :
    (value + halfUnit index value) / 10 ^ (3 - places) =
      Catalog.rounded value (10 ^ (3 - places)) := by
  have cases : places = 0 ∨ places = 1 ∨ places = 2 ∨ places = 3 := by omega
  rw [halfUnit_eq] at *
  obtain rfl | rfl | rfl | rfl := cases
  all_goals
    simp only [Catalog.rounded, Nat.reducePow, Nat.reduceSub, Nat.reduceMul, Nat.reduceEqDiff,
      if_false] at *
    split_ifs at * <;> omega

/-- Seven digits stand before the point from the largest number of six on, half a unit less. -/
theorem rounded_lt_iff (index : UInt8) (value : Nat) :
    value + halfUnit index value < 10 ^ 9 ↔ value < 999999500 := by
  rw [halfUnit_eq]
  split_ifs <;> omega

theorem length_halfUp_le_iff (asked : places ≤ index.toNat) (few : index.toNat ≤ 3)
    (small : value < 999999500) :
    (halfUp value places).length ≤ numberWidth ↔
      places ≤ room (value + halfUnit index value) := by
  rw [halfUp, length_numeral_le_iff (Nat.le_trans asked few)]
  obtain rfl | positive := Nat.eq_zero_or_pos places
  · refine iff_of_true ?_ (Nat.zero_le _)
    show (2 * value + 1000) / 2000 < 1000000
    omega
  · rw [if_neg (Nat.ne_of_gt positive), ← lt_iff_rounded_lt positive asked few,
      le_room_iff positive (Nat.le_trans asked few)]

/-- The decimals that there is room for are all those that fit. -/
theorem isGreatest_room (few : index.toNat ≤ 3) (small : value < 999999500) :
    IsGreatest {places | places ≤ index.toNat ∧ (halfUp value places).length ≤ numberWidth}
      (min index.toNat (room (value + halfUnit index value))) := by
  constructor
  · have asked := Nat.min_le_left index.toNat (room (value + halfUnit index value))
    exact ⟨asked, (length_halfUp_le_iff asked few small).mpr (Nat.min_le_right _ _)⟩
  · rintro places ⟨asked, fits⟩
    exact Nat.le_min.mpr ⟨asked, (length_halfUp_le_iff asked few small).mp fits⟩

theorem halfUp_room (few : index.toNat ≤ 3)
    (shown : places = min index.toNat (room (value + halfUnit index value))) :
    halfUp value places = numeral places ((value + halfUnit index value) / 10 ^ (3 - places)) := by
  rw [halfUp, div_eq_rounded (by omega) few]
  · intro positive
    exact (le_room_iff positive (by omega)).mp (by omega)
  · intro more
    have next := mt (le_room_iff (Nat.succ_pos places) (by omega)).mpr
      (show ¬places + 1 ≤ room (value + halfUnit index value) by omega)
    rwa [Nat.not_lt, show 8 - (places + 1) = 7 - places by omega] at next

theorem digitsAt_of_lt (few : index.toNat < 4) (value : Nat) :
    digitsAt index value =
      if value + halfUnit index value ≤ ceiling then
        some (padded 10 (value + halfUnit index value))
      else none := by
  have rounds : index < 4 := UInt8.lt_iff_toNat_lt.mpr few
  rw [digitsAt_eq, roundedAt, capped, if_pos rounds]
  by_cases fits : value + halfUnit index value ≤ ceiling
  · have small : value ≤ ceiling := Nat.le_of_add_right_le fits
    rw [if_pos small, if_pos fits, if_pos fits]
  · have large : ¬2 ^ 64 - 1 ≤ ceiling := by decide
    rw [if_neg fits, if_neg fits, ite_self, if_neg large]

end

theorem toNat_min_maxDecimals (decimals : UInt8) :
    (min decimals maxDecimals).toNat = min decimals.toNat 3 := by
  show (if decimals ≤ 3 then decimals else 3).toNat = _
  split
  next few => exact (Nat.min_eq_left (UInt8.le_iff_toNat_le.mp few)).symm
  next many =>
    exact (Nat.min_eq_right (Nat.le_of_not_ge (mt UInt8.le_iff_toNat_le.mpr many))).symm

/-- A number is rounded half up to the most decimals that six characters have room for, and has
no text only where it would need seven digits. -/
theorem number_rounds_half_up (value : UInt64) (decimals : UInt8) :
    ∃ text, Gives (number value decimals) text ∧
      (text = overflowText ↔ 999999500 ≤ value.toNat) ∧
      (value.toNat < 999999500 →
        ∃ places,
          IsGreatest {places | places ≤ min decimals.toNat 3 ∧
            (halfUp value.toNat places).length ≤ numberWidth} places ∧
          text = String.ofList ((halfUp value.toNat places).leftpad numberWidth ' ')) := by
  have asked := toNat_min_maxDecimals decimals
  have gives := number_gives value decimals
  generalize min decimals maxDecimals = index at asked gives
  have few : index.toNat ≤ 3 := by omega
  have seven := rounded_lt_iff index value.toNat
  rw [digitsAt_of_lt (by omega)] at gives
  by_cases small : value.toNat < 999999500
  · have fits : value.toNat + halfUnit index value.toNat ≤ ceiling :=
      Nat.le_of_lt (Nat.lt_trans (seven.mpr small) (by decide))
    have fewer := Nat.lt_trans (seven.mpr small) (show 10 ^ 9 < 10 ^ 10 by decide)
    rw [if_pos fits, Option.elim_some, fit_padded few fewer, if_pos (seven.mpr small),
      Option.elim_some, ← halfUp_room few rfl] at gives
    refine ⟨_, gives, iff_of_false (ofList_leftpad_numeral_ne _ _) (Nat.not_le.mpr small),
      fun _ => ⟨_, ?_, rfl⟩⟩
    rw [← asked]
    exact isGreatest_room few small
  · refine ⟨overflowText, ?_, iff_of_true rfl (Nat.not_lt.mp small), fun below => absurd below small⟩
    by_cases fits : value.toNat + halfUnit index value.toNat ≤ ceiling
    · have fewer := Nat.lt_of_le_of_lt fits (show ceiling < 10 ^ 10 by decide)
      rwa [if_pos fits, Option.elim_some, fit_padded few fewer, if_neg (mt seven.mp small)] at gives
    · rwa [if_neg fits] at gives

/-- Rounding to two decimals would carry into a fifth digit before the point, and so there is one
decimal. -/
theorem number_carried_to_ten_thousand_tenths : Gives (number 999995 3) "1000.0" := by
  obtain ⟨text, gives, -, rounds⟩ := number_rounds_half_up 999995 3
  obtain ⟨places, ⟨⟨few, fits⟩, greatest⟩, rfl⟩ := rounds (by decide)
  have least : 1 ≤ places := greatest ⟨by decide, by decide⟩
  have notTwo : places ≠ 2 := by
    rintro rfl
    exact absurd fits (by decide)
  have notThree : places ≠ 3 := by
    rintro rfl
    exact absurd fits (by decide)
  have three : places ≤ 3 := few
  obtain rfl : places = 1 := by omega
  exact gives

end TripComputer.Display
