import Mathlib.Algebra.Group.Nat.Defs
import Mathlib.Data.List.TakeWhile
import TripComputer.Config.Reading

/-!
# Written decimals

`Spells` says independently of how a decimal is read which texts write one, and what number of
thousandths they write.  Reading goes by words and gives up where one overflows, be it at a digit,
at the scaling or at the last sum; it accepts exactly the texts of numbers that fit a word.
-/

namespace TripComputer

namespace Text

theorem Decimal.isDigit_iff {character : Char} :
    isDigit character = true ↔ 48 ≤ character.toNat ∧ character.toNat ≤ 57 := by
  rw [isDigit, Bool.and_eq_true, decide_eq_true_eq, decide_eq_true_eq, Char.le_def, Char.le_def,
    UInt32.le_iff_toNat_le, UInt32.le_iff_toNat_le]
  rfl

namespace Blank

theorem isBlank_eq_false {character : Char} (lower : 0x20 < character.toNat)
    (upper : character.toNat < 0x85) : isBlank character = false := by
  have outside : ∀ range ∈ ranges, character.toNat < range.1 ∨ range.2 < character.toNat := by
    simp only [ranges, List.forall_mem_cons, List.not_mem_nil, false_imp_iff, implies_true,
      and_true]
    omega
  rw [isBlank, inRanges, List.any_eq_false]
  intro range member inside
  simp only [Bool.and_eq_true, decide_eq_true_eq] at inside
  rcases outside range member with before | behind <;> omega

theorem dropWhile_blanks {blanks text : List Char}
    (blank : ∀ character ∈ blanks, isBlank character = true)
    (solid : ∀ character ∈ text, isBlank character = false) (some : text ≠ [])
    (behind : List Char) :
    (blanks ++ (text ++ behind)).dropWhile isBlank = text ++ behind := by
  rw [List.dropWhile_append_of_pos blank]
  cases text with
  | nil => exact absurd rfl some
  | cons first rest =>
      have begins := solid first List.mem_cons_self
      rw [List.cons_append, List.dropWhile_cons_of_neg (Bool.eq_false_iff.mp begins)]

/-- Blanks around a text that has none in it are trimmed. -/
theorem trim_of_blanks {before text behind : List Char}
    (blankBefore : ∀ character ∈ before, isBlank character = true)
    (blankBehind : ∀ character ∈ behind, isBlank character = true)
    (solid : ∀ character ∈ text, isBlank character = false) (some : text ≠ []) :
    trim (before ++ (text ++ behind)) = text := by
  have reversed : (behind.reverse ++ (text.reverse ++ [])).dropWhile isBlank =
      text.reverse ++ [] :=
    dropWhile_blanks (by simpa using blankBehind) (by simpa using solid) (by simpa using some) []
  rw [trim, dropWhile_blanks blankBefore solid some, List.reverse_append,
    ← List.append_nil text.reverse, reversed, List.append_nil, List.reverse_reverse]

/-- What is trimmed are blanks. -/
theorem exists_blanks (text : List Char) : ∃ before behind,
    text = before ++ (trim text ++ behind) ∧
      (∀ character ∈ before, isBlank character = true) ∧
      ∀ character ∈ behind, isBlank character = true := by
  let front := text.dropWhile isBlank
  refine ⟨text.takeWhile isBlank, (front.reverse.takeWhile isBlank).reverse, ?_, ?_, ?_⟩
  · have whole : trim text ++ (front.reverse.takeWhile isBlank).reverse = front := by
      rw [trim, ← List.reverse_append, List.takeWhile_append_dropWhile, List.reverse_reverse]
    rw [whole, List.takeWhile_append_dropWhile]
  · exact List.all_eq_true.mp List.all_takeWhile
  · exact fun character member =>
      List.all_eq_true.mp List.all_takeWhile character (List.mem_reverse.mp member)

end Blank

end Text

namespace Thousandths

/-- A number as a double word, if it fits. -/
def word? (number : Nat) : Option UInt64 :=
  if number < 2 ^ 64 then some number.toUInt64 else none

/-- An operation on a word gives what the same operation on its number gives, if the operation
does not make a number smaller: a number that does not fit leads to one that does not. -/
theorem word?_bind (result : Nat → Nat) {number : Nat} {operation : UInt64 → Option UInt64}
    (grows : number ≤ result number) (each : ∀ word, operation word = word? (result word.toNat)) :
    (word? number).bind operation = word? (result number) := by
  unfold word?
  split
  next fits =>
    have same : number.toUInt64.toNat = number := Nat.mod_eq_of_lt fits
    rw [Option.bind_some, each, same]
    rfl
  next large =>
    rw [if_neg (by omega)]
    rfl

theorem times?_eq (first second : UInt64) :
    times? first second = word? (first.toNat * second.toNat) := by
  unfold times? word?
  refine if_congr Iff.rfl (congrArg some ?_) rfl
  apply UInt64.toNat_inj.mp
  rw [UInt64.toNat_mul]
  rfl

theorem plus?_eq (first second : UInt64) :
    plus? first second = word? (first.toNat + second.toNat) := by
  unfold plus? word?
  refine if_congr Iff.rfl (congrArg some ?_) rfl
  apply UInt64.toNat_inj.mp
  rw [UInt64.toNat_add]
  rfl

theorem toNat_digit {character : Char} :
    (digit character).toNat = character.toNat - '0'.toNat := by
  have small : character.toNat - 48 < 2 ^ 64 := by
    have := character.val.toNat_lt
    have : character.toNat = character.val.toNat := rfl
    omega
  exact Nat.mod_eq_of_lt small

theorem appendDigit?_eq (number : UInt64) (character : Char) :
    appendDigit? number character =
      word? (10 * number.toNat + (character.toNat - '0'.toNat)) := by
  have tenfold : times? number 10 = word? (10 * number.toNat) := by
    rw [times?_eq, Nat.mul_comm]
    rfl
  have appended (word : UInt64) : plus? word (digit character) =
      word? (word.toNat + (character.toNat - '0'.toNat)) := by
    rw [plus?_eq, toNat_digit]
  exact (congrArg (Option.bind · _) tenfold).trans
    (word?_bind (· + (character.toNat - '0'.toNat)) (Nat.le_add_right _ _) appended)

theorem le_ofDigitChars (digits : List Char) (start : Nat) :
    start ≤ Nat.ofDigitChars 10 digits start := by
  induction digits generalizing start with
  | nil => exact Nat.le_refl _
  | cons first rest induction =>
      rw [Nat.ofDigitChars_cons]
      exact Nat.le_trans (by omega) (induction _)

/-- Digits are appended to a number as long as what they spell fits a word. -/
theorem foldlM_appendDigit? (digits : List Char) (start : UInt64) :
    digits.foldlM appendDigit? start = word? (Nat.ofDigitChars 10 digits start.toNat) := by
  induction digits generalizing start with
  | nil =>
      rw [Nat.ofDigitChars_nil, word?, if_pos start.toNat_lt, Nat.toUInt64_eq,
        UInt64.ofNat_toNat]
      rfl
  | cons first rest induction =>
      rw [List.foldlM_cons, appendDigit?_eq, Nat.ofDigitChars_cons]
      exact word?_bind (Nat.ofDigitChars 10 rest) (le_ofDigitChars rest _) induction

/-- Every character is a decimal digit. -/
def AllDigits (text : List Char) : Prop :=
  ∀ character ∈ text, Text.Decimal.isDigit character = true

instance (text : List Char) : Decidable (AllDigits text) :=
  decidable_of_iff (text.all Text.Decimal.isDigit = true) List.all_eq_true

theorem ofDigitChars_lt {digits : List Char} (all : AllDigits digits) :
    Nat.ofDigitChars 10 digits 0 < 10 ^ digits.length := by
  induction digits with
  | nil => exact Nat.one_pos
  | cons first rest induction =>
      have small := (Text.Decimal.isDigit_iff.mp (all first List.mem_cons_self)).2
      have digit : first.toNat - '0'.toNat ≤ 9 := by
        rw [show '0'.toNat = 48 from rfl]
        omega
      have less := induction fun character member => all character (List.mem_cons_of_mem _ member)
      rw [Nat.ofDigitChars_cons, Nat.mul_zero, Nat.zero_add,
        Nat.ofDigitChars_eq_ofDigitChars_zero, List.length_cons, Nat.pow_succ]
      calc 10 ^ rest.length * (first.toNat - '0'.toNat) + Nat.ofDigitChars 10 rest 0
          < 10 ^ rest.length * (first.toNat - '0'.toNat) + 10 ^ rest.length :=
            Nat.add_lt_add_left less _
        _ = 10 ^ rest.length * (first.toNat - '0'.toNat + 1) := (Nat.mul_succ _ _).symm
        _ ≤ 10 ^ rest.length * 10 := Nat.mul_le_mul_left _ (Nat.succ_le_succ digit)

/-- Digits that spell a number which fits a word spell it in words too. -/
theorem toNat_foldl_digit (digits : List Char) (start : UInt64)
    (fits : Nat.ofDigitChars 10 digits start.toNat < 2 ^ 64) :
    (digits.foldl (fun number character => number * 10 + digit character) start).toNat =
      Nat.ofDigitChars 10 digits start.toNat := by
  induction digits generalizing start with
  | nil => rfl
  | cons first rest induction =>
      rw [Nat.ofDigitChars_cons] at fits ⊢
      have next : (start * 10 + digit first).toNat =
          10 * start.toNat + (first.toNat - '0'.toNat) := by
        have inside := Nat.lt_of_le_of_lt (le_ofDigitChars rest _) fits
        have ten : (10 : UInt64).toNat = 10 := rfl
        rw [UInt64.toNat_add, UInt64.toNat_mul, toNat_digit, ten]
        omega
      rw [List.foldl_cons, induction _ (by rwa [next]), next]

/-- Up to three places with zeros behind them, so that there are three. -/
def paddedPlaces (places : List Char) : List Char :=
  places ++ List.replicate (3 - places.length) '0'

theorem toNat_ofPlaces {places : List Char} (all : AllDigits places) (few : places.length ≤ 3) :
    (ofPlaces places).toNat = Nat.ofDigitChars 10 (paddedPlaces places) 0 := by
  have three : (places ++ List.replicate 3 '0').take 3 = paddedPlaces places := by
    rw [List.take_append, List.take_of_length_le few, List.take_replicate, paddedPlaces,
      Nat.min_eq_left (Nat.sub_le _ _)]
  have padded : AllDigits (paddedPlaces places) := by
    intro character member
    rcases List.mem_append.mp member with place | zero
    · exact all character place
    · rw [List.eq_of_mem_replicate zero]
      rfl
  have length : (paddedPlaces places).length = 3 := by
    rw [paddedPlaces, List.length_append, List.length_replicate]
    omega
  have small := ofDigitChars_lt padded
  rw [length] at small
  rw [ofPlaces, three, toNat_foldl_digit]
  · rfl
  · exact Nat.lt_trans small (by decide)

/-- A number of thousandths, if it fits a word. -/
def ofCount? (count : Nat) : Option Thousandths :=
  (word? count).map Thousandths.mk

theorem ofCount?_eq_some_iff {count : Nat} {value : Thousandths} :
    ofCount? count = some value ↔ count = value.count.toNat := by
  unfold ofCount? word?
  split
  next fits =>
    have same : count.toUInt64.toNat = count := Nat.mod_eq_of_lt fits
    constructor
    · rintro ⟨⟩
      exact same.symm
    · rintro rfl
      exact congrArg (fun count => some (Thousandths.mk count)) (UInt64.toNat_inj.mp same)
  next large =>
    refine ⟨nofun, fun same => ?_⟩
    exact absurd value.count.toNat_lt (same ▸ large)

/-- The digits before the point and the places behind it are put together exactly. -/
theorem thousandths_of_parts (whole : List Char) {places : List Char} (all : AllDigits places)
    (few : places.length ≤ 3) :
    (do
      let units ← whole.foldlM appendDigit? 0
      let thousandths ← times? units 1000
      return ⟨← plus? thousandths (ofPlaces places)⟩ : Option Thousandths) =
      ofCount? (1000 * Nat.ofDigitChars 10 whole 0 +
        Nat.ofDigitChars 10 (paddedPlaces places) 0) := by
  let places? (thousandths : UInt64) := plus? thousandths (ofPlaces places)
  have scaled (units : UInt64) : (times? units 1000).bind places? =
      word? (1000 * units.toNat + Nat.ofDigitChars 10 (paddedPlaces places) 0) := by
    rw [times?_eq, Nat.mul_comm]
    refine word?_bind (· + Nat.ofDigitChars 10 (paddedPlaces places) 0) (Nat.le_add_right _ _)
      fun thousandths => ?_
    rw [← toNat_ofPlaces all few]
    exact plus?_eq _ _
  have whole? : ((whole.foldlM appendDigit? 0).bind fun units => (times? units 1000).bind places?) =
      word? (1000 * Nat.ofDigitChars 10 whole 0 +
        Nat.ofDigitChars 10 (paddedPlaces places) 0) := by
    rw [foldlM_appendDigit?]
    exact word?_bind (1000 * · + Nat.ofDigitChars 10 (paddedPlaces places) 0)
      (Nat.le_add_right_of_le (Nat.le_mul_of_pos_left _ (by decide))) scaled
  rw [ofCount?, ← whole?, Option.map_bind]
  refine congrArg (Option.bind _) (funext fun units => ?_)
  refine .trans ?_ Option.map_bind.symm
  exact congrArg (Option.bind _) (funext fun thousandths => Option.map_eq_bind.symm)

/-- The texts without blanks that write a decimal with up to three places, and the numbers of
thousandths that they write. -/
inductive Written : List Char → Nat → Prop where
  | whole {digits : List Char} : AllDigits digits → digits ≠ [] →
      Written digits (1000 * Nat.ofDigitChars 10 digits 0)
  | pointed {digits places : List Char} : AllDigits digits → AllDigits places →
      digits ++ places ≠ [] → places.length ≤ 3 →
      Written (digits ++ '.' :: places)
        (1000 * Nat.ofDigitChars 10 digits 0 + Nat.ofDigitChars 10 (paddedPlaces places) 0)

/-- A text writes a decimal, with or without blanks around it. -/
def Spells (text : String) (thousandths : Nat) : Prop :=
  ∃ before written behind, text.toList = before ++ (written ++ behind) ∧
    (∀ character ∈ before, Text.Blank.isBlank character = true) ∧
    (∀ character ∈ behind, Text.Blank.isBlank character = true) ∧ Written written thousandths

theorem ne_point_of_isDigit {character : Char}
    (digit : Text.Decimal.isDigit character = true) : (character != '.') = true := by
  rw [bne_iff_ne]
  rintro rfl
  cases digit

theorem splitPoint_digits {digits : List Char} (all : AllDigits digits) :
    splitPoint digits = (digits, []) := by
  have before : digits.takeWhile (· != '.') = digits :=
    List.takeWhile_eq_self_iff.mpr fun character member => ne_point_of_isDigit (all character member)
  have behind : digits.dropWhile (· != '.') = [] :=
    List.dropWhile_eq_nil_iff.mpr fun character member => ne_point_of_isDigit (all character member)
  rw [splitPoint, before, behind]
  rfl

theorem splitPoint_pointed {digits : List Char} (all : AllDigits digits) (places : List Char) :
    splitPoint (digits ++ '.' :: places) = (digits, places) := by
  have free : ∀ character ∈ digits, (character != '.') = true :=
    fun character member => ne_point_of_isDigit (all character member)
  rw [splitPoint, List.takeWhile_append_of_pos free, List.dropWhile_append_of_pos free]
  simp

/-- A text without a point is all before it; another one has its first point between its parts. -/
theorem splitPoint_cases (text : List Char) :
    ((splitPoint text).1 = text ∧ (splitPoint text).2 = []) ∨
      (splitPoint text).1 ++ '.' :: (splitPoint text).2 = text := by
  have whole : text.takeWhile (· != '.') ++ text.dropWhile (· != '.') = text :=
    List.takeWhile_append_dropWhile
  rw [splitPoint]
  cases behind : text.dropWhile (· != '.') with
  | nil =>
      rw [behind, List.append_nil] at whole
      exact .inl ⟨whole, rfl⟩
  | cons point places =>
      have first : point = '.' := by
        have ends := List.head?_dropWhile_not (· != '.') text
        rw [behind] at ends
        simpa using ends
      rw [behind, first] at whole
      exact .inr whole

/-- What is read of a text whose parts are not refused. -/
theorem ofTrimmed?_eq {text whole places : List Char} (parts : splitPoint text = (whole, places))
    (some : whole ++ places ≠ []) (few : places.length ≤ 3) (all : AllDigits (whole ++ places)) :
    ofTrimmed? text = ofCount? (1000 * Nat.ofDigitChars 10 whole 0 +
      Nat.ofDigitChars 10 (paddedPlaces places) 0) := by
  have filled : ((whole.isEmpty && places.isEmpty) || decide (places.length > 3)) = false := by
    simpa [few] using some
  have digits : (whole ++ places).all Text.Decimal.isDigit = true := List.all_eq_true.mpr all
  have placeDigits : AllDigits places := fun character member =>
    all character (List.mem_append_right _ member)
  rw [ofTrimmed?, parts]
  simp only [filled, digits, Bool.not_true, Bool.false_eq_true, if_false]
  exact thousandths_of_parts whole placeDigits few

theorem ofTrimmed?_of_written {text : List Char} {count : Nat} (written : Written text count) :
    ofTrimmed? text = ofCount? count := by
  cases written with
  | whole digits some =>
      rw [ofTrimmed?_eq (splitPoint_digits digits) (by simpa using some) (Nat.zero_le _)
        (by simpa using digits)]
      rfl
  | pointed digits places some few =>
      exact ofTrimmed?_eq (splitPoint_pointed digits _) some few
        (List.forall_mem_append.mpr ⟨digits, places⟩)

theorem exists_written {text : List Char} {value : Thousandths}
    (read : ofTrimmed? text = some value) : ∃ count, Written text count := by
  have cut := splitPoint_cases text
  unfold ofTrimmed? at read
  generalize splitPoint text = parts at cut read
  obtain ⟨whole, places⟩ := parts
  dsimp only at cut read
  split at read
  next => cases read
  next filled =>
    split at read
    next => cases read
    next digits =>
      simp only [Bool.or_eq_true, Bool.and_eq_true, List.isEmpty_iff, decide_eq_true_eq, not_or,
        not_and, Nat.not_lt] at filled
      obtain ⟨wholeDigits, placeDigits⟩ : AllDigits whole ∧ AllDigits places := by
        simpa [AllDigits] using digits
      obtain ⟨some, few⟩ := filled
      rcases cut with ⟨rfl, rfl⟩ | rfl
      · exact ⟨_, .whole wholeDigits fun none => some none rfl⟩
      · refine ⟨_, .pointed wholeDigits placeDigits (fun none => ?_) few⟩
        obtain ⟨noWhole, noPlaces⟩ := List.append_eq_nil_iff.mp none
        exact some noWhole noPlaces

/-- A text that writes a decimal has no blank in it. -/
theorem Written.solid {text : List Char} {count : Nat} (written : Written text count) :
    text ≠ [] ∧ ∀ character ∈ text, Text.Blank.isBlank character = false := by
  have digit {character : Char} (isDigit : Text.Decimal.isDigit character = true) :
      Text.Blank.isBlank character = false := by
    obtain ⟨lower, upper⟩ := Text.Decimal.isDigit_iff.mp isDigit
    exact Text.Blank.isBlank_eq_false (by omega) (by omega)
  cases written with
  | whole digits some => exact ⟨some, fun character member => digit (digits character member)⟩
  | pointed digits places _ _ =>
      refine ⟨by simp, fun character member => ?_⟩
      rcases List.mem_append.mp member with before | behind
      · exact digit (digits character before)
      · rcases List.mem_cons.mp behind with rfl | place
        · exact Text.Blank.isBlank_eq_false (by decide) (by decide)
        · exact digit (places character place)

theorem ofText?_of_spells {text : String} {count : Nat} (spells : Spells text count) :
    ofText? text = ofCount? count := by
  obtain ⟨before, written, behind, whole, blankBefore, blankBehind, writes⟩ := spells
  obtain ⟨some, solid⟩ := writes.solid
  rw [ofText?, whole, Text.Blank.trim_of_blanks blankBefore blankBehind solid some,
    ofTrimmed?_of_written writes]

theorem exists_spells {text : String} {value : Thousandths} (read : ofText? text = some value) :
    ∃ count, Spells text count := by
  obtain ⟨count, writes⟩ := exists_written read
  obtain ⟨before, behind, whole, blankBefore, blankBehind⟩ :=
    Text.Blank.exists_blanks text.toList
  exact ⟨count, before, _, behind, whole, blankBefore, blankBehind, writes⟩

theorem ofText?_eq_some_iff {text : String} {value : Thousandths} :
    ofText? text = some value ↔ Spells text value.count.toNat := by
  constructor
  · intro read
    obtain ⟨count, spells⟩ := exists_spells read
    rw [ofText?_of_spells spells, ofCount?_eq_some_iff] at read
    rwa [← read]
  · intro spells
    rw [ofText?_of_spells spells]
    exact ofCount?_eq_some_iff.mpr rfl

theorem Written.count_eq {text : List Char} {count : Nat} (written : Written text count) :
    count = 1000 * Nat.ofDigitChars 10 (splitPoint text).1 0 +
      Nat.ofDigitChars 10 (paddedPlaces (splitPoint text).2) 0 := by
  cases written with
  | whole digits some =>
      rw [splitPoint_digits digits]
      rfl
  | pointed digits places some few => rw [splitPoint_pointed digits]

/-- A text writes one decimal at most. -/
theorem Spells.unique {text : String} {count other : Nat} (spells : Spells text count)
    (spellsOther : Spells text other) : count = other := by
  obtain ⟨before, written, behind, whole, blankBefore, blankBehind, writes⟩ := spells
  obtain ⟨_, _, _, wholeOther, before', behind', writesOther⟩ := spellsOther
  obtain ⟨some, solid⟩ := writes.solid
  obtain ⟨someOther, solidOther⟩ := writesOther.solid
  have trimmed := Text.Blank.trim_of_blanks blankBefore blankBehind solid some
  rw [← whole, wholeOther, Text.Blank.trim_of_blanks before' behind' solidOther someOther] at trimmed
  rw [writes.count_eq, writesOther.count_eq, trimmed]

theorem allDigits_toDigits (number : Nat) : AllDigits (Nat.toDigits 10 number) :=
  fun _ member => Nat.isDigit_of_mem_toDigits (by decide) (by decide) member

theorem spells_toString (number : Nat) : Spells (toString number) (1000 * number) := by
  have written := Written.whole (allDigits_toDigits number) Nat.toDigits_ne_nil
  rw [Nat.ofDigitChars_toDigits (by decide) (by decide)] at written
  refine ⟨[], Nat.toDigits 10 number, [], ?_, nofun, nofun, written⟩
  simp

/-- A decimal that is written with all its places. -/
theorem spells_text (value : Thousandths) : Spells value.text value.count.toNat := by
  let places := (Nat.toDigits 10 (value.count.toNat % 1000)).leftpad 3 '0'
  have digits : AllDigits places := by
    intro character member
    rcases List.mem_append.mp member with zero | digit
    · rw [List.eq_of_mem_replicate zero]
      rfl
    · exact allDigits_toDigits _ character digit
  have three : places.length = 3 := by
    have few : (Nat.toDigits 10 (value.count.toNat % 1000)).length ≤ 3 :=
      (Nat.length_toDigits_le_iff (by decide) (by decide)).mpr (Nat.mod_lt _ (by decide))
    rw [List.length_leftpad]
    omega
  have spelled : Nat.ofDigitChars 10 (paddedPlaces places) 0 = value.count.toNat % 1000 := by
    rw [paddedPlaces, three, Nat.sub_self, List.replicate_zero, List.append_nil]
    simp only [places, List.leftpad]
    rw [Nat.ofDigitChars_append, Nat.ofDigitChars_replicate_zero, Nat.mul_zero,
      Nat.ofDigitChars_toDigits (by decide) (by decide)]
  have written := Written.pointed (allDigits_toDigits (value.count.toNat / 1000)) digits
    (by simp [Nat.toDigits_ne_nil]) three.le
  rw [spelled, Nat.ofDigitChars_toDigits (by decide) (by decide), Nat.div_add_mod] at written
  refine ⟨[], _, [], ?_, nofun, nofun, written⟩
  have pieces : value.text = String.ofList (Nat.toDigits 10 (value.count.toNat / 1000)) ++ "." ++
      String.ofList places := by
    rw [text, Text.Column.zeros_eq]
    rfl
  rw [pieces]
  simp

/-- A whole number has the same thousandths, and the same room, as its text. -/
theorem ofText?_toString (number : Nat) : ofText? (toString number) = ofUnits? number := by
  rw [ofText?_of_spells (spells_toString number), Nat.mul_comm, ofCount?, word?, ofUnits?]
  exact apply_ite _ _ _ _

/-- The texts that are read are those that write a decimal whose thousandths fit a word, with these
thousandths.  A decimal is read back from its own text, and a whole number is read alike as a
number and as a text. -/
theorem decimals_read_exactly :
    (∀ text value, ofText? text = some value ↔ Spells text value.count.toNat) ∧
    (∀ text, (ofText? text).isSome = true ↔ ∃ count < 2 ^ 64, Spells text count) ∧
    (∀ text count other, Spells text count → Spells text other → count = other) ∧
    (∀ value : Thousandths, ofText? value.text = some value) ∧
    ∀ number : Nat, (Config.readDecimal (.integer number)).toOption =
      (Config.readDecimal (.string (toString number))).toOption := by
  refine ⟨fun text value => ofText?_eq_some_iff, fun text => ?_, fun _ _ _ => Spells.unique,
    fun value => ofText?_eq_some_iff.mpr (spells_text value), fun number => ?_⟩
  · constructor
    · intro read
      obtain ⟨value, found⟩ := Option.isSome_iff_exists.mp read
      exact ⟨_, value.count.toNat_lt, ofText?_eq_some_iff.mp found⟩
    · rintro ⟨count, fits, spells⟩
      have same : count.toUInt64.toNat = count := Nat.mod_eq_of_lt fits
      have found : ofText? text = some ⟨count.toUInt64⟩ :=
        ofText?_eq_some_iff.mpr (by rwa [same])
      rw [found]
      rfl
  · have natural : ¬(number : Int) < 0 := by omega
    simp only [Config.readDecimal, if_neg natural, Int.toNat_natCast, ofText?_toString]
    cases ofUnits? number <;> rfl

/-- The largest decimal that fits a word, between blanks, and the next one. -/
theorem largest_decimal_and_next :
    Spells " 18446744073709551.615\n" (2 ^ 64 - 1) ∧
      ofText? " 18446744073709551.615\n" = some ⟨18446744073709551615⟩ ∧
      Spells "18446744073709551.616" (2 ^ 64) ∧ ofText? "18446744073709551.616" = none := by
  have whole : AllDigits "18446744073709551".toList := by decide +kernel
  have largest : Written "18446744073709551.615".toList (2 ^ 64 - 1) :=
    .pointed whole (show AllDigits "615".toList by decide) (by decide +kernel) (by decide)
  have next : Written "18446744073709551.616".toList (2 ^ 64) :=
    .pointed whole (show AllDigits "616".toList by decide) (by decide +kernel) (by decide)
  have spells : Spells " 18446744073709551.615\n" (2 ^ 64 - 1) :=
    ⟨[' '], _, ['\n'], by decide +kernel, List.forall_mem_singleton.mpr rfl,
      List.forall_mem_singleton.mpr rfl, largest⟩
  have spellsNext : Spells "18446744073709551.616" (2 ^ 64) :=
    ⟨[], _, [], by decide +kernel, nofun, nofun, next⟩
  obtain ⟨reads, accepts, unique, _⟩ := decimals_read_exactly
  refine ⟨spells, (reads _ _).mpr spells, spellsNext, ?_⟩
  rw [← Option.not_isSome_iff_eq_none, accepts]
  rintro ⟨count, fits, other⟩
  rw [unique _ _ _ other spellsNext] at fits
  exact absurd fits (Nat.lt_irrefl _)

end Thousandths

end TripComputer
