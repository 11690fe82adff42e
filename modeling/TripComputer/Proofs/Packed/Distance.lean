import TripComputer.Proofs.Packed.Fields

/-!
# Skip distances in instructions and in bytes

`Spans` is what the two distances of one skip have to do with each other: both lead to the
same instruction.  Every instruction has at least one byte, so a byte offset belongs to at
most one instruction, and no skip is longer in instructions than in bytes.  Hence either
translation succeeds exactly on the distances that span something, and undoes the other.
-/

namespace TripComputer

namespace Instruction

variable {instruction : Instruction} {distance : Int8}

theorem distance?_withDistance (skip : instruction.distance? = some distance) (other : Int8) :
    (instruction.withDistance other).distance? = some other := by
  cases instruction <;> first | rfl | cases skip

theorem withDistance_withDistance (instruction : Instruction) (distance other : Int8) :
    (instruction.withDistance distance).withDistance other = instruction.withDistance other := by
  cases instruction <;> rfl

theorem withDistance_self (skip : instruction.distance? = some distance) :
    instruction.withDistance distance = instruction := by
  cases instruction <;> cases skip <;> rfl

theorem packedLength_withDistance (instruction : Instruction) (distance : Int8) :
    (instruction.withDistance distance).packedLength = instruction.packedLength := by
  cases instruction <;> rfl

theorem namesOneRegister_withDistance (instruction : Instruction) (distance : Int8) :
    (instruction.withDistance distance).namesOneRegister = instruction.namesOneRegister := by
  cases instruction <;> rfl

end Instruction

theorem landing?_eq_some_iff {length position target : Nat} {distance : Int8} :
    landing? length position distance = some target ↔
      target < length ∧ (target : Int) = position + 1 + distance.toInt := by
  simp only [landing?, Option.ite_none_right_eq_some, Option.some.injEq]
  omega

theorem landing?_eq_none_iff {length position : Nat} {distance : Int8} :
    landing? length position distance = none ↔
      ∀ target < length, (target : Int) ≠ position + 1 + distance.toInt := by
  rw [Option.eq_none_iff_forall_ne_some]
  simp only [ne_eq, landing?_eq_some_iff, not_and]

namespace Packed

theorem narrow?_eq_none_iff {distance : Int} :
    narrow? distance = none ↔ distance < -128 ∨ 127 < distance := by
  simp only [narrow?, ite_eq_right_iff, reduceCtorEq, imp_false]
  omega

theorem narrow?_eq_some_iff {distance : Int} {byte : Int8} :
    narrow? distance = some byte ↔ distance = byte.toInt := by
  have low := byte.le_toInt
  have high := byte.toInt_lt
  simp only [narrow?, Option.ite_none_right_eq_some, Option.some.injEq]
  constructor
  · rintro ⟨fits, rfl⟩
    exact (Int8.toInt_ofInt_of_le (by omega) (by omega)).symm
  · rintro rfl
    exact ⟨by omega, Int8.ofInt_toInt byte⟩

theorem sizeBefore_eq (code : List Instruction) (position : Nat) :
    sizeBefore code position = ((code.take position).flatMap Instruction.bytes).length := by
  induction code generalizing position with
  | nil => simp [sizeBefore]
  | cons first rest induction =>
      cases position with
      | zero => rfl
      | succ position => simp [sizeBefore, induction, Instruction.packedLength]

/-- Instructions are at least one byte long. -/
theorem sizeBefore_add_le (code : List Instruction) (position count : Nat)
    (inside : position + count ≤ code.length) :
    sizeBefore code position + count ≤ sizeBefore code (position + count) := by
  induction code generalizing position count with
  | nil =>
      obtain ⟨rfl, rfl⟩ : position = 0 ∧ count = 0 := by simpa using inside
      rfl
  | cons first rest induction =>
      have long := first.packedLength_pos
      rw [List.length_cons] at inside
      cases position with
      | zero =>
          cases count with
          | zero => rfl
          | succ count =>
              have shorter := induction 0 count (by omega)
              rw [Nat.zero_add] at shorter ⊢
              simp only [sizeBefore] at shorter ⊢
              omega
      | succ position =>
          have shorter := induction position count (by omega)
          rw [Nat.add_right_comm]
          simp only [sizeBefore]
          omega

theorem sizeBefore_lt (code : List Instruction) {position later : Nat} (before : position < later)
    (inside : later ≤ code.length) : sizeBefore code position < sizeBefore code later := by
  have apart := sizeBefore_add_le code position (later - position) (by omega)
  rw [Nat.add_sub_cancel' before.le] at apart
  omega

/-- A byte offset is where at most one instruction starts. -/
theorem sizeBefore_inj (code : List Instruction) {position other : Nat}
    (inside : position ≤ code.length) (alsoInside : other ≤ code.length)
    (same : sizeBefore code position = sizeBefore code other) : position = other := by
  rcases Nat.lt_trichotomy position other with before | equal | after
  · exact absurd same (sizeBefore_lt code before alsoInside).ne
  · exact equal
  · exact absurd same (sizeBefore_lt code after inside).ne'

theorem length_offsets (start : Nat) (code : List Instruction) :
    (offsets start code).length = code.length := by
  induction code generalizing start with
  | nil => rfl
  | cons first rest induction => simp [offsets, induction]

theorem getElem_offsets (start : Nat) (code : List Instruction) (position : Nat)
    (inside : position < (offsets start code).length) :
    (offsets start code)[position] = start + sizeBefore code position := by
  induction code generalizing start position with
  | nil => cases inside
  | cons first rest induction =>
      cases position with
      | zero => rfl
      | succ position =>
          simp only [offsets, List.getElem_cons_succ, sizeBefore, induction]
          omega

/-- The search for a byte offset finds the instruction that starts there. -/
theorem findIdx?_offsets_eq_some_iff (code : List Instruction) (target : Int) (index : Nat) :
    (offsets 0 code).findIdx? (fun start : Nat => Int.ofNat start == target) = some index ↔
      index < code.length ∧ (sizeBefore code index : Int) = target := by
  simp only [List.findIdx?_eq_some_iff_getElem, getElem_offsets, length_offsets, Nat.zero_add,
    beq_iff_eq, Int.ofNat_eq_natCast]
  constructor
  · rintro ⟨inside, here, _⟩
    exact ⟨inside, here⟩
  · rintro ⟨inside, here⟩
    refine ⟨inside, here, fun earlier before there => ?_⟩
    have same : sizeBefore code earlier = sizeBefore code index := by omega
    exact before.ne (sizeBefore_inj code (by omega) inside.le same)

/-- The skip at `position` over `count` instructions spans `bytes` bytes. -/
def Spans (code : List Instruction) (position : Nat) (count bytes : Int8) : Prop :=
  ∃ target < code.length, (target : Int) = position + 1 + count.toInt ∧
    (sizeBefore code target : Int) = sizeBefore code (position + 1) + bytes.toInt

theorem toBytes_eq_ok_iff {code : List Instruction} {position : Nat} {count bytes : Int8} :
    toBytes code position count = .ok bytes ↔ Spans code position count bytes := by
  have found : toBytes code position count = .ok bytes ↔
      ∃ target, landing? code.length position count = some target ∧
        narrow? (sizeBefore code target - sizeBefore code (position + 1)) = some bytes := by
    unfold toBytes
    generalize landing? code.length position count = landed
    split
    case h_1 => simp
    case h_2 target => split <;> simp [*]
  simp only [found, landing?_eq_some_iff, narrow?_eq_some_iff, Spans, and_assoc,
    sub_eq_iff_eq_add']

theorem toInstructions_eq_ok_iff {code : List Instruction} {position : Nat} {count bytes : Int8} :
    toInstructions code (offsets 0 code) position bytes = .ok count ↔
      Spans code position count bytes := by
  have found : toInstructions code (offsets 0 code) position bytes = .ok count ↔
      ∃ target : Nat, (offsets 0 code).findIdx? (fun start : Nat =>
          Int.ofNat start == sizeBefore code (position + 1) + bytes.toInt) = some target ∧
        narrow? ((target : Int) - (position + 1)) = some count := by
    simp only [toInstructions]
    generalize (offsets 0 code).findIdx? _ = landed
    split
    case h_1 => simp
    case h_2 target => split <;> simp [*]
  simp only [found, findIdx?_offsets_eq_some_iff, narrow?_eq_some_iff, Spans,
    sub_eq_iff_eq_add']
  exact exists_congr fun target => and_right_comm.trans and_assoc

/-- The distance of the skip at a position, if a skip stands there. -/
def skipAt? (code : List Instruction) (position : Nat) : Option Int8 :=
  code[position]?.bind Instruction.distance?

@[simp] theorem skipAt?_zero (instruction : Instruction) (rest : List Instruction) :
    skipAt? (instruction :: rest) 0 = instruction.distance? :=
  rfl

@[simp] theorem skipAt?_succ (instruction : Instruction) (rest : List Instruction)
    (position : Nat) : skipAt? (instruction :: rest) (position + 1) = skipAt? rest position :=
  rfl

theorem inside_of_skipAt? {code : List Instruction} {position : Nat} {distance : Int8}
    (skip : skipAt? code position = some distance) : position < code.length := by
  obtain ⟨instruction, present, _⟩ := Option.bind_eq_some_iff.mp skip
  exact (List.getElem?_eq_some_iff.mp present).1

/-- Two programs alike but for their skip distances, which are related position by position;
the first instruction stands at `position`. -/
inductive Retargeted (relates : (position : Nat) → Int8 → Int8 → Prop) :
    Nat → List Instruction → List Instruction → Prop where
  | nil {position : Nat} : Retargeted relates position [] []
  | kept {position : Nat} {instruction : Instruction} {rest others : List Instruction} :
      instruction.distance? = none → Retargeted relates (position + 1) rest others →
      Retargeted relates position (instruction :: rest) (instruction :: others)
  | moved {position : Nat} {instruction : Instruction} {distance other : Int8}
      {rest others : List Instruction} :
      instruction.distance? = some distance → relates position distance other →
      Retargeted relates (position + 1) rest others →
      Retargeted relates position (instruction :: rest) (instruction.withDistance other :: others)

theorem retarget_eq_ok_iff {convert : (position : Nat) → Int8 → Except PackError Int8}
    {position : Nat} {code others : List Instruction} :
    retarget convert position code = .ok others ↔
      Retargeted (fun place distance other => convert place distance = .ok other)
        position code others := by
  constructor
  · intro converted
    induction code generalizing position others with
    | nil =>
        cases converted
        exact .nil
    | cons instruction rest induction =>
        cases skip : instruction.distance? with
        | none =>
            simp only [retarget, skip, bind_eq_ok_iff, pure, Except.pure, Except.ok.injEq]
              at converted
            obtain ⟨_, rfl, tail, later, rfl⟩ := converted
            exact .kept skip (induction later)
        | some distance =>
            simp only [retarget, skip, bind_eq_ok_iff, map_eq_ok_iff, pure, Except.pure,
              Except.ok.injEq] at converted
            obtain ⟨_, ⟨other, moved, rfl⟩, tail, later, rfl⟩ := converted
            exact .moved skip moved (induction later)
  · intro related
    induction related with
    | nil => rfl
    | kept skip _ induction =>
        simp [retarget, skip, induction, bind, Except.bind, pure, Except.pure]
    | moved skip converted _ induction =>
        simp [retarget, skip, converted, induction, bind, Except.bind, pure, Except.pure,
          Except.map]

namespace Retargeted

variable {relates : (position : Nat) → Int8 → Int8 → Prop} {position : Nat}
  {code others : List Instruction}

theorem symm (related : Retargeted relates position code others) :
    Retargeted (fun place other distance => relates place distance other)
      position others code := by
  induction related with
  | nil => exact .nil
  | kept skip _ induction => exact .kept skip induction
  | @moved position instruction distance other rest others skip relation _ induction =>
      have back : Retargeted (fun place other distance => relates place distance other) position
          (instruction.withDistance other :: others)
          ((instruction.withDistance other).withDistance distance :: rest) :=
        .moved (Instruction.distance?_withDistance skip other) relation induction
      rwa [Instruction.withDistance_withDistance, Instruction.withDistance_self skip] at back

theorem mono {weaker : (position : Nat) → Int8 → Int8 → Prop}
    (related : Retargeted relates position code others)
    (weaken : ∀ place distance other, relates place distance other →
      weaker place distance other) :
    Retargeted weaker position code others := by
  induction related with
  | nil => exact .nil
  | kept skip _ induction => exact .kept skip induction
  | moved skip relation _ induction => exact .moved skip (weaken _ _ _ relation) induction

theorem length_eq (related : Retargeted relates position code others) :
    others.length = code.length := by
  induction related with
  | nil => rfl
  | kept _ _ induction | moved _ _ _ induction => simp [induction]

/-- A skip is as long in bytes whatever its distance. -/
theorem sizeBefore_eq (related : Retargeted relates position code others) (place : Nat) :
    sizeBefore others place = sizeBefore code place := by
  induction related generalizing place with
  | nil => rfl
  | kept _ _ induction => cases place <;> simp [sizeBefore, induction]
  | moved _ _ _ induction =>
      cases place <;> simp [sizeBefore, induction, Instruction.packedLength_withDistance]

theorem spans_iff (related : Retargeted relates position code others) (place : Nat)
    (count bytes : Int8) : Spans others place count bytes ↔ Spans code place count bytes := by
  simp only [Spans, related.length_eq, related.sizeBefore_eq]

/-- Every skip of the one program is related to a distance of the other. -/
theorem exists_of_skipAt? (related : Retargeted relates position code others) (place : Nat)
    {distance : Int8} (skip : skipAt? code place = some distance) :
    ∃ other, relates (position + place) distance other := by
  induction related generalizing place with
  | nil => cases skip
  | kept still _ induction =>
      cases place with
      | zero => cases still.symm.trans skip
      | succ place =>
          obtain ⟨other, relation⟩ := induction place skip
          exact ⟨other, by rwa [Nat.add_right_comm] at relation⟩
  | @moved _ _ _ other _ _ here relation _ induction =>
      cases place with
      | zero =>
          obtain rfl := Option.some.inj (here.symm.trans skip)
          exact ⟨other, relation⟩
      | succ place =>
          obtain ⟨other, relation⟩ := induction place skip
          exact ⟨other, by rwa [Nat.add_right_comm] at relation⟩

end Retargeted

variable {convert : (position : Nat) → Int8 → Except PackError Int8}

/-- The refusal is that of the first skip that cannot be converted. -/
theorem first_of_retarget_error {start : Nat} {code : List Instruction} {error : PackError}
    (refused : retarget convert start code = .error error) :
    ∃ position distance, skipAt? code position = some distance ∧
      convert (start + position) distance = .error error ∧
      ∀ earlier < position, ∀ distance, skipAt? code earlier = some distance →
        ∃ other, convert (start + earlier) distance = .ok other := by
  induction code generalizing start with
  | nil => cases refused
  | cons instruction rest induction =>
      -- what stands after the first instruction, when that one is converted
      have later (tail : retarget convert (start + 1) rest = .error error)
          (first : ∀ distance, instruction.distance? = some distance →
            ∃ other, convert start distance = .ok other) :
          ∃ position distance, skipAt? (instruction :: rest) position = some distance ∧
            convert (start + position) distance = .error error ∧
            ∀ earlier < position, ∀ distance,
              skipAt? (instruction :: rest) earlier = some distance →
                ∃ other, convert (start + earlier) distance = .ok other := by
        obtain ⟨position, distance, skip, failed, before⟩ := induction tail
        refine ⟨position + 1, distance, skip, by rwa [Nat.add_right_comm] at failed, ?_⟩
        rintro (_ | earlier) sooner distance skip
        · exact first distance skip
        · have converted := before earlier (by omega) distance skip
          rwa [Nat.add_right_comm] at converted
      cases skip : instruction.distance? with
      | none =>
          simp only [retarget, skip, bind_eq_error_iff, Except.ok.injEq, pure, Except.pure,
            reduceCtorEq, false_or, and_false, exists_false, or_false,
            exists_eq_left'] at refused
          exact later refused (by simp [skip])
      | some distance =>
          simp only [retarget, skip, bind_eq_error_iff, map_eq_error_iff, map_eq_ok_iff, pure,
            Except.pure, reduceCtorEq, and_false, exists_false, or_false] at refused
          obtain failed | ⟨_, ⟨other, converted, rfl⟩, tail⟩ := refused
          · exact ⟨0, distance, skip, failed, nofun⟩
          · exact later tail (by simp [skip, converted])

end Packed

end TripComputer
