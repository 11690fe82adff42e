import TripComputer.Proofs.Packed.Distance

/-!
# Packing and unpacking

A program packs exactly when each of its skips lands on an instruction within reach of a
signed byte, and what was packed unpacks as it was.  Whatever unpacks packs again, into the
same bytes once the nibbles that nothing reads are blanked: a distance that is in range in
bytes is in range in instructions, which are never more.
-/

namespace TripComputer.Packed

open Instruction

/-- Number of bytes from the end of the instruction at `position` to the start of `target`. -/
def gap (code : List Instruction) (position target : Nat) : Int :=
  ((code.take target).flatMap Instruction.bytes).length -
    ((code.take (position + 1)).flatMap Instruction.bytes).length

/-- The skip at `position` lands on an instruction, within reach of a signed byte. -/
def Fits (code : List Instruction) (position : Nat) (distance : Int8) : Prop :=
  ∃ target < code.length, (target : Int) = position + 1 + distance.toInt ∧
    -128 ≤ gap code position target ∧ gap code position target ≤ 127

/-- Why the skip at `position` does not fit. -/
inductive Misfit (code : List Instruction) (position : Nat) (distance : Int8) :
    PackError → Prop where
  | astray : (∀ target < code.length, (target : Int) ≠ position + 1 + distance.toInt) →
      Misfit code position distance (.badSkipTarget position)
  | far {target : Nat} : target < code.length → (target : Int) = position + 1 + distance.toInt →
      gap code position target < -128 ∨ 127 < gap code position target →
      Misfit code position distance (.skipTooFar position)

variable {code : List Instruction} {position : Nat} {distance : Int8}

theorem gap_eq (code : List Instruction) (position target : Nat) :
    gap code position target = sizeBefore code target - sizeBefore code (position + 1) := by
  simp only [gap, sizeBefore_eq]

theorem exists_toBytes_iff :
    (∃ bytes, toBytes code position distance = .ok bytes) ↔ Fits code position distance := by
  simp only [toBytes_eq_ok_iff, Spans, Fits, gap_eq]
  constructor
  · rintro ⟨bytes, target, inside, spanned, reached⟩
    have low := bytes.le_toInt
    have high := bytes.toInt_lt
    exact ⟨target, inside, spanned, by omega, by omega⟩
  · rintro ⟨target, inside, spanned, low, high⟩
    refine ⟨Int8.ofInt (sizeBefore code target - sizeBefore code (position + 1)), target, inside,
      spanned, ?_⟩
    rw [Int8.toInt_ofInt_of_le (by omega) (by omega)]
    omega

theorem toBytes_eq_error_iff {error : PackError} :
    toBytes code position distance = .error error ↔ Misfit code position distance error := by
  unfold toBytes
  split
  case h_1 lost =>
    rw [landing?_eq_none_iff] at lost
    constructor
    · intro refused
      cases refused
      exact .astray lost
    · rintro (_ | ⟨inside, spanned, _⟩)
      · rfl
      · exact absurd spanned (lost _ inside)
  case h_2 target landed =>
    obtain ⟨inside, spanned⟩ := landing?_eq_some_iff.mp landed
    split
    case h_1 wide =>
      rw [← gap_eq, narrow?_eq_none_iff] at wide
      constructor
      · intro refused
        cases refused
        exact .far inside spanned wide
      · rintro (lost | _)
        · exact absurd spanned (lost target inside)
        · rfl
    case h_2 bytes narrow =>
      rw [← gap_eq, narrow?_eq_some_iff] at narrow
      have low := bytes.le_toInt
      have high := bytes.toInt_lt
      constructor
      · nofun
      · rintro (lost | ⟨_, same, wide⟩)
        · exact absurd spanned (lost target inside)
        · obtain rfl := Int.ofNat_inj.mp (same.trans spanned.symm)
          omega

theorem encode_eq_ok_iff {bytes : List UInt8} :
    encode code = .ok bytes ↔ ∃ packed, Retargeted (Spans code) 0 code packed ∧
      packed.flatMap Instruction.bytes = bytes := by
  simp only [encode, bind_eq_ok_iff, retarget_eq_ok_iff, toBytes_eq_ok_iff, pure, Except.pure,
    Except.ok.injEq]

theorem decode_eq_ok_iff {bytes : List UInt8} :
    decode bytes = .ok code ↔ ∃ packed, scan 0 bytes = .ok packed ∧
      Retargeted (Spans code) 0 code packed := by
  simp only [decode, bind_eq_ok_iff, retarget_eq_ok_iff, toInstructions_eq_ok_iff]
  -- instructions start at the same bytes in both programs, so that `Spans` is about either
  refine exists_congr fun packed => and_congr_right fun _ => ⟨fun related => ?_, fun related => ?_⟩
  · exact related.symm.mono fun place count bytes spans =>
      (related.spans_iff place count bytes).mpr spans
  · exact related.symm.mono fun place bytes count spans =>
      (related.spans_iff place count bytes).mpr spans

/-- What was packed unpacks as it was. -/
theorem decode_of_encode {bytes : List UInt8} (encoded : encode code = .ok bytes) :
    decode bytes = .ok code := by
  obtain ⟨packed, related, rfl⟩ := encode_eq_ok_iff.mp encoded
  exact decode_eq_ok_iff.mpr ⟨packed, scan_flatMap 0 packed, related⟩

theorem fits_of_encode {bytes : List UInt8} (encoded : encode code = .ok bytes)
    (skip : skipAt? code position = some distance) : Fits code position distance := by
  obtain ⟨packed, related, _⟩ := encode_eq_ok_iff.mp encoded
  obtain ⟨bytes, spans⟩ := related.exists_of_skipAt? position skip
  rw [Nat.zero_add] at spans
  exact exists_toBytes_iff.mp ⟨bytes, toBytes_eq_ok_iff.mpr spans⟩

/-- Packing refuses a program for the first of its skips that does not fit. -/
theorem misfit_of_encode {error : PackError} (refused : encode code = .error error) :
    ∃ position distance, skipAt? code position = some distance ∧
      Misfit code position distance error ∧
      ∀ earlier < position, ∀ distance, skipAt? code earlier = some distance →
        Fits code earlier distance := by
  simp only [encode, bind_eq_error_iff, pure, Except.pure, reduceCtorEq, and_false, exists_false,
    or_false] at refused
  simpa only [Nat.zero_add, exists_toBytes_iff, toBytes_eq_error_iff]
    using first_of_retarget_error refused

theorem Misfit.not_fits {error : PackError} (misfit : Misfit code position distance error) :
    ¬Fits code position distance := by
  intro fits
  obtain ⟨bytes, converted⟩ := exists_toBytes_iff.mpr fits
  cases converted.symm.trans (toBytes_eq_error_iff.mpr misfit)

/-- Packing succeeds exactly when every skip fits, is undone by unpacking, and otherwise names
the first skip that does not fit and what is wrong with it. -/
theorem encode_exact (code : List Instruction) :
    ((∃ bytes, encode code = .ok bytes) ↔
      ∀ position distance, skipAt? code position = some distance →
        Fits code position distance) ∧
    (∀ bytes, encode code = .ok bytes → decode bytes = .ok code) ∧
    ∀ error, encode code = .error error →
      ∃ position distance, skipAt? code position = some distance ∧
        Misfit code position distance error ∧
        ∀ earlier < position, ∀ distance, skipAt? code earlier = some distance →
          Fits code earlier distance := by
  refine ⟨⟨?_, ?_⟩, fun bytes => decode_of_encode, fun error => misfit_of_encode⟩
  · rintro ⟨bytes, encoded⟩ position distance skip
    exact fits_of_encode encoded skip
  · intro every
    cases encoded : encode code with
    | ok bytes => exact ⟨bytes, rfl⟩
    | error failure =>
        obtain ⟨position, distance, skip, misfit, _⟩ := misfit_of_encode encoded
        exact absurd (every position distance skip) misfit.not_fits

theorem encode_exact_backward_skip :
    encode [.loadImmediate .r1 7, .skipIfOdd .r1 (-2), .done] =
      .ok [0xCC, 0x10, 7, 0xC4, 0x10, 0xFA, 0] ∧
    decode [0xCC, 0x10, 7, 0xC4, 0x10, 0xFA, 0] =
      .ok [.loadImmediate .r1 7, .skipIfOdd .r1 (-2), .done] :=
  have encoded : encode [.loadImmediate .r1 7, .skipIfOdd .r1 (-2), .done] =
      .ok [0xCC, 0x10, 7, 0xC4, 0x10, 0xFA, 0] := by decide
  ⟨encoded, (encode_exact _).2.1 _ encoded⟩

/-- Places of the selector bytes that name one register, in the bytes of a program. -/
def looseSelectors (start : Nat) : List Instruction → List Nat
  | [] => []
  | instruction :: rest =>
      (if instruction.namesOneRegister then [start + 1] else []) ++
        looseSelectors (start + instruction.packedLength) rest

/-- The bytes with the nibbles blanked that nothing reads, the first byte being at `start`. -/
def blank (code : List Instruction) (start : Nat) (bytes : List UInt8) : List UInt8 :=
  bytes.mapIdx fun place byte =>
    if start + place ∈ looseSelectors start code then byte &&& 0xF0 else byte

theorem start_lt_of_mem_looseSelectors {start place : Nat}
    (loose : place ∈ looseSelectors start code) : start < place := by
  induction code generalizing start with
  | nil => cases loose
  | cons instruction rest induction =>
      rcases List.mem_append.mp loose with here | later
      · split at here
        · obtain rfl := List.mem_singleton.mp here
          exact Nat.lt_succ_self start
        · cases here
      · have after := induction later
        omega

theorem Retargeted.looseSelectors_eq {relates : (position : Nat) → Int8 → Int8 → Prop}
    {others : List Instruction} (related : Retargeted relates position code others)
    (start : Nat) : looseSelectors start others = looseSelectors start code := by
  induction related generalizing start with
  | nil => rfl
  | kept _ _ induction => simp [looseSelectors, induction]
  | moved _ _ _ induction =>
      simp [looseSelectors, induction, packedLength_withDistance, namesOneRegister_withDistance]

theorem mem_looseSelectors_cons {instruction : Instruction} {start place : Nat}
    {rest : List Instruction} :
    start + place ∈ looseSelectors start (instruction :: rest) ↔
      instruction.namesOneRegister ∧ place = 1 ∨
        start + place ∈ looseSelectors (start + instruction.packedLength) rest := by
  rw [looseSelectors, List.mem_append]
  split <;> simp [*]

/-- Blanking goes instruction by instruction. -/
theorem blank_cons {instruction : Instruction} {rest : List Instruction} {start : Nat}
    {bytes later : List UInt8} (own : instruction.bytes = instruction.tidy bytes) :
    blank (instruction :: rest) start (bytes ++ later) =
      instruction.bytes ++ blank rest (start + instruction.packedLength) later := by
  have length : instruction.packedLength = bytes.length := by
    rw [packedLength, own, tidy, List.length_mapIdx]
  have long := instruction.two_le_packedLength
  rw [blank, List.mapIdx_append, own]
  congr 1
  · refine List.mapIdx_eq_mapIdx_iff.mpr fun place inside => ?_
    have before : start + place ∉ looseSelectors (start + instruction.packedLength) rest := by
      intro loose
      have after := start_lt_of_mem_looseSelectors loose
      omega
    simp only [mem_looseSelectors_cons, before, or_false]
  · refine List.mapIdx_eq_mapIdx_iff.mpr fun place inside => ?_
    have shifted : start + (place + bytes.length) = start + instruction.packedLength + place := by
      omega
    have beyond : ¬(instruction.namesOneRegister ∧ place + bytes.length = 1) := by
      rintro ⟨one, same⟩
      have long := long one
      omega
    simp only [mem_looseSelectors_cons, beyond, false_or]
    rw [shifted]

/-- A program read from bytes has those bytes, once blanked. -/
theorem flatMap_of_reads {bytes : List UInt8} (read : Reads bytes code) (start : Nat) :
    code.flatMap Instruction.bytes = blank code start bytes := by
  induction read generalizing start with
  | nil => rfl
  | cons own _ induction => rw [List.flatMap_cons, blank_cons own, ← induction]

/-- Whatever unpacks packs again, into its bytes with the nibbles blanked that nothing reads. -/
theorem encode_of_decode {bytes : List UInt8} (decoded : decode bytes = .ok code) :
    encode code = .ok (blank code 0 bytes) := by
  obtain ⟨packed, scanned, related⟩ := decode_eq_ok_iff.mp decoded
  refine encode_eq_ok_iff.mpr ⟨packed, related, ?_⟩
  rw [flatMap_of_reads (reads_of_scan scanned) 0, blank, blank, related.looseSelectors_eq]

theorem ofFields_ne_skipTooFar (opcode selector operand : UInt8) (offset position : Nat) :
    ofFields opcode selector operand offset ≠ .error (.skipTooFar position) := by
  intro refused
  unfold ofFields at refused
  dsimp only at refused
  split at refused <;>
    simp only [bind_eq_error_iff, elim_eq_error_iff, pure, Except.pure, reduceCtorEq, and_false,
      exists_false, or_false, Except.error.injEq] at refused

theorem scan_ne_skipTooFar (offset : Nat) (bytes : List UInt8) (position : Nat) :
    scan offset bytes ≠ .error (.skipTooFar position) := by
  fun_induction scan offset bytes with
  | case1 | case2 | case3 | case8 => simp
  | case4 | case5 | case6 | case7 =>
      rename_i induction
      simp [bind_eq_error_iff, ofFields_ne_skipTooFar, induction, pure, Except.pure]

/-- No skip is longer in instructions than in bytes, so a distance in instructions fits. -/
theorem toInstructions_ne_skipTooFar {position : Nat} (inside : position < code.length)
    (bytes : Int8) (other : Nat) :
    toInstructions code (offsets 0 code) position bytes ≠ .error (.skipTooFar other) := by
  intro refused
  simp only [toInstructions] at refused
  split at refused
  case h_1 => cases refused
  case h_2 target landed =>
    obtain ⟨landed, reached⟩ := (findIdx?_offsets_eq_some_iff code _ target).mp landed
    have low := bytes.le_toInt
    have high := bytes.toInt_lt
    split at refused
    case h_1 wide =>
      have apart : (target : Int) - (position + 1) < -128 ∨ 127 < (target : Int) - (position + 1) :=
        narrow?_eq_none_iff.mp wide
      -- every instruction has a byte, so that the distance in bytes, which fits, is the longer
      rcases Nat.le_total (position + 1) target with forward | backward
      · have grows := sizeBefore_add_le code (position + 1) (target - (position + 1)) (by omega)
        rw [Nat.add_sub_cancel' forward] at grows
        omega
      · have grows := sizeBefore_add_le code target (position + 1 - target) (by omega)
        rw [Nat.add_sub_cancel' backward] at grows
        omega
    case h_2 => cases refused

theorem decode_ne_skipTooFar (bytes : List UInt8) (position : Nat) :
    decode bytes ≠ .error (.skipTooFar position) := by
  rw [decode, ne_eq, bind_eq_error_iff]
  rintro (refused | ⟨packed, _, refused⟩)
  · exact scan_ne_skipTooFar 0 bytes position refused
  · obtain ⟨place, distance, skip, refused, _⟩ := first_of_retarget_error refused
    rw [Nat.zero_add] at refused
    exact toInstructions_ne_skipTooFar (inside_of_skipAt? skip) distance position refused

/-- Whatever bytes unpack, the program packs again into as many bytes that unpack alike; only
the low nibbles of selectors that name one register can be lost.  No bytes are refused for a
skip that is too far. -/
theorem decode_exact (bytes : List UInt8) :
    (∀ code, decode bytes = .ok code →
      ∃ again, encode code = .ok again ∧ again.length = bytes.length ∧
        decode again = .ok code ∧
        (∀ place, again[place]? = bytes[place]?.map fun byte =>
          if place ∈ looseSelectors 0 code then byte &&& 0xF0 else byte) ∧
        ((∀ place ∈ looseSelectors 0 code, ∀ byte ∈ bytes[place]?, byte &&& 0x0F = 0) →
          again = bytes)) ∧
    ∀ position, decode bytes ≠ .error (.skipTooFar position) := by
  refine ⟨fun code decoded => ?_, decode_ne_skipTooFar bytes⟩
  have encoded := encode_of_decode decoded
  have place (place : Nat) : (blank code 0 bytes)[place]? = bytes[place]?.map fun byte =>
      if place ∈ looseSelectors 0 code then byte &&& 0xF0 else byte := by
    simp only [blank, List.getElem?_mapIdx, Nat.zero_add]
  refine ⟨blank code 0 bytes, encoded, List.length_mapIdx, decode_of_encode encoded, place, ?_⟩
  intro clear
  refine List.ext_getElem? fun index => ?_
  rw [place]
  cases present : bytes[index]? with
  | none => rfl
  | some byte =>
      rw [Option.map_some]
      split
      case isTrue loose => rw [high_of_low_clear (clear index loose byte present)]
      case isFalse => rfl

theorem decode_exact_loose_nibble :
    decode [0xC4, 0x13, 1, 0, 0] = .ok [.skipIfOdd .r1 1, .done, .done] ∧
    ∃ again, encode [.skipIfOdd .r1 1, .done, .done] = .ok again ∧ again.length = 5 ∧
      decode again = .ok [.skipIfOdd .r1 1, .done, .done] ∧ again[1]? = some 0x10 :=
  have decoded : decode [0xC4, 0x13, 1, 0, 0] = .ok [.skipIfOdd .r1 1, .done, .done] := by decide +kernel
  have ⟨again, encoded, length, back, place, _⟩ := (decode_exact _).1 _ decoded
  ⟨decoded, again, encoded, length, back, place 1⟩

end TripComputer.Packed
