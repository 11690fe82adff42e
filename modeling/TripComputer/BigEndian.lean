/-!
# Big-endian words

A 32-bit word as four bytes, most significant first.  Reading undoes writing.
-/

namespace TripComputer.BigEndian

/-- The four bytes of a word. -/
def encode (word : UInt32) : List UInt8 :=
  [(word >>> 24).toUInt8, (word >>> 16).toUInt8, (word >>> 8).toUInt8, word.toUInt8]

/-- The word that bytes spell, the first byte the most significant. -/
def decode (bytes : List UInt8) : UInt32 :=
  bytes.foldl (fun word byte => (word <<< 8) ||| byte.toUInt32) 0

@[simp]
theorem length_encode (word : UInt32) : (encode word).length = 4 := rfl

@[simp]
theorem decode_encode (word : UInt32) : decode (encode word) = word := by
  apply UInt32.toBitVec_inj.mp
  apply BitVec.eq_of_getLsbD_eq
  intro position bound
  simp only [encode, decode, List.foldl_cons, List.foldl_nil, UInt32.toBitVec_or,
    UInt32.toBitVec_shiftLeft, UInt8.toBitVec_toUInt32, UInt32.toBitVec_toUInt8,
    UInt32.toBitVec_shiftRight]
  by_cases first : position < 8
  · simp [first, bound]
  · by_cases second : position < 16
    · have low : position - 8 < 8 := by omega
      have place : 8 + (position - 8) = position := by omega
      simp [first, bound, low, place]
    · have past : ¬position - 8 < 8 := by omega
      by_cases third : position < 24
      · have low : position - 16 < 8 := by omega
        have place : 16 + (position - 16) = position := by omega
        simp [first, past, bound, low, place, Nat.sub_sub]
      · have above : ¬position - 16 < 8 := by omega
        have low : position - 24 < 8 := by omega
        have place : 24 + (position - 24) = position := by omega
        simp [first, past, above, bound, low, place, Nat.sub_sub]

end TripComputer.BigEndian
