import TripComputer.BigEndian
import TripComputer.Trip

/-!
# Saved trips

The byte image of a trip: the time it was saved, eight counter words and a signature byte,
thirty-seven bytes in all.  The wide counters are split into a low and a high word.
-/

namespace TripComputer.Trip

/-- Bytes of an image. -/
abbrev imageLength : Nat := 4 + 8 * 4 + 1

/-- Last byte of a valid image. -/
def signature : UInt8 := 0xB7

/-- Low and high word of a wide counter. -/
def split (counter : UInt64) : List UInt32 :=
  [counter.toUInt32, (counter >>> 32).toUInt32]

/-- The wide counter with the given low and high word. -/
def join (low high : UInt32) : UInt64 :=
  low.toUInt64 ||| (high.toUInt64 <<< 32)

/-- The eight words of a trip. -/
def words (trip : Trip) : List UInt32 :=
  [trip.vssPulses, trip.injectorPulses] ++ split trip.vssCycles ++ split trip.injectorCycles
    ++ split trip.injectorOpenCycles

/-- The image of a trip saved at a time in seconds. -/
def encode (trip : Trip) (timestamp : UInt32) : List UInt8 :=
  (timestamp :: trip.words).flatMap BigEndian.encode ++ [signature]

/-- Word `position` of an image. -/
def wordAt (image : List UInt8) (position : Nat) : UInt32 :=
  BigEndian.decode ((image.drop (4 * position)).take 4)

/-- Time and trip of an image; none when its last byte is not the signature. -/
def decode? (image : List UInt8) : Option (UInt32 × Trip) :=
  if image[imageLength - 1]? = some signature then
    let word := wordAt image
    some (word 0,
      { vssPulses := word 1
        injectorPulses := word 2
        vssCycles := join (word 3) (word 4)
        injectorCycles := join (word 5) (word 6)
        injectorOpenCycles := join (word 7) (word 8) })
  else none

end TripComputer.Trip
