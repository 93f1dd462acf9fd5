import Multipart.Part
import Multipart.Word

/-!
# Cutting content into parts

A plan divides content of a known length into numbered parts.  Every part has
the planned size except the last, which has what remains; content of length
zero is one empty part.  Lengths and positions are 64-bit words, and to tell
where a part stops breaks off when no word can tell it.
-/

namespace Multipart

/-- A half-open range of byte positions. -/
structure ByteRange where
  start : UInt64
  stop : UInt64
deriving DecidableEq

namespace ByteRange

/-- The number of positions in a range. -/
def length (range : ByteRange) : Nat :=
  (range.stop - range.start).toNat

end ByteRange

/-- How content of a known length is divided. -/
structure Plan where
  contentLength : UInt64
  partSize : UInt64
  partCount : UInt32
deriving DecidableEq

namespace Plan

/-- The largest part the service takes: five gibibytes. -/
def maxPartSize : UInt64 := 5 * 1024 * 1024 * 1024

/-- The most parts one upload may have. -/
def maxPartCount : UInt32 := 10000

/-- The part size of an uploader that was given none: eight mebibytes. -/
def defaultPartSize : UInt64 := 8 * 1024 * 1024

/-- The quotient rounded up, never less than one. -/
def partsNeeded (contentLength partSize : Nat) : Nat :=
  max 1 ((contentLength + (partSize - 1)) / partSize)

/--
The plan for a length and a part size.  A part size of zero is read as one,
and a count beyond 32 bits is the largest 32-bit count.
-/
def ofLength (contentLength partSize : UInt64) : Plan :=
  let size := if partSize = 0 then 1 else partSize
  let count := partsNeeded contentLength.toNat size.toNat
  { contentLength
    partSize := size
    partCount := UInt32.ofNat (min count (UInt32.size - 1)) }

/-- Holds for the numbers from one to the part count. -/
def contains (plan : Plan) (number : PartNumber) : Bool :=
  1 ≤ number.value && number.value ≤ plan.partCount

/--
The positions of the content that go in a part of the plan.  Where the part
stops is computed first as if the content went on after it.
-/
def range? (plan : Plan) (number : PartNumber) :
    Except Panic (Option ByteRange) :=
  if plan.contains number then do
    let start ← Word.mul (number.value - 1).toUInt64 plan.partSize
    let stop ← Word.add start plan.partSize.toNat
    let stop := min stop plan.contentLength
    return some { start := min start stop, stop }
  else
    return none

/-- The first numbers of the plan in order, at most `limit` of them. -/
def firstNumbers (plan : Plan) (limit : Nat) : List PartNumber :=
  (List.range (min limit plan.partCount.toNat)).map
    fun index => PartNumber.ofNat (index + 1)

/-- The numbers of the plan in order. -/
def numbers (plan : Plan) : List PartNumber :=
  plan.firstNumbers plan.partCount.toNat

end Plan

end Multipart
