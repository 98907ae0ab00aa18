import Retained.Bytes

/-!
# The checksum CRC-32

The cyclic redundancy check of IEEE 802.3, bits taken low end first: the register starts with all
ones, each byte is added to its low end and shifted out bit by bit, and the result is
complemented.
-/

namespace Retained.Checksum

/-- The generator polynomial, its highest power at the low end. -/
def polynomial : UInt32 := 0xEDB88320

/-- Shifts one bit out of the register. -/
def shift (r : UInt32) : UInt32 := if r &&& 1 = 1 then (r >>> 1) ^^^ polynomial else r >>> 1

def shifts : Nat → UInt32 → UInt32
  | 0, r => r
  | n + 1, r => shifts n (shift r)

def feed (r : UInt32) (b : UInt8) : UInt32 := shifts 8 (r ^^^ b.toUInt32)

def crc32 (bs : Bytes) : UInt32 := bs.foldl feed 0xFFFFFFFF ^^^ 0xFFFFFFFF

end Retained.Checksum
