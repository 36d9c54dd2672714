/-!
# Cyclic checksum

The 32-bit cyclic redundancy check with the reflected polynomial `0xEDB88320`, over the octets of
a text.
-/

namespace SubpathCsi.Checksum

/-- One bit of the division by the polynomial. -/
def shift (r : UInt32) : UInt32 :=
  if r &&& 1 = 1 then (r >>> 1) ^^^ 0xEDB88320 else r >>> 1

/-- One octet of the division by the polynomial. -/
def absorb (r : UInt32) (b : UInt8) : UInt32 :=
  (List.range 8).foldl (fun r _ => shift r) (r ^^^ b.toUInt32)

/-- The checksum of a list of octets. -/
def ofOctets (bs : List UInt8) : UInt32 := bs.foldl absorb 0xFFFFFFFF ^^^ 0xFFFFFFFF

/-- The checksum of the octets of a string. -/
def ofString (s : String) : UInt32 := ofOctets s.toUTF8.toList

end SubpathCsi.Checksum
