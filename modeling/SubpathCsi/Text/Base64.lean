/-!
# Base 64

Octets as text of 64 letters, three octets to four letters, with `=` to fill the last group.
`encode` writes and `decode?` reads.
-/

namespace SubpathCsi.Base64

/-- The letters for 0 to 63, in order. -/
def letters : List Char :=
  "ABCDEFGHIJKLMNOPQRSTUVWXYZabcdefghijklmnopqrstuvwxyz0123456789+/".toList

/-- The letter for `n`. -/
def letter (n : Nat) : Char := letters.getD (n % 64) 'A'

/-- The number of a letter. -/
def value? (c : Char) : Option Nat := letters.idxOf? c

/-- The letters for a list of octets. -/
def encode : List UInt8 → List Char
  | [] => []
  | [a] =>
    let n := a.toNat * 16
    [letter (n / 64), letter n, '=', '=']
  | [a, b] =>
    let n := (a.toNat * 256 + b.toNat) * 4
    [letter (n / 4096), letter (n / 64), letter n, '=']
  | a :: b :: c :: rest =>
    let n := (a.toNat * 256 + b.toNat) * 256 + c.toNat
    letter (n / 262144) :: letter (n / 4096) :: letter (n / 64) :: letter n :: encode rest

/-- The octets that a list of letters stands for; a group that is cut short or holds a character
that is no letter is refused. -/
def decode? : List Char → Option (List UInt8)
  | [] => some []
  | [a, b, '=', '='] => do
    let n := (← value? a) * 64 + (← value? b)
    return [UInt8.ofNat (n / 16)]
  | [a, b, c, '='] => do
    let n := ((← value? a) * 64 + (← value? b)) * 64 + (← value? c)
    return [UInt8.ofNat (n / 1024), UInt8.ofNat (n / 4)]
  | a :: b :: c :: d :: rest => do
    let n := (((← value? a) * 64 + (← value? b)) * 64 + (← value? c)) * 64 + (← value? d)
    return UInt8.ofNat (n / 65536) :: UInt8.ofNat (n / 256) :: UInt8.ofNat n :: (← decode? rest)
  | _ => none

/-- The octets of a string. -/
def octets (s : String) : List UInt8 := s.toUTF8.toList

/-- The octets of a string, written with letters. -/
def ofString (s : String) : String := String.ofList (encode (octets s))

/-- The string whose octets are written with letters. -/
def toString? (s : String) : Option String := do
  let bytes ← decode? s.toList
  String.fromUTF8? (ByteArray.mk bytes.toArray)

end SubpathCsi.Base64
