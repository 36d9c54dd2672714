/-!
# Blanks

Which characters count as blank when a text is trimmed, and trimming itself. Blanks are the ASCII
spaces and the separators U+001C to U+001F, the next-line mark, the no-break spaces and the spaces
of the general punctuation block.

* `head?_trimStart`: what is left starts with no blank.
-/

namespace SubpathCsi.Text

/-- Ranges of blank code points, in increasing order, both ends included. -/
def blankRanges : List (Nat × Nat) :=
  [(0x9, 0xD), (0x1C, 0x20), (0x85, 0x85), (0xA0, 0xA0), (0x1680, 0x1680), (0x2000, 0x200A),
   (0x2028, 0x2029), (0x202F, 0x202F), (0x205F, 0x205F), (0x3000, 0x3000)]

/-- `c` is a blank. -/
def isBlank (c : Char) : Bool :=
  blankRanges.any fun r => r.1 ≤ c.toNat && c.toNat ≤ r.2

/-- The text without the blanks it starts with. -/
def trimStart (cs : List Char) : List Char := cs.dropWhile isBlank

/-- The text without the blanks it ends with. -/
def trimEnd (cs : List Char) : List Char := (cs.reverse.dropWhile isBlank).reverse

/-- The text without the blanks around it. -/
def trim (cs : List Char) : List Char := trimEnd (trimStart cs)

/-- A trimmed text starts with no blank. -/
theorem head?_trimStart {cs : List Char} {c : Char} (h : (trimStart cs).head? = some c) :
    isBlank c = false := by
  have := List.head?_dropWhile_not isBlank cs
  rw [trimStart] at h
  rw [h] at this
  simpa using this

end SubpathCsi.Text

namespace SubpathCsi

/-- A string without the blanks around it. -/
def trimmed (s : String) : String := String.ofList (Text.trim s.toList)

end SubpathCsi
