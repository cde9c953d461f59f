/-!
# Blank text

Which characters count as blank, and trimming them. The class is the Unicode property White_Space
(25 characters, unchanged since Unicode 6.3); the zero width space and the byte order mark are not
in it.
-/

namespace PanelDock.Text

/-- The White_Space code points as closed ranges, ascending and apart. -/
def blankRanges : List (Nat × Nat) :=
  [(0x09, 0x0D), (0x20, 0x20), (0x85, 0x85), (0xA0, 0xA0), (0x1680, 0x1680), (0x2000, 0x200A),
   (0x2028, 0x2029), (0x202F, 0x202F), (0x205F, 0x205F), (0x3000, 0x3000)]

/-- Whether a code point lies in one of the ranges. -/
def inRanges (ranges : List (Nat × Nat)) (n : Nat) : Bool :=
  ranges.any (fun r => r.1 ≤ n && n ≤ r.2)

/-- Whether the character is white space. -/
def isBlank (c : Char) : Bool := inRanges blankRanges c.toNat

/-- The characters without the blank ones in front. -/
def trimLeft (s : List Char) : List Char := s.dropWhile isBlank

/-- The characters without the blank ones at either end. -/
def trim (s : List Char) : List Char := (trimLeft (trimLeft s).reverse).reverse

/-- Whether a text holds nothing but white space. -/
def isBlankText (s : String) : Bool := s.toList.all isBlank

/-- Whether two texts agree when the letters A to Z are taken as small ones. -/
def sameLetters (s t : List Char) : Bool := s.map Char.toLower == t.map Char.toLower

/-- Splits a text at its line feeds. A carriage return before a line feed belongs to the line end,
and what follows the last line feed is a line only if there is something. -/
def lines : List Char → List (List Char)
  | [] => []
  | c :: rest =>
    if c = '\n' then [] :: lines rest
    else if c = '\r' ∧ rest.head? = some '\n' then lines rest
    else match lines rest with
      | [] => [[c]]
      | line :: others => (c :: line) :: others

example : lines "a\r\n\nb\r".toList = ["a".toList, [], "b\r".toList] := by decide

end PanelDock.Text
