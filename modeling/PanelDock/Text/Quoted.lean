import PanelDock.Text.Combining
import PanelDock.Text.Unassigned
/-!
# Quoted text

How a text is shown inside quotes when a value is inspected: quotes and backslashes are escaped, the
common control characters have a letter, and a character that a reader could not see, or could not
tell from its neighbours, is written by its code point.
-/

namespace PanelDock.Text

/-- The characters that leave no mark, as closed ranges of code points, ascending and apart:
controls, spaces and separators other than the plain space, format characters, private use, and the
fillers of Hangul syllables. -/
def blindRanges : List (Nat × Nat) :=
  [(0x00, 0x1F), (0x7F, 0xA0), (0xAD, 0xAD), (0x600, 0x605), (0x61C, 0x61C), (0x6DD, 0x6DD),
   (0x70F, 0x70F), (0x890, 0x891), (0x8E2, 0x8E2), (0x115F, 0x1160), (0x1680, 0x1680),
   (0x180E, 0x180E), (0x2000, 0x200F), (0x2028, 0x202F), (0x205F, 0x2064), (0x2066, 0x206F),
   (0x3000, 0x3000), (0x3164, 0x3164), (0xE000, 0xF8FF), (0xFEFF, 0xFEFF), (0xFFA0, 0xFFA0),
   (0xFFF9, 0xFFFB), (0x110BD, 0x110BD), (0x110CD, 0x110CD), (0x13430, 0x1343F),
   (0x1BCA0, 0x1BCA3), (0x1D173, 0x1D17A), (0xE0001, 0xE0001), (0xE0020, 0xE007F),
   (0xF0000, 0xFFFFD), (0x100000, 0x10FFFD)]

/-- Whether a character shows by itself: it leaves a mark, the mark is its own and not one on the
character before, and the code point is assigned. Below the first combining mark all code points are
assigned. -/
def shows (c : Char) : Bool :=
  !inRanges blindRanges c.toNat && (c.toNat < 0x300 || !isCombining c && !isUnassigned c)

/-- The digits of a code point in base sixteen, small letters, no leading zero. -/
def codePointDigits (c : Char) : List Char := Nat.toDigits 16 c.toNat

/-- How one character stands inside quotes. -/
def quotedChar (c : Char) : List Char :=
  if c = '"' then ['\\', '"']
  else if c = '\\' then ['\\', '\\']
  else if c = '\n' then ['\\', 'n']
  else if c = '\r' then ['\\', 'r']
  else if c = '\t' then ['\\', 't']
  else if c = '\x00' then ['\\', '0']
  else if shows c then [c]
  else ['\\', 'u', '\x7b'] ++ codePointDigits c ++ ['\x7d']

/-- The text in quotes. -/
def quoted (s : String) : String :=
  String.ofList ('"' :: s.toList.flatMap quotedChar ++ ['"'])

example : quoted "a\"b\u200b" = "\"a\\\"b\\u\x7b200b\x7d\"" := by decide +kernel

end PanelDock.Text
