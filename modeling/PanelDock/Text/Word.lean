import PanelDock.Text.Alphabetic
import PanelDock.Text.Numeric
/-!
# Characters of words

The letters, digits and numbers of any script taken together.
-/

namespace PanelDock.Text

/-- Whether the character is a letter, a digit or a number. -/
def isWord (c : Char) : Bool := isAlphabetic c || isNumeric c

example : isWord 'Z' = true ∧ isWord '²' = true ∧ isWord '→' = false := by decide +kernel

end PanelDock.Text
