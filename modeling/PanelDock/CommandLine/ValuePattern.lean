import PanelDock.Pattern.Reader
import PanelDock.Pattern.Usable
/-!
# Patterns for values

A log filter may ask for fields whose values fit a pattern: a truth value, a number or a regular
expression. No line of this program is chosen by the value of a field, so only the form of a pattern
matters: a filter with a pattern that is none is no filter.
-/

namespace PanelDock.Log.ValuePattern

open Pattern (Expr)

/-- Whether the text is a number with a plus sign. As an expression it would repeat nothing; every
other number and both truth values are expressions too. -/
def isPlusNumber : List Char → Bool
  | '+' :: rest =>
    let whole := rest.takeWhile Char.isDigit
    let (fraction, others) := match rest.dropWhile Char.isDigit with
      | '.' :: more => (more.takeWhile Char.isDigit, more.dropWhile Char.isDigit)
      | others => ([], others)
    let scaled := match others with
      | [] => true
      | e :: more =>
        let digits := match more with
          | '+' :: digits => digits
          | '-' :: digits => digits
          | digits => digits
        (e = 'e' || e = 'E') && !digits.isEmpty && digits.all Char.isDigit
    !(whole.isEmpty && fraction.isEmpty) && scaled ||
      ["inf", "infinity", "nan"].any (fun name => Text.sameLetters rest name.toList)
  | _ => false

/-- Whether the text is a pattern for a value. -/
def isPattern (s : List Char) : Bool := isPlusNumber s || (Expr.ofText? s).any Expr.isUsable

example : isPattern "no(te)?s|[a-z0-9]+".toList = true := by decide +kernel
example : isPattern "*".toList = false ∧ isPattern "(a".toList = false := by decide +kernel

end PanelDock.Log.ValuePattern
