import PanelDock.Action.Codec
import PanelDock.Json.Printer
import PanelDock.Json.Reader
import PanelDock.Text.Blank
/-!
# Scripts

A script has an action in JSON on each line. Blank lines and lines that start with a number sign are
passed over. The actions that introduce panels are carried out first, so that saved panels are put
over them.
-/

namespace PanelDock.Script

variable {α : Type}

/-- What a line says: nothing, an action, or something else. -/
inductive Reading (α : Type) where
  | nothing
  | action (a : Action α)
  | malformed

/-- Reads a line. -/
def readLine (number : Json.Codec α) (line : List Char) : Reading α :=
  match Text.trim line with
  | [] => .nothing
  | '#' :: _ => .nothing
  | text => match Json.read? (String.ofList text) >>= (Action.codec number).decode? with
    | some action => .action action
    | none => .malformed

/-- Reads lines, the first of which has the number `count`. -/
def readLines (number : Json.Codec α) (count : Nat) :
    List (List Char) → Except Nat (List (Action α))
  | [] => .ok []
  | line :: rest => match readLine number line with
    | .malformed => .error count
    | .nothing => readLines number (count + 1) rest
    | .action action => (readLines number (count + 1) rest).map (action :: ·)

/-- The actions of a script, or the number of the first line that is none. -/
def read (number : Json.Codec α) (source : String) : Except Nat (List (Action α)) :=
  readLines number 1 (Text.lines source.toList)

/-- What is said of a line that is no action. -/
def faultText (line : Nat) : String := s!"script line {line}"

/-- The actions that introduce panels, and the others. -/
def split (actions : List (Action α)) : List (Action α) × List (Action α) :=
  actions.partition Action.isRegistration

end PanelDock.Script
