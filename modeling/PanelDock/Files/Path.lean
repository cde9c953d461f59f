/-!
# Paths as texts

A path is kept as the text that was given. Its parts stand between slashes; empty parts and dots
count for nothing, except a dot in front. Cutting a path at its end leaves the rest of the text as
it was.
-/

namespace PanelDock.Path

/-- Splits a text at its slashes. -/
def split : List Char → List (List Char)
  | [] => [[]]
  | c :: rest =>
    if c = '/' then [] :: split rest
    else match split rest with
      | [] => [[c]]
      | part :: parts => (c :: part) :: parts

/-- Joins parts with slashes. -/
def join : List (List Char) → List Char
  | [] => []
  | [part] => part
  | part :: parts => part ++ '/' :: join parts

/-- Whether the path starts at the root. -/
def isAbsolute (path : String) : Bool := path.toList.head? == some '/'

/-- Whether a part of a path counts for nothing. -/
def isHollow (part : List Char) : Bool := part == [] || part == ['.']

/-- The parts of a path, the last first, without those at its end that count for nothing. What
stands in front always counts. -/
def trimmedParts (path : String) : List (List Char) :=
  match (split path.toList).reverse with
  | [] => []
  | parts => match parts.dropWhile isHollow with
    | [] => parts.drop (parts.length - 1)
    | counted => counted

/-- The text of parts that stand last first; what is left of an absolute path is at least the root.
-/
def ofParts (parts : List (List Char)) : List Char :=
  let kept := match parts.dropWhile isHollow with
    | [] => parts.drop (parts.length - 1)
    | counted => counted
  match kept with
  | [[]] => ['/']
  | _ => join kept.reverse

/-- The name at the end of a path. The root, a dot and two dots are no names. -/
def fileName? (path : String) : Option String :=
  match trimmedParts path with
  | name :: _ => if isHollow name || name == ['.', '.'] then none else some (String.ofList name)
  | [] => none

/-- The path of the folder that a path lies in; the root and the empty path lie in none. -/
def parent? (path : String) : Option String :=
  match trimmedParts path with
  | [] => none
  | [part] => if part = [] then none else some ""
  | _ :: parts => some (String.ofList (ofParts parts))

/-- The path with a name added at its end. -/
def push (path name : String) : String :=
  if path.isEmpty || path.toList.getLast? == some '/' then path ++ name else path ++ "/" ++ name

/-- The path with another name at its end. -/
def withFileName (path name : String) : String :=
  match fileName? path with
  | none => push path name
  | some _ => push ((parent? path).getD "") name

/-- The path of the temporary file beside a file. -/
def temporary (path : String) : String := withFileName path ((fileName? path).getD "" ++ ".tmp")

example : temporary "/state/panels.json" = "/state/panels.json.tmp" := by decide +kernel
example : temporary "a/.." = "a/../.tmp" := by decide +kernel
example : temporary "a//b/./" = "a/b.tmp" := by decide +kernel

end PanelDock.Path
