import DocLint.Text.Basic

/-!
# Paths: file names as sequences of components

A path is kept as the text it was written as. What it means is its list of components: the
root, a leading dot, `..` and names. Repeated separators and dots inside a path mean nothing,
so `a//b`, `a/./b` and `a/b/` have the components of `a/b`, and paths are compared by their
components and not by their text.

Operations that cut a path (`parent?`, `relativeTo?`) keep the text of what they leave, apart
from separators and dots at the cut.
-/

namespace DocLint

open Text

namespace Path

/-- A step of a path. -/
inductive Component where
  /-- The root of the file system. -/
  | root
  /-- A dot at the start of a path. -/
  | here
  /-- The step to the directory above. -/
  | up
  /-- The step to an entry with a name. -/
  | name (text : List Char)
deriving DecidableEq, Repr

/-- The rank of a component among components of other kinds. -/
def Component.rank : Component → Nat
  | root => 0
  | here => 1
  | up => 2
  | name _ => 3

/-- Order of components: root, dot, `..`, and names by their text. -/
def Component.compare : Component → Component → Ordering
  | name a, name b => compareText a b
  | a, b => Ord.compare a.rank b.rank

/-- Order of component lists, the first difference deciding. -/
def compareComponents : List Component → List Component → Ordering
  | [], [] => .eq
  | [], _ :: _ => .lt
  | _ :: _, [] => .gt
  | a :: as, b :: bs => (a.compare b).then (compareComponents as bs)

/-! ## The parts of the text -/

/-- The text of a path, cut at its separators. -/
structure Parts where
  /-- Does the path start at the root? -/
  absolute : Bool
  /-- What stands between the separators, after the one of the root. -/
  pieces : List (List Char)
deriving DecidableEq, Repr

/-- The parts of a text. -/
def Parts.ofText : List Char → Parts
  | '/' :: rest => ⟨true, splitAt '/' rest⟩
  | s => ⟨false, splitAt '/' s⟩

/-- The text of parts. -/
def Parts.text (p : Parts) : List Char :=
  (if p.absolute then ['/'] else []) ++ join ['/'] p.pieces

/-- Does the piece stand for no step, unless it is a leading dot? -/
def isIdle (piece : List Char) : Bool := piece = [] || piece = ['.']

/-- The component of a piece inside a path. -/
def componentOf (piece : List Char) : Component :=
  if piece = ['.', '.'] then .up else .name piece

/-- Does the path start with a dot that is kept? -/
def Parts.startsHere (p : Parts) : Bool := !p.absolute && p.pieces.head? = some ['.']

/-- The steps in front of the pieces that may be idle, and those pieces. -/
def Parts.front (p : Parts) : List Component × List (List Char) :=
  if p.absolute then ([.root], p.pieces)
  else if p.startsHere then ([.here], p.pieces.tail)
  else ([], p.pieces)

/-- The components of parts. -/
def Parts.components (p : Parts) : List Component :=
  p.front.1 ++ (p.front.2.filter (!isIdle ·)).map componentOf

/-- The components of a path. -/
def components (path : String) : List Component := (Parts.ofText path.toList).components

/-- Order of paths by their components. -/
def compare (a b : String) : Ordering := compareComponents (components a) (components b)

/-- Is the path absolute? -/
def isAbsolute (path : String) : Bool := path.toList.head? = some '/'

/-! ## Cutting and joining -/

/-- Drop idle pieces at the end. -/
def dropIdleEnd (pieces : List (List Char)) : List (List Char) :=
  (pieces.reverse.dropWhile isIdle).reverse

/-- The parts without idle pieces at the end; a leading dot stays. -/
def Parts.trimmed (p : Parts) : Parts :=
  if p.startsHere then { p with pieces := ['.'] :: dropIdleEnd p.pieces.tail }
  else { p with pieces := dropIdleEnd p.pieces }

/-- The parts without the last step. The root and the empty path have nothing to drop. -/
def Parts.parent? (p : Parts) : Option Parts :=
  let p := p.trimmed
  if p.pieces.isEmpty then none
  else if p.startsHere && p.pieces.length = 1 then some ⟨false, []⟩
  else some ({ p with pieces := p.pieces.dropLast }).trimmed

/-- The path without its last step. -/
def parent? (path : String) : Option String :=
  (Parts.ofText path.toList).parent?.map fun p => String.ofList p.text

/-- The ancestors of parts: themselves, and what is left by dropping one step after another.
The number of steps bounds their number. -/
def Parts.ancestors : Nat → Parts → List Parts
  | 0, p => [p]
  | n + 1, p =>
      match p.parent? with
      | none => [p]
      | some q => p :: Parts.ancestors n q

/-- The path itself and the paths left by dropping one step after another. -/
def ancestors (path : String) : List String :=
  let parts := Parts.ofText path.toList
  match Parts.ancestors (parts.pieces.length + 1) parts with
  | [] => [path]
  | _ :: above => path :: above.map fun p => String.ofList p.text

/-- Drop idle pieces at the start. -/
def dropIdleStart (pieces : List (List Char)) : List (List Char) := pieces.dropWhile isIdle

/-- Drop the pieces of the first `n` steps. -/
def dropSteps : Nat → List (List Char) → List (List Char)
  | 0, pieces => pieces
  | _ + 1, [] => []
  | n + 1, piece :: more => if isIdle piece then dropSteps (n + 1) more else dropSteps n more

/-- The rest of a path below `base`, if its components start with those of `base`. -/
def relativeTo? (base path : String) : Option String :=
  let parts := Parts.ofText path.toList
  let steps := components base
  if steps.isPrefixOf parts.components then
    if steps.isEmpty then some (String.ofList parts.trimmed.text)
    else
      let rest := dropSteps (steps.length - parts.front.1.length) parts.front.2
      some (String.ofList (join ['/'] (dropIdleEnd (dropIdleStart rest))))
  else none

/-- The path `path` seen from the directory `base`; an absolute path stays as it is. -/
def joinTo (base path : String) : String :=
  if isAbsolute path then path
  else if base.isEmpty || base.toList.getLast? = some '/' then base ++ path
  else base ++ "/" ++ path

/-! ## Names -/

/-- The name of the entry that a path leads to. A path that ends in `..` or at the root has
none. -/
def fileName? (path : String) : Option String :=
  match (components path).getLast? with
  | some (.name text) => some (String.ofList text)
  | _ => none

/-- The name of a file without and with what follows its last dot. A dot at the start of the
name does not divide it. -/
def splitExtension (name : String) : String × Option String :=
  match cutAtLast ['.'] name.toList with
  | some (c :: stem, extension) => (String.ofList (c :: stem), some (String.ofList extension))
  | _ => (name, none)

/-- The name of the file without its extension. -/
def stem (path : String) : String :=
  match fileName? path with
  | some name => (splitExtension name).1
  | none => ""

/-- The extension of the file, without the dot. -/
def extension? (path : String) : Option String := do
  let name ← fileName? path
  (splitExtension name).2

end Path

end DocLint
