import DocLint.Toml.Datetime

/-!
# TOML documents: keys, tables and values in values

A document is a sequence of lines. A line sets a key of the current table, opens another
table with a header, or is blank. Tables can come into being in several ways: by a header,
on the way to a header, by a dotted key, or as a value between braces. Each way says who may
add to the table later, so a table under construction (`Node`) remembers how it was made.

`Toml.parse` reads a whole document; `none` means that it is not valid.
-/

namespace DocLint.Toml

open Text

/-- An entry of a document under construction. -/
inductive Node where
  /-- A value that nothing can be added to. -/
  | value (v : Value)
  /-- A table. It is implicit if no header has opened it yet, and dotted if a dotted key made
  it. -/
  | table (implicit dotted : Bool) (entries : List (String × Node))
  /-- An array of tables; the last one is the one that is added to. -/
  | tables (elements : List (List (String × Node)))
deriving Repr

/-- The entries of a table under construction. -/
abbrev Entries := List (String × Node)

/-- How deep values may be nested, and how many parts a key may have. -/
def depthLimit : Nat := 79

/-! ## From nodes to values -/

mutual

/-- The value of a finished entry. -/
def Node.finish : Node → Value
  | .value v => v
  | .table _ _ entries => .table (finishEntries entries)
  | .tables elements => .array (finishTables elements)

/-- The values of finished entries. -/
def finishEntries : List (String × Node) → List (String × Value)
  | [] => []
  | (key, node) :: more => (key, node.finish) :: finishEntries more

/-- The values of finished tables. -/
def finishTables : List (List (String × Node)) → List Value
  | [] => []
  | entries :: more => .table (finishEntries entries) :: finishTables more

end

/-! ## Changing entries -/

/-- The entry under a key. -/
def lookup (key : String) (entries : Entries) : Option Node := List.lookup key entries

/-- The entries with another node under a key. -/
def put (key : String) (node : Node) : Entries → Entries
  | [] => [(key, node)]
  | (k, n) :: more => if k = key then (k, node) :: more else (k, n) :: put key node more

/-- Change the table that a path leads to. Missing tables on the way are made; they are dotted
if the path is a dotted key. The change sees whether the table is dotted. -/
def changeAt (viaDots : Bool) (change : Bool → Entries → Option Entries) :
    List String → Bool → Entries → Option Entries
  | [], isDotted, entries => change isDotted entries
  | key :: path, _, entries =>
      match lookup key entries with
      | none => do
          let inner ← changeAt viaDots change path viaDots []
          some (put key (.table true viaDots inner) entries)
      | some (.value _) => none
      | some (.table implicit dotted inner) =>
          if viaDots && !implicit then none
          else do
            let inner ← changeAt viaDots change path dotted inner
            some (put key (.table implicit dotted inner) entries)
      | some (.tables elements) =>
          match elements.getLast? with
          | none => none
          | some last => do
              let last ← changeAt viaDots change path false last
              some (put key (.tables (elements.dropLast ++ [last])) entries)

/-- Set a key, which may be dotted. A key can be set once, and a dotted key only adds to
tables that dotted keys have made. -/
def setKey (path : List String) (key : String) (v : Value) (entries : Entries) : Option Entries :=
  changeAt true
    (fun isDotted inner =>
      if isDotted == path.isEmpty then none
      else if (lookup key inner).isSome then none
      else some (put key (.value v) inner))
    path false entries

/-! ## Keys -/

/-- May the character stand in a key without quotes? -/
def isKeyChar (c : Char) : Bool := c.isAlphanum || c == '_' || c == '-'

/-- Read a key without dots. -/
def simpleKey : Reader String
  | c :: s =>
      if c == '"' || c == '\'' then
        (lineString (c :: s)).map fun (text, rest) => (String.ofList text, rest)
      else if isKeyChar c then
        some (String.ofList (c :: s.takeWhile isKeyChar), s.dropWhile isKeyChar)
      else none
  | [] => none

/-- Read a key and the keys after dots. The bound is the length of the text. -/
def keyParts : Nat → Reader (List String)
  | 0, _ => none
  | n + 1, s => do
      let (key, s) ← simpleKey (skipSpace s)
      match skipSpace s with
      | '.' :: rest => (keyParts n rest).map fun (more, rest) => (key :: more, rest)
      | rest => some ([key], rest)

/-- Read a dotted key: the keys on the way and the last one. -/
def dottedKey (s : List Char) : Option ((List String × String) × List Char) := do
  let (parts, s) ← keyParts (s.length + 1) s
  guard (parts.length ≤ depthLimit)
  let last ← parts.getLast?
  some ((parts.dropLast, last), s)

/-! ## Values -/

/-- The text after white space, comments and line breaks. The bound is the length of the
text. -/
def skipBlank : Nat → List Char → List Char
  | 0, s => s
  | n + 1, s =>
      let s := skipComment (skipSpace s)
      match newline? s with
      | some rest => skipBlank n rest
      | none => s

/-- Read the elements of an array up to its closing bracket. -/
def elementsUpTo (value : Reader Value) : Nat → Reader (List Value)
  | 0, _ => none
  | n + 1, s =>
      match skipBlank (s.length + 1) s with
      | ']' :: rest => some ([], rest)
      | s => do
          let (v, s) ← value s
          match skipBlank (s.length + 1) s with
          | ']' :: rest => some ([v], rest)
          | ',' :: rest => (elementsUpTo value n rest).map fun (more, rest) => (v :: more, rest)
          | _ => none

/-- Read a key, an equals sign and a value. -/
def keyValue (value : Reader Value) (s : List Char) :
    Option ((List String × String × Value) × List Char) := do
  let ((path, key), s) ← dottedKey s
  let s ← after? ['='] s
  let (v, s) ← value (skipSpace s)
  some ((path, key, v), s)

/-- Read the settings of a table between braces up to its closing brace, and add them to
`entries`. -/
def settingsUpTo (value : Reader Value) : Nat → Entries → Reader Entries
  | 0, _, _ => none
  | n + 1, entries, s => do
      let ((path, key, v), s) ← keyValue value s
      let entries ← setKey path key v entries
      match skipSpace s with
      | '}' :: rest => some (entries, rest)
      | ',' :: rest => settingsUpTo value n entries rest
      | _ => none

/-- Read a table between braces, the opening one already read. -/
def inlineTable (value : Reader Value) (s : List Char) : Option (Value × List Char) :=
  match skipSpace s with
  | '}' :: rest => some (.table [], rest)
  | s => (settingsUpTo value (s.length + 1) [] s).map fun (entries, rest) =>
      (.table (finishEntries entries), rest)

/-- Read a value in which values are nested at most `depth` deep. -/
def value : (depth : Nat) → Reader Value
  | 0, s => scalar s
  | n + 1, s =>
      match s with
      | '[' :: rest => (elementsUpTo (value n) (rest.length + 1) rest).map fun (vs, rest) =>
          (.array vs, rest)
      | '{' :: rest => inlineTable (value n) rest
      | s => scalar s

/-! ## Lines -/

/-- A document while it is read. -/
structure State where
  /-- The tables that are finished. -/
  root : Entries := []
  /-- The path of the open table; empty for the outermost one. -/
  path : List String := []
  /-- Is the open table a new element of an array of tables? -/
  isElement : Bool := false
  /-- The entries of the open table. -/
  entries : Entries := []
deriving Repr

/-- Change the table above the last key of a path. -/
def changeAbove (path : List String) (change : String → Entries → Option Entries)
    (root : Entries) : Option Entries :=
  match path.getLast? with
  | none => none
  | some key => changeAt false (fun _ inner => change key inner) path.dropLast false root

/-- Put the open table into its place. -/
def State.close (st : State) : Option Entries :=
  if st.path.isEmpty then some st.entries
  else if st.isElement then
    changeAbove st.path
      (fun key inner =>
        match lookup key inner with
        | none => some (put key (.tables [st.entries]) inner)
        | some (.tables elements) => some (put key (.tables (elements ++ [st.entries])) inner)
        | some _ => none)
      st.root
  else
    changeAbove st.path (fun key inner => some (put key (.table false false st.entries) inner))
      st.root

/-- Open the table of a header. A table can be opened once; a table that so far only stood on
the way to others may be opened too, keeps what it has and comes last from now on. -/
def State.openTable (st : State) (path : List String) : Option State := do
  let root ← st.close
  let key ← path.getLast?
  let root ← changeAt false (fun _ inner => some inner) path.dropLast false root
  match nodeAt path.dropLast root with
  | none => none
  | some above =>
      match lookup key above with
      | none => some { root, path }
      | some (.table true false entries) => do
          let root ← changeAbove path (fun key inner => some (inner.filter (·.1 ≠ key))) root
          some { root, path, entries }
      | some _ => none
where
  /-- The entries that a path leads to. -/
  nodeAt : List String → Entries → Option Entries
    | [], entries => some entries
    | key :: more, entries =>
        match lookup key entries with
        | some (.table _ _ inner) => nodeAt more inner
        | some (.tables elements) => elements.getLast?.bind (nodeAt more)
        | _ => none

/-- Open a new element of the array of tables of a header. -/
def State.openElement (st : State) (path : List String) : Option State := do
  let root ← st.close
  let root ← changeAbove path
    (fun key inner =>
      match lookup key inner with
      | none => some (put key (.tables []) inner)
      | some (.tables elements) => some (put key (.tables elements) inner)
      | some _ => none)
    root
  some { root, path, isElement := true }

/-- The text after the end of a line, behind white space and a comment. The end of the text
ends a line too. -/
def lineEnd? (s : List Char) : Option (List Char) :=
  match skipComment (skipSpace s) with
  | [] => some []
  | s => newline? s

/-- Read one line that is not blank: a header or a setting. -/
def line (st : State) (s : List Char) : Option (State × List Char) := do
  match s with
  | '[' :: '[' :: s =>
      let ((path, key), s) ← dottedKey s
      let s ← after? "]]".toList s
      some (← st.openElement (path ++ [key]), s)
  | '[' :: s =>
      let ((path, key), s) ← dottedKey s
      let s ← after? [']'] s
      some (← st.openTable (path ++ [key]), s)
  | s =>
      let ((path, key, v), s) ← keyValue (value depthLimit) s
      some ({ st with entries := ← setKey path key v st.entries }, s)

/-- Read the lines of a document. The bound is the length of the text. -/
def readLines : Nat → State → List Char → Option Entries
  | 0, _, _ => none
  | n + 1, st, s =>
      match skipBlank (s.length + 1) s with
      | [] => st.close
      | s => do
          let (st, s) ← line st s
          let s ← lineEnd? s
          readLines n st s

/-- The entries of a document. A byte order mark at the start does not count. -/
def parse (text : String) : Option (List (String × Value)) :=
  let s := match text.toList with
    | c :: s => if c.toNat = 0xFEFF then s else c :: s
    | [] => []
  (readLines (s.length + 2) {} s).map finishEntries

end DocLint.Toml
