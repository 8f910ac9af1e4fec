import DroolsInk.Toml.Mark
import DroolsInk.Toml.Section
import DroolsInk.Toml.Strings

/-!
# TOML documents

A document is a sequence of lines: blank lines and comments, headers that open a table, and keys
with their values. Reading it takes two steps. The first finds out what each line says, a
`Statement`; values that go over several lines count as one. The second follows the statements and
builds the tables, which is where it shows that a key or a table is given twice. At last the marked
tables become date-times.

Values may be nested at most 79 deep, and a key may have at most 79 parts.
-/

namespace DroolsInk.Toml

/-! ## Keys -/

/-- A key without dots. -/
def simpleKey : Reader String := fun text =>
  match shortString text with
  | some key => some key
  | none =>
    let key := text.takeWhile isBareKey
    if key.isEmpty then none else some (String.ofList key, text.drop key.length)

/-- A key with its parts, between which dots stand, and blank space around them. -/
def dottedKey (text : List Char) : Option (List String × List Char) :=
  match simpleKey (skipGap text) with
  | none => none
  | some (key, rest) =>
    match skipGap rest with
    | '.' :: rest =>
      if _h : rest.length < text.length then
        (dottedKey rest).map fun (keys, left) => (key :: keys, left)
      else none
    | rest => some ([key], rest)
termination_by text.length

/-- The greatest number of parts of a key, and of values inside each other. -/
def depthLimit : Nat := 79

/-- The parts of a key before the last, and the last. -/
def keyPath : Reader (List String × String) := fun text => do
  let (keys, left) ← dottedKey text
  if keys.length ≤ depthLimit then return ((keys.dropLast, ← keys.getLast?), left) else none

/-! ## Values -/

/-- Items of an array up to its bracket; commas stand between items and may stand after the last,
and lines may end anywhere. -/
def arrayItems (item : Reader Value) (text : List Char) : Option (List Value × List Char) :=
  match skipLines text with
  | none => none
  | some (']' :: rest) => some ([], rest)
  | some start =>
    match item start with
    | none => none
    | some (value, rest) =>
      match skipLines rest with
      | some (']' :: rest) => some ([value], rest)
      | some (',' :: rest) =>
        if _h : rest.length < text.length then
          (arrayItems item rest).map fun (values, left) => (value :: values, left)
        else none
      | _ => none
termination_by text.length

def assignment (item : Reader Value) : Reader ((List String × String) × Value) := fun text => do
  let (key, text) ← keyPath text
  let (value, text) ← item (skipGap (← expect '=' text))
  return ((key, value), text)

/-- Entries of a table in braces up to its brace, on one line. A comma stands between entries and
not after the last. -/
def inlineEntries (item : Reader Value) (part : Section) (text : List Char) :
    Option (Section × List Char) :=
  match assignment item text with
  | none => none
  | some (((path, key), value), rest) =>
    match part.insert path key value with
    | none => none
    | some part =>
      match skipGap rest with
      | '\x7d' :: rest => some (part, rest)
      | ',' :: rest =>
        if _h : rest.length < text.length then inlineEntries item part rest else none
      | _ => none
termination_by text.length

/-- A table in braces, after the opening one. -/
def inlineTable (item : Reader Value) : Reader Value := fun text =>
  match skipGap text with
  | '\x7d' :: rest => some (.table [], rest)
  | start => do
    let (part, rest) ← inlineEntries item .empty start
    return (.table part.toTable, rest)

/-- A value that holds no other. -/
def scalar : Reader Value := fun text =>
  match text with
  | [] => none
  | c :: _ =>
    if c = '\"' ∨ c = '\'' then (anyString text).map fun (string, rest) => (.string string, rest)
    else if c = 't' then (expectWord "true" text).map fun rest => (.boolean true, rest)
    else if c = 'f' then (expectWord "false" text).map fun rest => (.boolean false, rest)
    else dateTimeOrNumber text

/-- A value with at most so many values inside each other. -/
def value (depth : Nat) : Reader Value := fun text =>
  match depth, text with
  | depth + 1, '[' :: rest =>
    (arrayItems (value depth) rest).map fun (items, left) => (.array items, left)
  | depth + 1, '\x7b' :: rest => inlineTable (value depth) rest
  | _, text => scalar text

/-! ## Lines -/

/-- What a line of a document says. -/
inductive Statement where
  /-- Opens the table at a path. -/
  | header (path : List String) (key : String)
  /-- Adds a table to the list at a path and opens it. -/
  | listHeader (path : List String) (key : String)
  /-- Gives a value to a key in the open table. -/
  | assign (path : List String) (key : String) (value : Value)

def statement : Reader Statement := fun text =>
  match text with
  | '[' :: '[' :: rest => do
    let ((path, key), rest) ← keyPath rest
    return (.listHeader path key, ← expectWord "]]" rest)
  | '[' :: rest => do
    let ((path, key), rest) ← keyPath rest
    return (.header path key, ← expect ']' rest)
  | _ => do
    let (((path, key), value), rest) ← assignment (value depthLimit) text
    return (.assign path key value, rest)

def statements (text : List Char) : Option (List Statement) :=
  match text with
  | [] => some []
  | c :: rest =>
    match endOfLine? (c :: rest) with
    | some after => if _h : after.length < (c :: rest).length then statements after else none
    | none =>
      match statement (skipGap (c :: rest)) with
      | none => none
      | some (said, left) =>
        match endOfLine? left with
        | none => none
        | some after =>
          if _h : after.length < (c :: rest).length then
            (statements after).map fun others => said :: others
          else none
termination_by text.length
decreasing_by all_goals (simp only [List.length_cons] at *; omega)

/-! ## Tables -/

/-- What has been built so far: the sections that are closed, and the open one with its place. -/
structure Assembly where
  root : Section := .empty
  current : Section := .empty
  /-- Where the open section belongs, and whether it joins a list; the document's own section
  belongs nowhere. -/
  place? : Option (List String × String × Bool) := none

/-- Puts the open section in its place and gives the document. -/
def Assembly.close (assembly : Assembly) : Option Section :=
  match assembly.place? with
  | none => some assembly.current
  | some (path, key, false) =>
    assembly.root.change false (fun part => some (part.put key (.table assembly.current))) path
  | some (path, key, true) =>
    assembly.root.change false (fun part =>
      match part.find? key with
      | none => some (part.put key (.tables [] assembly.current))
      | some (.tables before last) =>
        some (part.put key (.tables (before ++ [last]) assembly.current))
      | some _ => none) path

/-- Opens a table. A table may be opened once, and one that only the path to another has named may
be opened still. -/
def Assembly.openTable (assembly : Assembly) (path : List String) (key : String) :
    Option Assembly := do
  let root ← assembly.close
  let parent ← root.reach path
  let current ← match parent.find? key with
    | none => some Section.empty
    | some (.table part) =>
      if part.isImplicit && !part.isDotted then some (.mk false false part.entries) else none
    | some _ => none
  let root ← root.change false (fun part => some (part.erase key)) path
  return ⟨root, current, some (path, key, false)⟩

/-- Opens one more table of a list. -/
def Assembly.openList (assembly : Assembly) (path : List String) (key : String) :
    Option Assembly := do
  let root ← assembly.close
  let parent ← root.reach path
  match parent.find? key with
  | none | some (.tables _ _) => return ⟨root, .empty, some (path, key, true)⟩
  | some _ => none

def Assembly.follow (assembly : Assembly) : Statement → Option Assembly
  | .header path key => assembly.openTable path key
  | .listHeader path key => assembly.openList path key
  | .assign path key value => do
    return { assembly with current := ← assembly.current.insert path key value }

/-- The section that statements describe. -/
def assemble (said : List Statement) : Option Section := do
  let assembly ← said.foldlM Assembly.follow ({} : Assembly)
  assembly.close

/-- The table of a TOML document, unless it is malformed. A byte order mark at its start does not
count. -/
def parse? (text : List Char) : Option Table := do
  let text := if text.head? = some '\ufeff' then text.drop 1 else text
  unmarkEntries? (← assemble (← statements text)).toTable

end DroolsInk.Toml
