import DroolsInk.Toml.Value

/-!
# Sections of a document

While a document is read, its tables are still open: a later line may add to them. A section is such
a table. It remembers how it came about, because that decides what may be added to it:

* a section that only the path to another table has named is *implicit*, and a header may still open
  it;
* a section that a key with dots has made is *dotted*, and only keys with dots add entries to it.

A key has a value that is settled, a section, or a list of sections, of which only the last is open.
Once the whole document is read the sections become tables.
-/

namespace DroolsInk.Toml

mutual

/-- An open table. -/
inductive Section where
  | mk (isImplicit isDotted : Bool) (entries : List (String × Node))

/-- What a key of an open table stands for. -/
inductive Node where
  | value (value : Value)
  | table (part : Section)
  /-- A list of tables, without the last, and the last. -/
  | tables (before : List Section) (last : Section)

end

namespace Section

def isImplicit : Section → Bool
  | mk isImplicit _ _ => isImplicit

def isDotted : Section → Bool
  | mk _ isDotted _ => isDotted

def entries : Section → List (String × Node)
  | mk _ _ entries => entries

/-- A section without entries that a header has opened, or the document itself. -/
def empty : Section := mk false false []

def find? (part : Section) (key : String) : Option Node := part.entries.lookup key

/-- Gives a key a new meaning, in its place if it had one and at the end if not. -/
def put (part : Section) (key : String) (node : Node) : Section :=
  let entries :=
    if part.entries.any (·.1 = key) then
      part.entries.map fun entry => if entry.1 = key then (key, node) else entry
    else part.entries ++ [(key, node)]
  mk part.isImplicit part.isDotted entries

def erase (part : Section) (key : String) : Section :=
  mk part.isImplicit part.isDotted (part.entries.filter (·.1 ≠ key))

/-- Changes the section that a path leads to. A section that is missing on the way is made, and of a
list of sections the last is entered. A key with dots may not enter a section that a header has
opened. -/
def change (dotted : Bool) (action : Section → Option Section) :
    List String → Section → Option Section
  | [], part => action part
  | key :: path, part => do
    match part.find? key with
    | none => return part.put key (.table (← change dotted action path (mk true dotted [])))
    | some (.value _) => none
    | some (.table inner) =>
      if dotted && !inner.isImplicit then none
      else return part.put key (.table (← change dotted action path inner))
    | some (.tables before last) =>
      return part.put key (.tables before (← change dotted action path last))

/-- The section that a path leads to, which is a new one if the path is missing. -/
def reach : List String → Section → Option Section
  | [], part => some part
  | key :: path, part =>
    match part.find? key with
    | none => reach path (mk true false [])
    | some (.value _) => none
    | some (.table inner) => reach path inner
    | some (.tables _ last) => reach path last

/-- Gives a value to a key at the end of a path. The key must be new, and only a path makes or
enters a dotted section. -/
def insert (path : List String) (key : String) (value : Value) (part : Section) : Option Section :=
  change true (fun inner =>
    if inner.isDotted = path.isEmpty ∨ (inner.find? key).isSome then none
    else some (inner.put key (.value value))) path part

end Section

mutual

def Section.toTable : Section → Table
  | .mk _ _ entries => entriesOf entries

def Node.toValue : Node → Value
  | .value value => value
  | .table part => .table part.toTable
  | .tables before last => .array (tablesOf before ++ [.table last.toTable])

def entriesOf : List (String × Node) → Table
  | [] => []
  | (key, node) :: rest => (key, node.toValue) :: entriesOf rest

def tablesOf : List Section → List Value
  | [] => []
  | part :: rest => .table part.toTable :: tablesOf rest

end

end DroolsInk.Toml
