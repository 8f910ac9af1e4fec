import DroolsInk.Toml.Scalars

/-!
# Tables that stand for dates

A table inside a document whose first entry has a certain key, the *mark*, stands for a date-time:
the value of the mark is its text, written as in a document. The other entries of such a table count
for nothing, and nobody looks at them. A mark whose value is not the text of a date-time makes the
document malformed. The document itself is never taken for a date-time, and a mark that is not the
first entry is a key like any other.
-/

namespace DroolsInk.Toml

/-- The key that marks a table as a date-time. -/
def dateTimeKey : String := "$__toml_private_datetime"

/-- The date-time that a value of the mark describes. -/
def Value.markedDateTime? : Value → Option Value
  | .string text => (DateTime.ofText? text.toList).map .dateTime
  | _ => none

mutual

/-- A value in which the marked tables have become date-times. -/
def Value.unmark? : Value → Option Value
  | .array items => (unmarkItems? items).map .array
  | .table entries =>
    match entries with
    | [] => some (.table [])
    | (key, value) :: rest =>
      if key = dateTimeKey then value.markedDateTime?
      else do
        let value ← value.unmark?
        return .table ((key, value) :: (← unmarkEntries? rest))
  | value => some value

def unmarkItems? : List Value → Option (List Value)
  | [] => some []
  | item :: rest => do
    let item ← item.unmark?
    return item :: (← unmarkItems? rest)

def unmarkEntries? : List (String × Value) → Option Table
  | [] => some []
  | (key, value) :: rest => do
    let value ← value.unmark?
    return (key, value) :: (← unmarkEntries? rest)

end

end DroolsInk.Toml
