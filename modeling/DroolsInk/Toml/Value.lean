import DroolsInk.Decimal.Binary64
import DroolsInk.Toml.DateTime

/-!
# TOML values

A TOML document is a table, and a table gives values to keys. A table holds its entries in the order
in which the document gives them; no key occurs twice. Whoever goes through a table does so in the
order of the keys, which is the order of their code points and so of their UTF-8 bytes.
-/

namespace DroolsInk.Toml

inductive Value where
  | string (text : String)
  | integer (number : Int)
  | float (number : Binary64)
  | boolean (truth : Bool)
  | dateTime (dateTime : DateTime)
  | array (items : List Value)
  | table (entries : List (String × Value))
  deriving Inhabited, Repr

abbrev Table := List (String × Value)

namespace Value

def asString? : Value → Option String
  | string text => some text
  | _ => none

def asInteger? : Value → Option Int
  | integer number => some number
  | _ => none

def asBoolean? : Value → Option Bool
  | boolean truth => some truth
  | _ => none

def asTable? : Value → Option Table
  | table entries => some entries
  | _ => none

end Value

/-- Entries in the order of their keys. -/
def sortByKey {α : Type} (entries : List (String × α)) : List (String × α) :=
  entries.mergeSort fun first second => decide (first.1 ≤ second.1)

theorem perm_sortByKey {α : Type} (entries : List (String × α)) :
    (sortByKey entries).Perm entries :=
  List.mergeSort_perm entries _

/-- A way to go through tables: every entry once, in whichever order. -/
structure Visit where
  entries : Table → Table
  perm : ∀ table, (entries table).Perm table

/-- Goes through tables in the order of their keys. -/
def Visit.byKey : Visit := ⟨sortByKey, perm_sortByKey⟩

end DroolsInk.Toml
