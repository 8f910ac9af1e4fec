import DroolsInk.Theme.Face
import DroolsInk.Token.Kind

/-!
# Roles

A role is what a face is chosen for. Every kind of token has one; blanks and characters that start
nothing share the role of plain text. Settings refer to a role by its key, and each role has a
built-in face.
-/

namespace DroolsInk

/-- The part that a token plays on the screen. -/
inductive Role where
  | keyword
  | identifier
  | boundVariable
  | metadata
  | string
  | openString
  | number
  | operator
  | punctuation
  | braces
  | comment
  | openComment
  /-- Plain text, which is all that has no role of its own. -/
  | text
  deriving DecidableEq, Repr

def Role.all : List Role :=
  [.keyword, .identifier, .boundVariable, .metadata, .string, .openString, .number, .operator,
    .punctuation, .braces, .comment, .openComment, .text]

/-- The role of the tokens of a kind. -/
def Role.ofKind : Kind → Role
  | .keyword => .keyword
  | .identifier => .identifier
  | .boundVariable => .boundVariable
  | .metadata => .metadata
  | .string => .string
  | .openString => .openString
  | .number => .number
  | .operator => .operator
  | .punctuation => .punctuation
  | .delimiter => .braces
  | .comment => .comment
  | .openComment => .openComment
  | .blank => .text
  | .unknown => .text

/-- The key under which settings refer to a role. -/
def Role.key : Role → String
  | .keyword => "DRL_KEYWORD"
  | .identifier => "DRL_IDENTIFIER"
  | .boundVariable => "DRL_VARIABLE"
  | .metadata => "DRL_ANNOTATION"
  | .string => "DRL_STRING"
  | .openString => "DRL_BAD_STRING"
  | .number => "DRL_NUMBER"
  | .operator => "DRL_OPERATOR"
  | .punctuation => "DRL_PUNCTUATION"
  | .braces => "DRL_BRACES"
  | .comment => "DRL_COMMENT"
  | .openComment => "DRL_BAD_COMMENT"
  | .text => "TEXT"

def Role.ofKey? (key : String) : Option Role :=
  Role.all.find? (·.key = key)

/-- The face of a role where settings say nothing. -/
def Role.builtin : Role → Face
  | .keyword => { foreground := .magenta, bold := true }
  | .identifier => .plain
  | .boundVariable => { foreground := .brightCyan }
  | .metadata => { foreground := .brightBlue }
  | .string => { foreground := .green }
  | .openString => { foreground := .green, underline := true }
  | .number => { foreground := .cyan }
  | .operator => { foreground := .brightWhite }
  | .punctuation => .plain
  | .braces => { foreground := .yellow }
  | .comment => { foreground := .brightBlack, italic := true }
  | .openComment => { foreground := .brightBlack, italic := true, underline := true }
  | .text => .plain

theorem Role.mem_all (role : Role) : role ∈ Role.all := by
  cases role <;> decide

@[simp] theorem Role.ofKey?_key (role : Role) : Role.ofKey? role.key = some role := by
  cases role <;> decide

theorem Role.ofKey?_eq_some_iff {key : String} {role : Role} :
    Role.ofKey? key = some role ↔ role.key = key := by
  refine ⟨fun h => ?_, fun h => h ▸ Role.ofKey?_key role⟩
  simpa using List.find?_some h

theorem Role.key_inj {role other : Role} : role.key = other.key ↔ role = other := by
  rw [← Role.ofKey?_eq_some_iff, Role.ofKey?_key, Option.some.injEq, eq_comm]

end DroolsInk
