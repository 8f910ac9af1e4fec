/-!
# The lexical categories of a rule file

Every piece of a rule file belongs to one of fourteen categories. The two *open* ones are literals
and comments that lack their closing mark: they run to the end of the text. Blanks and characters
that start nothing are categories too, so that the pieces of a text always make up the whole of it.
-/

namespace DroolsInk

/-- The lexical category of a piece of text. -/
inductive Kind where
  /-- A reserved word or the name of a rule attribute, such as `rule` or `no-loop`. -/
  | keyword
  /-- Any other word: a type, a field, a function. -/
  | identifier
  /-- A name bound in a condition, such as `$order`. -/
  | boundVariable
  /-- A declaration's metadata tag, such as `@role`. -/
  | metadata
  /-- A string literal with its closing quote. -/
  | string
  /-- A string literal that is never closed. -/
  | openString
  /-- A number, with whatever word characters follow its digits. -/
  | number
  /-- One or two operator characters. -/
  | operator
  /-- A comma or a semicolon. -/
  | punctuation
  /-- A brace, bracket or parenthesis. -/
  | delimiter
  /-- A comment up to the end of its line, or a closed block comment. -/
  | comment
  /-- A block comment that is never closed. -/
  | openComment
  /-- A run of white space, line ends included. -/
  | blank
  /-- A single character that starts nothing else. -/
  | unknown
  deriving DecidableEq, Repr

def Kind.all : List Kind :=
  [.keyword, .identifier, .boundVariable, .metadata, .string, .openString, .number, .operator,
    .punctuation, .delimiter, .comment, .openComment, .blank, .unknown]

/-- The name that listings and logs give a kind. -/
def Kind.name : Kind → String
  | .keyword => "keyword"
  | .identifier => "identifier"
  | .boundVariable => "variable"
  | .metadata => "annotation"
  | .string => "string"
  | .openString => "unterminated_string"
  | .number => "number"
  | .operator => "operator"
  | .punctuation => "punctuation"
  | .delimiter => "delimiter"
  | .comment => "comment"
  | .openComment => "unterminated_comment"
  | .blank => "whitespace"
  | .unknown => "unknown"

def Kind.ofName? (name : String) : Option Kind :=
  Kind.all.find? (·.name = name)

/-- Whether a token of this kind lacks its closing mark. -/
def Kind.isOpen : Kind → Bool
  | .openString | .openComment => true
  | _ => false

theorem Kind.mem_all (kind : Kind) : kind ∈ Kind.all := by
  cases kind <;> decide

@[simp] theorem Kind.ofName?_name (kind : Kind) : Kind.ofName? kind.name = some kind := by
  cases kind <;> decide

end DroolsInk
