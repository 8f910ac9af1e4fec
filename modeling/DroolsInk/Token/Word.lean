import DroolsInk.Text.Letter

/-!
# Words and keywords

A word starts with a letter or an underscore and goes on through letters, digits and underscores.
The keywords of the rule language are words, and so are the reserved words of Java, which stand in
consequences and functions. Nine rule attributes are spelled with hyphens; since a hyphen does not
belong to a word, they are looked for as whole spellings at the place where a word starts, and
count only where no word character follows.
-/

namespace DroolsInk.Word

def isStart (c : Char) : Bool := c == '_' || Text.isLetter c

def isPart (c : Char) : Bool := c == '_' || Text.isLetterOrDigit c

theorem isPart_of_isStart {c : Char} (h : isStart c = true) : isPart c = true := by
  unfold isStart at h
  unfold isPart
  rcases Bool.or_eq_true _ _ |>.mp h with hunder | hletter
  · simp [hunder]
  · simp [Text.isLetterOrDigit_of_isLetter hletter]

/-- The keywords of the rule language: structure, conditional elements, accumulate functions,
constraint operators, consequence helpers, rule attributes and literals. -/
def ruleKeywords : List String :=
  ["package", "import", "global", "function", "query", "declare", "rule", "end",
    "when", "then", "extends", "template", "type", "unit", "attributes", "enum",
    "and", "or", "not", "exists", "forall", "from", "collect", "accumulate",
    "eval", "over", "window", "entry", "acc", "groupby",
    "init", "action", "reverse", "result",
    "in", "contains", "matches", "memberOf", "soundslike", "str", "excludes",
    "after", "before", "coincides", "during", "finishes", "includes", "meets",
    "metby", "overlaps", "overlappedby", "starts", "startedby", "instanceof",
    "modify", "insert", "insertLogical", "retract", "update", "delete",
    "drools", "kcontext",
    "salience", "enabled", "dialect", "duration", "timer", "calendars",
    "true", "false", "null", "this"]

/-- The reserved words of Java that are not rule keywords already. -/
def javaKeywords : List String :=
  ["abstract", "assert", "boolean", "break", "byte", "case", "catch", "char",
    "class", "continue", "default", "do", "double", "else", "final", "finally",
    "float", "for", "if", "int", "interface", "long", "new", "private",
    "protected", "public", "return", "short", "static", "super", "switch",
    "synchronized", "throw", "throws", "transient", "try", "var", "void",
    "volatile", "while"]

/-- The rule attributes, and the `from` source, that are spelled with hyphens. -/
def hyphenatedKeywords : List (List Char) :=
  ["no-loop", "lock-on-active", "agenda-group", "activation-group", "ruleflow-group",
    "auto-focus", "date-effective", "date-expires", "entry-point"].map String.toList

def isKeyword (word : List Char) : Bool :=
  let spelling := String.ofList word
  ruleKeywords.contains spelling || javaKeywords.contains spelling

def goesOn (text : List Char) : Bool := text.head?.any isPart

/-- The hyphenated keyword that a text starts with and that no word character follows. -/
def hyphenatedKeyword? (text : List Char) : Option (List Char) :=
  hyphenatedKeywords.find? fun keyword =>
    keyword.isPrefixOf text && !goesOn (text.drop keyword.length)

def run (text : List Char) : Nat := (text.takeWhile isPart).length

end DroolsInk.Word
