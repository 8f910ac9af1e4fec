/-!
# The sixteen terminal colors

A color is one of the sixteen of the standard terminal palette, or the terminal's own default.
Settings name colors in words: letters of either case, a hyphen or an underscore between the parts,
and three words for bright black.
-/

namespace DroolsInk

/-- A color of the terminal palette, or the default of the terminal. -/
inductive Color where
  | default
  | black
  | red
  | green
  | yellow
  | blue
  | magenta
  | cyan
  | white
  | brightBlack
  | brightRed
  | brightGreen
  | brightYellow
  | brightBlue
  | brightMagenta
  | brightCyan
  | brightWhite
  deriving DecidableEq, Repr

/-- The words for the colors. -/
def Color.words : List (String × Color) :=
  [("default", .default), ("black", .black), ("red", .red), ("green", .green),
    ("yellow", .yellow), ("blue", .blue), ("magenta", .magenta), ("cyan", .cyan),
    ("white", .white), ("bright-black", .brightBlack), ("gray", .brightBlack),
    ("grey", .brightBlack), ("bright-red", .brightRed), ("bright-green", .brightGreen),
    ("bright-yellow", .brightYellow), ("bright-blue", .brightBlue),
    ("bright-magenta", .brightMagenta), ("bright-cyan", .brightCyan),
    ("bright-white", .brightWhite)]

/-- The spelling under which a word is looked up: ASCII letters in lower case and a hyphen for an
underscore. -/
def Color.normalize (word : String) : String :=
  String.ofList (word.toList.map fun c => if c = '_' then '-' else c.toLower)

def Color.ofName? (word : String) : Option Color :=
  Color.words.lookup (Color.normalize word)

end DroolsInk
