import DroolsInk.Settings.Loading
import DroolsInk.Text.Letter
import DroolsInk.Text.Quoted
import DroolsInk.Token.Kind

/-!
# The log of a run

A run tells what it does in log records. A record has a level, the part of the program that it comes
from, a message and fields. A field is shown by its name and its value, the characters of which are
written as they are. The time is not part of a record.

A filter lets records through by their level and their part. It is chosen in directives with commas
between them; without any choice it lets warnings through and what is worse.
-/

namespace DroolsInk

/-- How much a record matters, the least first. -/
inductive LogLevel where
  | trace
  | debug
  | info
  | warn
  | error
  deriving DecidableEq, Repr

namespace LogLevel

def rank : LogLevel → Nat
  | trace => 0
  | debug => 1
  | info => 2
  | warn => 3
  | error => 4

def name : LogLevel → String
  | trace => "TRACE"
  | debug => "DEBUG"
  | info => "INFO"
  | warn => "WARN"
  | error => "ERROR"

end LogLevel

/-- One entry of the log. -/
structure LogRecord where
  level : LogLevel
  target : String
  message : String
  fields : List (String × List Char) := []

namespace LogRecord

/-- The message and the fields of a record. -/
def body (record : LogRecord) : List Char :=
  record.message.toList ++ record.fields.flatMap fun (name, value) =>
    ' ' :: (name.toList ++ '=' :: value)

def render (record : LogRecord) : List Char :=
  (record.level.name ++ " " ++ record.target ++ ": ").toList ++ record.body

end LogRecord

/-- What is let through of the records from parts whose name starts with `target`: those at least as
bad as `level?`, and none without a level. -/
structure LogDirective where
  target : String := ""
  level? : Option LogLevel
  deriving DecidableEq, Repr

namespace LogDirective

/-- The words for the levels, by name and by number; `OFF` stands for none. -/
def levelWords : List (String × Option LogLevel) :=
  [("OFF", none), ("ERROR", some .error), ("WARN", some .warn), ("INFO", some .info),
    ("DEBUG", some .debug), ("TRACE", some .trace), ("0", none), ("1", some .error),
    ("2", some .warn), ("3", some .info), ("4", some .debug), ("5", some .trace)]

/-- The level that a word stands for, in letters of either case. -/
def levelOfWord? (word : String) : Option (Option LogLevel) := levelWords.lookup word.toUpper

/-- Whether a word can name a part: letters and digits, `_`, `:` and `-`. -/
def isTarget (word : String) : Bool :=
  word ≠ "" && word.toList.all fun c => Text.isLetterOrDigit c || "_:-".toList.contains c

/-- The directive for a part with a word for the level; no word stands for all records. -/
def ofTarget? (target word : String) : Option LogDirective :=
  let level? := if word = "" then some (some .trace) else levelOfWord? word
  if isTarget target then level?.map fun level? => { target, level? } else none

/-- The directive that a text describes: a level for every part; a part; or a part, an equals sign
and a level. -/
def ofText? (text : String) : Option LogDirective :=
  match text.splitOn "=" with
  | [word] => ((levelOfWord? word).map fun level? => { level? }).or (ofTarget? word "")
  | [target, word] => ofTarget? target word
  | _ => none

/-- Whether a directive is about the records from a part. -/
def covers (directive : LogDirective) (target : String) : Bool :=
  directive.target.toList.isPrefixOf target.toList

def admits (directive : LogDirective) (level : LogLevel) : Bool :=
  directive.level?.any (·.rank ≤ level.rank)

end LogDirective

/-- Which records are let through, as some directives say. -/
structure LogFilter where
  directives : List LogDirective
  deriving DecidableEq, Repr

namespace LogFilter

/-- The filter that a choice describes; what is not a directive in it is passed over. -/
def ofChoice : Option String → LogFilter
  | none => ⟨[{ level? := some .warn }]⟩
  | some choice => ⟨(choice.splitOn ",").filterMap LogDirective.ofText?⟩

/-- The directive that decides about the records from a part: the one that names most of it, and of
two that name the same the later. -/
def deciding? (filter : LogFilter) (target : String) : Option LogDirective :=
  (filter.directives.reverse.filter (·.covers target)).maxOn? (·.target.length)

theorem deciding?_eq_some {filter : LogFilter} {target : String} {directive : LogDirective}
    (h : filter.deciding? target = some directive) :
    directive ∈ filter.directives ∧ directive.covers target ∧
      ∀ other ∈ filter.directives, other.covers target →
        other.target.length ≤ directive.target.length := by
  unfold deciding? at h
  have hmem := List.maxOn?_mem h
  rw [List.mem_filter, List.mem_reverse] at hmem
  refine ⟨hmem.1, hmem.2, fun other hother hcovers => ?_⟩
  have hcandidate : other ∈ filter.directives.reverse.filter (·.covers target) :=
    List.mem_filter.2 ⟨List.mem_reverse.2 hother, hcovers⟩
  have hle := List.le_apply_get_maxOn?_of_mem (f := fun d => d.target.length) hcandidate
  rwa [Option.get_of_eq_some _ h] at hle

def allows (filter : LogFilter) (record : LogRecord) : Bool :=
  (filter.deciding? record.target).any (·.admits record.level)

end LogFilter

/-! ## What is logged -/

/-- The part of the program that loads settings, as the log names it. -/
def settingsTarget : String := "drl_highlight::config"

/-- The record of a notice. -/
def Notice.record (notice : Notice) : LogRecord :=
  let warning (message key : String) (more : List (String × List Char)) : LogRecord :=
    ⟨.warn, settingsTarget, message, ("key", Text.quote key.toList) :: more⟩
  match notice with
  | .notBoolean value =>
    warning "ignoring non-boolean config value" "color" [("value", value.render)]
  | .notInteger value =>
    warning "ignoring non-integer config value" "tab-width" [("value", value.render)]
  | .unknownKey key => warning "ignoring unknown config key" key []

/-- The records of loading settings: the notices, and whether there was a file to load. -/
def Loading.records (loading : Loading) : List LogRecord :=
  let note (message : String) : List LogRecord :=
    loading.path?.toList.map fun path =>
      ⟨.debug, settingsTarget, message, [("path", path.toList)]⟩
  loading.notices.map Notice.record
    ++ match loading.found, loading.result with
      | false, _ => note "no config file, using defaults"
      | true, .ok _ => note "loaded config"
      | true, .error _ => []

end DroolsInk
