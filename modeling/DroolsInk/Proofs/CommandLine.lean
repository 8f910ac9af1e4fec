import Mathlib.Tactic.SplitIfs
import DroolsInk.Program.Run

/-!
# What a command line comes to

The arguments are gone through once, with the mode and the path found so far, and a run then takes
steps that can each fail. Here a whole run is told from the list of its arguments without going
through it: the first argument that decides the run, or else the last flag for a mode and the last
argument that is no flag.

A run that shows a file writes to standard output only after its last step that can fail. If more
than one of them would fail, the first is reported.
-/

namespace DroolsInk

/-! ## The arguments -/

namespace Request

def isFlag (argument : String) : Bool := argument.toList.head? = some '-'

def helpFlags : List String := ["--help", "-h"]

def versionFlags : List String := ["--version", "-V"]

/-- The flags for a way of showing a file. -/
def modeFlags : List (String × Mode) :=
  [("--tokens", .listing), ("-t", .listing), ("--plain", .plain), ("-p", .plain)]

def modeOf? (argument : String) : Option Mode := modeFlags.lookup argument

/-- Whether an argument ends the run where it stands. -/
def decides (argument : String) : Bool :=
  helpFlags.contains argument || versionFlags.contains argument
    || (isFlag argument && (modeOf? argument).isNone)

/-- What an argument asks for that decides the run. -/
def ofDecisive (argument : String) : Request :=
  if argument ∈ helpFlags then .help
  else if argument ∈ versionFlags then .version
  else .unknownOption argument

/-- The mode of the last flag for one. -/
def lastMode? (arguments : List String) : Option Mode := (arguments.filterMap modeOf?).getLast?

/-- The last argument that is no flag. -/
def lastPath? (arguments : List String) : Option String :=
  (arguments.filter (!isFlag ·)).getLast?

theorem lastMode?_cons (argument : String) (rest : List String) :
    lastMode? (argument :: rest) = (lastMode? rest).or (modeOf? argument) := by
  unfold lastMode?
  cases hmode : modeOf? argument with
  | none => rw [List.filterMap_cons_none hmode, Option.or_none]
  | some mode =>
    rw [List.filterMap_cons_some hmode, List.getLast?_cons]
    cases (rest.filterMap modeOf?).getLast? <;> rfl

theorem lastPath?_cons (argument : String) (rest : List String) :
    lastPath? (argument :: rest)
      = (lastPath? rest).or (if isFlag argument then none else some argument) := by
  unfold lastPath?
  cases hflag : isFlag argument with
  | true => rw [List.filter_cons_of_neg (by simp [hflag]), if_pos rfl, Option.or_none]
  | false =>
    rw [List.filter_cons_of_pos (by simp [hflag]), List.getLast?_cons]
    cases (rest.filter (!isFlag ·)).getLast? <;> rfl

theorem modeOf?_eq_none {argument : String}
    (hlisting : ¬(argument = "--tokens" ∨ argument = "-t"))
    (hplain : ¬(argument = "--plain" ∨ argument = "-p")) : modeOf? argument = none := by
  obtain ⟨htokens, ht⟩ := not_or.1 hlisting
  obtain ⟨hplain, hp⟩ := not_or.1 hplain
  simp [modeOf?, modeFlags, List.lookup_eq_none_iff, htokens, ht, hplain, hp]

/-- An argument decides the run, sets the mode or is a path, and no two of these. -/
theorem ofText_cases (argument : String) :
    (decides argument = true ∧ Argument.ofText argument = .decisive (ofDecisive argument)) ∨
    (∃ mode, modeOf? argument = some mode ∧ decides argument = false ∧ isFlag argument = true
      ∧ Argument.ofText argument = .mode mode) ∨
    (isFlag argument = false ∧ decides argument = false ∧ modeOf? argument = none
      ∧ Argument.ofText argument = .path argument) := by
  unfold Argument.ofText
  split_ifs with hhelp hversion hlisting hplain hhyphen
  · left
    rcases hhelp with rfl | rfl <;> exact ⟨by decide, rfl⟩
  · left
    rcases hversion with rfl | rfl <;> exact ⟨by decide, rfl⟩
  · right; left
    rcases hlisting with rfl | rfl <;> exact ⟨.listing, by decide, by decide, by decide, rfl⟩
  · right; left
    rcases hplain with rfl | rfl <;> exact ⟨.plain, by decide, by decide, by decide, rfl⟩
  · left
    have hmode : modeOf? argument = none := modeOf?_eq_none hlisting hplain
    exact ⟨by simp [decides, isFlag, hhyphen, hmode], by
      simp [ofDecisive, helpFlags, versionFlags, not_or.1 hhelp, not_or.1 hversion]⟩
  · right; right
    refine ⟨by simp [isFlag, hhyphen], ?_, modeOf?_eq_none hlisting hplain, rfl⟩
    simp [decides, isFlag, helpFlags, versionFlags, not_or.1 hhelp, not_or.1 hversion, hhyphen]

/-- What arguments ask for that are gone through with a mode and a path found before. What they
say themselves takes the place of what was found. -/
theorem after_eq (arguments : List String) (mode : Mode) (path? : Option String) :
    Request.after mode path? arguments =
      match arguments.find? decides with
      | some argument => ofDecisive argument
      | none =>
        match (lastPath? arguments).or path? with
        | none => .nothing
        | some path => .present ((lastMode? arguments).getD mode) path := by
  -- What was found so far changes at each argument, so that the rest must be told for all of it.
  induction arguments generalizing mode path? with
  | nil => cases path? <;> rfl
  | cons argument rest ih =>
    rw [Request.after, lastMode?_cons, lastPath?_cons]
    obtain ⟨hdecides, htext⟩ | ⟨newMode, hmode, hdecides, hflag, htext⟩
        | ⟨hflag, hdecides, hmode, htext⟩ := ofText_cases argument
    · rw [htext, List.find?_cons_of_pos hdecides]
    · rw [htext, List.find?_cons_of_neg (by simp [hdecides]), hmode, hflag, if_pos rfl,
        Option.or_none, Option.getD_or]
      exact ih newMode path?
    · rw [htext, List.find?_cons_of_neg (by simp [hdecides]), hmode, hflag, if_neg (by decide),
        Option.or_none, Option.or_assoc]
      exact ih mode (some argument)

example : ofArguments ["-t", "a.drl", "-p", "b.drl"] = .present .plain "b.drl" := by decide

end Request

/-! ## The steps of showing a file -/

namespace Program

open Request

/-- What comes of loading the settings, which is the first step. -/
def loaded (environment : Environment) (read : FileReader) : Loading :=
  Settings.load read (Settings.path? environment.settingsPath? environment.home?)

/-- Records as a run writes them, those that its filter lets through. -/
def logged (environment : Environment) (records : List LogRecord) : List (List Char) :=
  (records.filter (LogFilter.ofChoice environment.log?).allows).map LogRecord.render

/-- The lines of standard error that report an error after records. -/
def reported (environment : Environment) (records : List LogRecord) (message : String) :
    List (List Char) :=
  logged environment records ++ [("Error: " ++ message).toList]

/-- What a run does that is to show the file at a path. -/
structure Shows (environment : Environment) (read : FileReader) (mode : Mode) (path : String)
    (outcome : Outcome) : Prop where
  exits : outcome.exitCode = 0 ∨ outcome.exitCode = 1
  fails_iff : outcome.exitCode = 1 ↔
    (∃ error, (loaded environment read).result = .error error)
      ∨ ∃ error, read path = .error error
  silent : outcome.exitCode = 1 → outcome.output = []
  /-- The settings come first: their error is reported whether the file can be read or not. -/
  settingsError : ∀ error, (loaded environment read).result = .error error →
    ∃ records, outcome.errors = reported environment records error.message
  readError : ∀ settings error, (loaded environment read).result = .ok settings →
    read path = .error error →
    ∃ records, outcome.errors = reported environment records error.message
  noError : outcome.exitCode = 0 → ∃ records, outcome.errors = logged environment records
  output : ∀ settings bytes, (loaded environment read).result = .ok settings →
    read path = .ok bytes →
    let text := Text.decodeLossy bytes
    let painted := mode = .highlight ∧ settings.color = true ∧ environment.isTerminal = true
    (mode = .listing → outcome.output = Listing.ofText settings.tabWidth text)
      ∧ (painted → outcome.output = Terminal.paint settings.theme text)
      ∧ (mode ≠ .listing → ¬painted → outcome.output = text)

/-- What is written for a text is its listing, the text in color, or the text as it is. -/
theorem display_cases (settings : Settings) (isTerminal : Bool) (mode : Mode) (text : List Char) :
    let painted := mode = .highlight ∧ settings.color = true ∧ isTerminal = true
    (mode = .listing →
        display settings isTerminal mode text = Listing.ofText settings.tabWidth text)
      ∧ (painted → display settings isTerminal mode text = Terminal.paint settings.theme text)
      ∧ (mode ≠ .listing → ¬painted → display settings isTerminal mode text = text) := by
  intro painted
  cases mode with
  | listing => simp [painted, display]
  | plain => simp [painted, display]
  | highlight =>
    simp only [painted, display, Bool.and_eq_true, true_and, reduceCtorEq, false_implies, ne_eq,
      not_false_eq_true, true_implies]
    exact ⟨fun hpainted => if_pos hpainted, fun hpainted => if_neg hpainted⟩

/-- A run that shows a file ends where its first failing step is, or else shows the file. -/
theorem present_cases (environment : Environment) (read : FileReader) (mode : Mode)
    (path : String) :
    (∃ error records, (loaded environment read).result = .error error
      ∧ present environment read mode path
        = { exitCode := 1, errors := reported environment records error.message }) ∨
    (∃ settings error records, (loaded environment read).result = .ok settings
      ∧ read path = .error error
      ∧ present environment read mode path
        = { exitCode := 1, errors := reported environment records error.message }) ∨
    (∃ settings bytes records, (loaded environment read).result = .ok settings
      ∧ read path = .ok bytes
      ∧ present environment read mode path
        = { exitCode := 0
            output := display settings environment.isTerminal mode (Text.decodeLossy bytes)
            errors := logged environment records }) := by
  cases hloaded : (loaded environment read).result with
  | error error =>
    left
    refine ⟨error, (loaded environment read).records, rfl, ?_⟩
    unfold loaded at hloaded
    simp only [present, hloaded]
    rfl
  | ok settings =>
    right
    unfold loaded at hloaded
    cases hread : read path with
    | error error =>
      left
      refine ⟨settings, error, (loaded environment read).records ++ formatRecords path, rfl, rfl,
        ?_⟩
      simp only [present, hloaded, hread]
      rfl
    | ok bytes =>
      right
      let text := Text.decodeLossy bytes
      refine ⟨settings, bytes, (loaded environment read).records ++ formatRecords path
        ++ fileRecord path mode text :: openRecords text, rfl, rfl, ?_⟩
      simp only [present, hloaded, hread]
      rfl

theorem present_shows (environment : Environment) (read : FileReader) (mode : Mode)
    (path : String) : Shows environment read mode path (present environment read mode path) := by
  obtain ⟨error, records, hloaded, hpresent⟩ | ⟨settings, error, records, hloaded, hread, hpresent⟩
      | ⟨settings, bytes, records, hloaded, hread, hpresent⟩ :=
    present_cases environment read mode path
  -- In each of the three cases the fields about the other two have nothing to say.
  · rw [hpresent]
    refine ⟨.inr rfl, by simp [hloaded], fun _ => rfl, ?_, ?_, by simp, ?_⟩
    · intro other hother
      cases hloaded.symm.trans hother
      exact ⟨records, rfl⟩
    · intro settings _ hother
      cases hloaded.symm.trans hother
    · intro settings _ hother
      cases hloaded.symm.trans hother
  · rw [hpresent]
    refine ⟨.inr rfl, by simp [hread], fun _ => rfl, ?_, ?_, by simp, ?_⟩
    · intro _ hother
      cases hloaded.symm.trans hother
    · intro _ other _ hother
      cases hread.symm.trans hother
      exact ⟨records, rfl⟩
    · intro _ bytes _ hother
      cases hread.symm.trans hother
  · rw [hpresent]
    refine ⟨.inl rfl, by simp [hloaded, hread], by simp, ?_, ?_, fun _ => ⟨records, rfl⟩, ?_⟩
    · intro _ hother
      cases hloaded.symm.trans hother
    · intro _ error _ hother
      cases hread.symm.trans hother
    · intro _ _ hsettings hbytes
      cases hloaded.symm.trans hsettings
      cases hread.symm.trans hbytes
      exact display_cases settings environment.isTerminal mode (Text.decodeLossy bytes)

/-! ## Whole runs -/

/-- What an argument that decides a run makes of it. -/
def verdict (argument : String) : Outcome :=
  if argument ∈ helpFlags then { exitCode := 0, output := usage }
  else if argument ∈ versionFlags then { exitCode := 0, output := title.toList ++ ['\n'] }
  else { exitCode := 2, output := usage, errors := [("Unknown option: " ++ argument).toList] }

/-- The first argument that decides a run decides it alone, in every environment and whatever the
files hold. Without one a run needs a path, and shows the file at the last path in the last mode. -/
theorem run_by_arguments (arguments : List String) :
    (∀ argument, arguments.find? decides = some argument →
      ∀ environment read, run environment read arguments = verdict argument) ∧
    (arguments.find? decides = none → lastPath? arguments = none →
      ∀ environment read,
        run environment read arguments = { exitCode := 2, output := usage }) ∧
    (arguments.find? decides = none → ∀ path, lastPath? arguments = some path →
      ∀ environment read,
        Shows environment read ((lastMode? arguments).getD .highlight) path
          (run environment read arguments)) := by
  have hrequest := after_eq arguments .highlight none
  rw [Option.or_none] at hrequest
  refine ⟨fun argument hfirst environment read => ?_, fun hnone hpath environment read => ?_,
    fun hnone path hpath environment read => ?_⟩
  · rw [hfirst] at hrequest
    simp only [run, ofArguments, hrequest, ofDecisive, verdict]
    split_ifs <;> rfl
  · rw [hnone, hpath] at hrequest
    simp only [run, ofArguments, hrequest]
  · rw [hnone, hpath] at hrequest
    simp only [run, ofArguments, hrequest]
    exact present_shows environment read _ path

end Program

end DroolsInk
