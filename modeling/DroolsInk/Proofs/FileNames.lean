import Mathlib.Data.List.Forall2
import Mathlib.Data.List.DropRight
import DroolsInk.Files.FileFormat

/-!
# Which paths name a rule file

A path is split at its slashes, and the parts that say nothing are left out. Splitting takes a path
with a slash in it to the parts of both sides, one after the other. So the last part that says
something is found from the end of the path alone: it is what stands after the last slash, once the
idle bytes at the end are dropped, which are slashes and dots behind a slash.

A name has an extension if it can be parted at a dot with something before it and no other dot
behind it. There is at most one such place, at the last dot.
-/

namespace DroolsInk

/-! ## 1. The end of a path -/

namespace Path

/-- Drops what is idle from the end of a path, which is given last byte first. -/
def dropIdle : List UInt8 → List UInt8
  | [] => []
  | [byte] => if byte = slash then [] else [byte]
  | byte :: next :: before =>
    if byte = slash then dropIdle (next :: before)
    else if byte = dot ∧ next = slash then dropIdle before
    else byte :: next :: before

/-- A path without the slashes, and the slashes with a dot behind them, that it ends with. -/
def trimmed (path : List UInt8) : List UInt8 := (dropIdle path.reverse).reverse

/-- What stands after the last slash; all of a path without a slash. -/
def lastPart (path : List UInt8) : List UInt8 := path.rtakeWhile (· ≠ slash)

/-- Slashes, each of which may have one dot behind it. -/
inductive Idle : List UInt8 → Prop
  | nil : Idle []
  | slash {before : List UInt8} (h : Idle before) : Idle (before ++ [slash])
  | slashDot {before : List UInt8} (h : Idle before) : Idle (before ++ [slash, dot])

variable {path directory name idle stem extension : List UInt8}

theorem exists_idle_dropIdle (path : List UInt8) :
    ∃ idle, Idle idle ∧ path.reverse = (dropIdle path).reverse ++ idle := by
  fun_induction dropIdle path with
  | case1 => exact ⟨[], .nil, rfl⟩
  | case2 => exact ⟨[slash], .slash .nil, rfl⟩
  | case3 => exact ⟨[], .nil, rfl⟩
  | case4 next before ih =>
    obtain ⟨idle, hidle, hpath⟩ := ih
    refine ⟨idle ++ [slash], hidle.slash, ?_⟩
    rw [List.reverse_cons, hpath, List.append_assoc]
  | case5 byte next before hslash hdot ih =>
    obtain ⟨idle, hidle, hpath⟩ := ih
    obtain ⟨rfl, rfl⟩ := hdot
    refine ⟨idle ++ [slash, dot], hidle.slashDot, ?_⟩
    rw [List.reverse_cons, List.reverse_cons, hpath]
    simp only [List.append_assoc, List.singleton_append]
  | case6 => exact ⟨[], .nil, (List.append_nil _).symm⟩

theorem not_prefix_dropIdle (path : List UInt8) :
    ¬[slash] <+: dropIdle path ∧ ¬[dot, slash] <+: dropIdle path := by
  fun_induction dropIdle path with
  | case1 => simp
  | case2 => simp
  | case3 byte hslash => simp [Ne.symm hslash]
  | case4 next before ih => exact ih
  | case5 byte next before hslash hdot ih => exact ih
  | case6 byte next before hslash hdot =>
    simp only [List.cons_prefix_cons, List.nil_prefix, and_true]
    exact ⟨Ne.symm hslash, fun h => hdot ⟨h.1.symm, h.2.symm⟩⟩

/-- What is dropped from a path is idle, and what is left does not end with more of it. -/
theorem exists_idle_trimmed (path : List UInt8) :
    (∃ idle, Idle idle ∧ path = trimmed path ++ idle) ∧
      ¬[slash] <:+ trimmed path ∧ ¬[slash, dot] <:+ trimmed path := by
  obtain ⟨idle, hidle, hpath⟩ := exists_idle_dropIdle path.reverse
  rw [List.reverse_reverse] at hpath
  have hend := not_prefix_dropIdle path.reverse
  refine ⟨⟨idle, hidle, hpath⟩, ?_, ?_⟩
  · exact fun h => hend.1 (List.reverse_suffix.1 h)
  · exact fun h => hend.2 (List.reverse_suffix.1 h)

/-- A byte is not in what stands after its last place, and that is all there is unless it has a
place. -/
theorem exists_rtakeWhile (byte : UInt8) (bytes : List UInt8) :
    byte ∉ bytes.rtakeWhile (· ≠ byte) ∧ (bytes.rtakeWhile (· ≠ byte) = bytes ∨
      ∃ before, bytes = before ++ byte :: bytes.rtakeWhile (· ≠ byte)) := by
  have hnone : byte ∉ bytes.rtakeWhile (· ≠ byte) := fun hmem => by
    simpa using List.mem_rtakeWhile_imp hmem
  refine ⟨hnone, ?_⟩
  have hsplit := List.rdropWhile_append_rtakeWhile (l := bytes) (p := fun other => other ≠ byte)
  by_cases hnil : bytes.rdropWhile (· ≠ byte) = []
  · rw [hnil] at hsplit
    exact .inl hsplit
  · have hlast : (bytes.rdropWhile (· ≠ byte)).getLast hnil = byte := by
      simpa using List.rdropWhile_last_not (fun other => decide (other ≠ byte)) bytes hnil
    rw [← List.dropLast_append_getLast hnil, hlast, List.append_assoc] at hsplit
    exact .inr ⟨_, hsplit.symm⟩

theorem rtakeWhile_append_cons {byte : UInt8} {after : List UInt8} (h : byte ∉ after)
    (before : List UInt8) : (before ++ byte :: after).rtakeWhile (· ≠ byte) = after := by
  rw [List.rtakeWhile, List.reverse_append, List.reverse_cons, List.append_assoc,
    List.singleton_append, List.takeWhile_append_of_pos, List.takeWhile_cons_of_neg (by simp),
    List.append_nil, List.reverse_reverse]
  intro other hmem
  refine decide_eq_true ?_
  rintro rfl
  exact h (List.mem_reverse.1 hmem)

/-! ## 2. The last component -/

theorem components_append_slash (before after : List UInt8) :
    components (before ++ slash :: after) = components before ++ components after := by
  have hsplit : (before ++ slash :: after).splitOn slash
      = before.splitOn slash ++ after.splitOn slash :=
    List.splitOnP_append_cons before after (beq_self_eq_true slash)
  rw [components, hsplit, List.filter_append, components, components]

theorem components_of_notMem (h : slash ∉ name) :
    components name = if name ≠ [] ∧ name ≠ [dot] then [name] else [] := by
  rw [components, List.splitOn_eq_singleton h, List.filter_singleton]
  simp

theorem components_append_idle (h : Idle idle) (path : List UInt8) :
    components (path ++ idle) = components path := by
  induction h with
  | nil => rw [List.append_nil]
  | slash h ih =>
    rw [← List.append_assoc, components_append_slash, ih]
    exact List.append_nil _
  | slashDot h ih =>
    rw [← List.append_assoc, components_append_slash, ih]
    exact List.append_nil _

theorem extension?_append_idle (h : Idle idle) (path : List UInt8) :
    extension? (path ++ idle) = extension? path := by
  rw [extension?, fileName?, components_append_idle h, extension?, fileName?]

/-- The directory has no say in the extension. -/
theorem extension?_append_slash (hslash : slash ∉ name) (hnil : name ≠ []) (hdot : name ≠ [dot])
    (directory : List UInt8) : extension? (directory ++ slash :: name) = extension? name := by
  have hname : components name = [name] := by rw [components_of_notMem hslash, if_pos ⟨hnil, hdot⟩]
  rw [extension?, fileName?, components_append_slash, hname, List.getLast?_concat, extension?,
    fileName?, hname]
  rfl

theorem extension?_of_notMem (h : slash ∉ name) :
    extension? name = if name = [dot, dot] then none else extensionOfName? name := by
  rw [extension?, fileName?, components_of_notMem h]
  by_cases hnil : name = []
  · subst hnil
    rfl
  by_cases hdot : name = [dot]
  · subst hdot
    rfl
  rw [if_pos ⟨hnil, hdot⟩]
  by_cases hup : name = [dot, dot]
  · subst hup
    rfl
  · rw [if_neg hup, List.getLast?_singleton, Option.filter_some, if_pos (decide_eq_true hup),
      Option.bind_some]

/-- The extension of a path is that of what stands after its last slash, once idle bytes are
dropped. -/
theorem extension?_eq (path : List UInt8) :
    extension? path =
      if lastPart (trimmed path) = [dot, dot] then none
      else extensionOfName? (lastPart (trimmed path)) := by
  obtain ⟨⟨idle, hidle, hpath⟩, hslash, hdot⟩ := exists_idle_trimmed path
  obtain ⟨hnone, hpart⟩ := exists_rtakeWhile slash (trimmed path)
  change slash ∉ lastPart (trimmed path) at hnone
  change lastPart (trimmed path) = trimmed path ∨
    ∃ directory, trimmed path = directory ++ slash :: lastPart (trimmed path) at hpart
  rw [← extension?_of_notMem hnone]
  have hidle' : extension? path = extension? (trimmed path) :=
    (congrArg extension? hpath).trans (extension?_append_idle hidle _)
  rw [hidle']
  rcases hpart with hwhole | ⟨directory, hsplit⟩
  · rw [hwhole]
  · -- an empty name, or a dot, would have been dropped with the slash before it
    have hnil : lastPart (trimmed path) ≠ [] := by
      intro hnil
      rw [hnil] at hsplit
      exact hslash ⟨directory, hsplit.symm⟩
    have hsingle : lastPart (trimmed path) ≠ [dot] := by
      intro hsingle
      rw [hsingle] at hsplit
      exact hdot ⟨directory, hsplit.symm⟩
    exact (congrArg extension? hsplit).trans (extension?_append_slash hnone hnil hsingle directory)

/-! ## 3. The extension of a name -/

theorem extensionOfName?_append (h : dot ∉ extension) :
    extensionOfName? (stem ++ dot :: extension) = if stem = [] then none else some extension := by
  have hlast : ((stem ++ dot :: extension).reverse.takeWhile (· ≠ dot)).reverse = extension :=
    rtakeWhile_append_cons h stem
  have hlength : (stem ++ dot :: extension).length - extension.length - 1 = stem.length := by
    rw [List.length_append, List.length_cons]
    omega
  simp only [extensionOfName?, hlast, hlength, List.take_left]

/-- A name has the extension that it can be parted into, with something before the dot. -/
theorem extensionOfName?_eq_some_iff : extensionOfName? name = some extension ↔
    ∃ stem, name = stem ++ dot :: extension ∧ stem ≠ [] ∧ dot ∉ extension := by
  constructor
  · intro h
    obtain ⟨hdot, hwhole | ⟨stem, hsplit⟩⟩ := exists_rtakeWhile dot name
    · have hnone : extensionOfName? name = none := by
        have hall : (name.reverse.takeWhile (· ≠ dot)).reverse = name := hwhole
        simp only [extensionOfName?, hall, Nat.sub_self, Nat.zero_sub, List.take_zero, if_pos]
      rw [hnone] at h
      cases h
    · rw [hsplit, extensionOfName?_append hdot] at h
      split at h
      · cases h
      · next hstem =>
        obtain rfl := Option.some.inj h
        exact ⟨stem, hsplit, hstem, hdot⟩
  · rintro ⟨stem, rfl, hstem, hdot⟩
    rw [extensionOfName?_append hdot, if_neg hstem]

end Path

/-! ## 4. Rule files -/

namespace FileFormat

/-- The bytes are the letters of the word, each of them small or capital. -/
def Spells (word : List Char) (bytes : List UInt8) : Prop :=
  List.Forall₂ (fun letter byte => byte = letter.toUInt8 ∨ byte = letter.toUpper.toUInt8) word bytes

/-- Something, a dot, and the extension of rule files. -/
def IsRuleFileName (name : List UInt8) : Prop :=
  ∃ stem extension, name = stem ++ Path.dot :: extension ∧ stem ≠ [] ∧ Path.dot ∉ extension ∧
    Spells "drl".toList extension

theorem lowerByte_eq_iff {byte letter : UInt8} (hlow : 97 ≤ letter) (hhigh : letter ≤ 122) :
    lowerByte byte = letter ↔ byte = letter ∨ byte = letter - 32 := by
  unfold lowerByte
  split
  · grind
  · grind

/-- Small letters stand for themselves and for their capitals. -/
theorem map_lowerByte_eq_iff {word : List Char} {bytes : List UInt8}
    (h : ∀ letter ∈ word, 97 ≤ letter.toUInt8 ∧ letter.toUInt8 ≤ 122 ∧
      letter.toUpper.toUInt8 = letter.toUInt8 - 32) :
    bytes.map lowerByte = word.map Char.toUInt8 ↔ Spells word bytes := by
  induction word generalizing bytes with
  | nil =>
    rw [List.map_nil, List.map_eq_nil_iff, Spells, List.forall₂_nil_left_iff]
  | cons letter word ih =>
    obtain ⟨⟨hlow, hhigh, hupper⟩, hword⟩ := List.forall_mem_cons.1 h
    cases bytes with
    | nil => simp [Spells]
    | cons byte bytes =>
      rw [List.map_cons, List.map_cons, List.cons.injEq, ih hword, lowerByte_eq_iff hlow hhigh,
        ← hupper, Spells, Spells, List.forall₂_cons]

theorem sameUpToCase_drl_iff {bytes : List UInt8} :
    sameUpToCase bytes (Text.encode drools.extension.toList) = true
      ↔ Spells "drl".toList bytes := by
  have hword : (Text.encode drools.extension.toList).map lowerByte
      = "drl".toList.map Char.toUInt8 := by
    decide
  rw [sameUpToCase, decide_eq_true_iff, hword]
  -- letter by letter, since deciding this for a list may go through all characters
  refine map_lowerByte_eq_iff (List.forall_mem_cons.2 ⟨by decide,
    List.forall_mem_cons.2 ⟨by decide, ?_⟩⟩)
  exact List.forall_mem_singleton.2 (by decide)

theorem recognises_iff {format : FileFormat} {path : List UInt8} :
    format.recognises path = true ↔
      Path.lastPart (Path.trimmed path) ≠ [Path.dot, Path.dot] ∧
        ∃ stem extension, Path.lastPart (Path.trimmed path) = stem ++ Path.dot :: extension ∧
          stem ≠ [] ∧ Path.dot ∉ extension ∧
          sameUpToCase extension (Text.encode format.extension.toList) = true := by
  rw [recognises, Path.extension?_eq, Option.any_eq_true]
  constructor
  · rintro ⟨extension, hextension, hsame⟩
    split at hextension
    · cases hextension
    · next hup =>
      obtain ⟨stem, hname, hstem, hdot⟩ := Path.extensionOfName?_eq_some_iff.1 hextension
      exact ⟨hup, stem, extension, hname, hstem, hdot, hsame⟩
  · rintro ⟨hup, stem, extension, hname, hstem, hdot, hsame⟩
    refine ⟨extension, ?_, hsame⟩
    rw [if_neg hup]
    exact Path.extensionOfName?_eq_some_iff.2 ⟨stem, hname, hstem, hdot⟩

theorem ofPath?_eq_drools_iff {path : List UInt8} : ofPath? path = some drools ↔
    Path.lastPart (Path.trimmed path) ≠ [Path.dot, Path.dot] ∧
      IsRuleFileName (Path.lastPart (Path.trimmed path)) := by
  simp only [IsRuleFileName, ← sameUpToCase_drl_iff, ← recognises_iff, ofPath?,
    ite_eq_left_iff, reduceCtorEq, imp_false, Bool.not_eq_true, Bool.not_eq_false]

theorem ofPath?_eq_none_iff {path : List UInt8} :
    ofPath? path = none ↔ ofPath? path ≠ some drools := by
  unfold ofPath?
  split
  · simp
  · simp

theorem ofPath?_eq_of_extension? {path other : List UInt8}
    (h : Path.extension? path = Path.extension? other) : ofPath? path = ofPath? other := by
  rw [ofPath?, recognises, h]
  rfl

/-- A dot with nothing before it starts no extension. -/
theorem ofPath?_eq_none_of_dot_notMem {name : List UInt8} (h : Path.dot ∉ name) :
    ofPath? name = none ∧ ofPath? (Path.dot :: name) = none := by
  have hinside : ∀ path, ofPath? path ≠ none →
      ∃ front stem rest, path = front ++ stem ++ Path.dot :: rest ∧ stem ≠ [] := by
    intro path hpath
    obtain ⟨-, stem, extension, hname, hstem, -, -⟩ :=
      ofPath?_eq_drools_iff.1 (not_not.1 (mt ofPath?_eq_none_iff.2 hpath))
    obtain ⟨front, hfront⟩ : Path.lastPart (Path.trimmed path) <:+ Path.trimmed path :=
      List.rtakeWhile_suffix _ _
    obtain ⟨idle, -, hpath⟩ := (Path.exists_idle_trimmed path).1
    refine ⟨front, stem, extension ++ idle, ?_, hstem⟩
    rw [← hfront, hname] at hpath
    simpa [List.append_assoc] using hpath
  constructor
  · by_contra hne
    obtain ⟨front, stem, rest, hname, -⟩ := hinside _ hne
    exact h (hname ▸ List.mem_append_right _ List.mem_cons_self)
  · by_contra hne
    obtain ⟨front, stem, rest, hname, hstem⟩ := hinside _ hne
    cases hfirst : front ++ stem with
    | nil => exact hstem (List.append_eq_nil_iff.1 hfirst).2
    | cons byte before =>
      rw [hfirst, List.cons_append, List.cons.injEq] at hname
      exact h (hname.2 ▸ List.mem_append_right _ List.mem_cons_self)

/-- What stands after the last slash is a name of a rule file, once the slashes and the slashes with
a dot at the end of the path are dropped. -/
def NamesRuleFile (path : List UInt8) : Prop :=
  let name := Path.lastPart (Path.trimmed path)
  name ≠ [Path.dot] ∧ name ≠ [Path.dot, Path.dot] ∧ IsRuleFileName name

theorem IsRuleFileName.ne_dot {name : List UInt8} (h : IsRuleFileName name) :
    name ≠ [Path.dot] := by
  obtain ⟨stem, extension, rfl, hstem, -, -⟩ := h
  intro hdot
  have hlength := congrArg List.length hdot
  have hpos := List.length_pos_iff.2 hstem
  simp only [List.length_append, List.length_cons, List.length_nil] at hlength
  omega

/-- A path is that of a rule file exactly if it names one. The directory has no say in it, and
neither have idle bytes at the end. A name that only begins with a dot, or has none, is not one of a
rule file, and neither is a path that goes up a directory in the end. -/
theorem ofPath?_goes_by_lastPart :
    (∀ path, (ofPath? path = some drools ↔ NamesRuleFile path) ∧
      (ofPath? path = none ↔ ¬NamesRuleFile path)) ∧
    (∀ directory name idle, Path.slash ∉ name → name ≠ [] → name ≠ [Path.dot] → Path.Idle idle →
      ofPath? (directory ++ Path.slash :: name ++ idle) = ofPath? name) ∧
    (∀ path, ofPath? (path ++ [Path.slash]) = ofPath? path ∧
      ofPath? (path ++ [Path.slash, Path.dot]) = ofPath? path) ∧
    (∀ name, Path.dot ∉ name → ofPath? name = none ∧ ofPath? (Path.dot :: name) = none) ∧
    ∀ directory, ofPath? (directory ++ [Path.slash, Path.dot, Path.dot]) = none := by
  refine ⟨?_, ?_, ?_, ?_, ?_⟩
  · intro path
    have hdrools : ofPath? path = some drools ↔ NamesRuleFile path := by
      rw [ofPath?_eq_drools_iff, NamesRuleFile, iff_and_self]
      exact fun h => h.2.ne_dot
    refine ⟨hdrools, ?_⟩
    rw [← hdrools, ofPath?_eq_none_iff]
  · intro directory name idle hslash hnil hdot hidle
    apply ofPath?_eq_of_extension?
    rw [Path.extension?_append_idle hidle, Path.extension?_append_slash hslash hnil hdot]
  · intro path
    constructor
    · exact ofPath?_eq_of_extension? (Path.extension?_append_idle (.slash .nil) path)
    · exact ofPath?_eq_of_extension? (Path.extension?_append_idle (.slashDot .nil) path)
  · intro name hdot
    exact ofPath?_eq_none_of_dot_notMem hdot
  · intro directory
    have hextension : Path.extension? (directory ++ [Path.slash, Path.dot, Path.dot]) = none :=
      Path.extension?_append_slash (by decide) (by decide) (by decide) directory
    have hnone : Path.extension? [] = none := rfl
    exact ofPath?_eq_of_extension? (hextension.trans hnone.symm)

example : ["rules.d/Discount.old.Drl/./", ".drl", "drl", "x.drl/.."].map
      (fun path => (ofPath? (Text.encode path.toList)).isSome) = [true, false, false, false] := by
  decide

end FileFormat

end DroolsInk
