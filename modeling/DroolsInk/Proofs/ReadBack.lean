import Mathlib.Data.List.Forall2
import DroolsInk.Listing
import DroolsInk.Proofs.Tiling

/-!
# A listing can be read back

Nothing of a text is lost in its listing. The lines of the listing are its entries, since the quotes
of an entry hide the line feeds of its token; the first two blanks of a line part the place, the
name of the kind and the quoted text, since neither a place nor a name has a blank; the name tells
the kind; and the quoted text can be unquoted. So the text can be read off the listing, and texts
that differ have listings that differ.

It does not matter which characters are written by their code points: every escape begins with the
backslash, and a character that stands for itself is none.
-/

namespace DroolsInk

/-! ## 1. Unquoting -/

namespace Text

/-- What a short escape stands for, by the character after its backslash. -/
def shortEscape? : Char → Option Char
  | '0' => some '\x00'
  | 't' => some '\t'
  | 'r' => some '\r'
  | 'n' => some '\n'
  | '\"' => some '\"'
  | '\\' => some '\\'
  | _ => none

def hexValue? (c : Char) : Option Nat :=
  if '0' ≤ c ∧ c ≤ '9' then some (c.toNat - '0'.toNat)
  else if 'a' ≤ c ∧ c ≤ 'f' then some (c.toNat - 'a'.toNat + 10)
  else none

/-- What a reader of quoted text takes the next character for. -/
inductive QuotePhase where
  /-- The opening quote is still to come. -/
  | before
  | inside
  /-- A backslash has just been read. -/
  | escaped
  /-- The brace before a code point is still to come. -/
  | marked
  /-- The digits of a code point are read; `value` is what they come to. -/
  | digits (value : Nat)
  /-- The closing quote has been read, and nothing may follow. -/
  | after
  deriving DecidableEq, Repr

/-- How far a reader of quoted text has come, and the characters it has read. -/
structure QuoteReader where
  phase : QuotePhase := .before
  text : List Char := []
  deriving DecidableEq, Repr

namespace QuoteReader

def step? (reader : QuoteReader) (c : Char) : Option QuoteReader :=
  match reader.phase with
  | .before => if c = '\"' then some { reader with phase := .inside } else none
  | .inside =>
    if c = '\"' then some { reader with phase := .after }
    else if c = '\\' then some { reader with phase := .escaped }
    else some { reader with text := reader.text ++ [c] }
  | .escaped =>
    if c = 'u' then some { reader with phase := .marked }
    else (shortEscape? c).map fun plain => ⟨.inside, reader.text ++ [plain]⟩
  | .marked => if c = '\x7b' then some { reader with phase := .digits 0 } else none
  | .digits value =>
    if c = '\x7d' then
      if value.isValidChar then some ⟨.inside, reader.text ++ [Char.ofNat value]⟩ else none
    else (hexValue? c).map fun digit => { reader with phase := .digits (16 * value + digit) }
  | .after => none

def feed? (reader : QuoteReader) : List Char → Option QuoteReader
  | [] => some reader
  | c :: rest => (reader.step? c).bind fun next => next.feed? rest

end QuoteReader

def unquote? (quoted : List Char) : Option (List Char) :=
  match QuoteReader.feed? {} quoted with
  | some ⟨.after, text⟩ => some text
  | _ => none

namespace QuoteReader

variable {text : List Char} {c : Char}

theorem feed?_append (reader : QuoteReader) (first second : List Char) :
    reader.feed? (first ++ second) = (reader.feed? first).bind fun next => next.feed? second := by
  induction first generalizing reader with
  | nil => rfl
  | cons c first ih =>
    rw [List.cons_append, feed?, feed?, Option.bind_assoc]
    exact congrArg _ (funext ih)

theorem hexValue?_digitChar {digit : Nat} (h : digit < 16) :
    digit.digitChar ≠ '\x7d' ∧ hexValue? digit.digitChar = some digit := by
  have hall : ∀ digit < 16, digit.digitChar ≠ '\x7d' ∧ hexValue? digit.digitChar = some digit := by
    decide
  exact hall digit h

theorem step?_digitChar {digit : Nat} (h : digit < 16) (value : Nat) :
    step? ⟨.digits value, text⟩ digit.digitChar = some ⟨.digits (16 * value + digit), text⟩ := by
  obtain ⟨hbrace, hvalue⟩ := hexValue?_digitChar h
  simp only [step?, if_neg hbrace, hvalue, Option.map_some]

/-- The digits of a number are read as the number. The induction takes off the last digit, as the
digits are made. -/
theorem feed?_toDigits (number : Nat) :
    feed? ⟨.digits 0, text⟩ (Nat.toDigits 16 number) = some ⟨.digits number, text⟩ := by
  induction number using Nat.strongRecOn with
  | ind number ih =>
    rcases Nat.lt_or_ge number 16 with hlt | hge
    · rw [Nat.toDigits_of_lt_base hlt, feed?, step?_digitChar hlt]
      simp only [Nat.mul_zero, Nat.zero_add]
      rfl
    · have hdigit : number % 16 < 16 := Nat.mod_lt number (by decide)
      rw [Nat.toDigits_of_base_le (by decide) hge, feed?_append, ih (number / 16) (by omega),
        Option.bind_some, feed?, step?_digitChar hdigit, Nat.div_add_mod]
      rfl

theorem feed?_codePointEscape (c : Char) :
    feed? ⟨.inside, text⟩ (codePointEscape c) = some ⟨.inside, text ++ [c]⟩ := by
  have hmark : codePointEscape c = ['\\', 'u', '\x7b'] ++ (Nat.toDigits 16 c.toNat ++ ['\x7d']) :=
    rfl
  rw [hmark, feed?_append, show feed? ⟨.inside, text⟩ ['\\', 'u', '\x7b'] = some ⟨.digits 0, text⟩
    from rfl, Option.bind_some, feed?_append, feed?_toDigits, Option.bind_some, feed?]
  have hvalid : c.toNat.isValidChar := c.valid
  simp only [step?, if_pos hvalid, Char.ofNat_toNat]
  rfl

/-- A character is written by a short escape, by its code point, or by itself. -/
theorem escapeChar_cases (hidden : Char → Bool) (c : Char) :
    (∃ mark, escapeChar hidden c = ['\\', mark] ∧ mark ≠ 'u' ∧ mark ≠ '\n' ∧
      shortEscape? mark = some c) ∨
    escapeChar hidden c = codePointEscape c ∨
    (escapeChar hidden c = [c] ∧ c ≠ '\"' ∧ c ≠ '\\' ∧ c ≠ '\n') := by
  unfold escapeChar
  split
  · exact Or.inl ⟨'0', rfl, by decide, by decide, rfl⟩
  · exact Or.inl ⟨'t', rfl, by decide, by decide, rfl⟩
  · exact Or.inl ⟨'r', rfl, by decide, by decide, rfl⟩
  · exact Or.inl ⟨'n', rfl, by decide, by decide, rfl⟩
  · exact Or.inl ⟨'\"', rfl, by decide, by decide, rfl⟩
  · exact Or.inl ⟨'\\', rfl, by decide, by decide, rfl⟩
  · next _ _ _ hfeed hquote hslash =>
    split
    · exact Or.inr (Or.inl rfl)
    · exact Or.inr (Or.inr ⟨rfl, hquote, hslash, hfeed⟩)

theorem feed?_escapeChar (hidden : Char → Bool) (c : Char) :
    feed? ⟨.inside, text⟩ (escapeChar hidden c) = some ⟨.inside, text ++ [c]⟩ := by
  rcases escapeChar_cases hidden c with ⟨mark, hescape, hmark, -, hshort⟩ | hescape |
    ⟨hescape, hquote, hslash, -⟩
  · rw [hescape, feed?, show step? ⟨.inside, text⟩ '\\' = some ⟨.escaped, text⟩ from rfl,
      Option.bind_some, feed?]
    simp only [step?, if_neg hmark, hshort]
    rfl
  · rw [hescape, feed?_codePointEscape]
  · rw [hescape, feed?]
    simp only [step?, if_neg hquote, if_neg hslash]
    rfl

theorem feed?_flatMap_escapeChar (hidden : Char → Bool) (chars : List Char) :
    feed? ⟨.inside, text⟩ (chars.flatMap (escapeChar hidden)) = some ⟨.inside, text ++ chars⟩ := by
  induction chars generalizing text with
  | nil => rw [List.append_nil]; rfl
  | cons c chars ih =>
    rw [List.flatMap_cons, feed?_append, feed?_escapeChar, Option.bind_some, ih, List.append_assoc]
    rfl

end QuoteReader

theorem unquote?_quoteHiding (hidden : Char → Bool) (text : List Char) :
    unquote? (quoteHiding hidden text) = some text := by
  have hfeed : QuoteReader.feed? {} (quoteHiding hidden text) = some ⟨.after, text⟩ := by
    rw [quoteHiding, QuoteReader.feed?,
      show QuoteReader.step? {} '\"' = some ⟨.inside, []⟩ from rfl, Option.bind_some,
      QuoteReader.feed?_append, QuoteReader.feed?_flatMap_escapeChar, List.nil_append]
    rfl
  rw [unquote?, hfeed]

/-! ## 2. Quotes hide line feeds -/

theorem exists_digitChar_of_mem_toDigits {number : Nat} {c : Char}
    (h : c ∈ Nat.toDigits 16 number) : ∃ digit < 16, c = digit.digitChar := by
  induction number using Nat.strongRecOn with
  | ind number ih =>
    rcases Nat.lt_or_ge number 16 with hlt | hge
    · rw [Nat.toDigits_of_lt_base hlt, List.mem_singleton] at h
      exact ⟨number, hlt, h⟩
    · rw [Nat.toDigits_of_base_le (by decide) hge, List.mem_append, List.mem_singleton] at h
      rcases h with h | h
      · exact ih (number / 16) (by omega) h
      · exact ⟨number % 16, Nat.mod_lt number (by decide), h⟩

theorem lineFeed_not_mem_escapeChar (hidden : Char → Bool) (c : Char) :
    '\n' ∉ escapeChar hidden c := by
  rcases QuoteReader.escapeChar_cases hidden c with ⟨mark, hescape, -, hmark, -⟩ | hescape |
    ⟨hescape, -, -, hfeed⟩
  · rw [hescape]
    simp [Ne.symm hmark]
  · rw [hescape, codePointEscape]
    have hdigits : '\n' ∉ Nat.toDigits 16 c.toNat := by
      intro hmem
      obtain ⟨digit, hdigit, heq⟩ := exists_digitChar_of_mem_toDigits hmem
      have hnone : ∀ digit < 16, '\n' ≠ digit.digitChar := by decide
      exact hnone digit hdigit heq
    simp [hdigits]
  · rw [hescape]
    simp [Ne.symm hfeed]

theorem lineFeed_not_mem_quoteHiding (hidden : Char → Bool) (text : List Char) :
    '\n' ∉ quoteHiding hidden text := by
  simp [quoteHiding, lineFeed_not_mem_escapeChar]

end Text

/-! ## 3. Lines and their fields -/

namespace Listing

open Text

/-- What stands before the first blank of a line, and what stands after it. -/
def splitBlank (line : List Char) : List Char × List Char :=
  (line.takeWhile (· ≠ ' '), (line.dropWhile (· ≠ ' ')).drop 1)

/-- The three fields of a line, which its first two blanks part. -/
def fields (line : List Char) : List Char × List Char × List Char :=
  ((splitBlank line).1, splitBlank (splitBlank line).2)

/-- What the line says is the place of the token, its kind and its text. -/
structure Tells (line : List Char) (place : Place) (token : Token) : Prop where
  place_eq : (fields line).1 = decimal place.line ++ ':' :: decimal place.column
  name_eq : (fields line).2.1 = token.kind.name.toList
  kind_eq : Kind.ofName? (String.ofList (fields line).2.1) = some token.kind
  text_eq : unquote? (fields line).2.2 = some token.text

def readText? (listing : List Char) : Option (List Char) :=
  ((listing.splitOn '\n').dropLast.mapM fun line => unquote? (fields line).2.2).map List.flatten

theorem splitBlank_append {front : List Char} (h : ' ' ∉ front) (rest : List Char) :
    splitBlank (front ++ ' ' :: rest) = (front, rest) := by
  have hfront : ∀ c ∈ front, decide (c ≠ ' ') = true := by
    intro c hmem
    exact decide_eq_true fun heq => h (heq ▸ hmem)
  rw [splitBlank, List.takeWhile_append_of_pos hfront, List.dropWhile_append_of_pos hfront,
    List.takeWhile_cons_of_neg (by decide), List.dropWhile_cons_of_neg (by decide), List.append_nil]
  rfl

theorem isDigit_of_mem_decimal {number : Nat} {c : Char} (h : c ∈ decimal number) :
    c.isDigit = true :=
  Nat.isDigit_of_mem_toDigits (by decide) (by decide) h

theorem not_mem_place {c : Char} (hcolon : c ≠ ':') (hdigit : c.isDigit = false) (place : Place) :
    c ∉ decimal place.line ++ ':' :: decimal place.column := by
  intro hmem
  have hnot : ∀ number, c ∉ decimal number := by
    intro number hmem
    rw [isDigit_of_mem_decimal hmem] at hdigit
    cases hdigit
  simp [hcolon, hnot] at hmem

theorem not_mem_name (kind : Kind) : ' ' ∉ kind.name.toList ∧ '\n' ∉ kind.name.toList := by
  cases kind <;> decide

/-- An entry without the line feed at its end. -/
def line (hidden : Char → Bool) (place : Place) (token : Token) : List Char :=
  (decimal place.line ++ ':' :: decimal place.column) ++ ' ' :: (token.kind.name.toList
    ++ ' ' :: quoteHiding hidden token.text)

theorem entry_eq (hidden : Char → Bool) (place : Place) (token : Token) :
    entry hidden place token = line hidden place token ++ ['\n'] := by
  simp [entry, line]

theorem lineFeed_not_mem_line (hidden : Char → Bool) (place : Place) (token : Token) :
    '\n' ∉ line hidden place token := by
  intro hmem
  rcases List.mem_append.1 hmem with hplace | hmem
  · exact not_mem_place (by decide) (by decide) place hplace
  rcases List.mem_cons.1 hmem with hblank | hmem
  · exact absurd hblank (by decide)
  rcases List.mem_append.1 hmem with hname | hmem
  · exact (not_mem_name token.kind).2 hname
  rcases List.mem_cons.1 hmem with hblank | hquote
  · exact absurd hblank (by decide)
  · exact lineFeed_not_mem_quoteHiding hidden token.text hquote

theorem tells_line (hidden : Char → Bool) (place : Place) (token : Token) :
    Tells (line hidden place token) place token := by
  have hfields : fields (line hidden place token)
      = (decimal place.line ++ ':' :: decimal place.column, token.kind.name.toList,
          quoteHiding hidden token.text) := by
    rw [fields, line, splitBlank_append (not_mem_place (by decide) (by decide) place),
      splitBlank_append (not_mem_name token.kind).1]
  constructor
  case place_eq => rw [hfields]
  case name_eq => rw [hfields]
  case kind_eq => rw [hfields, String.ofList_toList, Kind.ofName?_name]
  case text_eq => rw [hfields, unquote?_quoteHiding]

/-! ## 4. Whole listings -/

theorem splitOn_lineFeed {lines : List (List Char)} (h : ∀ line ∈ lines, '\n' ∉ line) :
    (lines.flatMap (· ++ ['\n'])).splitOn '\n' = lines ++ [[]] := by
  induction lines with
  | nil => rfl
  | cons line lines ih =>
    rw [List.flatMap_cons, List.append_assoc, List.singleton_append,
      List.splitOn_append_cons_self_of_not_mem (h line List.mem_cons_self),
      ih fun other hmem => h other (List.mem_cons_of_mem _ hmem)]
    rfl

/-- The listing has one line for each token of the text, in their order, and nothing else; each line
tells its token, and together they tell the text. -/
structure Recovers (listing : List Char) (tabWidth : Nat) (text : List Char) : Prop where
  lines : ∃ lines : List (List Char), listing = lines.flatMap (· ++ ['\n']) ∧
    (∀ line ∈ lines, '\n' ∉ line) ∧
    List.Forall₂ (fun line token => Tells line (place (.ofText text) tabWidth token.start) token)
      lines (tokens text)
  text_eq : readText? listing = some text

/-- The text of a run of lines is that of their tokens. -/
theorem mapM_unquote? {lines : List (List Char)} {list : List Token} {placeOf : Token → Place}
    (h : List.Forall₂ (fun line token => Tells line (placeOf token) token) lines list) :
    lines.mapM (fun line => unquote? (fields line).2.2) = some (list.map Token.text) := by
  induction h with
  | nil => rfl
  | cons hline _ ih =>
    rw [List.mapM_cons, hline.text_eq, ih]
    rfl

theorem recovers_ofTextHiding (hidden : Char → Bool) (tabWidth : Nat) (text : List Char) :
    Recovers (ofTextHiding hidden tabWidth text) tabWidth text := by
  let placeOf := fun token : Token => place (.ofText text) tabWidth token.start
  let lines := (tokens text).map fun token => line hidden (placeOf token) token
  have hlisting : ofTextHiding hidden tabWidth text = lines.flatMap (· ++ ['\n']) := by
    rw [List.flatMap_map]
    exact List.flatMap_congr fun token _ => entry_eq hidden (placeOf token) token
  have hfeed : ∀ line ∈ lines, '\n' ∉ line := by
    intro line hmem
    obtain ⟨token, -, rfl⟩ := List.mem_map.1 hmem
    exact lineFeed_not_mem_line hidden (placeOf token) token
  have htells : List.Forall₂ (fun line token => Tells line (placeOf token) token)
      lines (tokens text) := by
    apply List.forall₂_map_left_iff.2
    apply List.forall₂_same.2
    intro token _
    exact tells_line hidden (placeOf token) token
  constructor
  case lines => exact ⟨lines, hlisting, hfeed, htells⟩
  case text_eq =>
    rw [readText?, hlisting, splitOn_lineFeed hfeed, List.dropLast_concat, mapM_unquote? htells,
      Option.map_some, ← List.flatMap_def, flatMap_text_tokens]

/-- What is read from a listing does not depend on how it was written. -/
theorem eq_of_ofTextHiding_eq {hidden otherHidden : Char → Bool} {tabWidth otherWidth : Nat}
    {text other : List Char}
    (h : ofTextHiding hidden tabWidth text = ofTextHiding otherHidden otherWidth other) :
    text = other := by
  have htext := (recovers_ofTextHiding hidden tabWidth text).text_eq
  have hother := (recovers_ofTextHiding otherHidden otherWidth other).text_eq
  rw [h] at htext
  exact Option.some.inj (htext.symm.trans hother)

/-- The listing of a text can be read back and no two texts have the same listing, whichever
characters a listing writes by their code points. -/
theorem recovers_ofText (tabWidth : Nat) (text : List Char) :
    Recovers (ofText tabWidth text) tabWidth text ∧
    (∀ otherWidth other, ofText tabWidth text = ofText otherWidth other → text = other) ∧
    ∀ hidden, Recovers (ofTextHiding hidden tabWidth text) tabWidth text ∧
      ∀ otherHidden otherWidth other,
        ofTextHiding hidden tabWidth text = ofTextHiding otherHidden otherWidth other →
          text = other := by
  refine ⟨recovers_ofTextHiding Text.isHidden tabWidth text, ?_, ?_⟩
  · intro otherWidth other hsame
    exact eq_of_ofTextHiding_eq hsame
  · intro hidden
    refine ⟨recovers_ofTextHiding hidden tabWidth text, ?_⟩
    intro otherHidden otherWidth other hsame
    exact eq_of_ofTextHiding_eq hsame

end Listing

end DroolsInk
