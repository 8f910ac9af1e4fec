import Mathlib.Algebra.Group.Nat.Even
import Mathlib.Data.List.DropRight
import Mathlib.Data.List.Forall2
import Mathlib.Data.Nat.Find
import Mathlib.Order.Bounds.Image
import DroolsInk.Proofs.Parts

/-!
# A string literal ends with the first quote that closes it

The scanner goes through a literal in steps: a backslash and the character after it are one step,
and so is every other character. The rule can be said without steps. A quote of the literal's own
sort closes it if the number of backslashes right before the quote, counted back to the opening
quote at most, is even; the literal ends with the first quote that closes it, and goes on to the end
of the text if none does.

Both say the same since a step never ends within a pair: where a step begins, the number of
backslashes right before is even. This is the invariant of the induction; it holds at the opening
quote, a pair adds two backslashes or ends the run of them, and every other character ends it.
-/

namespace DroolsInk

/-! ## 1. The first end -/

/-- A search that finds the least of the lengths at which something ends in a text, and nothing if
there is no such length. -/
def FindsFirst (findEnd : List Char → Option Nat) (ends : List Char → Set Nat) : Prop :=
  ∀ text length, findEnd text = some length ↔ IsLeast (ends text) length

theorem findsFirst_of_le {findEnd : List Char → Option Nat} {ends : List Char → Set Nat}
    (hfound : ∀ text length, findEnd text = some length → length ∈ ends text)
    (hfirst : ∀ text, ∀ length ∈ ends text, ∃ first, findEnd text = some first ∧ first ≤ length) :
    FindsFirst findEnd ends := by
  intro text length
  constructor
  · intro h
    refine ⟨hfound text length h, ?_⟩
    intro other hother
    obtain ⟨first, hsome, hle⟩ := hfirst text other hother
    rw [h] at hsome
    cases hsome
    exact hle
  · rintro ⟨hmem, hleast⟩
    obtain ⟨first, hsome, hle⟩ := hfirst text length hmem
    rw [hsome, Nat.le_antisymm hle (hleast (hfound text first hsome))]

/-- Where a search finds nothing there is nothing, since lengths that are there have a least one. -/
theorem FindsFirst.notMem_of_eq_none {findEnd : List Char → Option Nat}
    {ends : List Char → Set Nat} {text : List Char} (h : FindsFirst findEnd ends)
    (hnone : findEnd text = none) (length : Nat) : length ∉ ends text := by
  classical
  intro hmem
  have hleast : IsLeast (ends text) (Nat.find ⟨length, hmem⟩) :=
    ⟨Nat.find_spec ⟨length, hmem⟩, fun _ => Nat.find_min' _⟩
  rw [← h text, hnone] at hleast
  cases hleast

/-- The token ends at the first of the stops and is of the kind `closed`; or, if there is no stop,
it ends where the text ends and is of the kind `unclosed`. -/
structure Token.EndsAtFirst (token : Token) (text : List Char) (stops : Set Nat)
    (closed unclosed : Kind) : Prop where
  of_isLeast : ∀ stop, IsLeast stops stop → token.kind = closed ∧ token.stop = stop
  of_empty : (∀ stop, stop ∉ stops) → token.kind = unclosed ∧ token.stop = Text.size text

theorem Text.monotone_size_take (base : Nat) (text : List Char) :
    Monotone fun length => base + size (text.take length) := by
  intro few many hle
  have hsplit := congrArg size (List.take_append_drop few (text.take many))
  rw [List.take_take, Nat.min_eq_left hle, size_append] at hsplit
  simp only
  omega

namespace Token

variable {findEnd : List Char → Option Nat} {ends : List Char → Set Nat} {stops : Set Nat}

/-- What is enclosed by an opening and the first end behind it. -/
theorem endsAtFirst_enclosed (h : FindsFirst findEnd ends) (before opening rest : List Char)
    (hstops : stops = (fun length => Text.size (before ++ opening) + Text.size (rest.take length))
      '' ends rest) (closed unclosed : Kind) :
    (Token.mk (if (enclosed findEnd rest).1 then closed else unclosed) (Text.size before)
        (opening ++ rest.take (enclosed findEnd rest).2)).EndsAtFirst
      (before ++ opening ++ rest) stops closed unclosed := by
  have hmono := Text.monotone_size_take (Text.size (before ++ opening)) rest
  have hstop : ∀ length, Text.size before + Text.size (opening ++ rest.take length)
      = Text.size (before ++ opening) + Text.size (rest.take length) := by
    intro length
    rw [Text.size_append, Text.size_append, Nat.add_assoc]
  cases hfound : findEnd rest with
  | some length =>
    have hleast := hmono.map_isLeast ((h rest length).1 hfound)
    rw [← hstops] at hleast
    simp only [enclosed, hfound]
    constructor
    case of_isLeast =>
      intro stop hstop'
      exact ⟨rfl, (hstop length).trans (hleast.unique hstop')⟩
    case of_empty =>
      intro hempty
      exact absurd hleast.1 (hempty _)
  | none =>
    have hnone : ∀ stop, stop ∉ stops := by
      rw [hstops]
      rintro stop ⟨length, hmem, -⟩
      exact h.notMem_of_eq_none hfound length hmem
    simp only [enclosed, hfound]
    constructor
    case of_isLeast =>
      intro stop hstop'
      exact absurd hstop'.1 (hnone stop)
    case of_empty =>
      intro _
      refine ⟨rfl, ?_⟩
      rw [Token.stop, hstop, List.take_length, ← Text.size_append]

end Token

/-! ## 2. Backslashes -/

/-- The number of backslashes at the end of a text. -/
def Text.backslashes (text : List Char) : Nat := (text.rtakeWhile (· == '\\')).length

namespace Text

theorem backslashes_concat_backslash (text : List Char) :
    backslashes (text ++ ['\\']) = backslashes text + 1 := by
  rw [backslashes, List.rtakeWhile_concat_pos _ _ _ (by decide), List.length_append]
  rfl

theorem backslashes_concat_of_ne {c : Char} (h : c ≠ '\\') (text : List Char) :
    backslashes (text ++ [c]) = 0 := by
  rw [backslashes, List.rtakeWhile_concat_neg _ _ _ (by simpa using h)]
  rfl

theorem even_backslashes_pair {text : List Char} (h : Even (backslashes text)) (c : Char) :
    Even (backslashes (text ++ ['\\', c])) := by
  have hpair : text ++ ['\\', c] = text ++ ['\\'] ++ [c] := by simp
  rw [hpair]
  by_cases hc : c = '\\'
  · rw [hc, backslashes_concat_backslash, backslashes_concat_backslash, Nat.even_add_one,
      Nat.even_add_one, not_not]
    exact h
  · rw [backslashes_concat_of_ne hc]
    exact Even.zero

end Text

/-! ## 3. Closing quotes -/

namespace Token

variable {mark : Char} {passed length : Nat} {seen text body after : List Char}

/-- The lengths at which a quote ends that closes a literal. -/
def quoteEnds (mark : Char) (rest : List Char) : Set Nat :=
  {length | ∃ body after, rest = body ++ mark :: after ∧ body.length + 1 = length ∧
    Even (Text.backslashes body)}

/-- The quote that is found closes the literal; `seen` is what was gone through before. -/
theorem exists_of_stringEnd?_eq_some (hseen : Even (Text.backslashes seen))
    (h : stringEnd? mark passed text = some length) :
    ∃ body after, text = body ++ mark :: after ∧ passed + (body.length + 1) = length ∧
      Even (Text.backslashes (seen ++ body)) := by
  fun_induction stringEnd? mark passed text generalizing seen with
  | case1 => cases h
  | case2 passed rest =>
    cases h
    exact ⟨[], rest, rfl, rfl, by rwa [List.append_nil]⟩
  | case3 => cases h
  | case4 passed c rest hmark ih =>
    obtain ⟨body, after, rfl, hlength, heven⟩ := ih (Text.even_backslashes_pair hseen c) h
    refine ⟨'\\' :: c :: body, after, rfl, ?_, ?_⟩
    · simp only [List.length_cons]
      omega
    · rwa [List.append_assoc] at heven
  | case5 passed c rest hmark hescape ih =>
    have hends : Even (Text.backslashes (seen ++ [c])) := by
      rw [Text.backslashes_concat_of_ne hescape]
      exact Even.zero
    obtain ⟨body, after, rfl, hlength, heven⟩ := ih hends h
    refine ⟨c :: body, after, rfl, ?_, ?_⟩
    · simp only [List.length_cons]
      omega
    · rwa [List.append_assoc] at heven

/-- No quote that closes the literal is passed over. -/
theorem stringEnd?_le_of_even (passed : Nat) (hseen : Even (Text.backslashes seen))
    (htext : text = body ++ mark :: after) (heven : Even (Text.backslashes (seen ++ body))) :
    ∃ first, stringEnd? mark passed text = some first ∧ first ≤ passed + (body.length + 1) := by
  fun_induction stringEnd? mark passed text generalizing seen body with
  | case1 => simp at htext
  | case2 passed rest => exact ⟨passed + 1, rfl, by omega⟩
  | case3 passed hmark =>
    cases body with
    | nil => exact absurd (List.cons.inj htext).1 hmark
    | cons first body => simp at htext
  | case4 passed c rest hmark ih =>
    cases body with
    | nil => exact absurd (List.cons.inj htext).1 hmark
    | cons escape body =>
      obtain ⟨rfl, htail⟩ := List.cons.inj htext
      cases body with
      | nil =>
        -- the quote is the second of a pair, behind an odd number of backslashes
        rw [Text.backslashes_concat_backslash, Nat.even_add_one] at heven
        exact absurd hseen heven
      | cons second body =>
        obtain ⟨rfl, hrest⟩ := List.cons.inj htail
        obtain ⟨first, hfirst, hle⟩ := ih (Text.even_backslashes_pair hseen c) hrest
          (by rwa [List.append_assoc])
        refine ⟨first, hfirst, ?_⟩
        simp only [List.length_cons]
        omega
  | case5 passed c rest hmark hescape ih =>
    cases body with
    | nil => exact absurd (List.cons.inj htext).1 hmark
    | cons other body =>
      obtain ⟨rfl, htail⟩ := List.cons.inj htext
      have hends : Even (Text.backslashes (seen ++ [c])) := by
        rw [Text.backslashes_concat_of_ne hescape]
        exact Even.zero
      obtain ⟨first, hfirst, hle⟩ := ih hends htail (by rwa [List.append_assoc])
      refine ⟨first, hfirst, ?_⟩
      simp only [List.length_cons]
      omega

theorem findsFirst_stringEnd? (mark : Char) :
    FindsFirst (stringEnd? mark 0) (quoteEnds mark) := by
  have hnone : Even (Text.backslashes []) := Even.zero
  apply findsFirst_of_le
  · intro text length h
    obtain ⟨body, after, htext, hlength, heven⟩ := exists_of_stringEnd?_eq_some hnone h
    rw [Nat.zero_add] at hlength
    exact ⟨body, after, htext, hlength, heven⟩
  · rintro text length ⟨body, after, htext, rfl, heven⟩
    obtain ⟨first, hfirst, hle⟩ := stringEnd?_le_of_even 0 hnone htext heven
    rw [Nat.zero_add] at hle
    exact ⟨first, hfirst, hle⟩

/-- In bytes, the ends of the quotes that close the literal which `mark` opens behind `before`. -/
def quoteStops (before : List Char) (mark : Char) (rest : List Char) : Set Nat :=
  {stop | ∃ body after, rest = body ++ mark :: after ∧
    Text.size (before ++ mark :: body) + 1 = stop ∧ Even (Text.backslashes body)}

theorem quoteStops_eq_image (hmark : mark.utf8Size = 1) (before rest : List Char) :
    quoteStops before mark rest =
      (fun length => Text.size (before ++ [mark]) + Text.size (rest.take length))
        '' quoteEnds mark rest := by
  have hsize : ∀ body after, rest = body ++ mark :: after →
      Text.size (before ++ [mark]) + Text.size (rest.take (body.length + 1))
        = Text.size (before ++ mark :: body) + 1 := by
    rintro body after rfl
    have htake : (body ++ mark :: after).take (body.length + 1) = body ++ [mark] := by
      rw [List.append_cons, ← List.length_concat, List.concat_eq_append, List.take_left]
    rw [htake]
    simp only [Text.size_append, Text.size_cons, Text.size_nil, hmark]
    omega
  ext stop
  constructor
  · rintro ⟨body, after, hrest, hstop, heven⟩
    exact ⟨body.length + 1, ⟨body, after, hrest, rfl, heven⟩, (hsize body after hrest).trans hstop⟩
  · rintro ⟨length, ⟨body, after, hrest, rfl, heven⟩, hstop⟩
    exact ⟨body, after, hrest, (hsize body after hrest).symm.trans hstop, heven⟩

/-- Two characters that a literal with this quote takes alike: both are the quote or neither is, and
both are backslashes or neither is. -/
def Alike (mark c other : Char) : Prop := (c = mark ↔ other = mark) ∧ (c = '\\' ↔ other = '\\')

theorem stringEnd?_eq_of_alike {other : List Char} (h : List.Forall₂ (Alike mark) text other) :
    stringEnd? mark passed text = stringEnd? mark passed other := by
  fun_induction stringEnd? mark passed text generalizing other with
  | case1 =>
    cases h
    rfl
  | case2 passed rest =>
    obtain ⟨c, tail, hc, -, rfl⟩ := List.forall₂_cons_left_iff.1 h
    rw [hc.1.1 rfl, stringEnd?_cons_mark]
  | case3 passed hmark =>
    obtain ⟨c, tail, hc, htail, rfl⟩ := List.forall₂_cons_left_iff.1 h
    cases htail
    obtain rfl := hc.2.1 rfl
    simp [stringEnd?.eq_def, hmark]
  | case4 passed c rest hmark ih =>
    obtain ⟨escape, tail, hc, htail, rfl⟩ := List.forall₂_cons_left_iff.1 h
    obtain ⟨second, rest', -, hrest, rfl⟩ := List.forall₂_cons_left_iff.1 htail
    obtain rfl := hc.2.1 rfl
    rw [stringEnd?_cons_escape (Ne.symm hmark), ih hrest]
  | case5 passed c rest hmark hescape ih =>
    obtain ⟨first, tail, hc, htail, rfl⟩ := List.forall₂_cons_left_iff.1 h
    rw [stringEnd?_cons_of_ne (mt hc.1.2 hmark) (mt hc.2.2 hescape), ih htail]

theorem stringExtent_eq_of_alike {other : List Char} (h : List.Forall₂ (Alike mark) text other) :
    stringExtent mark text = stringExtent mark other := by
  rw [stringExtent, stringExtent, stringEnd?_eq_of_alike h, h.length_eq]

theorem classify_quote (hmark : mark = '\"' ∨ mark = '\'') (rest : List Char) :
    classify mark rest = stringExtent mark rest := by
  rcases hmark with rfl | rfl
  · rfl
  · rfl

/-- The token is the literal that the quote `mark` between `before` and `rest` opens. It ends with
the first quote of the same sort that has an even number of backslashes right before it, those
before the opening quote not counted, and without such a quote it is open and takes the rest of the
text. No character but these quotes and the backslashes has any effect on it. -/
structure IsLiteral (token : Token) (before : List Char) (mark : Char) (rest : List Char) :
    Prop where
  start_eq : token.start = Text.size before
  endsAtFirst : token.EndsAtFirst (before ++ mark :: rest) (quoteStops before mark rest)
    .string .openString
  of_alike : ∀ other, List.Forall₂ (Alike mark) rest other →
    ∃ twin after, (TokenStream.ofOffset (before ++ mark :: other) (Text.size before)).next?
        = some (twin, after) ∧
      twin.kind = token.kind ∧ twin.text.length = token.text.length

end Token

namespace TokenStream

/-- Where a quote stands, the next token is the literal that it opens, and every scan that takes a
token there takes this one. -/
theorem next?_isLiteral (before : List Char) (mark : Char) (rest : List Char)
    (hmark : mark = '\"' ∨ mark = '\'') :
    ∃ token after, (ofOffset (before ++ mark :: rest) (Text.size before)).next?
        = some (token, after) ∧
      token.IsLiteral before mark rest ∧
      ∀ offset, ∀ other ∈ (ofOffset (before ++ mark :: rest) offset).toList,
        other.start = Text.size before → other = token := by
  have hnext : ∀ other, (ofOffset (before ++ mark :: other) (Text.size before)).next?.map Prod.fst
      = some ⟨(Token.stringExtent mark other).1, Text.size before,
        mark :: other.take (Token.stringExtent mark other).2⟩ := by
    intro other
    rw [ofOffset_size_append, ← Token.classify_quote hmark]
    rfl
  obtain ⟨⟨token, after⟩, hsome, htoken⟩ := Option.map_eq_some_iff.1 (hnext rest)
  obtain rfl : token = _ := htoken
  refine ⟨_, after, hsome, ?_, ?_⟩
  · constructor
    case start_eq => rfl
    case endsAtFirst =>
      have hsize : mark.utf8Size = 1 := by rcases hmark with rfl | rfl <;> rfl
      have hends := Token.endsAtFirst_enclosed (Token.findsFirst_stringEnd? mark) before [mark] rest
        (Token.quoteStops_eq_image hsize before rest) .string .openString
      rw [Token.stringExtent_eq]
      rwa [List.append_assoc] at hends
    case of_alike =>
      intro other hother
      obtain ⟨⟨twin, rest'⟩, htwin, hcast⟩ := Option.map_eq_some_iff.1 (hnext other)
      obtain rfl : twin = _ := hcast
      refine ⟨_, rest', htwin, ?_, ?_⟩
      · rw [Token.stringExtent_eq_of_alike hother]
      · simp only [List.length_cons, List.length_take, Token.stringExtent_eq_of_alike hother,
          hother.length_eq]
  · intro offset other hmem hstart
    rw [(standsIn_ofOffset _ offset).eq_of_start hmem hstart, Token.classify_quote hmark]

theorem next?_isLiteral_of_escaped_quote :
    let before := "reason == ".toList
    let rest := "it's \\\" /*\n\\\\\" || true".toList
    ('\"' = '\"' ∨ '\"' = '\'') ∧
      ∃ token after, (ofOffset (before ++ '\"' :: rest) (Text.size before)).next?
          = some (token, after) ∧
        token.IsLiteral before '\"' rest ∧
        ∀ offset, ∀ other ∈ (ofOffset (before ++ '\"' :: rest) offset).toList,
          other.start = Text.size before → other = token :=
  ⟨Or.inl rfl, next?_isLiteral _ _ _ (Or.inl rfl)⟩

example : (ofText "\"it's \\\" /*\n\\\\\" || true".toList).next?.map (·.1.text)
    = some "\"it's \\\" /*\n\\\\\"".toList := by
  decide +kernel

end TokenStream

end DroolsInk
