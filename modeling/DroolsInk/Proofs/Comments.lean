import DroolsInk.Program.Run
import DroolsInk.Proofs.Closing
import DroolsInk.Proofs.Spacing

/-!
# Where comments end, and what is left open

A block comment ends with the first `*/` behind its opening, whose star does not count for it, so
that `/*/` is not closed. A line comment goes up to the first line feed or carriage return and does
not take it in. This holds of every comment among the tokens of a text, whatever stands before it: a
quote or a slash in an earlier token opens nothing.

A literal or a comment that is never closed takes the rest of the text. So no token follows it, and
no other token of the text is open. The program looks for an open token to warn about; it finds one
exactly if the last token is open.
-/

namespace DroolsInk

namespace Token

variable {passed length : Nat} {before rest text body after : List Char}

/-! ## 1. Block comments -/

/-- The lengths at which a closing mark ends. -/
def blockEnds (rest : List Char) : Set Nat :=
  {length | ∃ body after, rest = body ++ '*' :: '/' :: after ∧ body.length + 2 = length}

/-- In bytes, the ends of the closing marks that lie behind the opening of a block comment. -/
def blockStops (text : List Char) (start : Nat) : Set Nat :=
  {stop | start + 4 ≤ stop ∧
    ∃ before after, text = before ++ '*' :: '/' :: after ∧ Text.size before + 2 = stop}

theorem exists_of_commentEnd?_eq_some (h : commentEnd? passed text = some length) :
    ∃ body after, text = body ++ '*' :: '/' :: after ∧ passed + (body.length + 2) = length := by
  fun_induction commentEnd? passed text with
  | case1 passed rest =>
    cases h
    exact ⟨[], rest, rfl, rfl⟩
  | case2 passed c rest hopen ih =>
    obtain ⟨body, after, rfl, hlength⟩ := ih h
    refine ⟨c :: body, after, rfl, ?_⟩
    simp only [List.length_cons]
    omega
  | case3 => cases h

theorem commentEnd?_le (passed : Nat) (htext : text = body ++ '*' :: '/' :: after) :
    ∃ first, commentEnd? passed text = some first ∧ first ≤ passed + (body.length + 2) := by
  fun_induction commentEnd? passed text generalizing body with
  | case1 passed rest => exact ⟨passed + 2, rfl, by omega⟩
  | case2 passed c rest hopen ih =>
    cases body with
    | nil =>
      obtain ⟨hstar, hslash⟩ := List.cons.inj htext
      exact (hopen after hstar hslash).elim
    | cons other body =>
      obtain ⟨first, hfirst, hle⟩ := ih (List.cons.inj htext).2
      refine ⟨first, hfirst, ?_⟩
      simp only [List.length_cons]
      omega
  | case3 => simp at htext

theorem findsFirst_commentEnd? : FindsFirst (commentEnd? 0) blockEnds := by
  apply findsFirst_of_le
  · intro text length h
    obtain ⟨body, after, htext, hlength⟩ := exists_of_commentEnd?_eq_some h
    exact ⟨body, after, htext, (Nat.zero_add _).symm.trans hlength⟩
  · rintro text length ⟨body, after, htext, rfl⟩
    obtain ⟨first, hfirst, hle⟩ := commentEnd?_le 0 htext
    exact ⟨first, hfirst, hle.trans (Nat.zero_add _).le⟩

theorem blockStops_eq_image (before rest : List Char) :
    blockStops (before ++ ['/', '*'] ++ rest) (Text.size before) =
      (fun length => Text.size (before ++ ['/', '*']) + Text.size (rest.take length))
        '' blockEnds rest := by
  have hopening : Text.size (before ++ ['/', '*']) = Text.size before + 2 := Text.size_append _ _
  have hsize : ∀ body after, rest = body ++ '*' :: '/' :: after →
      Text.size (rest.take (body.length + 2)) = Text.size body + 2 := by
    rintro body after rfl
    rw [List.take_length_add_append, Text.size_append]
    rfl
  ext stop
  constructor
  · rintro ⟨hle, front, after, htext, hstop⟩
    obtain ⟨body, rfl, hrest⟩ := Text.exists_between_of_size_le htext (by omega)
    refine ⟨body.length + 2, ⟨body, after, hrest, rfl⟩, ?_⟩
    simp only [hsize body after hrest, ← hstop, Text.size_append _ body]
    omega
  · rintro ⟨length, ⟨body, after, hrest, rfl⟩, hstop⟩
    simp only [hsize body after hrest] at hstop
    refine ⟨by omega, before ++ ['/', '*'] ++ body, after, ?_, ?_⟩
    · rw [hrest, List.append_assoc _ body]
    · rw [Text.size_append _ body]
      omega

/-! ## 2. Line comments -/

/-- The lengths at which a line ends. -/
def lineEnds (rest : List Char) : Set Nat :=
  {length | ∃ body c after, rest = body ++ c :: after ∧ body.length = length ∧ endsLine c = true}

/-- In bytes, the line ends at or after the start of a line comment. -/
def lineStops (text : List Char) (start : Nat) : Set Nat :=
  {stop | start ≤ stop ∧
    ∃ before c after, text = before ++ c :: after ∧ Text.size before = stop ∧ endsLine c = true}

def lineEnd? (text : List Char) : Option Nat :=
  if lineLength text < text.length then some (lineLength text) else none

theorem lineLength_le (text : List Char) : lineLength text ≤ text.length :=
  (List.takeWhile_prefix _).length_le

theorem lineLength_cons {c : Char} (h : endsLine c = false) (rest : List Char) :
    lineLength (c :: rest) = lineLength rest + 1 := by
  simp [lineLength, h]

theorem snd_enclosed_lineEnd? (text : List Char) :
    (enclosed lineEnd? text).2 = lineLength text := by
  have hle := lineLength_le text
  unfold enclosed lineEnd?
  split
  · next length hsome =>
    rw [Option.ite_none_right_eq_some] at hsome
    exact (Option.some.inj hsome.2).symm
  · next hnone =>
    rw [ite_eq_right_iff] at hnone
    have hge := Nat.not_lt.1 fun hlt => nomatch hnone hlt
    exact Nat.le_antisymm hge hle

theorem findsFirst_lineEnd? : FindsFirst lineEnd? lineEnds := by
  apply findsFirst_of_le
  · intro text length h
    rw [lineEnd?, Option.ite_none_right_eq_some] at h
    obtain ⟨hlt, hlength⟩ := h
    have hsplit := List.takeWhile_append_dropWhile (p := (!endsLine ·)) (l := text)
    have hhead := List.head?_dropWhile_not (!endsLine ·) text
    cases hcases : text.dropWhile (!endsLine ·) with
    | nil =>
      rw [hcases, List.append_nil] at hsplit
      rw [lineLength, hsplit] at hlt
      exact absurd hlt (Nat.lt_irrefl _)
    | cons c after =>
      rw [hcases] at hsplit hhead
      refine ⟨text.takeWhile (!endsLine ·), c, after, hsplit.symm, Option.some.inj hlength, ?_⟩
      simpa using hhead
  · rintro text length ⟨body, c, after, rfl, rfl, hends⟩
    have hle : lineLength (body ++ c :: after) ≤ body.length :=
      stopsAt_lineLength body c after hends
    refine ⟨_, if_pos ?_, hle⟩
    rw [List.length_append, List.length_cons]
    omega

theorem lineStops_eq_image (before rest : List Char) :
    lineStops (before ++ [] ++ rest) (Text.size before) =
      (fun length => Text.size (before ++ []) + Text.size (rest.take length)) '' lineEnds rest := by
  rw [List.append_nil]
  ext stop
  constructor
  · rintro ⟨hle, front, c, after, htext, hstop, hends⟩
    obtain ⟨body, rfl, hrest⟩ := Text.exists_between_of_size_le htext (hle.trans hstop.ge)
    refine ⟨body.length, ⟨body, c, after, hrest, rfl, hends⟩, ?_⟩
    simp only [hrest, List.take_left, ← hstop, Text.size_append]
  · rintro ⟨length, ⟨body, c, after, hrest, rfl, hends⟩, hstop⟩
    simp only [hrest, List.take_left] at hstop
    refine ⟨by omega, before ++ body, c, after, ?_, ?_, hends⟩
    · rw [hrest, List.append_assoc]
    · rw [Text.size_append, hstop]

/-! ## 3. Comments among the tokens -/

/-- If the token is a comment, its opening tells where it ends: a block comment ends with the first
closing mark, or is open, and a line comment ends before the first line end. -/
structure EndsAsComment (token : Token) (text : List Char) : Prop where
  block : ['/', '*'] <+: token.text →
    token.EndsAtFirst text (blockStops text token.start) .comment .openComment
  line : OpensLine token.text →
    token.EndsAtFirst text (lineStops text token.start) .comment .comment

theorem classify_slash (rest : List Char) : classify '/' rest = slashExtent rest := rfl

theorem classify_hash (rest : List Char) : classify '#' rest = (.comment, lineLength rest) := rfl

/-- A token that is the front of a line comment goes up to the end of the line. -/
theorem endsAtFirst_lineLength (before region : List Char) :
    (Token.mk .comment (Text.size before) (region.take (lineLength region))).EndsAtFirst
      (before ++ region) (lineStops (before ++ region) (Text.size before)) .comment .comment := by
  have himage := lineStops_eq_image before region
  have hends := endsAtFirst_enclosed findsFirst_lineEnd? before [] region himage .comment .comment
  rwa [snd_enclosed_lineEnd?, ite_self, List.append_nil] at hends

theorem endsAsComment_of_mem {token : Token} (hmem : token ∈ tokens text) :
    token.EndsAsComment text := by
  obtain ⟨before, first, behind, rfl, rfl⟩ :=
    TokenStream.StandsIn.exists_classify_of_mem ⟨[], rfl, rfl⟩ hmem
  have htoken : first :: behind.take (classify first behind).2 <+: first :: behind :=
    List.take_prefix ((classify first behind).2 + 1) (first :: behind)
  constructor
  case block =>
    intro hopening
    obtain ⟨rest, hregion⟩ := hopening.trans htoken
    obtain ⟨rfl, hbehind⟩ := List.cons.inj hregion
    obtain rfl : '*' :: rest = behind := hbehind
    have hends := endsAtFirst_enclosed findsFirst_commentEnd? before ['/', '*'] rest
      (blockStops_eq_image before rest) .comment .openComment
    rw [List.append_assoc before] at hends
    rw [classify_slash, slashExtent_cons_star]
    simp only [Nat.add_comm 1, List.take_succ_cons]
    exact hends
  case line =>
    intro hopening
    have hline : OpensLine (first :: behind) := hopening.imp (·.trans htoken) (·.trans htoken)
    have hends := endsAtFirst_lineLength before (first :: behind)
    rcases hline with ⟨rest, hregion⟩ | ⟨rest, hregion⟩
    · obtain ⟨rfl, hbehind⟩ := List.cons.inj hregion
      obtain rfl : '/' :: rest = behind := hbehind
      rw [lineLength_cons (by decide), lineLength_cons (by decide), List.take_succ_cons,
        Nat.add_comm _ 1] at hends
      rwa [classify_slash, slashExtent.eq_1]
    · obtain ⟨rfl, -⟩ := List.cons.inj hregion
      rw [lineLength_cons (by decide), List.take_succ_cons] at hends
      rwa [classify_hash]

/-! ## 4. Open tokens -/

theorem snd_enclosed_of_open {findEnd : List Char → Option Nat}
    (h : (enclosed findEnd rest).1 = false) : (enclosed findEnd rest).2 = rest.length := by
  unfold enclosed at h ⊢
  cases hfound : findEnd rest with
  | some length =>
    rw [hfound] at h
    cases h
  | none => rfl

theorem snd_stringExtent_of_isOpen {mark : Char} (h : (stringExtent mark rest).1.isOpen = true) :
    (stringExtent mark rest).2 = rest.length := by
  rw [isOpen_stringExtent, Bool.not_eq_true'] at h
  rw [stringExtent_eq]
  exact snd_enclosed_of_open h

theorem snd_slashExtent_of_isOpen (h : (slashExtent rest).1.isOpen = true) :
    (slashExtent rest).2 = rest.length := by
  cases rest with
  | nil => cases h
  | cons next rest =>
    by_cases hline : next = '/'
    · subst hline
      cases h
    by_cases hblock : next = '*'
    · subst hblock
      rw [isOpen_slashExtent_cons_star, Bool.not_eq_true'] at h
      rw [slashExtent_cons_star]
      simp only [snd_enclosed_of_open h, List.length_cons, Nat.add_comm 1]
    · rw [slashExtent_of_ne hline hblock] at h
      cases h

/-- What is open takes the rest of the text. -/
theorem snd_classify_of_isOpen {first : Char} (h : (classify first rest).1.isOpen = true) :
    (classify first rest).2 = rest.length := by
  unfold classify at h ⊢
  split
  · next hblank =>
    rw [if_pos hblank] at h
    cases h
  next hblank =>
  rw [if_neg hblank] at h
  split
  · next hdigit =>
    rw [if_pos hdigit] at h
    cases h
  next hdigit =>
  rw [if_neg hdigit] at h
  split
  · next hstart =>
    rw [if_pos hstart] at h
    rcases fst_wordExtent first rest with hkind | hkind <;> rw [hkind] at h <;> cases h
  next hstart =>
  rw [if_neg hstart] at h
  rcases symbolExtent_cases first rest with hquote | hslash | hkind
  · rw [hquote] at h ⊢
    exact snd_stringExtent_of_isOpen h
  · rw [hslash] at h ⊢
    exact snd_slashExtent_of_isOpen h
  · have hclosed : ∀ kind ∈ [Kind.comment, .boundVariable, .metadata, .delimiter, .punctuation,
        .operator, .unknown], kind.isOpen = false := by decide
    rw [hclosed _ hkind] at h
    cases h

end Token

namespace TokenStream

/-- Nothing follows a token that is open. -/
theorem eq_nil_of_isOpen {stream : TokenStream} {early later : List Token} {token : Token}
    (h : stream.toList = early ++ token :: later) (hopen : token.kind.isOpen = true) :
    later = [] := by
  have hlist : (drop early.length stream).toList = token :: later := by
    rw [toList_drop, h, List.drop_left]
  have hnext := next?_eq_head? (drop early.length stream)
  rw [hlist] at hnext
  obtain ⟨first, behind, -, htoken, hrest⟩ := exists_classify_of_next? hnext
  rw [htoken] at hopen
  have hlater : (drop early.length stream).skip.toList = later := by
    rw [toList_skip, hlist]
    rfl
  rw [← hlater, hrest, List.drop_of_length_le (Token.snd_classify_of_isOpen hopen).ge]
  exact toList_of_next?_eq_none rfl

theorem isOpen_eq_false_of_concat {stream : TokenStream} {early : List Token} {last : Token}
    (h : stream.toList = early ++ [last]) : ∀ token ∈ early, token.kind.isOpen = false := by
  intro token hmem
  obtain ⟨before, behind, rfl⟩ := List.append_of_mem hmem
  rw [List.append_assoc, List.cons_append] at h
  cases hopen : token.kind.isOpen with
  | false => rfl
  | true =>
    have hnil := eq_nil_of_isOpen h hopen
    simp at hnil

end TokenStream

/-- Of the tokens of the text only the last can be open. Searching the tokens for an open one looks
at the last one alone, and the program warns exactly if that one is open. -/
structure OpensAtEnd (text : List Char) : Prop where
  eq_nil_of_isOpen : ∀ early token later, tokens text = early ++ token :: later →
    token.kind.isOpen = true → later = []
  countP_le : (tokens text).countP (·.kind.isOpen) ≤ 1
  find?_eq : (tokens text).find? (·.kind.isOpen) = (tokens text).getLast?.filter (·.kind.isOpen)
  openRecords_ne_nil_iff : Program.openRecords text ≠ [] ↔
    ∃ last, (tokens text).getLast? = some last ∧ last.kind.isOpen = true

theorem opensAtEnd (text : List Char) : OpensAtEnd text := by
  have hends : ∀ early token later, tokens text = early ++ token :: later →
      token.kind.isOpen = true → later = [] := by
    intro early token later h hopen
    exact TokenStream.eq_nil_of_isOpen h hopen
  have hlast : (tokens text).countP (·.kind.isOpen) ≤ 1 ∧
      (tokens text).find? (·.kind.isOpen) = (tokens text).getLast?.filter (·.kind.isOpen) := by
    rcases List.eq_nil_or_concat (tokens text) with hnil | ⟨early, last, hconcat⟩
    · rw [hnil]
      exact ⟨Nat.zero_le 1, rfl⟩
    · rw [List.concat_eq_append] at hconcat
      have hclosed := TokenStream.isOpen_eq_false_of_concat hconcat
      have hcount : early.countP (·.kind.isOpen) = 0 := by
        simpa [List.countP_eq_zero] using hclosed
      have hfind : early.find? (·.kind.isOpen) = none := by
        simpa [List.find?_eq_none] using hclosed
      rw [hconcat, List.countP_append, hcount, Nat.zero_add, List.find?_append, hfind,
        List.getLast?_concat, Option.none_or]
      refine ⟨List.countP_le_length, ?_⟩
      cases hopen : last.kind.isOpen <;> simp [Option.filter, hopen]
  constructor
  case eq_nil_of_isOpen => exact hends
  case countP_le => exact hlast.1
  case find?_eq => exact hlast.2
  case openRecords_ne_nil_iff =>
    rw [Program.openRecords, hlast.2, Ne, List.map_eq_nil_iff, Option.toList_eq_nil_iff,
      ← Ne, Option.ne_none_iff_exists']
    simp only [Option.filter_eq_some_iff]

/-- Every comment of a text ends where its opening says, and only the last token of a text is open.
-/
theorem endsAsComment_and_opensAtEnd (text : List Char) :
    (∀ token ∈ tokens text, token.EndsAsComment text) ∧ OpensAtEnd text :=
  ⟨fun _ hmem => Token.endsAsComment_of_mem hmem, opensAtEnd text⟩

example : tokens "/*/ */#'".toList
    = [⟨.comment, 0, "/*/ */".toList⟩, ⟨.comment, 6, "#'".toList⟩] := by
  decide +kernel

end DroolsInk
