import DroolsInk.Proofs.Parts

/-!
# The next token is the longest one there can be

Many parts at the front of a text may be one token each, such as `1`, `1e` and `1e+5` where the text
starts with `1e+5`. The next token of a stream is the longest of them. For a part that is one token,
and longer than the next token, would hold the next token; so it would be classified like the text,
and end where that token ends.

The one exception is the spelling of a hyphenated keyword that runs on. It is one token by itself
and yet the text has none there, but the shorter word before its first hyphen.

A character that starts nothing is a token only where no part at the front of the text is a token of
another kind.
-/

namespace DroolsInk

namespace Token

/-- What starts nothing is a single character. -/
def IsLone (extent : Kind × Nat) : Prop := extent.1 = .unknown → extent.2 = 0

theorem isLone_of_ne {extent : Kind × Nat} (h : extent.1 ≠ .unknown) : IsLone extent :=
  fun hunknown => absurd hunknown h

theorem fst_wordExtent (first : Char) (rest : List Char) :
    (wordExtent first rest).1 = .keyword ∨ (wordExtent first rest).1 = .identifier := by
  unfold wordExtent
  cases Word.hyphenatedKeyword? (first :: rest) with
  | some keyword => exact Or.inl rfl
  | none =>
    show (if _ then Kind.keyword else Kind.identifier) = _ ∨ (if _ then _ else _) = Kind.identifier
    split
    · exact Or.inl rfl
    · exact Or.inr rfl

theorem wordExtent_ne_unknown (first : Char) (rest : List Char) :
    (wordExtent first rest).1 ≠ .unknown := by
  rcases fst_wordExtent first rest with hkind | hkind <;> rw [hkind] <;> exact nofun

theorem isLone_sigilExtent (kind : Kind) (hkind : kind ≠ .unknown) (rest : List Char) :
    IsLone (sigilExtent kind rest) := by
  intro hunknown
  simp only [sigilExtent] at hunknown ⊢
  split at hunknown
  · next hzero => exact hzero
  · exact absurd hunknown hkind

theorem isLone_symbolExtent (first : Char) (rest : List Char) :
    IsLone (symbolExtent first rest) := by
  rw [symbolExtent_eq]
  split
  · apply isLone_of_ne
    unfold stringExtent
    split <;> exact nofun
  split
  · apply isLone_of_ne
    unfold slashExtent
    split
    · exact nofun
    · split <;> exact nofun
    · exact nofun
  split
  · exact isLone_of_ne nofun
  split
  · exact isLone_sigilExtent .boundVariable (by decide) rest
  split
  · exact isLone_sigilExtent .metadata (by decide) rest
  split
  · exact isLone_of_ne nofun
  split
  · exact isLone_of_ne nofun
  split
  · exact isLone_of_ne nofun
  · exact fun _ => rfl

theorem isLone_classify (first : Char) (rest : List Char) : IsLone (classify first rest) := by
  unfold classify
  split
  · exact isLone_of_ne nofun
  split
  · exact isLone_of_ne nofun
  split
  · exact isLone_of_ne (wordExtent_ne_unknown first rest)
  · exact isLone_symbolExtent first rest

end Token

/-- The longer of two parts at the front of a text has more bytes. -/
theorem Text.size_take_le_iff {text : List Char} {few : Nat} (h : few ≤ text.length) (many : Nat) :
    size (text.take few) ≤ size (text.take many) ↔ few ≤ many := by
  rcases Nat.lt_or_ge many few with hlt | hge
  · -- what `few` takes behind `many` is not empty
    have hsplit := List.take_append_drop many (text.take few)
    rw [List.take_take, Nat.min_eq_left (Nat.le_of_lt hlt)] at hsplit
    have hpos : 0 < size ((text.take few).drop many) := by
      apply size_pos_of_ne_nil
      rw [Ne, List.drop_eq_nil_iff, List.length_take]
      omega
    rw [← hsplit, size_append]
    omega
  · have hsplit := List.take_append_drop few (text.take many)
    rw [List.take_take, Nat.min_eq_left hge] at hsplit
    rw [← hsplit, size_append]
    omega

/-- The token is one token by itself and no spelling that runs on, and of the parts at the front of
the stream's text that are one token each it is the longest, but for the spellings that run on. -/
structure TokenStream.TakesLongest (stream : TokenStream) (token : Token) (rest : List Char) :
    Prop where
  rest_eq : stream.rest = token.text ++ rest
  alone : tokens token.text = [⟨token.kind, 0, token.text⟩]
  not_runsOn : ¬Word.RunsOn token.text rest
  longest : ∀ part behind single, stream.rest = part ++ behind → tokens part = [single] →
    (stream.offset + Text.size part ≤ token.stop ↔ ¬Word.RunsOn part behind)
  unknown : token.kind = .unknown → ∀ part behind single, stream.rest = part ++ behind →
    tokens part = [single] → single.kind = .unknown

namespace TokenStream

variable {first : Char} {part behind : List Char} {single : Token}

theorem classify_of_tokens_eq_singleton (h : tokens (first :: part) = [single]) :
    single.kind = (Token.classify first part).1 ∧
      part.length ≤ (Token.classify first part).2 := by
  have hnext := next?_eq_head? (ofText (first :: part))
  rw [show (ofText (first :: part)).toList = [single] from h] at hnext
  obtain ⟨_, _, hcons, htoken, hrest⟩ := exists_classify_of_next? hnext
  cases hcons
  have hnil := flatMap_text_toList (ofText (first :: part)).skip
  rw [toList_skip, show (ofText (first :: part)).toList = [single] from h, hrest] at hnil
  exact ⟨congrArg Token.kind htoken, List.drop_eq_nil_iff.1 hnil.symm⟩

/-- Of the parts at the front of a text that are one token each, all but the spellings that run on
end within the first token of the text. -/
theorem length_le_classify_iff (h : tokens (first :: part) = [single]) :
    part.length ≤ (Token.classify first (part ++ behind)).2 ↔
      ¬Word.RunsOn (first :: part) behind := by
  constructor
  · intro hle hrunsOn
    exact absurd (Token.classify_of_runsOn hrunsOn).2 (Nat.not_lt.2 hle)
  · intro hrunsOn
    rcases Nat.lt_or_ge (Token.classify first (part ++ behind)).2 part.length with hlt | hge
    · -- the part holds the token, so it is classified like the text
      have hwhole := (classify_of_tokens_eq_singleton h).2
      rwa [Token.classify_eq_append (Nat.le_of_lt hlt) hrunsOn] at hwhole
    · exact hge

theorem kind_eq_unknown_of_single (h : tokens (first :: part) = [single])
    (hunknown : (Token.classify first (part ++ behind)).1 = .unknown) : single.kind = .unknown := by
  have hrunsOn : ¬Word.RunsOn (first :: part) behind := by
    intro hrunsOn
    rw [(Token.classify_of_runsOn hrunsOn).1] at hunknown
    exact Token.wordExtent_ne_unknown _ _ hunknown
  have hsame : Token.classify first part = Token.classify first (part ++ behind) := by
    apply Token.classify_eq_append _ hrunsOn
    rw [Token.isLone_classify first (part ++ behind) hunknown]
    exact Nat.zero_le _
  rw [(classify_of_tokens_eq_singleton h).1, hsame, hunknown]

/-- Wherever a stream has text left, its next token is the longest that can be taken there. -/
theorem next?_takesLongest (offset : Nat) (first : Char) (text : List Char) :
    ∃ token after, (TokenStream.mk offset (first :: text)).next? = some (token, after) ∧
      (TokenStream.mk offset (first :: text)).TakesLongest token after.rest := by
  obtain ⟨⟨token, after⟩, hnext⟩ :
      ∃ pair, (TokenStream.mk offset (first :: text)).next? = some pair := ⟨_, rfl⟩
  have hlist := toList_of_next?_eq_some hnext
  obtain ⟨_, _, hcons, htoken, -⟩ := exists_classify_of_next? hnext
  cases hcons
  refine ⟨token, after, hnext, ?_⟩
  constructor
  case rest_eq => exact rest_eq_of_next? hnext
  case alone =>
    apply tokens_text_of_mem
    rw [hlist]
    exact List.mem_cons_self
  case not_runsOn =>
    have hseam := not_runsOn_of_append (hlist.trans (List.singleton_append).symm)
    rwa [flatMap_text_toList, List.flatMap_singleton] at hseam
  case longest =>
    intro part behind single hpart hsingle
    cases part with
    | nil => exact absurd (tokens_nil.symm.trans hsingle) nofun
    | cons c part =>
      rw [List.cons_append] at hpart
      cases hpart
      have hinside : part.length ≤ (part ++ behind).length :=
        (List.prefix_append part behind).length_le
      have htake := Text.size_take_le_iff hinside (Token.classify first (part ++ behind)).2
      rw [List.take_left] at htake
      rw [← length_le_classify_iff hsingle, ← htake, htoken]
      simp only [Token.stop, Text.size_cons]
      omega
  case unknown =>
    intro hunknown part behind single hpart hsingle
    cases part with
    | nil => exact absurd (tokens_nil.symm.trans hsingle) nofun
    | cons c part =>
      rw [List.cons_append] at hpart
      cases hpart
      apply kind_eq_unknown_of_single hsingle
      rw [htoken] at hunknown
      exact hunknown

example : (ofText "no-loop".toList).next?.map (·.1.text) = some "no-loop".toList ∧
    (ofText "no-loops".toList).next?.map (·.1.text) = some "no".toList := by
  decide +kernel

end TokenStream

end DroolsInk
