import DroolsInk.Text.Offset
import DroolsInk.Token.Extent

/-!
# The tokens of a text

A `TokenStream` is a place in a text: its byte offset and the text from there on. Taking a token
moves the place past it. The stream has no other state, so a stream that starts at the boundary
between two tokens yields the tokens that are left.

`tokens` are all tokens of a text. Each starts where the one before it ends, and each holds at least
one character, which is why the stream comes to an end.
-/

namespace DroolsInk

/-- A piece of a text: its kind, the byte offset at which it starts, and its characters. -/
structure Token where
  kind : Kind
  start : Nat
  text : List Char
  deriving DecidableEq, Repr

def Token.stop (token : Token) : Nat := token.start + Text.size token.text

/-- A place in a text, and the text from there on. -/
structure TokenStream where
  offset : Nat
  rest : List Char
  deriving DecidableEq, Repr

namespace TokenStream

def ofText (text : List Char) : TokenStream := ⟨0, text⟩

/-- The stream that starts at an offset; an offset inside a character counts as the start of that
character, and one past the end as the end. -/
def ofOffset (text : List Char) (offset : Nat) : TokenStream :=
  let parts := Text.cut text offset
  ⟨Text.size parts.1, parts.2⟩

def next? (stream : TokenStream) : Option (Token × TokenStream) :=
  match stream.rest with
  | [] => none
  | first :: rest =>
    let (kind, length) := Token.classify first rest
    let token : Token := ⟨kind, stream.offset, first :: rest.take length⟩
    some (token, ⟨token.stop, rest.drop length⟩)

theorem length_rest_lt_of_next? {stream after : TokenStream} {token : Token}
    (h : stream.next? = some (token, after)) : after.rest.length < stream.rest.length := by
  unfold next? at h
  split at h
  · simp at h
  · next first rest hrest =>
    simp only [Option.some.injEq, Prod.mk.injEq] at h
    obtain ⟨-, rfl⟩ := h
    simp only [hrest, List.length_drop, List.length_cons]
    omega

theorem rest_eq_of_next? {stream after : TokenStream} {token : Token}
    (h : stream.next? = some (token, after)) : stream.rest = token.text ++ after.rest := by
  unfold next? at h
  split at h
  · simp at h
  · next first rest hrest =>
    simp only [Option.some.injEq, Prod.mk.injEq] at h
    obtain ⟨rfl, rfl⟩ := h
    simp [hrest]

/-- A token starts where the stream stood, and the stream goes on where the token ends. -/
theorem offset_of_next? {stream after : TokenStream} {token : Token}
    (h : stream.next? = some (token, after)) :
    token.start = stream.offset ∧ after.offset = token.stop := by
  unfold next? at h
  split at h
  · simp at h
  · simp only [Option.some.injEq, Prod.mk.injEq] at h
    obtain ⟨rfl, rfl⟩ := h
    exact ⟨rfl, rfl⟩

theorem next?_eq_none_iff {stream : TokenStream} : stream.next? = none ↔ stream.rest = [] := by
  unfold next?
  split
  · next hrest => simp [hrest]
  · next first rest hrest => simp [hrest]

theorem text_ne_nil_of_next? {stream after : TokenStream} {token : Token}
    (h : stream.next? = some (token, after)) : token.text ≠ [] := by
  unfold next? at h
  split at h
  · simp at h
  · simp only [Option.some.injEq, Prod.mk.injEq] at h
    obtain ⟨rfl, -⟩ := h
    simp

def toList (stream : TokenStream) : List Token :=
  match _h : stream.next? with
  | none => []
  | some (token, after) => token :: after.toList
termination_by stream.rest.length
decreasing_by exact length_rest_lt_of_next? _h

theorem toList_of_next?_eq_none {stream : TokenStream} (h : stream.next? = none) :
    stream.toList = [] := by
  rw [toList]
  split
  · rfl
  · next token after hnext =>
    rw [h] at hnext
    cases hnext

theorem toList_of_next?_eq_some {stream after : TokenStream} {token : Token}
    (h : stream.next? = some (token, after)) : stream.toList = token :: after.toList := by
  rw [toList]
  split
  · next hnext =>
    rw [h] at hnext
    cases hnext
  · next token' after' hnext =>
    rw [h] at hnext
    cases hnext
    rfl

/-- The texts of the tokens make up the text. -/
theorem flatMap_text_toList (stream : TokenStream) :
    stream.toList.flatMap Token.text = stream.rest := by
  fun_induction TokenStream.toList stream with
  | case1 stream h =>
    unfold next? at h
    split at h
    · next hrest => simp [hrest]
    · simp at h
  | case2 stream token after h ih => simp [ih, rest_eq_of_next? h]

end TokenStream

def tokens (text : List Char) : List Token := (TokenStream.ofText text).toList

@[simp] theorem tokens_nil : tokens [] = [] := TokenStream.toList_of_next?_eq_none rfl

theorem flatMap_text_tokens (text : List Char) : (tokens text).flatMap Token.text = text :=
  TokenStream.flatMap_text_toList _

end DroolsInk
