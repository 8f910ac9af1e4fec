/-!
# Reading UTF-8

A file is a sequence of bytes, which need not be valid UTF-8. `pieces` goes through the bytes and
gives a character for every well-formed sequence, and nothing for every longest run of bytes that
starts a sequence and does not complete it, or for a byte that starts none. So `decode?` accepts
well-formed bytes alone, and `decodeLossy` puts a replacement character where `pieces` gives
nothing.

The lead byte of a sequence fixes how many bytes follow it and between which bounds the second one
lies. The bounds keep out overlong forms, surrogates, and code points past the last.
-/

namespace DroolsInk.Text

/-- What the lead byte of a sequence of several bytes says about the others. -/
structure Lead where
  /-- The number of bytes that follow. -/
  more : Nat
  /-- The bounds of the second byte. -/
  low : UInt8
  high : UInt8
  /-- The bits that the lead byte gives to the code point. -/
  bits : Nat

/-- What a byte above ASCII says if it leads a sequence. -/
def lead? (byte : UInt8) : Option Lead :=
  let code := byte.toNat
  if byte < 0xC2 then none
  else if byte < 0xE0 then some ⟨1, 0x80, 0xBF, code - 0xC0⟩
  else if byte = 0xE0 then some ⟨2, 0xA0, 0xBF, 0⟩
  else if byte = 0xED then some ⟨2, 0x80, 0x9F, 0xD⟩
  else if byte < 0xF0 then some ⟨2, 0x80, 0xBF, code - 0xE0⟩
  else if byte = 0xF0 then some ⟨3, 0x90, 0xBF, 0⟩
  else if byte < 0xF4 then some ⟨3, 0x80, 0xBF, code - 0xF0⟩
  else if byte = 0xF4 then some ⟨3, 0x80, 0x8F, 4⟩
  else none

/-- Reads the bytes of a sequence after its lead byte. Gives the code point, unless a byte does not
belong there, and the bytes from that one on. -/
def follow (more : Nat) (low high : UInt8) (bits : Nat) (bytes : List UInt8) :
    Option Nat × List UInt8 :=
  match more, bytes with
  | 0, bytes => (some bits, bytes)
  | _ + 1, [] => (none, [])
  | more + 1, byte :: rest =>
    if low ≤ byte ∧ byte ≤ high then
      follow more 0x80 0xBF (64 * bits + (byte.toNat - 0x80)) rest
    else (none, byte :: rest)

theorem length_follow_le (more : Nat) (low high : UInt8) (bits : Nat) (bytes : List UInt8) :
    (follow more low high bits bytes).2.length ≤ bytes.length := by
  fun_induction follow more low high bits bytes with
  | case1 => simp
  | case2 => simp
  | case3 low high bits more byte rest _ ih =>
    simp only [List.length_cons]
    omega
  | case4 => simp

/-- The first character of some bytes, or nothing for a run that is none, and the bytes after. -/
def piece (byte : UInt8) (rest : List UInt8) : Option Char × List UInt8 :=
  if byte < 0x80 then (some (Char.ofNat byte.toNat), rest)
  else
    match lead? byte with
    | none => (none, rest)
    | some lead =>
      let (code?, rest) := follow lead.more lead.low lead.high lead.bits rest
      (code?.map Char.ofNat, rest)

theorem length_piece_le (byte : UInt8) (rest : List UInt8) :
    (piece byte rest).2.length ≤ rest.length := by
  unfold piece
  split
  · simp
  · split
    · simp
    · exact length_follow_le _ _ _ _ _

/-- The pieces of some bytes, after those that are done already. -/
def piecesInto (done : Array (Option Char)) : List UInt8 → Array (Option Char)
  | [] => done
  | byte :: rest =>
    have := length_piece_le byte rest
    piecesInto (done.push (piece byte rest).1) (piece byte rest).2
termination_by bytes => bytes.length

def pieces (bytes : List UInt8) : List (Option Char) := (piecesInto #[] bytes).toList

/-- The text of some bytes, if all of them are well-formed. -/
def decode? (bytes : List UInt8) : Option (List Char) := (pieces bytes).mapM id

/-- The text of some bytes, with a replacement character for each piece that is no character. -/
def decodeLossy (bytes : List UInt8) : List Char := (pieces bytes).map (·.getD '\ufffd')

def encode (text : List Char) : List UInt8 := text.flatMap String.utf8EncodeChar

end DroolsInk.Text
