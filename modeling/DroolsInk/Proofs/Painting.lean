import DroolsInk.Proofs.Restart
import DroolsInk.Terminal

/-!
# What a painted text looks like

A terminal is given characters one by one. It shows each of them with its pen, but for those that
belong to a control sequence, which is not shown and may change the pen. Here it knows the sequences
that color a foreground or a background by its number in the palette, those that make the pen bold,
italic or underlining, and the one that puts the pen back; it passes over any other sequence.

Given a painted text, such a terminal shows the characters of the text and no others, each in the
face of its token. A token is painted with a pen that was put back, and puts it back, so that the
face of a token does not depend on those before it, and a token with a plain face needs no sequence
at all.

The text must not hold the escape character itself, with which it could talk to the terminal.
-/

namespace DroolsInk.Terminal

/-! ## 1. A terminal -/

/-- What a terminal takes the next character for. -/
inductive Phase where
  | showing
  /-- It has just read the escape character. -/
  | escaped
  /-- It reads the parameters of a sequence; `value` is what the digits of the last one come to. -/
  | reading (done : List Nat) (value : Nat)
  deriving DecidableEq, Repr

/-- What a terminal has shown, each character with the pen it was shown with, and its pen now. -/
structure Display where
  pen : Face := .plain
  phase : Phase := .showing
  cells : List (Char × Face) := []
  deriving DecidableEq, Repr

/-- The sixteen colors in the order of the standard palette: eight, then the bright ones. -/
def palette : List Color :=
  [.black, .red, .green, .yellow, .blue, .magenta, .cyan, .white, .brightBlack, .brightRed,
    .brightGreen, .brightYellow, .brightBlue, .brightMagenta, .brightCyan, .brightWhite]

/-- A color is sent by the number at which the palette has it. -/
theorem palette_of_colorNumber? {color : Color} {index : Nat}
    (h : colorNumber? color = some index) :
    palette[index]? = some color := by
  cases color <;> cases h <;> rfl

def penAfter (pen : Face) (parameters : List Nat) : Face :=
  match parameters with
  | [0] => .plain
  | [1] => { pen with bold := true }
  | [3] => { pen with italic := true }
  | [4] => { pen with underline := true }
  | [38, 5, index] => { pen with foreground := palette[index]?.getD pen.foreground }
  | [48, 5, index] => { pen with background := palette[index]?.getD pen.background }
  | _ => pen

namespace Display

def step (display : Display) (c : Char) : Display :=
  match display.phase with
  | .showing =>
    if c = '\x1b' then { display with phase := .escaped }
    else { display with cells := display.cells ++ [(c, display.pen)] }
  | .escaped => { display with phase := if c = '[' then .reading [] 0 else .showing }
  | .reading done value =>
    if c.isDigit then { display with phase := .reading done (10 * value + (c.toNat - '0'.toNat)) }
    else if c = ';' then { display with phase := .reading (done ++ [value]) 0 }
    else if c = 'm' then
      { display with phase := .showing, pen := penAfter display.pen (done ++ [value]) }
    else { display with phase := .showing }

def feed (display : Display) (output : List Char) : Display := output.foldl step display

variable {pen : Face} {cells : List (Char × Face)}

theorem feed_cons (display : Display) (c : Char) (output : List Char) :
    display.feed (c :: output) = (display.step c).feed output := rfl

theorem feed_append (display : Display) (first second : List Char) :
    display.feed (first ++ second) = (display.feed first).feed second :=
  List.foldl_append

theorem feed_text {text : List Char} (h : '\x1b' ∉ text) :
    (Display.mk pen .showing cells).feed text = ⟨pen, .showing, cells ++ text.map (·, pen)⟩ := by
  induction text generalizing cells with
  | nil => rw [List.map_nil, List.append_nil]; rfl
  | cons c text ih =>
    rw [List.mem_cons, not_or] at h
    have hstep : (Display.mk pen .showing cells).step c = ⟨pen, .showing, cells ++ [(c, pen)]⟩ :=
      if_neg (Ne.symm h.1)
    rw [feed_cons, hstep, ih h.2, List.append_assoc]
    rfl

/-! ## 2. Sequences that set the pen -/

theorem feed_digits {digits : List Char} (h : ∀ c ∈ digits, c.isDigit = true) (done : List Nat)
    (value : Nat) :
    (Display.mk pen (.reading done value) cells).feed digits
      = ⟨pen, .reading done (Nat.ofDigitChars 10 digits value), cells⟩ := by
  induction digits generalizing value with
  | nil => rw [Nat.ofDigitChars_nil]; rfl
  | cons c digits ih =>
    have hstep : (Display.mk pen (.reading done value) cells).step c
        = ⟨pen, .reading done (10 * value + (c.toNat - '0'.toNat)), cells⟩ :=
      if_pos (h c List.mem_cons_self)
    rw [feed_cons, hstep, ih fun c hc => h c (List.mem_cons_of_mem _ hc), Nat.ofDigitChars_cons]

theorem feed_toDigits (done : List Nat) (number : Nat) :
    (Display.mk pen (.reading done 0) cells).feed (Nat.toDigits 10 number)
      = ⟨pen, .reading done number, cells⟩ := by
  rw [feed_digits fun c hc => Nat.isDigit_of_mem_toDigits (by decide) (by decide) hc,
    Nat.ofDigitChars_ten_toDigits]

theorem feed_colorSequence {color : Color} {index layer : Nat}
    (h : colorNumber? color = some index) :
    (Display.mk pen .showing cells).feed (colorSequence (toString layer) color)
      = ⟨penAfter pen [layer, 5, index], .showing, cells⟩ := by
  have hsequence : colorSequence (toString layer) color
      = ['\x1b', '['] ++ (Nat.toDigits 10 layer ++ ([';'] ++ (Nat.toDigits 10 5 ++ ([';'] ++
          (Nat.toDigits 10 index ++ ['m']))))) := by
    simp [colorSequence, h, sequence, show Nat.toDigits 10 5 = ['5'] from rfl]
  rw [hsequence]
  simp only [feed_append]
  rw [show (Display.mk pen .showing cells).feed ['\x1b', '[']
    = ⟨pen, .reading [] 0, cells⟩ from rfl, feed_toDigits]
  rw [show (Display.mk pen (.reading [] layer) cells).feed [';'] = ⟨pen, .reading [layer] 0, cells⟩
    from rfl, feed_toDigits]
  rw [show (Display.mk pen (.reading [layer] 5) cells).feed [';']
    = ⟨pen, .reading [layer, 5] 0, cells⟩ from rfl, feed_toDigits]
  rfl

theorem feed_foreground (h : pen.foreground = .default) (color : Color) :
    (Display.mk pen .showing cells).feed (colorSequence "38" color)
      = ⟨{ pen with foreground := color }, .showing, cells⟩ := by
  cases hindex : colorNumber? color with
  | none =>
    rw [colorSequence, hindex, colorNumber?_eq_none_iff.1 hindex, ← h]
    rfl
  | some index =>
    rw [show "38" = toString 38 from rfl, feed_colorSequence hindex, penAfter,
      palette_of_colorNumber? hindex]
    rfl

theorem feed_background (h : pen.background = .default) (color : Color) :
    (Display.mk pen .showing cells).feed (colorSequence "48" color)
      = ⟨{ pen with background := color }, .showing, cells⟩ := by
  cases hindex : colorNumber? color with
  | none =>
    rw [colorSequence, hindex, colorNumber?_eq_none_iff.1 hindex, ← h]
    rfl
  | some index =>
    rw [show "48" = toString 48 from rfl, feed_colorSequence hindex, penAfter,
      palette_of_colorNumber? hindex]
    rfl

/-- The sequences of a face turn the pen that was put back into that face. -/
theorem feed_penDown (face : Face) :
    (Display.mk .plain .showing cells).feed (penDown face) = ⟨face, .showing, cells⟩ := by
  obtain ⟨foreground, background, bold, italic, underline⟩ := face
  simp only [penDown, feed_append]
  rw [feed_foreground rfl, feed_background rfl]
  cases bold <;> cases italic <;> cases underline <;> rfl

theorem feed_penUp : (Display.mk pen .showing cells).feed penUp = ⟨.plain, .showing, cells⟩ := rfl

/-! ## 3. Painted texts -/

theorem feed_paintPiece {text : List Char} (h : '\x1b' ∉ text) (face : Face) :
    (Display.mk .plain .showing cells).feed (paintPiece face text)
      = ⟨.plain, .showing, cells ++ text.map (·, face)⟩ := by
  unfold paintPiece
  split
  · next hplain =>
    rw [Face.isPlain_iff.1 hplain]
    exact feed_text h
  · rw [feed_append, feed_append, feed_penDown, feed_text h, feed_penUp]

/-- The characters of some tokens, each in the face of its token. -/
def cellsOf (theme : Theme) (list : List Token) : List (Char × Face) :=
  list.flatMap fun token => token.text.map (·, theme.faceOfKind token.kind)

/-- A run of painted tokens; each of them is begun and left with a pen that was put back. -/
theorem feed_flatMap_paintPiece (theme : Theme) {list : List Token}
    (h : ∀ token ∈ list, '\x1b' ∉ token.text) :
    (Display.mk .plain .showing cells).feed
        (list.flatMap fun token => paintPiece (theme.faceOfKind token.kind) token.text)
      = ⟨.plain, .showing, cells ++ cellsOf theme list⟩ := by
  induction list generalizing cells with
  | nil => rw [cellsOf, List.flatMap_nil, List.flatMap_nil, List.append_nil]; rfl
  | cons token list ih =>
    rw [List.flatMap_cons, feed_append, feed_paintPiece (h token List.mem_cons_self),
      ih fun token hmem => h token (List.mem_cons_of_mem _ hmem), cellsOf, cellsOf,
      List.flatMap_cons, List.append_assoc]

theorem map_fst_cellsOf (theme : Theme) (list : List Token) :
    (cellsOf theme list).map Prod.fst = list.flatMap Token.text := by
  simp only [cellsOf, List.map_flatMap, List.map_map, Function.comp_def, List.map_id']

theorem length_cellsOf (theme : Theme) (list : List Token) :
    (cellsOf theme list).length = (list.flatMap Token.text).length := by
  rw [← map_fst_cellsOf theme, List.length_map]

/-- The cell of a character is in the face of the token that holds it. -/
theorem getElem?_cellsOf {theme : Theme} {text before after : List Char} {c : Char}
    (htext : text = before ++ c :: after) {token : Token} (hmem : token ∈ tokens text)
    (hstart : token.start ≤ Text.size before) (hstop : Text.size before < token.stop) :
    (cellsOf theme (tokens text))[before.length]? = some (c, theme.faceOfKind token.kind) := by
  obtain ⟨early, later, hsplit, hearly, -⟩ := TokenStream.exists_append_stop hmem
  change tokens text = early ++ token :: later at hsplit
  change token.start = 0 + Text.size (early.flatMap Token.text) at hearly
  have hparts : early.flatMap Token.text ++ (token.text ++ later.flatMap Token.text)
      = before ++ c :: after := by
    rw [← htext, ← flatMap_text_tokens text, hsplit, List.flatMap_append, List.flatMap_cons]
  -- the character stands in the token, after the part `between` of it
  obtain ⟨between, hbefore, hrest⟩ := Text.exists_between_of_size_le hparts (by omega)
  have hsize : Text.size between < Text.size token.text := by
    rw [hbefore, Text.size_append, Token.stop] at hstop
    omega
  obtain ⟨tail, htoken, htail⟩ := Text.exists_between_of_size_le hrest.symm (Nat.le_of_lt hsize)
  cases tail with
  | nil =>
    rw [htoken, List.append_nil] at hsize
    exact absurd hsize (Nat.lt_irrefl _)
  | cons first tail =>
    obtain ⟨rfl, -⟩ := List.cons.inj htail
    have hcells : cellsOf theme (tokens text)
        = (cellsOf theme early ++ between.map (·, theme.faceOfKind token.kind))
          ++ (c, theme.faceOfKind token.kind)
            :: (tail.map (·, theme.faceOfKind token.kind) ++ cellsOf theme later) := by
      rw [hsplit, cellsOf, List.flatMap_append, List.flatMap_cons, htoken]
      simp only [cellsOf, List.map_append, List.map_cons, List.append_assoc, List.cons_append]
    have hlength : before.length
        = (cellsOf theme early ++ between.map (·, theme.faceOfKind token.kind)).length := by
      rw [List.length_append, length_cellsOf, List.length_map, hbefore, List.length_append]
    rw [hcells, hlength, List.getElem?_append_right (Nat.le_refl _), Nat.sub_self]
    rfl

/-- The display shows the text in the faces of the theme: its characters in their order and no
others, each in the face of the token that holds it. Its pen is put back, and no sequence is left
open. -/
structure Shows (display : Display) (theme : Theme) (text : List Char) : Prop where
  cells_eq : display.cells = cellsOf theme (tokens text)
  characters : display.cells.map Prod.fst = text
  face_of_token : ∀ before c after, text = before ++ c :: after → ∀ token ∈ tokens text,
    token.start ≤ Text.size before → Text.size before < token.stop →
      display.cells[before.length]? = some (c, theme.faceOfKind token.kind)
  pen_eq : display.pen = .plain
  phase_eq : display.phase = .showing

theorem feed_paint_shows (theme : Theme) (text : List Char) (h : '\x1b' ∉ text) :
    (Display.feed {} (paint theme text)).Shows theme text := by
  have htokens : ∀ token ∈ tokens text, '\x1b' ∉ token.text := by
    intro token hmem hescape
    apply h
    rw [← flatMap_text_tokens text]
    exact List.mem_flatMap.2 ⟨token, hmem, hescape⟩
  have hfeed : Display.feed {} (paint theme text)
      = ⟨.plain, .showing, cellsOf theme (tokens text)⟩ :=
    feed_flatMap_paintPiece theme htokens
  rw [hfeed]
  constructor
  case cells_eq => rfl
  case characters =>
    exact (map_fst_cellsOf theme _).trans (flatMap_text_tokens text)
  case face_of_token =>
    intro before c after htext token hmem hstart hstop
    exact getElem?_cellsOf htext hmem hstart hstop
  case pen_eq => rfl
  case phase_eq => rfl

theorem feed_paint_shows_open_string :
    let theme := Theme.builtin.set .openString { background := .brightRed, underline := true }
    let text := "no-loop \"[0m é".toList
    '\x1b' ∉ text ∧ (Display.feed {} (paint theme text)).Shows theme text := by
  have hescape : '\x1b' ∉ "no-loop \"[0m é".toList := by decide +kernel
  exact ⟨hescape, feed_paint_shows _ _ hescape⟩

end Display

end DroolsInk.Terminal
