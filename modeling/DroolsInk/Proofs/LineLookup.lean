import Mathlib.Data.List.Induction
import DroolsInk.Text.Lines

/-!
# The line of an offset

The line table finds the line of an offset by halving. What it finds can be told from the text
alone: as many lines come before it as line feeds stand before the offset, and it starts behind the
last of them, or at the start of the text if there is none. So the part of the line before the
offset holds no line feed, and with what comes before the line and what comes after the offset it
makes up the text.

The halving needs the lines in the order of their starts, with those that start at or before the
offset in front. They are so because the table is built in one walk through the text. A part of the
text adds the lines that start in it, which are those behind its line feeds, and what stands after
the part adds the others.
-/

namespace DroolsInk.Text

/-! ## 1. The lines that start in a part of a text -/

/-- The same line in a text that goes on with `after`. -/
def Line.extend (after : List Char) (line : Line) : Line := ⟨line.start, line.rest ++ after⟩

@[simp] theorem Line.start_extend (after : List Char) (line : Line) :
    (line.extend after).start = line.start := rfl

variable {offset : Nat} {before after text front inLine : List Char}

theorem linesAfter_append (offset : Nat) (before after : List Char) :
    linesAfter offset (before ++ after) =
      (linesAfter offset before).map (Line.extend after)
        ++ linesAfter (offset + size before) after := by
  induction before generalizing offset with
  | nil => rfl
  | cons c before ih =>
    simp only [List.cons_append, linesAfter, size_cons, ih, Nat.add_assoc]
    split <;> rfl

theorem start_bounds_of_mem_linesAfter {line : Line} (h : line ∈ linesAfter offset text) :
    offset < line.start ∧ line.start ≤ offset + size text := by
  induction text generalizing offset with
  | nil => cases h
  | cons c text ih =>
    have hpos := c.utf8Size_pos
    have hlater : line ∈ linesAfter (offset + c.utf8Size) text →
        offset < line.start ∧ line.start ≤ offset + size (c :: text) := by
      intro hmem
      have hbounds := ih hmem
      rw [size_cons]
      omega
    rw [linesAfter] at h
    split at h
    · rcases List.mem_cons.1 h with rfl | hmem
      · simp only [size_cons]
        omega
      · exact hlater hmem
    · exact hlater h

theorem length_linesAfter (offset : Nat) (text : List Char) :
    (linesAfter offset text).length = text.count '\n' := by
  induction text generalizing offset with
  | nil => rfl
  | cons c text ih =>
    rw [linesAfter]
    split
    · next hfeed =>
      rw [hfeed, List.length_cons, ih, List.count_cons_self]
    · next hfeed => rw [ih, List.count_cons_of_ne hfeed]

theorem linesAfter_eq_nil (h : '\n' ∉ text) : linesAfter offset text = [] := by
  apply List.eq_nil_of_length_eq_zero
  rw [length_linesAfter, List.count_eq_zero]
  exact h

/-- The text ends where a line starts: it is empty or ends with a line feed. -/
def EndsAtLineStart (text : List Char) : Prop := text = [] ∨ ∃ body, text = body ++ ['\n']

/-- A text is a number of whole lines and a part of a line. -/
theorem exists_lineStart (text : List Char) :
    ∃ front inLine, text = front ++ inLine ∧ EndsAtLineStart front ∧ '\n' ∉ inLine := by
  induction text using List.reverseRecOn with
  | nil => exact ⟨[], [], rfl, Or.inl rfl, List.not_mem_nil⟩
  | append_singleton text c ih =>
    by_cases hfeed : c = '\n'
    · subst hfeed
      exact ⟨text ++ ['\n'], [], (List.append_nil _).symm, Or.inr ⟨text, rfl⟩, List.not_mem_nil⟩
    · obtain ⟨front, inLine, rfl, hfront, hline⟩ := ih
      refine ⟨front, inLine ++ [c], List.append_assoc _ _ _, hfront, ?_⟩
      simp [hline, Ne.symm hfeed]

/-! ## 2. Halving -/

namespace LineTable

/-- The range that is left always has the place in it before which, and only there, the lines start
at or before the offset. -/
theorem search_add_one {lines : Array Line} {place low high : Nat}
    (hplace : ∀ i, i < lines.size → ((lines[i]?).all (·.start ≤ offset) = true ↔ i < place))
    (hlow : low < place) (hhigh : place ≤ high) (hsize : high ≤ lines.size) :
    search lines offset low high + 1 = place := by
  fun_induction search lines offset low high with
  | case1 low high h => omega
  | case2 low high h middle hstarts ih =>
    exact ih ((hplace middle (by omega)).1 hstarts) hhigh hsize
  | case3 low high h middle hstarts ih =>
    have hmiddle := mt (hplace middle (by omega)).2 hstarts
    exact ih hlow (Nat.not_lt.1 hmiddle) (by omega)

theorem getElem_lineAt (table : LineTable) (offset : Nat) :
    table.lines[table.numberAt offset]? = some (table.lineAt offset) :=
  Array.getElem?_eq_getElem (table.numberAt_lt offset)

/-- Where the lines up to one of them start at or before the offset and all others after it, that
one is the line of the offset. -/
theorem lineAt_of_split {table : LineTable} {early later : List Line} {line : Line}
    (h : table.lines = (early ++ line :: later).toArray)
    (hearly : ∀ other ∈ early ++ [line], other.start ≤ offset)
    (hlater : ∀ other ∈ later, offset < other.start) :
    table.numberAt offset = early.length ∧ table.lineAt offset = line := by
  rw [List.append_cons] at h
  have hsize : table.lines.size = early.length + 1 + later.length := by
    rw [h, List.size_toArray, List.length_append, List.length_append, List.length_singleton]
  have hplace : ∀ i, i < table.lines.size →
      ((table.lines[i]?).all (·.start ≤ offset) = true ↔ i < early.length + 1) := by
    intro i hi
    rw [h, List.getElem?_toArray]
    rcases Nat.lt_or_ge i (early ++ [line]).length with hlt | hge
    · rw [List.getElem?_append_left hlt, List.getElem?_eq_getElem hlt]
      have hstarts := hearly _ (List.getElem_mem hlt)
      rw [List.length_append, List.length_singleton] at hlt
      exact iff_of_true (decide_eq_true hstarts) hlt
    · have hlt : i - (early ++ [line]).length < later.length := by
        rw [List.length_append, List.length_singleton] at hge ⊢
        omega
      rw [List.getElem?_append_right hge, List.getElem?_eq_getElem hlt]
      have hstarts := hlater _ (List.getElem_mem hlt)
      rw [List.length_append, List.length_singleton] at hge
      apply iff_of_false _ (Nat.not_lt.2 hge)
      simpa using hstarts
  have hnumber : table.numberAt offset = early.length := by
    have hsearch := search_add_one hplace (Nat.zero_lt_succ _) (by omega) (Nat.le_refl _)
    exact Nat.succ.inj hsearch
  refine ⟨hnumber, ?_⟩
  have hline := table.getElem_lineAt offset
  rw [hnumber, h] at hline
  simpa using hline.symm

/-! ## 3. What the table finds -/

theorem lines_ofText (text : List Char) :
    (ofText text).lines = (Line.mk 0 text :: linesAfter 0 text).toArray := rfl

/-- The lines of a text that start in its part `front ++ inLine`, of which the last one starts
behind `front`, are in the table before those that start in `after`. -/
theorem exists_lines_ofText (hfront : EndsAtLineStart front) (hline : '\n' ∉ inLine)
    (after : List Char) :
    ∃ early, early.length = front.count '\n' ∧ (∀ line ∈ early, line.start ≤ size front) ∧
      (ofText (front ++ inLine ++ after)).lines =
        (early ++ ⟨size front, inLine ++ after⟩
          :: linesAfter (size (front ++ inLine)) after).toArray := by
  have hnone : ∀ start,
      linesAfter start (inLine ++ after) = linesAfter (start + size inLine) after := by
    intro start
    rw [linesAfter_append, linesAfter_eq_nil hline, List.map_nil, List.nil_append]
  rcases hfront with rfl | ⟨body, rfl⟩
  · refine ⟨[], rfl, nofun, ?_⟩
    rw [lines_ofText, List.nil_append, hnone, Nat.zero_add]
    rfl
  · -- the text's own first line, and those behind the line feeds of `body`
    have hbehind : linesAfter 0 (body ++ ['\n'] ++ inLine ++ after) =
        (linesAfter 0 body).map (Line.extend ('\n' :: (inLine ++ after))) ++
          ⟨size (body ++ ['\n']), inLine ++ after⟩ ::
            linesAfter (size (body ++ ['\n'] ++ inLine)) after := by
      rw [List.append_assoc, List.append_assoc, List.singleton_append, linesAfter_append,
        Nat.zero_add, linesAfter, if_pos rfl, hnone, size_append _ inLine, size_append body]
      rfl
    refine ⟨⟨0, body ++ ['\n'] ++ inLine ++ after⟩ ::
      (linesAfter 0 body).map (Line.extend ('\n' :: (inLine ++ after))), ?_, ?_, ?_⟩
    · rw [List.length_cons, List.length_map, length_linesAfter, List.count_append]
      rfl
    · intro line hmem
      rcases List.mem_cons.1 hmem with rfl | hmem
      · exact Nat.zero_le _
      · obtain ⟨inner, hinner, rfl⟩ := List.mem_map.1 hmem
        have hbounds := start_bounds_of_mem_linesAfter hinner
        rw [Line.start_extend, size_append]
        omega
    · rw [lines_ofText, hbehind]
      rfl

/-- The line of an offset starts behind the last line feed before it, and comes after as many lines
as there are line feeds before it. The offset need not be a boundary, as long as no line starts
between `before` and the offset. -/
theorem lineAt_ofText (hsize : size before ≤ offset)
    (hafter : ∀ line ∈ linesAfter (size before) after, offset < line.start) :
    ∃ front inLine, before = front ++ inLine ∧ EndsAtLineStart front ∧ '\n' ∉ inLine ∧
      (ofText (before ++ after)).numberAt offset = before.count '\n' ∧
      (ofText (before ++ after)).lineAt offset = ⟨size front, inLine ++ after⟩ := by
  obtain ⟨front, inLine, rfl, hfront, hline⟩ := exists_lineStart before
  obtain ⟨early, hlength, hearly, hlines⟩ := exists_lines_ofText hfront hline after
  have hle : size front ≤ offset := by
    rw [size_append] at hsize
    omega
  have hstarts : ∀ other ∈ early ++ [⟨size front, inLine ++ after⟩], other.start ≤ offset := by
    intro other hmem
    rcases List.mem_append.1 hmem with hother | hother
    · exact Nat.le_trans (hearly other hother) hle
    · rw [List.mem_singleton.1 hother]
      exact hle
  obtain ⟨hnumber, hat⟩ := lineAt_of_split hlines hstarts hafter
  refine ⟨front, inLine, rfl, hfront, hline, ?_, hat⟩
  rw [hnumber, hlength, List.count_append, List.count_eq_zero.2 hline, Nat.add_zero]

end LineTable

end DroolsInk.Text
