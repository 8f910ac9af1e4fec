import DroolsInk.Proofs.Lookahead
import DroolsInk.Proofs.Restart

/-!
# Lexing again gives the tokens of the new text

After an edit a buffer holds three pieces: the extents that were settled before the edit, those that
were lexed again, and the old ones after the place where both agree, moved with their text. Put
together they are the extents of all tokens of the new text.

The settled extents are tokens of the new text because they end too early to have seen the edit. The
old extents after the edit are *carried*: lexing the new text from where one of them stands now
gives it and those after it, since the text there is the old text and what stands before it does not
matter. So lexing may stop as soon as it ends a token where a carried extent starts.

A buffer that was made from a text holds the extents of its tokens, an edit keeps this, and so does
every run of edits.
-/

namespace DroolsInk

/-! ## 1. Edits of a text -/

namespace Edit

variable {edit : Edit} {text before middle after : List Char}

theorem exists_parts_of_fits (h : edit.Fits text) :
    ∃ before middle after, text = before ++ middle ++ after ∧ Text.size before = edit.start ∧
      Text.size (before ++ middle) = edit.stop := by
  obtain ⟨hle, -, ⟨before, rest, htext, hstart⟩, ⟨front, after, htext', hstop⟩⟩ := h
  have hsplit : before ++ rest = front ++ after := htext.symm.trans htext'
  obtain ⟨middle, hfront, -⟩ := Text.exists_between_of_size_le hsplit (by omega)
  refine ⟨before, middle, after, ?_, hstart, ?_⟩
  · rw [htext', hfront]
  · rw [← hfront, hstop]

theorem fits_of_parts (htext : text = before ++ middle ++ after)
    (hstart : Text.size before = edit.start) (hstop : Text.size (before ++ middle) = edit.stop) :
    edit.Fits text := by
  have hle : edit.start ≤ edit.stop := by
    rw [← hstart, ← hstop, Text.size_append]
    exact Nat.le_add_right _ _
  have hsize : edit.stop ≤ Text.size text := by
    rw [htext, Text.size_append, hstop]
    exact Nat.le_add_right _ _
  exact ⟨hle, hsize, ⟨before, middle ++ after, by rw [htext, List.append_assoc], hstart⟩,
    ⟨before ++ middle, after, htext, hstop⟩⟩

theorem splice_of_parts (htext : text = before ++ middle ++ after)
    (hstart : Text.size before = edit.start) (hstop : Text.size (before ++ middle) = edit.stop) :
    edit.splice text = .ok (before ++ edit.text ++ after) := by
  have hfirst : Text.splitAt? text edit.start = some (before, middle ++ after) :=
    Text.splitAt?_eq_some_iff.2 ⟨by rw [htext, List.append_assoc], hstart⟩
  have hsecond : Text.splitAt? text edit.stop = some (before ++ middle, after) :=
    Text.splitAt?_eq_some_iff.2 ⟨htext, hstop⟩
  have hle := (fits_of_parts htext hstart hstop).1
  simp only [splice, hfirst, hsecond, if_pos hle]

theorem splice_of_not_fits (h : ¬edit.Fits text) :
    edit.splice text = .error ⟨edit.start, edit.stop, Text.size text⟩ := by
  unfold splice
  split
  · next before rest front after hfirst hsecond =>
    obtain ⟨htext, hstart⟩ := Text.splitAt?_eq_some_iff.1 hfirst
    obtain ⟨htext', hstop⟩ := Text.splitAt?_eq_some_iff.1 hsecond
    rw [if_neg]
    intro hle
    apply h
    refine ⟨hle, ?_, ⟨before, rest, htext, hstart⟩, ⟨front, after, htext', hstop⟩⟩
    rw [htext', Text.size_append, hstop]
    exact Nat.le_add_right _ _
  · rfl

theorem moved_add (edit : Edit) {offset : Nat} (h : edit.stop ≤ offset) (more : Nat) :
    edit.moved (more + offset) = more + edit.moved offset := by
  unfold moved
  omega

/-! ## 2. Carried extents -/

/-- Lexing the text after the edit from where an old extent stands now gives that extent and the old
ones after it, moved. -/
def Carried (edit : Edit) (text : List Char) (old : List Extent) : Prop :=
  ∀ extent rest, extent :: rest <:+ old →
    (TokenStream.ofOffset text (edit.moved extent.start)).toList.map Token.extent
      = (extent :: rest).map edit.movedExtent

theorem Carried.of_suffix {old part : List Extent} (h : edit.Carried text old)
    (hpart : part <:+ old) : edit.Carried text part := by
  intro extent rest hsuffix
  exact h extent rest (hsuffix.trans hpart)

/-- Lexing until a carried extent is met, and then taking over those from there on, gives the same
as lexing to the end. The induction is on the stream; what is carried shrinks with it. -/
theorem resync_spec {stream : TokenStream} {old : List Extent} (hstands : stream.StandsIn text)
    (hcarried : edit.Carried text old) :
    (edit.resync stream old).1 ++ (edit.resync stream old).2.map edit.movedExtent
        = stream.toList.map Token.extent ∧
      (edit.resync stream old).2 <:+ old := by
  fun_induction Edit.resync edit stream old with
  | case1 stream old hnext =>
    rw [TokenStream.toList_of_next?_eq_none hnext]
    exact ⟨rfl, List.nil_suffix⟩
  | case2 stream old token after hnext ahead hmeets =>
    have hahead : ahead <:+ old := List.dropWhile_suffix _
    refine ⟨?_, hahead⟩
    rw [TokenStream.toList_of_next?_eq_some hnext]
    cases hcases : ahead with
    | nil =>
      rw [hcases] at hmeets
      cases hmeets
    | cons extent rest =>
      rw [hcases] at hmeets hahead
      have hmeet : edit.moved extent.start = token.stop := by simpa using hmeets
      -- the stream after the token stands where the extent now starts
      have hafter : after = TokenStream.ofOffset text (edit.moved extent.start) := by
        rw [hmeet, ← (TokenStream.offset_of_next? hnext).2]
        exact (hstands.next? hnext).eq_ofOffset
      show token.extent :: (extent :: rest).map edit.movedExtent
        = token.extent :: after.toList.map Token.extent
      rw [hafter, hcarried extent rest hahead]
  | case3 stream old token after hnext ahead hmeets lexed kept hresync ih =>
    have hahead : ahead <:+ old := List.dropWhile_suffix _
    obtain ⟨hlist, hsuffix⟩ := ih (hstands.next? hnext) (hcarried.of_suffix hahead)
    rw [hresync] at hlist hsuffix
    rw [TokenStream.toList_of_next?_eq_some hnext, List.map_cons, ← hlist]
    exact ⟨rfl, hsuffix.trans hahead⟩

end Edit

namespace Buffer

variable {edit : Edit} {text before middle after : List Char}

/-- The extents after an edit are carried: the text that they cover stands behind the new text now,
and all offsets in it have moved alike. -/
theorem carried_beyond (htext : text = before ++ middle ++ after)
    (hstart : Text.size before = edit.start) (hstop : Text.size (before ++ middle) = edit.stop) :
    edit.Carried (before ++ edit.text ++ after) ((ofText text).beyond edit) := by
  intro extent rest hsuffix
  have hle : edit.stop ≤ extent.start :=
    (tiles_tokens text).le_start_of_mem_dropWhile (hsuffix.subset List.mem_cons_self)
  -- the stream of the old text that yields the extent and those after it
  obtain ⟨earlier, hearlier⟩ := hsuffix.trans (List.dropWhile_suffix _)
  let stream := TokenStream.drop earlier.length (.ofText text)
  have hlist : stream.toList.map Token.extent = extent :: rest := by
    have hdrop := congrArg (List.drop earlier.length) hearlier
    rw [List.drop_left] at hdrop
    rw [TokenStream.toList_drop, List.map_drop]
    exact hdrop.symm
  have hstands : stream.StandsIn text :=
    TokenStream.StandsIn.drop ⟨[], rfl, rfl⟩ earlier.length
  have hoffset : stream.offset = extent.start := by
    have htiles := hstands.tiles
    rw [hlist] at htiles
    exact htiles.1.symm
  -- what that stream has left is an end of the text after the edit
  obtain ⟨front, hfront, hsize⟩ := hstands
  have hsplit : (before ++ middle) ++ after = front ++ stream.rest := htext.symm.trans hfront
  obtain ⟨between, hbetween, hafter⟩ := Text.exists_between_of_size_le hsplit (by omega)
  have hmoved : Text.size (before ++ edit.text ++ between) = edit.moved extent.start := by
    rw [← hoffset, ← hsize, hbetween, Edit.moved, ← hstop, ← hstart]
    simp only [Text.size_append]
    omega
  have hnew : TokenStream.ofOffset (before ++ edit.text ++ after) (edit.moved extent.start)
      = ⟨edit.moved extent.start, stream.rest⟩ := by
    rw [hafter, ← List.append_assoc, ← hmoved, TokenStream.ofOffset_size_append]
  rw [hnew, ← hlist, stream.toList_eq_map_shift, TokenStream.toList_eq_map_shift, List.map_map,
    List.map_map, List.map_map]
  apply List.map_congr_left
  intro token _
  simp only [Function.comp, Token.extent_shift, Extent.shift, Edit.movedExtent, hoffset,
    Edit.moved_add edit hle]

/-! ## 3. Settled extents -/

/-- The extents that were settled before an edit are the first ones of the new text, and lexing
restarts where the last of them ends. -/
theorem settled_append_restart (htext : text = before ++ middle ++ after)
    (hstart : Text.size before = edit.start) :
    let restart := (ofText text).restart edit
    let stream := TokenStream.ofOffset (before ++ edit.text ++ after) restart
    Extent.Tiles 0 restart ((ofText text).settled edit) ∧
      (ofText text).settled edit ++ stream.toList.map Token.extent
        = (DroolsInk.tokens (before ++ edit.text ++ after)).map Token.extent := by
  intro restart stream
  let isEarly := fun token : Token => decide (token.stop + lookahead ≤ edit.start)
  let early := (DroolsInk.tokens text).takeWhile isEarly
  have hsettled : (ofText text).settled edit = early.map Token.extent := List.takeWhile_map
  have hlist : (TokenStream.mk 0 (before ++ (middle ++ after))).toList
      = early ++ (DroolsInk.tokens text).dropWhile isEarly := by
    rw [← List.append_assoc, ← htext, List.takeWhile_append_dropWhile]
    rfl
  have hearly : ∀ token ∈ early, token.stop + 11 ≤ 0 + Text.size before := by
    intro token hmem
    have hstop := of_decide_eq_true (List.all_eq_true.1 List.all_takeWhile token hmem)
    rw [lookahead] at hstop
    omega
  obtain ⟨passed, left, hbefore, hpassed, -, hnew⟩ :=
    TokenStream.toList_append_of_le hlist hearly (edit.text ++ after)
  have htiles := (TokenStream.tiles_of_toList_eq_append hlist).1
  rw [← hpassed, Nat.zero_add] at htiles
  rw [Nat.zero_add, ← List.append_assoc] at hnew
  have hrestart : restart = Text.size passed := by
    rw [← htiles.stop_getLast?, ← hsettled]
    rfl
  have hstream : stream = ⟨Text.size passed, left ++ (edit.text ++ after)⟩ := by
    show TokenStream.ofOffset _ restart = _
    rw [hrestart, hbefore, List.append_assoc, List.append_assoc,
      TokenStream.ofOffset_size_append]
  have htokens : DroolsInk.tokens (before ++ edit.text ++ after) = early ++ stream.toList := by
    rw [hstream]
    exact hnew
  rw [hrestart, hsettled, htokens, List.map_append]
  exact ⟨htiles, rfl⟩

/-! ## 4. Buffers -/

theorem apply_ofText (htext : text = before ++ middle ++ after)
    (hstart : Text.size before = edit.start) (hstop : Text.size (before ++ middle) = edit.stop) :
    ∃ lexed kept, kept <:+ (ofText text).beyond edit ∧
      (ofText text).settled edit ++ lexed ++ kept.map edit.movedExtent
        = (ofText (before ++ edit.text ++ after)).extents ∧
      (ofText text).apply edit = .ok (ofText (before ++ edit.text ++ after),
        { restart := (ofText text).restart edit
          resync := ((kept.map edit.movedExtent).head?.map Extent.start).getD
            (Text.size (before ++ edit.text ++ after))
          relexed := lexed.length
          reused := kept.length }) := by
  let new := before ++ edit.text ++ after
  let stream := TokenStream.ofOffset new ((ofText text).restart edit)
  have hsplice : edit.splice (ofText text).text = .ok new :=
    Edit.splice_of_parts htext hstart hstop
  have hstands : stream.StandsIn new := TokenStream.standsIn_ofOffset new _
  obtain ⟨lexed, kept, hresync⟩ :
      ∃ lexed kept, edit.resync stream ((ofText text).beyond edit) = (lexed, kept) :=
    ⟨_, _, rfl⟩
  obtain ⟨hlist, hsuffix⟩ := Edit.resync_spec hstands (carried_beyond htext hstart hstop)
  rw [hresync] at hlist hsuffix
  have hextents : (ofText text).settled edit ++ lexed ++ kept.map edit.movedExtent
      = (ofText new).extents := by
    rw [List.append_assoc, hlist]
    exact (settled_append_restart htext hstart).2
  refine ⟨lexed, kept, hsuffix, hextents, ?_⟩
  unfold apply
  rw [hsplice]
  simp only [bind, Except.bind, pure, Except.pure]
  rw [show TokenStream.ofOffset new ((ofText text).restart edit) = stream from rfl, hresync]
  simp only [hextents, List.length_map]
  rfl

theorem submit_of_apply_eq_ok {buffer next : Buffer} {report : EditReport}
    (h : buffer.apply edit = .ok (next, report)) : buffer.submit edit = (.ok report, next) := by
  rw [submit, h]

theorem submit_of_not_fits {buffer : Buffer} (h : ¬edit.Fits buffer.text) :
    buffer.submit edit = (.error ⟨edit.start, edit.stop, Text.size buffer.text⟩, buffer) := by
  have hrefused : buffer.apply edit
      = .error ⟨edit.start, edit.stop, Text.size buffer.text⟩ := by
    unfold apply
    rw [Edit.splice_of_not_fits h]
    rfl
  simp only [submit, hrefused]

theorem submit_ofText_of_parts (htext : text = before ++ middle ++ after)
    (hstart : Text.size before = edit.start) (hstop : Text.size (before ++ middle) = edit.stop) :
    ∃ report, (ofText text).submit edit = (.ok report, ofText (before ++ edit.text ++ after)) := by
  obtain ⟨lexed, kept, -, -, happly⟩ := apply_ofText htext hstart hstop
  exact ⟨_, submit_of_apply_eq_ok happly⟩

theorem submit_ofText_snd (text : List Char) (edit : Edit) :
    ((ofText text).submit edit).2 = ofText ((ofText text).submit edit).2.text := by
  by_cases hfits : edit.Fits text
  · obtain ⟨before, middle, after, htext, hstart, hstop⟩ := Edit.exists_parts_of_fits hfits
    obtain ⟨report, hsubmit⟩ := submit_ofText_of_parts htext hstart hstop
    rw [hsubmit]
    rfl
  · have hsubmit : (ofText text).submit edit = _ := submit_of_not_fits hfits
    rw [hsubmit]
    rfl

theorem run_ofText (text : List Char) (edits : List Edit) :
    (ofText text).run edits = ofText ((ofText text).run edits).text := by
  induction edits generalizing text with
  | nil => rfl
  | cons edit edits ih =>
    have hstep : (ofText text).run (edit :: edits)
        = (ofText ((ofText text).submit edit).2.text).run edits :=
      congrArg (fun buffer => buffer.run edits) (submit_ofText_snd text edit)
    rw [hstep]
    exact ih _

/-- Whatever edits a buffer has been through, its extents are those of all tokens of its text. The
next edit is made exactly if it fits; it then puts its text in the place of its range, and the
extents are those of the tokens of the new text. Otherwise the answer tells the range and the size
of the text, and the buffer stays as it is. -/
theorem submit_run_ofText (text : List Char) (edits : List Edit) (edit : Edit) :
    let buffer := (ofText text).run edits
    let answer := (buffer.submit edit).1
    let next := (buffer.submit edit).2
    buffer.extents = (DroolsInk.tokens buffer.text).map Token.extent ∧
    ((∃ report, answer = .ok report) ↔
      edit.start ≤ edit.stop ∧ edit.stop ≤ Text.size buffer.text ∧
        Text.IsBoundary buffer.text edit.start ∧ Text.IsBoundary buffer.text edit.stop) ∧
    (∀ report, answer = .ok report →
      ∃ before middle after, buffer.text = before ++ middle ++ after ∧
        Text.size before = edit.start ∧ Text.size (before ++ middle) = edit.stop ∧
        next.text = before ++ edit.text ++ after ∧
        next.extents = (DroolsInk.tokens next.text).map Token.extent) ∧
    (∀ error, answer = .error error →
      error = ⟨edit.start, edit.stop, Text.size buffer.text⟩ ∧ next = buffer) := by
  intro buffer answer next
  have hbuffer : buffer = ofText buffer.text := run_ofText text edits
  refine ⟨congrArg extents hbuffer, ?_⟩
  by_cases hfits : edit.Fits buffer.text
  · obtain ⟨before, middle, after, htext, hstart, hstop⟩ := Edit.exists_parts_of_fits hfits
    obtain ⟨report, hsubmit⟩ := submit_ofText_of_parts htext hstart hstop
    rw [← hbuffer] at hsubmit
    have hanswer : answer = .ok report := congrArg Prod.fst hsubmit
    have hnext : next = ofText (before ++ edit.text ++ after) := congrArg Prod.snd hsubmit
    refine ⟨⟨fun _ => hfits, fun _ => ⟨report, hanswer⟩⟩, ?_, ?_⟩
    · intro _ _
      refine ⟨before, middle, after, htext, hstart, hstop, ?_, ?_⟩
      · rw [hnext]
        rfl
      · rw [hnext]
        rfl
    · intro error herror
      rw [hanswer] at herror
      cases herror
  · have hsubmit := submit_of_not_fits hfits
    have hanswer : answer = .error ⟨edit.start, edit.stop, Text.size buffer.text⟩ :=
      congrArg Prod.fst hsubmit
    refine ⟨⟨?_, fun h => absurd h hfits⟩, ?_, ?_⟩
    · rintro ⟨report, hreport⟩
      rw [hanswer] at hreport
      cases hreport
    · intro report hreport
      rw [hanswer] at hreport
      cases hreport
    · intro error herror
      rw [hanswer] at herror
      cases herror
      exact ⟨rfl, congrArg Prod.snd hsubmit⟩

end Buffer

end DroolsInk
