import Mathlib.Order.Bounds.Defs
import DroolsInk.Proofs.Repaint

/-!
# An edit lexes no more than its rule asks for

Lexing may restart where an old token ends that the edit cannot have changed, and it may stop where
a token of the new text ends and an old token behind the edit, once moved, starts. An edit restarts
at the last place of the first sort, or at the start of the text if there is none, and it stops at
the first place of the second sort behind the restart, or at the end of the text.

For the stop two cursors move, one over the new tokens and one over the old extents. The latter
passes an extent only if it starts, moved, before the end of the token at hand. Every token that is
still to come ends later, so none of them could have met that extent. At the first meeting both
cursors stand still: the extents ahead start in order, and if the first of them starts behind the
end of the token, all of them do.
-/

namespace DroolsInk

/-! ## 1. Tight reports -/

/-- An old token ends at the place, so far before the edit that the edit cannot have changed it. -/
def Edit.MayRestart (edit : Edit) (old : Buffer) (place : Nat) : Prop :=
  ∃ extent ∈ old.extents, extent.stop = place ∧ place + lookahead ≤ edit.start

/-- A token of the new text ends at the place, and an old token behind the edit starts there, once
moved. -/
def Edit.MayStop (edit : Edit) (old : Buffer) (text : List Char) (place : Nat) : Prop :=
  (∃ token ∈ tokens text, token.stop = place) ∧
    ∃ extent ∈ old.extents, edit.stop ≤ extent.start ∧ (extent.start : Int) = place - edit.delta

/-- Lexing restarted as late and stopped as early as it may, and took the tokens in between and no
others. -/
structure EditReport.Tight (report : EditReport) (edit : Edit) (old new : Buffer) : Prop where
  restart : IsGreatest {place | edit.MayRestart old place} report.restart ∨
    (∀ place, ¬edit.MayRestart old place) ∧ report.restart = 0
  resync : IsLeast {place | report.restart < place ∧ edit.MayStop old new.text place}
      report.resync ∨
    (∀ place, report.restart < place → ¬edit.MayStop old new.text place) ∧
      report.resync = Text.size new.text
  relexed_eq : report.relexed = (tokens new.text).countP fun token =>
    report.restart ≤ token.start ∧ token.stop ≤ report.resync
  relexed_eq_zero_iff : report.relexed = 0 ↔ new.text = []

/-! ## 2. The first meeting -/

namespace Edit

variable {edit : Edit} {old ahead : List Extent} {stream : TokenStream} {token : Token}

/-- One of the extents, once moved, starts where the token ends. -/
def Meets (edit : Edit) (old : List Extent) (token : Token) : Prop :=
  ∃ extent ∈ old, edit.moved extent.start = token.stop

/-- Lexing halts at the first token that meets one of the old extents, or after the last token if
none does. What it leaves begins with the extent that was met. -/
inductive Halts (edit : Edit) (old : List Extent) :
    List Token → List Extent × List Extent → Prop
  | met {early later : List Token} {token : Token} {extent : Extent} {rest : List Extent}
      (hearly : ∀ other ∈ early, ¬edit.Meets old other) (hmem : extent ∈ old)
      (hmeet : edit.moved extent.start = token.stop) :
      Halts edit old (early ++ token :: later)
        ((early ++ [token]).map Token.extent, extent :: rest)
  | ranOut {list : List Token} (hnone : ∀ other ∈ list, ¬edit.Meets old other) :
      Halts edit old list (list.map Token.extent, [])

theorem meets_dropWhile_iff {bound : Nat} (h : bound ≤ token.stop) :
    edit.Meets (old.dropWhile (edit.moved ·.start < bound)) token ↔ edit.Meets old token := by
  constructor
  · rintro ⟨extent, hmem, hmeet⟩
    exact ⟨extent, (List.dropWhile_suffix _).subset hmem, hmeet⟩
  · rintro ⟨extent, hmem, hmeet⟩
    rw [← List.takeWhile_append_dropWhile (p := (edit.moved ·.start < bound)) (l := old)] at hmem
    rcases List.mem_append.1 hmem with hpassed | hahead
    · have hlt := of_decide_eq_true (List.all_eq_true.1 List.all_takeWhile extent hpassed)
      omega
    · exact ⟨extent, hahead, hmeet⟩

/-- The extents ahead start in order, so that the first of them decides for all. -/
theorem not_meets_of_head? (hsorted : old.Pairwise (·.start < ·.start))
    (hmiss : ¬(old.dropWhile (edit.moved ·.start < token.stop)).head?.any
      (edit.moved ·.start = token.stop)) : ¬edit.Meets old token := by
  have hahead := hsorted.sublist (List.dropWhile_sublist (edit.moved ·.start < token.stop))
  have hhead := List.head?_dropWhile_not
    (fun extent : Extent => decide (edit.moved extent.start < token.stop)) old
  rw [← meets_dropWhile_iff (Nat.le_refl token.stop)]
  rintro ⟨extent, hmem, hmeet⟩
  cases hcases : old.dropWhile (edit.moved ·.start < token.stop) with
  | nil =>
    rw [hcases] at hmem
    cases hmem
  | cons first rest =>
    rw [hcases] at hmem hmiss hhead hahead
    have hne : edit.moved first.start ≠ token.stop := by simpa using hmiss
    have hnot := of_decide_eq_false hhead
    have hle : first.start ≤ extent.start := by
      rcases List.mem_cons.1 hmem with rfl | hlater
      · exact Nat.le_refl _
      · exact Nat.le_of_lt (List.rel_of_pairwise_cons hahead hlater)
    have hmoved := edit.moved_le_moved hle
    omega

theorem Halts.cons {list : List Token} {result : List Extent × List Extent}
    (h : edit.Halts ahead list result) (hahead : ahead ⊆ old)
    (hlist : ∀ other ∈ list, edit.Meets ahead other ↔ edit.Meets old other)
    (htoken : ¬edit.Meets old token) :
    edit.Halts old (token :: list) (token.extent :: result.1, result.2) := by
  have hcons : ∀ part ⊆ list, (∀ other ∈ part, ¬edit.Meets ahead other) →
      ∀ other ∈ token :: part, ¬edit.Meets old other := by
    intro part hpart hnone other hmem
    rcases List.mem_cons.1 hmem with rfl | hmem
    · exact htoken
    · exact mt (hlist other (hpart hmem)).2 (hnone other hmem)
  cases h with
  | met hearly hmem hmeet =>
    exact .met (hcons _ (List.subset_append_left _ _) hearly) (hahead hmem) hmeet
  | ranOut hnone => exact .ranOut (hcons _ (List.Subset.refl _) hnone)

theorem Halts.lexed_eq_nil_iff {list : List Token} {result : List Extent × List Extent}
    (h : edit.Halts old list result) : result.1 = [] ↔ list = [] := by
  cases h with
  | met => simp
  | ranOut => exact List.map_eq_nil_iff

/-- The induction is on the stream; the extents ahead of a token are those that the tokens after it
can still meet. -/
theorem resync_halts (stream : TokenStream) (hsorted : old.Pairwise (·.start < ·.start)) :
    edit.Halts old stream.toList (edit.resync stream old) := by
  fun_induction Edit.resync edit stream old with
  | case1 stream old hnext =>
    rw [TokenStream.toList_of_next?_eq_none hnext]
    exact .ranOut fun _ hmem => absurd hmem List.not_mem_nil
  | case2 stream old token after hnext ahead hmeets =>
    have hahead : ahead <:+ old := List.dropWhile_suffix _
    rw [TokenStream.toList_of_next?_eq_some hnext]
    cases hcases : ahead with
    | nil =>
      rw [hcases] at hmeets
      cases hmeets
    | cons extent rest =>
      rw [hcases] at hmeets hahead
      have hmeet : edit.moved extent.start = token.stop := by simpa using hmeets
      have hnone : ∀ other ∈ [], ¬edit.Meets old other := fun _ hmem => absurd hmem List.not_mem_nil
      exact Halts.met hnone (hahead.subset List.mem_cons_self) hmeet
  | case3 stream old token after hnext ahead hmeets lexed kept hresync ih =>
    have hahead : ahead <:+ old := List.dropWhile_suffix _
    have hrest := ih (hsorted.sublist hahead.sublist)
    rw [hresync] at hrest
    rw [TokenStream.toList_of_next?_eq_some hnext]
    apply hrest.cons hahead.subset
    case hlist =>
      -- a later token ends behind this one, and none of the extents passed starts there
      intro other hmem
      apply meets_dropWhile_iff
      have hbounds := (TokenStream.tiles_toList after).bounds_of_mem (List.mem_map_of_mem hmem)
      have hoffset := (TokenStream.offset_of_next? hnext).2
      have hlt : after.offset < other.stop := Nat.lt_of_le_of_lt hbounds.1 hbounds.2.1
      omega
    case htoken => exact not_meets_of_head? hsorted hmeets

end Edit

/-! ## 3. Edits report tightly -/

namespace Buffer

variable {edit : Edit} {text : List Char}

theorem submit_of_splice_eq_ok {buffer : Buffer} {new : List Char}
    (h : edit.splice buffer.text = .ok new) :
    let result := edit.resync (.ofOffset new (buffer.restart edit)) (buffer.beyond edit)
    let after := result.2.map edit.movedExtent
    buffer.submit edit = (.ok {
        restart := buffer.restart edit
        resync := (after.head?.map Extent.start).getD (Text.size new)
        relexed := result.1.length
        reused := after.length }, ⟨new, buffer.settled edit ++ result.1 ++ after⟩) := by
  intro result after
  apply submit_of_apply_eq_ok
  unfold apply
  rw [h]
  rfl

theorem mem_settled_iff {extent : Extent} : extent ∈ (ofText text).settled edit ↔
    extent ∈ (ofText text).extents ∧ extent.stop + lookahead ≤ edit.start := by
  have hcut : (ofText text).extents.Pairwise fun first second =>
      decide (second.stop + lookahead ≤ edit.start) = true →
        decide (first.stop + lookahead ≤ edit.start) = true := by
    apply (tiles_tokens text).pairwise.imp
    intro first second horder hsecond
    have hle := of_decide_eq_true hsecond
    exact decide_eq_true (by omega)
  rw [settled, ← filter_eq_takeWhile hcut, List.mem_filter, decide_eq_true_iff]

theorem mem_beyond_iff {extent : Extent} : extent ∈ (ofText text).beyond edit ↔
    extent ∈ (ofText text).extents ∧ edit.stop ≤ extent.start := by
  have htiles : Extent.Tiles 0 (Text.size text) (ofText text).extents := tiles_tokens text
  rw [beyond, ← filter_not_eq_dropWhile (htiles.pairwise_start_lt edit.stop), List.mem_filter,
    Bool.not_eq_true', decide_eq_false_iff_not, Nat.not_lt]

/-- Lexing restarts at the last place where it may, for the settled extents are those that end at
such a place. -/
theorem isGreatest_restart (hsettled : Extent.Tiles 0 ((ofText text).restart edit)
      ((ofText text).settled edit)) :
    IsGreatest {place | edit.MayRestart (ofText text) place} ((ofText text).restart edit) ∨
      (∀ place, ¬edit.MayRestart (ofText text) place) ∧ (ofText text).restart edit = 0 := by
  have hmay : ∀ place, edit.MayRestart (ofText text) place ↔
      ∃ extent ∈ (ofText text).settled edit, extent.stop = place := by
    intro place
    constructor
    · rintro ⟨extent, hmem, rfl, hle⟩
      exact ⟨extent, mem_settled_iff.2 ⟨hmem, hle⟩, rfl⟩
    · rintro ⟨extent, hmem, rfl⟩
      obtain ⟨hmem, hle⟩ := mem_settled_iff.1 hmem
      exact ⟨extent, hmem, rfl, hle⟩
  rcases hsettled.eq_or_exists_stop with hzero | ⟨extent, hmem, hstop⟩
  · right
    refine ⟨?_, hzero.symm⟩
    intro place hplace
    obtain ⟨extent, hmem, -⟩ := (hmay place).1 hplace
    rw [hsettled.eq_nil_iff.2 hzero] at hmem
    cases hmem
  · left
    refine ⟨(hmay _).2 ⟨extent, hmem, hstop⟩, ?_⟩
    intro place hplace
    obtain ⟨other, hother, rfl⟩ := (hmay place).1 hplace
    exact (hsettled.bounds_of_mem hother).2.2

/-- The places where lexing may stop are the ends of those of its tokens that meet an old extent. -/
theorem mayStop_iff {new : List Char} {list : List Token} {restart : Nat}
    {settled : List Extent} (hrange : edit.start ≤ edit.stop)
    (hsettled : Extent.Tiles 0 restart settled)
    (hlist : Extent.Tiles restart (Text.size new) (list.map Token.extent))
    (hnew : settled ++ list.map Token.extent = (ofText new).extents) (place : Nat) :
    restart < place ∧ edit.MayStop (ofText text) new place ↔
      ∃ token ∈ list, token.stop = place ∧ edit.Meets ((ofText text).beyond edit) token := by
  constructor
  · rintro ⟨hlt, ⟨token, htoken, hstop⟩, extent, hextent, hbeyond, hstart⟩
    have hmeet : edit.moved extent.start = place := by
      have hmoved := edit.moved_eq_add_delta hrange hbeyond
      omega
    have hmem : token.extent ∈ settled ++ list.map Token.extent := by
      rw [hnew]
      exact List.mem_map_of_mem htoken
    rcases List.mem_append.1 hmem with hearly | hlate
    · -- a token that ends behind the restart is not one of the settled
      have hle : token.stop ≤ restart := (hsettled.bounds_of_mem hearly).2.2
      omega
    · obtain ⟨other, hother, hsame⟩ := List.mem_map.1 hlate
      have hstop' : other.stop = place := (congrArg Extent.stop hsame).trans hstop
      exact ⟨other, hother, hstop', extent, mem_beyond_iff.2 ⟨hextent, hbeyond⟩,
        hmeet.trans hstop'.symm⟩
  · rintro ⟨token, hmem, rfl, extent, hextent, hmeet⟩
    obtain ⟨hold, hbeyond⟩ := mem_beyond_iff.1 hextent
    have hbounds := hlist.bounds_of_mem (List.mem_map_of_mem hmem)
    have hmoved := edit.moved_eq_add_delta hrange hbeyond
    have htoken : token.extent ∈ (ofText new).extents := by
      rw [← hnew]
      exact List.mem_append_right _ (List.mem_map_of_mem hmem)
    obtain ⟨other, hother, hsame⟩ := List.mem_map.1 htoken
    have hlt : restart < token.stop := Nat.lt_of_le_of_lt hbounds.1 hbounds.2.1
    refine ⟨hlt, ⟨other, hother, congrArg Extent.stop hsame⟩, extent, hold, hbeyond, ?_⟩
    omega

theorem isLeast_resync {new : List Char} {list : List Token} {restart : Nat}
    {result : List Extent × List Extent}
    (hmay : ∀ place, restart < place ∧ edit.MayStop (ofText text) new place ↔
      ∃ token ∈ list, token.stop = place ∧ edit.Meets ((ofText text).beyond edit) token)
    (hlist : Extent.Tiles restart (Text.size new) (list.map Token.extent))
    (hhalts : edit.Halts ((ofText text).beyond edit) list result) :
    let resync := ((result.2.map edit.movedExtent).head?.map Extent.start).getD (Text.size new)
    IsLeast {place | restart < place ∧ edit.MayStop (ofText text) new place} resync ∨
      (∀ place, restart < place → ¬edit.MayStop (ofText text) new place) ∧
        resync = Text.size new := by
  intro resync
  cases hhalts with
  | ranOut hnone =>
    right
    refine ⟨?_, rfl⟩
    intro place hlt hstop
    obtain ⟨token, hmem, -, hmeet⟩ := (hmay place).1 ⟨hlt, hstop⟩
    exact hnone token hmem hmeet
  | met hearly hmem hmeet =>
    rename_i early later token extent rest
    left
    have hresync : resync = token.stop := hmeet
    rw [hresync]
    constructor
    · have htoken : token ∈ early ++ token :: later :=
        List.mem_append_right _ List.mem_cons_self
      exact (hmay token.stop).2 ⟨token, htoken, rfl, extent, hmem, hmeet⟩
    · intro place hplace
      obtain ⟨other, hother, rfl, hmeets⟩ := (hmay place).1 hplace
      rcases List.mem_append.1 hother with hbefore | hafter
      · exact absurd hmeets (hearly other hbefore)
      rcases List.mem_cons.1 hafter with rfl | hbehind
      · exact Nat.le_refl _
      · rw [List.map_append, List.map_cons] at hlist
        have horder := (List.pairwise_append.1 hlist.pairwise).2.1
        exact Nat.le_of_lt (List.rel_of_pairwise_cons horder (List.mem_map_of_mem hbehind)).2.2

/-- Only where the new text is empty is there nothing to lex: the restart is at its start or some
way before the edit. -/
theorem list_eq_nil_iff {new : List Char} {list : List Token} (hsize : edit.start ≤ Text.size new)
    (hsettled : Extent.Tiles 0 ((ofText text).restart edit) ((ofText text).settled edit))
    (hlist : Extent.Tiles ((ofText text).restart edit) (Text.size new) (list.map Token.extent)) :
    list = [] ↔ new = [] := by
  rw [← List.map_eq_nil_iff (f := Token.extent), hlist.eq_nil_iff]
  constructor
  · intro hend
    rcases hsettled.eq_or_exists_stop with hzero | ⟨extent, hmem, hstop⟩
    · exact Text.size_eq_zero_iff.1 (hend.symm.trans hzero.symm)
    · have hearly := (mem_settled_iff.1 hmem).2
      rw [lookahead] at hearly
      omega
  · rintro rfl
    exact Nat.le_antisymm hlist.le (Nat.zero_le _)

theorem submit_ofText_tight (hfits : edit.Fits text) :
    ∃ report next, (ofText text).submit edit = (.ok report, next) ∧
      report.Tight edit (ofText text) next := by
  obtain ⟨before, middle, after, htext, hstart, hstop⟩ := Edit.exists_parts_of_fits hfits
  let new := before ++ edit.text ++ after
  let restart := (ofText text).restart edit
  let list := (TokenStream.ofOffset new restart).toList
  let result := edit.resync (.ofOffset new restart) ((ofText text).beyond edit)
  have hsplice : edit.splice (ofText text).text = .ok new :=
    Edit.splice_of_parts htext hstart hstop
  -- the report is the one that is known to be sound, and it comes from the pass over the tokens
  obtain ⟨report, next, hsubmit, hsound⟩ := submit_ofText_sound hfits
  have hnext : next = ofText new := by
    obtain ⟨other, hparts⟩ := submit_ofText_of_parts htext hstart hstop
    exact congrArg Prod.snd (hsubmit.symm.trans hparts)
  have hreport := hsubmit.symm.trans (submit_of_splice_eq_ok hsplice)
  obtain rfl := Except.ok.inj (congrArg Prod.fst hreport)
  subst hnext
  -- the tokens of the pass tile what is behind the restart
  obtain ⟨hsettled, hextents⟩ := settled_append_restart htext hstart
  change (ofText text).settled edit ++ list.map Token.extent = (ofText new).extents at hextents
  have hlist : Extent.Tiles restart (Text.size new) (list.map Token.extent) := by
    have htiles : Extent.Tiles 0 (Text.size new) (ofText new).extents := tiles_tokens new
    rw [← hextents] at htiles
    obtain ⟨middle, hfront, hlist⟩ := Extent.tiles_append_iff.1 htiles
    rwa [hfront.stop_unique hsettled] at hlist
  have hbeyond : ((ofText text).beyond edit).Pairwise (·.start < ·.start) :=
    ((tiles_tokens text).pairwise.imp fun h => h.2.1).sublist (List.dropWhile_sublist _)
  have hhalts : edit.Halts ((ofText text).beyond edit) list result :=
    Edit.resync_halts _ hbeyond
  have hsize : edit.start ≤ Text.size new := by
    rw [← hstart]
    simp only [new, Text.size_append]
    omega
  refine ⟨_, _, hsubmit, ?_⟩
  constructor
  case restart => exact isGreatest_restart hsettled
  case resync =>
    exact isLeast_resync (mayStop_iff hfits.1 hsettled hlist hextents) hlist hhalts
  case relexed_eq => exact hsound.relexed_eq.trans List.countP_map
  case relexed_eq_zero_iff =>
    show result.1.length = 0 ↔ new = []
    rw [List.length_eq_zero_iff, hhalts.lexed_eq_nil_iff]
    exact list_eq_nil_iff hsize hsettled hlist

/-- Whatever edits a buffer has been through, the next one that fits is made with no more lexing
than its rule asks for. -/
theorem submit_run_tight (text : List Char) (edits : List Edit) (edit : Edit)
    (hfits : edit.Fits ((ofText text).run edits).text) :
    ∃ report next, ((ofText text).run edits).submit edit = (.ok report, next) ∧
      report.Tight edit ((ofText text).run edits) next := by
  have hbuffer : (ofText text).run edits = ofText ((ofText text).run edits).text :=
    run_ofText text edits
  generalize (ofText text).run edits = buffer at *
  rw [hbuffer]
  exact submit_ofText_tight hfits

theorem submit_run_tight_of_late_word :
    let text := "rule discount when order then total end".toList
    let buffer := (ofText text).run [.insert 0 "// a\n".toList]
    let edit : Edit := ⟨35, 40, "price".toList⟩
    edit.Fits buffer.text ∧ ∃ report next, buffer.submit edit = (.ok report, next) ∧
      report.Tight edit buffer next := by
  have hfits : (Edit.mk 35 40 "price".toList).Fits
      ((ofText "rule discount when order then total end".toList).run
        [.insert 0 "// a\n".toList]).text := by
    decide +kernel
  exact ⟨hfits, submit_run_tight _ _ _ hfits⟩

end Buffer

end DroolsInk
