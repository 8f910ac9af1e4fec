import Mathlib.Data.List.Forall2
import DroolsInk.Proofs.Relex

/-!
# What has to be painted again

A host that shows a buffer paints only the range of the report again after an edit. That is enough
if the tokens before the range are the old ones, those behind it are the old ones moved with their
text, and the range reaches over the edit.

The three pieces of the new extents tile the text up to the range, the range, and the rest. Hence
each piece is found again by where its extents lie, and the old extents that are kept are found in
the old buffer at the place that the edit has moved to the end of the range.
-/

namespace DroolsInk

/-! ## 1. Sound reports -/

/-- How far an edit moves what stands behind it. -/
def Edit.delta (edit : Edit) : Int := Text.size edit.text - ((edit.stop : Int) - edit.start)

/-- An end of the text, or a place where a token starts or ends. -/
def Buffer.IsSeam (buffer : Buffer) (offset : Nat) : Prop :=
  offset = 0 ∨ offset = Text.size buffer.text ∨
    ∃ extent ∈ buffer.extents, extent.start = offset ∨ extent.stop = offset

def Extent.IsMoved (delta : Int) (moved extent : Extent) : Prop :=
  moved.kind = extent.kind ∧ (moved.start : Int) = extent.start + delta ∧
    (moved.stop : Int) = extent.stop + delta

/-- The range of a report can be painted again alone: it lies over the edit and between tokens of
the new buffer, what is before it has not changed, and what is behind it has only moved. The report
counts the tokens in the range and behind it. -/
structure EditReport.Sound (report : EditReport) (edit : Edit) (old new : Buffer) : Prop where
  restart_le : report.restart ≤ edit.start
  le_resync : edit.start + Text.size edit.text ≤ report.resync
  resync_le : report.resync ≤ Text.size new.text
  restart_seam : new.IsSeam report.restart
  resync_seam : new.IsSeam report.resync
  before : new.extents.filter (·.stop ≤ report.restart)
    = old.extents.filter (·.stop ≤ report.restart)
  behind : List.Forall₂ (Extent.IsMoved edit.delta)
    (new.extents.filter (report.resync ≤ ·.start))
    (old.extents.filter fun extent => report.resync - edit.delta ≤ (extent.start : Int))
  behind_nil : report.resync = Text.size new.text →
    new.extents.filter (report.resync ≤ ·.start) = []
  relexed_eq : report.relexed
    = new.extents.countP fun extent => report.restart ≤ extent.start ∧ extent.stop ≤ report.resync
  reused_eq : report.reused = new.extents.countP (report.resync ≤ ·.start)
  count_eq : old.extents.countP (·.stop ≤ report.restart) + report.relexed + report.reused
    = new.extents.length

/-! ## 2. Edits report soundly -/

namespace Extent

theorem Tiles.map_movedExtent {edit : Edit} {start stop : Nat} {extents : List Extent}
    (h : Tiles start stop extents) (hstart : edit.stop ≤ start) :
    Tiles (edit.moved start) (edit.moved stop) (extents.map edit.movedExtent) := by
  induction extents generalizing start with
  | nil => exact congrArg edit.moved h
  | cons extent rest ih =>
    obtain ⟨rfl, hlt, hrest⟩ := h
    refine ⟨rfl, ?_, ih hrest (by omega)⟩
    show edit.moved extent.start < edit.moved extent.stop
    unfold Edit.moved
    omega

end Extent

namespace Edit

variable {edit : Edit} {text before middle after : List Char}

theorem moved_size (htext : text = before ++ middle ++ after)
    (hstart : Text.size before = edit.start) (hstop : Text.size (before ++ middle) = edit.stop) :
    edit.moved (Text.size text) = Text.size (before ++ edit.text ++ after) := by
  rw [moved, htext, ← hstart, ← hstop]
  simp only [Text.size_append]
  omega

theorem moved_eq_add_delta (hrange : edit.start ≤ edit.stop) {offset : Nat}
    (h : edit.stop ≤ offset) : (edit.moved offset : Int) = offset + edit.delta := by
  rw [edit.moved_eq hrange h, delta, Int.ofNat_sub hrange]

end Edit

namespace Buffer

variable {edit : Edit} {text : List Char} {kept : List Extent}

theorem restart_le_start {buffer : Buffer} {start : Nat}
    (h : Extent.Tiles 0 start (buffer.settled edit)) : start ≤ edit.start := by
  rcases h.eq_or_exists_stop with rfl | ⟨extent, hmem, rfl⟩
  · exact Nat.zero_le _
  · have hsettled := of_decide_eq_true (List.all_eq_true.1 List.all_takeWhile extent hmem)
    omega

theorem filter_settled {restart : Nat}
    (h : Extent.Tiles 0 restart ((ofText text).settled edit)) :
    (ofText text).extents.filter (·.stop ≤ restart) = (ofText text).settled edit := by
  have htiles := tiles_tokens text
  have hsplit : (ofText text).settled edit
      ++ (ofText text).extents.dropWhile (·.stop + lookahead ≤ edit.start)
      = (ofText text).extents := List.takeWhile_append_dropWhile
  change Extent.Tiles 0 (Text.size text) (ofText text).extents at htiles
  rw [← hsplit] at htiles ⊢
  obtain ⟨middle, hsettled, hrest⟩ := Extent.tiles_append_iff.1 htiles
  rw [hsettled.stop_unique h] at hrest
  exact h.filter_stop_le hrest

/-- The old extents that an edit keeps begin at a place after the range, and are all from there on.
-/
theorem exists_tiles_of_suffix_beyond (hstop : edit.stop ≤ Text.size text)
    (hkept : kept <:+ (ofText text).beyond edit) :
    ∃ place, edit.stop ≤ place ∧ Extent.Tiles place (Text.size text) kept ∧
      (ofText text).extents.filter (place ≤ ·.start) = kept := by
  have htiles : Extent.Tiles 0 (Text.size text) (ofText text).extents := tiles_tokens text
  obtain ⟨earlier, hearlier⟩ := hkept.trans (List.dropWhile_suffix _)
  rw [← hearlier] at htiles
  obtain ⟨place, hbefore, hafter⟩ := Extent.tiles_append_iff.1 htiles
  refine ⟨place, ?_, hafter, ?_⟩
  · rcases hafter.eq_or_exists_start with rfl | ⟨extent, hmem, rfl⟩
    · exact hstop
    · exact (tiles_tokens text).le_start_of_mem_dropWhile (hkept.subset hmem)
  · rw [← hearlier]
    exact hbefore.filter_le_start hafter

/-- A report is sound if the pieces of the new extents end where it says, and the outer two are
those of the old buffer. -/
theorem sound_of_tiles {old new : Buffer} {settled lexed : List Extent} {restart place : Nat}
    (hrange : edit.start ≤ edit.stop) (hrestart : restart ≤ edit.start)
    (hplace : edit.stop ≤ place) (hsettled : Extent.Tiles 0 restart settled)
    (hlexed : Extent.Tiles restart (edit.moved place) lexed)
    (hkept : Extent.Tiles place (Text.size old.text) kept)
    (hbehind : Extent.Tiles (edit.moved place) (Text.size new.text) (kept.map edit.movedExtent))
    (hnew : settled ++ lexed ++ kept.map edit.movedExtent = new.extents)
    (holdBefore : old.extents.filter (·.stop ≤ restart) = settled)
    (holdBehind : old.extents.filter (place ≤ ·.start) = kept) :
    EditReport.Sound ⟨restart, edit.moved place, lexed.length, kept.length⟩ edit old new := by
  have hfront : Extent.Tiles 0 (edit.moved place) (settled ++ lexed) :=
    Extent.tiles_append_iff.2 ⟨restart, hsettled, hlexed⟩
  have hnewBefore : new.extents.filter (·.stop ≤ restart) = settled := by
    rw [← hnew, List.append_assoc]
    exact hsettled.filter_stop_le (Extent.tiles_append_iff.2 ⟨_, hlexed, hbehind⟩)
  have hnewBetween : new.extents.filter
      (fun extent => restart ≤ extent.start ∧ extent.stop ≤ edit.moved place) = lexed := by
    rw [← hnew]
    exact hsettled.filter_between hlexed hbehind
  have hnewBehind : new.extents.filter (edit.moved place ≤ ·.start)
      = kept.map edit.movedExtent := by
    rw [← hnew]
    exact hfront.filter_le_start hbehind
  have hdelta : (edit.moved place : Int) - edit.delta = place := by
    rw [edit.moved_eq_add_delta hrange hplace]
    omega
  have holdBehind' : old.extents.filter
      (fun extent => (edit.moved place : Int) - edit.delta ≤ (extent.start : Int)) = kept := by
    simp only [hdelta, Int.ofNat_le]
    exact holdBehind
  constructor
  case restart_le => exact hrestart
  case le_resync => exact Nat.le_add_left _ _
  case resync_le => exact hbehind.le
  case restart_seam =>
    rcases hsettled.eq_or_exists_stop with hzero | ⟨extent, hmem, hstop⟩
    · exact Or.inl hzero.symm
    · refine Or.inr (Or.inr ⟨extent, ?_, Or.inr hstop⟩)
      rw [← hnew, List.append_assoc]
      exact List.mem_append_left _ hmem
  case resync_seam =>
    rcases hbehind.eq_or_exists_start with hsize | ⟨extent, hmem, hstart⟩
    · exact Or.inr (Or.inl hsize)
    · refine Or.inr (Or.inr ⟨extent, ?_, Or.inl hstart⟩)
      rw [← hnew]
      exact List.mem_append_right _ hmem
  case before => exact hnewBefore.trans holdBefore.symm
  case behind =>
    show List.Forall₂ _ (new.extents.filter (edit.moved place ≤ ·.start)) _
    rw [hnewBehind, holdBehind']
    apply List.forall₂_map_left_iff.2
    apply List.forall₂_same.2
    intro extent hmem
    have hbounds := hkept.bounds_of_mem hmem
    refine ⟨rfl, ?_, ?_⟩
    · exact edit.moved_eq_add_delta hrange (by omega)
    · exact edit.moved_eq_add_delta hrange (by omega)
  case behind_nil =>
    intro hend
    rw [hnewBehind]
    exact hbehind.eq_nil_iff.2 hend
  case relexed_eq => rw [List.countP_eq_length_filter, hnewBetween]
  case reused_eq => rw [List.countP_eq_length_filter, hnewBehind, List.length_map]
  case count_eq =>
    rw [List.countP_eq_length_filter, holdBefore, ← hnew]
    simp only [List.length_append, List.length_map]

/-- An edit that fits has a sound report. The three pieces of the new extents end at the restart, at
the end of the range, and at the end of the text. -/
theorem submit_ofText_sound (hfits : edit.Fits text) :
    ∃ report next, (ofText text).submit edit = (.ok report, next) ∧
      report.Sound edit (ofText text) next := by
  obtain ⟨before, middle, after, htext, hstart, hstop⟩ := Edit.exists_parts_of_fits hfits
  obtain ⟨lexed, kept, hkept, hnew, happly⟩ := apply_ofText htext hstart hstop
  obtain ⟨hrange, hsize, -, -⟩ := hfits
  let new := before ++ edit.text ++ after
  obtain ⟨place, hplace, hold, holdBehind⟩ := exists_tiles_of_suffix_beyond hsize hkept
  have hsettled := (settled_append_restart htext hstart).1
  -- the new extents tile the new text, so each piece ends where the next one begins
  have htiles : Extent.Tiles 0 (Text.size new) (ofText new).extents := tiles_tokens new
  rw [← hnew] at htiles
  obtain ⟨resync, hfront, hbehind⟩ := Extent.tiles_append_iff.1 htiles
  obtain ⟨restart, hbefore, hlexed⟩ := Extent.tiles_append_iff.1 hfront
  have hrestart : restart = (ofText text).restart edit := hbefore.stop_unique hsettled
  have hmoved : Extent.Tiles (edit.moved place) (Text.size new) (kept.map edit.movedExtent) := by
    rw [← Edit.moved_size htext hstart hstop]
    exact hold.map_movedExtent hplace
  have hresync : resync = edit.moved place := hbehind.start_unique hmoved
  have hend : ((kept.map edit.movedExtent).head?.map Extent.start).getD (Text.size new)
      = edit.moved place := hmoved.start_head?
  subst hrestart hresync
  refine ⟨_, _, submit_of_apply_eq_ok happly, ?_⟩
  rw [hend]
  exact sound_of_tiles hrange (restart_le_start hsettled) hplace hsettled hlexed hold
    hmoved hnew (filter_settled hsettled) holdBehind

/-- Whatever edits a buffer has been through, the next one that fits is made, and its report is
sound. -/
theorem submit_run_sound (text : List Char) (edits : List Edit) (edit : Edit)
    (hfits : edit.Fits ((ofText text).run edits).text) :
    ∃ report next, ((ofText text).run edits).submit edit = (.ok report, next) ∧
      report.Sound edit ((ofText text).run edits) next := by
  have hbuffer : (ofText text).run edits = ofText ((ofText text).run edits).text :=
    run_ofText text edits
  generalize (ofText text).run edits = buffer at *
  rw [hbuffer]
  exact submit_ofText_sound hfits

theorem submit_run_sound_of_second_edit :
    let text := "rule \"a\" no-loo true".toList
    let buffer := (ofText text).run [.insert 15 "p".toList]
    let edit : Edit := .delete 0 5
    edit.Fits buffer.text ∧ ∃ report next, buffer.submit edit = (.ok report, next) ∧
      report.Sound edit buffer next := by
  have hfits : (Edit.delete 0 5).Fits
      ((ofText "rule \"a\" no-loo true".toList).run [.insert 15 "p".toList]).text := by
    decide +kernel
  exact ⟨hfits, submit_run_sound _ _ _ hfits⟩

end Buffer

end DroolsInk
