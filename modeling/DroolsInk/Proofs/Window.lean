import Mathlib.Data.List.Basic
import DroolsInk.Proofs.Relex

/-!
# The runs of a window are those of the whole text

A host that shows a part of a buffer asks for the runs of that part alone. It gets what highlighting
the whole text gives there, although the buffer looks at no token outside the part but those that
the halving meets.

The extents of a buffer tile its text, after any edits, so they stand in the order of the text. So
those that end at or before the start of the part come first, which is what the halving needs, and
those that start before its end come before those that do not, so that the walk may stop at the
first of the latter. It does not matter whether the part is empty, runs backwards or goes beyond the
text.
-/

namespace DroolsInk

/-! ## 1. Halving -/

namespace Extent

variable {holds : Extent → Bool}

/-- The range that is left always has the place in it before which, and only there, the extents have
the property. -/
theorem search_eq {extents : Array Extent} {place low high : Nat}
    (hplace : ∀ i, (extents[i]?).any holds = true ↔ i < place) (hlow : low ≤ place)
    (hhigh : place ≤ high) : search holds extents low high = place := by
  fun_induction search holds extents low high with
  | case1 low high h middle hholds ih => exact ih ((hplace middle).1 hholds) hhigh
  | case2 low high h middle hholds ih =>
    exact ih hlow (Nat.not_lt.1 (mt (hplace middle).2 hholds))
  | case3 low high h => omega

theorem search_toArray {extents : List Extent} (h : extents.Pairwise fun first second =>
      holds second = true → holds first = true) :
    search holds extents.toArray 0 extents.length = (extents.takeWhile holds).length := by
  have hsplit : extents.takeWhile holds ++ extents.dropWhile holds = extents :=
    List.takeWhile_append_dropWhile
  apply search_eq
  case hlow => exact Nat.zero_le _
  case hhigh => exact (List.takeWhile_sublist holds).length_le
  case hplace =>
    intro i
    rw [List.getElem?_toArray]
    rcases Nat.lt_or_ge i (extents.takeWhile holds).length with hlt | hle
    · have hholds := List.all_eq_true.1 List.all_takeWhile _ (List.getElem_mem hlt)
      rw [← hsplit, List.getElem?_append_left hlt, List.getElem?_eq_getElem hlt, hsplit]
      exact iff_of_true hholds hlt
    · apply iff_of_false _ (Nat.not_lt.2 hle)
      rw [← hsplit, List.getElem?_append_right hle]
      cases hat : (extents.dropWhile holds)[i - (extents.takeWhile holds).length]? with
      | none => exact Bool.false_ne_true
      | some extent =>
        have hfails := eq_false_of_mem_dropWhile h (List.mem_of_getElem? hat)
        exact Bool.eq_false_iff.1 hfails

theorem drop_search {extents : List Extent} (h : extents.Pairwise fun first second =>
      holds second = true → holds first = true) :
    extents.drop (search holds extents.toArray 0 extents.length)
      = extents.filter fun extent => !holds extent := by
  have hsplit : extents.takeWhile holds ++ extents.dropWhile holds = extents :=
    List.takeWhile_append_dropWhile
  rw [search_toArray h, filter_not_eq_dropWhile h]
  calc extents.drop (extents.takeWhile holds).length
      = (extents.takeWhile holds ++ extents.dropWhile holds).drop
          (extents.takeWhile holds).length := by rw [hsplit]
    _ = extents.dropWhile holds := List.drop_left

end Extent

/-! ## 2. Windows -/

theorem Theme.eq_of_run?_eq_some {theme : Theme} {kind : Kind} {start stop : Nat} {run : Run}
    (h : theme.run? kind start stop = some run) :
    run = ⟨start, stop, theme.faceOfKind kind⟩ := by
  dsimp only [Theme.run?] at h
  split at h
  · cases h
  · exact (Option.some.inj h).symm

namespace Buffer

/-- What a buffer shows of a part of its text is what highlighting the whole text gives there. The
runs stand in the order of the text and do not overlap, and each of them covers some of it. -/
structure Highlights (buffer : Buffer) (theme : Theme) : Prop where
  runsIn_eq : ∀ start stop, buffer.runsIn start stop theme
    = (theme.runs buffer.text).filter fun run => start < run.stop ∧ run.start < stop
  runsIn_all : ∀ stop, Text.size buffer.text ≤ stop →
    buffer.runsIn 0 stop theme = theme.runs buffer.text
  pairwise : ∀ start stop, (buffer.runsIn start stop theme).Pairwise fun run next =>
    run.start < next.start ∧ run.stop ≤ next.start
  within : ∀ start stop, ∀ run ∈ buffer.runsIn start stop theme,
    run.start < run.stop ∧ run.stop ≤ Text.size buffer.text

theorem runs_eq_filterMap_extents (text : List Char) (theme : Theme) :
    theme.runs text = (ofText text).extents.filterMap fun extent =>
      theme.run? extent.kind extent.start extent.stop := by
  rw [ofText, List.filterMap_map]
  rfl

/-- The extents that a window is made from: those that end after its start and start before its
end. Both cuts are in order, since a later extent starts and ends later. -/
theorem takeWhile_drop_passed (text : List Char) (start stop : Nat) :
    ((ofText text).extents.drop ((ofText text).passed start)).takeWhile (·.start < stop)
      = (ofText text).extents.filter fun extent => start < extent.stop ∧ extent.start < stop := by
  have htiles : Extent.Tiles 0 (Text.size text) (ofText text).extents := tiles_tokens text
  have hback := (htiles.pairwise_start_lt stop).filter fun extent => !decide (extent.stop ≤ start)
  rw [passed, Extent.drop_search (htiles.pairwise_stop_le start), ← filter_eq_takeWhile hback,
    List.filter_filter]
  apply List.filter_congr
  intro extent _
  rw [← decide_not, ← Bool.decide_and]
  exact decide_eq_decide.2 (by omega)

theorem runsIn_ofText (text : List Char) (start stop : Nat) (theme : Theme) :
    (ofText text).runsIn start stop theme
      = (theme.runs text).filter fun run => start < run.stop ∧ run.start < stop := by
  rw [runsIn, takeWhile_drop_passed, runs_eq_filterMap_extents, List.filterMap_filter,
    List.filter_filterMap]
  apply List.filterMap_congr
  intro extent _
  -- a run lies where its extent does, so that both tests have the same answer
  cases hrun : theme.run? extent.kind extent.start extent.stop with
  | none => simp
  | some run =>
    obtain rfl := Theme.eq_of_run?_eq_some hrun
    rw [Option.filter_some]

theorem pairwise_runs (text : List Char) (theme : Theme) :
    (theme.runs text).Pairwise fun run next =>
      run.start < next.start ∧ run.stop ≤ next.start := by
  rw [runs_eq_filterMap_extents]
  apply (tiles_tokens text).pairwise.filterMap
  intro first second horder run hrun next hnext
  obtain rfl := Theme.eq_of_run?_eq_some hrun
  obtain rfl := Theme.eq_of_run?_eq_some hnext
  exact ⟨horder.2.1, horder.1⟩

theorem bounds_of_mem_runs {text : List Char} {theme : Theme} {run : Run}
    (h : run ∈ theme.runs text) : run.start < run.stop ∧ run.stop ≤ Text.size text := by
  rw [runs_eq_filterMap_extents] at h
  obtain ⟨extent, hmem, hrun⟩ := List.mem_filterMap.1 h
  obtain rfl := Theme.eq_of_run?_eq_some hrun
  exact ((tiles_tokens text).bounds_of_mem hmem).2

theorem highlights_ofText (text : List Char) (theme : Theme) : (ofText text).Highlights theme := by
  constructor
  case runsIn_eq =>
    intro start stop
    exact runsIn_ofText text start stop theme
  case runsIn_all =>
    intro stop hstop
    rw [runsIn_ofText]
    apply List.filter_eq_self.2
    intro run hmem
    have hbounds := bounds_of_mem_runs hmem
    exact decide_eq_true (by change Text.size text ≤ stop at hstop; omega)
  case pairwise =>
    intro start stop
    rw [runsIn_ofText]
    exact (pairwise_runs text theme).filter _
  case within =>
    intro start stop run hmem
    rw [runsIn_ofText] at hmem
    exact bounds_of_mem_runs (List.mem_filter.1 hmem).1

/-- However a buffer has come about, every part of it is highlighted as the whole text is. -/
theorem run_highlights (text : List Char) (edits : List Edit) (theme : Theme) :
    ((ofText text).run edits).Highlights theme := by
  rw [run_ofText]
  exact highlights_ofText _ theme

end Buffer

end DroolsInk
