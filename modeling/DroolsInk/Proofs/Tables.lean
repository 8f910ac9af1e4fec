import DroolsInk.Toml.Printer

/-!
# Tables as maps

A table is a list of entries, but it stands for a map: as no key comes twice, it does not matter in
which order it has its entries. Looking up a key gives the same in every order, and going through
the entries by their keys gives them in one order whichever they had.

Values that differ in nothing but the order of the entries in their tables are the same value. Each
has an ordered form, in which every table has its entries in the order of their keys; the text of a
value is that of its ordered form, and so is all that can be looked up in it.
-/

namespace DroolsInk.Toml

/-! ## 1. Lookups -/

/-- No key of the entries comes twice. -/
def DistinctKeys {α : Type} (entries : List (String × α)) : Prop := (entries.map Prod.fst).Nodup

instance {α : Type} (entries : List (String × α)) : Decidable (DistinctKeys entries) :=
  inferInstanceAs (Decidable (List.Nodup _))

section Lookups

variable {α β : Type} {entries others : List (String × α)} {entry : String × α} {key : String}
  {value : α}

theorem mem_of_lookup_eq_some (h : entries.lookup key = some value) : (key, value) ∈ entries := by
  obtain ⟨before, after, rfl, -⟩ := List.lookup_eq_some_iff.1 h
  exact List.mem_append_right _ List.mem_cons_self

theorem lookup_singleton_of_ne {other : String} (h : key ≠ other) :
    List.lookup key [(other, value)] = none := by
  rw [List.lookup_cons, beq_eq_false_iff_ne.2 h, List.lookup_nil]

theorem distinctKeys_cons_iff :
    DistinctKeys (entry :: entries) ↔ entries.lookup entry.1 = none ∧ DistinctKeys entries := by
  rw [DistinctKeys, List.map_cons, List.nodup_cons, List.lookup_eq_none_iff, DistinctKeys]
  simp only [List.mem_map, not_exists, not_and, bne_iff_ne, ne_eq, @eq_comm _ entry.1]

theorem DistinctKeys.lookup_eq_some_iff (h : DistinctKeys entries) :
    entries.lookup key = some value ↔ (key, value) ∈ entries := by
  refine ⟨mem_of_lookup_eq_some, fun hmem => ?_⟩
  induction entries with
  | nil => cases hmem
  | cons entry entries ih =>
    obtain ⟨hnone, hrest⟩ := distinctKeys_cons_iff.1 h
    rcases List.mem_cons.1 hmem with rfl | hmem
    · exact List.lookup_cons_self
    · have hlookup := ih hrest hmem
      have hne : key ≠ entry.1 := by
        rintro rfl
        rw [hnone] at hlookup
        cases hlookup
      rw [List.lookup_cons, beq_eq_false_iff_ne.2 hne, hlookup]

theorem DistinctKeys.of_perm (h : DistinctKeys entries) (hperm : others.Perm entries) :
    DistinctKeys others :=
  (hperm.map Prod.fst).nodup_iff.2 h

theorem DistinctKeys.lookup_eq_of_perm (h : DistinctKeys entries) (hperm : others.Perm entries)
    (key : String) : others.lookup key = entries.lookup key := by
  apply Option.ext
  intro value
  rw [(h.of_perm hperm).lookup_eq_some_iff, h.lookup_eq_some_iff, hperm.mem_iff]

theorem DistinctKeys.concat (h : DistinctKeys entries) (hnone : entries.lookup key = none) :
    DistinctKeys (entries ++ [(key, value)]) :=
  (distinctKeys_cons_iff.2 ⟨hnone, h⟩).of_perm (List.perm_append_singleton _ _)

theorem map_fst_replace (entries : List (String × α)) (key : String) (value : α) :
    (entries.map fun entry => if entry.1 = key then (key, value) else entry).map Prod.fst
      = entries.map Prod.fst := by
  rw [List.map_map]
  apply List.map_congr_left
  intro entry _
  by_cases hkey : entry.1 = key
  · simp [hkey]
  · simp [hkey]

/-! ## 2. The order of the keys -/

theorem keyLe_trans (first second third : String × α) (hfirst : decide (first.1 ≤ second.1) = true)
    (hsecond : decide (second.1 ≤ third.1) = true) : decide (first.1 ≤ third.1) = true :=
  decide_eq_true (String.le_trans (of_decide_eq_true hfirst) (of_decide_eq_true hsecond))

theorem keyLe_total (first second : String × α) :
    (decide (first.1 ≤ second.1) || decide (second.1 ≤ first.1)) = true := by
  simpa using String.le_total first.1 second.1

theorem pairwise_sortByKey (entries : List (String × α)) :
    (sortByKey entries).Pairwise fun first second => first.1 ≤ second.1 :=
  (List.pairwise_mergeSort keyLe_trans keyLe_total entries).imp of_decide_eq_true

theorem DistinctKeys.pairwise_lt_sortByKey (h : DistinctKeys entries) :
    (sortByKey entries).Pairwise fun first second => first.1 < second.1 := by
  have hdistinct : (sortByKey entries).Pairwise fun first second => first.1 ≠ second.1 :=
    List.pairwise_map.1 (h.of_perm (perm_sortByKey entries))
  refine (hdistinct.and (pairwise_sortByKey entries)).imp ?_
  rintro first second ⟨hne, hle⟩
  rw [← String.not_le]
  exact fun hge => hne (String.le_antisymm hle hge)

/-- In the order of the keys, what comes before an entry is all that has a smaller key. -/
theorem DistinctKeys.mem_of_sortByKey_eq (h : DistinctKeys entries)
    {early later : List (String × α)} (hsplit : sortByKey entries = early ++ entry :: later)
    {other : String × α} :
    other ∈ early ↔ other ∈ entries ∧ other.1 < entry.1 := by
  have hsorted := h.pairwise_lt_sortByKey
  rw [hsplit, List.pairwise_append, List.pairwise_cons] at hsorted
  obtain ⟨-, ⟨hlater, -⟩, hearly⟩ := hsorted
  rw [← (perm_sortByKey entries).mem_iff, hsplit, List.mem_append, List.mem_cons]
  constructor
  · exact fun hother => ⟨Or.inl hother, hearly other hother entry List.mem_cons_self⟩
  · rintro ⟨hother | rfl | hother, hlt⟩
    · exact hother
    · exact absurd hlt (String.lt_irrefl _)
    · exact absurd hlt (String.lt_asymm (hlater other hother))

theorem map_sortByKey {change : String × α → String × β} (h : ∀ entry, (change entry).1 = entry.1)
    (entries : List (String × α)) :
    (sortByKey entries).map change = sortByKey (entries.map change) :=
  List.map_mergeSort fun first _ second _ => by rw [h, h]

theorem sortByKey_sortByKey (entries : List (String × α)) :
    sortByKey (sortByKey entries) = sortByKey entries :=
  List.mergeSort_of_pairwise ((pairwise_sortByKey entries).imp decide_eq_true)

theorem lookup_eq_head?_filter (key : String) (entries : List (String × α)) :
    entries.lookup key = (entries.filter (key == ·.1)).head?.map Prod.snd := by
  induction entries with
  | nil => rfl
  | cons entry entries ih =>
    rw [List.lookup_cons, List.filter_cons]
    cases key == entry.1 with
    | true => rfl
    | false => exact ih

/-- Sorting moves no entry past another of the same key, so that it changes no lookup even where
keys come twice. -/
theorem lookup_sortByKey (key : String) (entries : List (String × α)) :
    (sortByKey entries).lookup key = entries.lookup key := by
  have hsame : (entries.filter (key == ·.1)).Pairwise fun first second =>
      decide (first.1 ≤ second.1) = true := by
    apply List.pairwise_of_forall_mem_list
    intro first hfirst second hsecond
    have hkey := beq_iff_eq.1 (List.mem_filter.1 hfirst).2
    have hkey' := beq_iff_eq.1 (List.mem_filter.1 hsecond).2
    exact decide_eq_true (hkey ▸ hkey' ▸ String.le_refl key)
  have hkept : (entries.filter (key == ·.1)).Sublist ((sortByKey entries).filter (key == ·.1)) := by
    have hsub := (List.sublist_mergeSort keyLe_trans keyLe_total hsame List.filter_sublist).filter
      (key == ·.1)
    simp only [List.filter_filter, Bool.and_self] at hsub
    exact hsub
  have hlength := ((perm_sortByKey entries).filter (key == ·.1)).length_eq
  rw [lookup_eq_head?_filter, lookup_eq_head?_filter, hkept.eq_of_length hlength.symm]

end Lookups

/-! ## 3. Values with their entries in order -/

mutual

/-- The value with the entries of every table in the order of their keys. -/
def Value.ordered : Value → Value
  | .array items => .array (orderItems items)
  | .table entries => .table (sortByKey (orderEntries entries))
  | value => value

def orderItems : List Value → List Value
  | [] => []
  | item :: rest => item.ordered :: orderItems rest

def orderEntries : List (String × Value) → List (String × Value)
  | [] => []
  | (key, value) :: rest => (key, value.ordered) :: orderEntries rest

end

theorem orderEntries_eq_map (entries : Table) :
    orderEntries entries = entries.map fun entry => (entry.1, entry.2.ordered) := by
  induction entries with
  | nil => rfl
  | cons entry entries ih => rw [orderEntries, ih, List.map_cons]

theorem renderEntries_eq_map (entries : Table) :
    renderEntries entries
      = entries.map fun entry => (entry.1, renderEntry entry.1 entry.2.renderInside) := by
  induction entries with
  | nil => rfl
  | cons entry entries ih => rw [renderEntries, ih, List.map_cons]

theorem sortByKey_renderEntries_sortByKey (entries : Table) :
    sortByKey (renderEntries (sortByKey entries)) = sortByKey (renderEntries entries) := by
  let written := fun entry : String × Value => (entry.1, renderEntry entry.1 entry.2.renderInside)
  have hkeys : ∀ entry, (written entry).1 = entry.1 := fun _ => rfl
  calc sortByKey (renderEntries (sortByKey entries))
      = sortByKey ((sortByKey entries).map written) := by rw [renderEntries_eq_map]
    _ = (sortByKey (sortByKey entries)).map written := (map_sortByKey hkeys _).symm
    _ = (sortByKey entries).map written := by rw [sortByKey_sortByKey]
    _ = sortByKey (entries.map written) := map_sortByKey hkeys entries
    _ = sortByKey (renderEntries entries) := by rw [renderEntries_eq_map]

mutual

/-- The text of a value is that of its ordered form. -/
theorem renderInside_ordered : ∀ value : Value, value.ordered.renderInside = value.renderInside
  | .string _ => rfl
  | .integer _ => rfl
  | .float _ => rfl
  | .boolean _ => rfl
  | .dateTime _ => rfl
  | .array items => by
    rw [Value.ordered, Value.renderInside, Value.renderInside, renderItems_orderItems]
  | .table entries => by
    rw [Value.ordered, Value.renderInside, Value.renderInside, sortByKey_renderEntries_sortByKey,
      renderEntries_orderEntries]

theorem renderItems_orderItems : ∀ items, renderItems (orderItems items) = renderItems items
  | [] => rfl
  | item :: rest => by
    rw [orderItems, renderItems, renderItems, renderInside_ordered item,
      renderItems_orderItems rest]

theorem renderEntries_orderEntries :
    ∀ entries, renderEntries (orderEntries entries) = renderEntries entries
  | [] => rfl
  | (key, value) :: rest => by
    rw [orderEntries, renderEntries, renderEntries, renderInside_ordered value,
      renderEntries_orderEntries rest]

end

theorem render_ordered (value : Value) : value.ordered.render = value.render := by
  cases value with
  | dateTime moment => rfl
  | _ => exact renderInside_ordered _

/-- Looking up a key in the ordered form gives the ordered form of what the table has there. -/
theorem lookup_sortByKey_orderEntries (key : String) (entries : Table) :
    (sortByKey (orderEntries entries)).lookup key = (entries.lookup key).map Value.ordered := by
  rw [lookup_sortByKey, orderEntries_eq_map]
  induction entries with
  | nil => rfl
  | cons entry entries ih =>
    rw [List.map_cons, List.lookup_cons, List.lookup_cons, ih]
    split <;> rfl

@[simp] theorem asString?_ordered (value : Value) : value.ordered.asString? = value.asString? := by
  cases value <;> rfl

@[simp] theorem asBoolean?_ordered (value : Value) :
    value.ordered.asBoolean? = value.asBoolean? := by
  cases value <;> rfl

end DroolsInk.Toml
