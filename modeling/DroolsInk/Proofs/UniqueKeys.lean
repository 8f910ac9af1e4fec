import DroolsInk.Proofs.SettingsTable
import DroolsInk.Settings.Loading

/-!
# No document gives a key twice

A document that gives a key twice is malformed, so the tables that are read have each key once, and
so do the tables in them. While a document is read this holds of every section that is open: a new
meaning of a key takes the place of the one it had, and only a key without one is added at the end.
A path that leads to a section changes all sections on its way, but it gives none of them a second
meaning for a key.

So what settings tables mean is what settings files mean, whatever there is in the file.
-/

namespace DroolsInk.Toml

/-! ## 1. Values and sections -/

/-- The value holds no other. -/
def Value.isPlain : Value → Bool
  | .array _ => false
  | .table _ => false
  | _ => true

/-- No table in the value has a key twice, however deep it lies. -/
inductive Value.WellKeyed : Value → Prop where
  | array {items : List Value} (hitems : ∀ item ∈ items, item.WellKeyed) : WellKeyed (.array items)
  | table {entries : Table} (hkeys : DistinctKeys entries)
    (hentries : ∀ entry ∈ entries, entry.2.WellKeyed) : WellKeyed (.table entries)
  | plain {value : Value} (h : value.isPlain = true) : WellKeyed value

mutual

/-- No key of the section has two meanings, nor one of the sections in it. -/
inductive Section.WellKeyed : Section → Prop where
  | mk {isImplicit isDotted : Bool} {entries : List (String × Node)} (hkeys : DistinctKeys entries)
    (hnodes : ∀ entry ∈ entries, entry.2.WellKeyed) :
    Section.WellKeyed (.mk isImplicit isDotted entries)

inductive Node.WellKeyed : Node → Prop where
  | value {value : Value} (h : value.WellKeyed) : Node.WellKeyed (.value value)
  | table {part : Section} (h : part.WellKeyed) : Node.WellKeyed (.table part)
  | tables {before : List Section} {last : Section} (hbefore : ∀ part ∈ before, part.WellKeyed)
    (hlast : last.WellKeyed) : Node.WellKeyed (.tables before last)

end

namespace Section

variable {part next inner : Section} {node : Node} {key : String} {path : List String}
  {value : Value} {isImplicit isDotted : Bool}

theorem WellKeyed.keys (h : part.WellKeyed) : DistinctKeys part.entries := by
  cases h
  assumption

theorem WellKeyed.nodes (h : part.WellKeyed) : ∀ entry ∈ part.entries, entry.2.WellKeyed := by
  cases h
  assumption

theorem wellKeyed_nil : (mk isImplicit isDotted []).WellKeyed :=
  .mk List.nodup_nil nofun

theorem WellKeyed.of_find? (h : part.WellKeyed) (hfind : part.find? key = some node) :
    node.WellKeyed :=
  h.nodes _ (mem_of_lookup_eq_some hfind)

theorem WellKeyed.put (h : part.WellKeyed) (hnode : node.WellKeyed) :
    (part.put key node).WellKeyed := by
  rw [Section.put]
  split
  · refine .mk ?_ ?_
    · rw [DistinctKeys, map_fst_replace]
      exact h.keys
    · intro entry hmem
      obtain ⟨old, hold, rfl⟩ := List.mem_map.1 hmem
      split
      · exact hnode
      · exact h.nodes old hold
  · next hnew =>
    refine .mk ?_ ?_
    · refine h.keys.concat (List.lookup_eq_none_iff.2 fun entry hmem => ?_)
      rw [bne_iff_ne]
      rintro rfl
      exact hnew (List.any_eq_true.2 ⟨entry, hmem, decide_eq_true rfl⟩)
    · intro entry hmem
      rcases List.mem_append.1 hmem with hold | hlast
      · exact h.nodes entry hold
      · rw [List.mem_singleton.1 hlast]
        exact hnode

theorem WellKeyed.erase (h : part.WellKeyed) : (part.erase key).WellKeyed := by
  refine .mk ?_ ?_
  · exact h.keys.sublist (List.filter_sublist.map Prod.fst)
  · exact fun entry hmem => h.nodes entry (List.mem_filter.1 hmem).1

/-- What is done to the section at the end of a path is all that needs to be looked at. -/
theorem WellKeyed.change {dotted : Bool} {action : Section → Option Section}
    (haction : ∀ {inner next}, inner.WellKeyed → action inner = some next → next.WellKeyed)
    (h : part.WellKeyed) (hchange : change dotted action path part = some next) :
    next.WellKeyed := by
  induction path generalizing part next with
  | nil => exact haction h hchange
  | cons key path ih =>
    rw [Section.change] at hchange
    cases hfind : part.find? key with
    | none =>
      rw [hfind] at hchange
      obtain ⟨inner, hinner, hnext⟩ := Option.bind_eq_some_iff.1 hchange
      cases hnext
      exact h.put (.table (ih wellKeyed_nil hinner))
    | some node =>
      have hnode := h.of_find? hfind
      rw [hfind] at hchange
      cases hnode with
      | value => cases hchange
      | table hpart =>
        dsimp only at hchange
        split at hchange
        · cases hchange
        · obtain ⟨inner, hinner, hnext⟩ := Option.bind_eq_some_iff.1 hchange
          cases hnext
          exact h.put (.table (ih hpart hinner))
      | tables hbefore hlast =>
        obtain ⟨inner, hinner, hnext⟩ := Option.bind_eq_some_iff.1 hchange
        cases hnext
        exact h.put (.tables hbefore (ih hlast hinner))

theorem WellKeyed.reach (h : part.WellKeyed) (hreach : reach path part = some next) :
    next.WellKeyed := by
  induction path generalizing part with
  | nil =>
    cases hreach
    exact h
  | cons key path ih =>
    rw [Section.reach] at hreach
    cases hfind : part.find? key with
    | none =>
      rw [hfind] at hreach
      exact ih wellKeyed_nil hreach
    | some node =>
      have hnode := h.of_find? hfind
      rw [hfind] at hreach
      cases hnode with
      | value => cases hreach
      | table hpart => exact ih hpart hreach
      | tables _ hlast => exact ih hlast hreach

theorem WellKeyed.insert (h : part.WellKeyed) (hvalue : value.WellKeyed)
    (hinsert : part.insert path key value = some next) : next.WellKeyed := by
  refine h.change (fun {inner next} hinner hnext => ?_) hinsert
  split at hnext
  · cases hnext
  · cases hnext
    exact hinner.put (.value hvalue)

end Section

/-! ## 2. From sections to tables -/

theorem entriesOf_eq_map (entries : List (String × Node)) :
    entriesOf entries = entries.map fun entry => (entry.1, entry.2.toValue) := by
  induction entries with
  | nil => rfl
  | cons entry entries ih => rw [entriesOf, ih, List.map_cons]

theorem tablesOf_eq_map (parts : List Section) :
    tablesOf parts = parts.map fun part => .table part.toTable := by
  induction parts with
  | nil => rfl
  | cons part parts ih => rw [tablesOf, ih, List.map_cons]

mutual

theorem Section.WellKeyed.toTable : ∀ {part : Section}, part.WellKeyed →
    (Value.table part.toTable).WellKeyed
  | .mk _ _ entries, .mk hkeys hnodes => by
    rw [Section.toTable, entriesOf_eq_map]
    refine .table ?_ ?_
    · rw [DistinctKeys, List.map_map]
      exact hkeys
    · intro entry hmem
      obtain ⟨source, hsource, rfl⟩ := List.mem_map.1 hmem
      exact (hnodes source hsource).toValue

theorem Node.WellKeyed.toValue : ∀ {node : Node}, node.WellKeyed → node.toValue.WellKeyed
  | .value _, .value h => h
  | .table _, .table h => h.toTable
  | .tables before last, .tables hbefore hlast => by
    rw [Node.toValue, tablesOf_eq_map]
    refine .array ?_
    intro item hmem
    rcases List.mem_append.1 hmem with hmem | hmem
    · obtain ⟨part, hpart, rfl⟩ := List.mem_map.1 hmem
      exact (hbefore part hpart).toTable
    · rw [List.mem_singleton.1 hmem]
      exact hlast.toTable

end

/-! ## 3. Readers -/

/-- The reader gives no value in which a key comes twice. -/
def ReadsWellKeyed (item : Reader Value) : Prop :=
  ∀ {text value rest}, item text = some (value, rest) → value.WellKeyed

variable {value : Value} {text rest : List Char} {negative : Bool}

theorem wellKeyed_of_integerOf? {magnitude : Nat} (h : integerOf? negative magnitude = some value) :
    value.WellKeyed := by
  unfold integerOf? at h
  split at h <;> split at h <;> cases h
  all_goals exact .plain rfl

theorem wellKeyed_of_floatOf? {digits : List Nat} {power : Int}
    (h : floatOf? negative digits power = some value) : value.WellKeyed := by
  unfold floatOf? at h
  split at h <;> cases h
  exact .plain rfl

theorem readsWellKeyed_basedInteger (base : Nat) : ReadsWellKeyed (basedInteger base) := by
  intro text value rest h
  obtain ⟨⟨digits, left⟩, -, h⟩ := Option.bind_eq_some_iff.1 h
  obtain ⟨number, hnumber, heq⟩ := Option.bind_eq_some_iff.1 h
  cases heq
  exact wellKeyed_of_integerOf? hnumber

theorem readsWellKeyed_ordinary : ReadsWellKeyed (decimalNumber.ordinary negative) := by
  intro text value rest h
  obtain ⟨⟨whole, text⟩, -, h⟩ := Option.bind_eq_some_iff.1 h
  obtain ⟨⟨part?, text⟩, -, h⟩ := Option.bind_eq_some_iff.1 h
  obtain ⟨⟨power?, text⟩, -, h⟩ := Option.bind_eq_some_iff.1 h
  dsimp only at h
  split at h
  · obtain ⟨number, hnumber, heq⟩ := Option.bind_eq_some_iff.1 h
    cases heq
    exact wellKeyed_of_integerOf? hnumber
  · obtain ⟨number, hnumber, heq⟩ := Option.bind_eq_some_iff.1 h
    cases heq
    exact wellKeyed_of_floatOf? hnumber

theorem readsWellKeyed_decimalNumber : ReadsWellKeyed decimalNumber := by
  intro text value rest h
  unfold decimalNumber at h
  dsimp only at h
  split at h
  · obtain ⟨left, -, heq⟩ := Option.bind_eq_some_iff.1 h
    cases heq
    exact .plain rfl
  · obtain ⟨left, -, heq⟩ := Option.bind_eq_some_iff.1 h
    cases heq
    exact .plain rfl
  · split at h
    · cases h
    · exact readsWellKeyed_ordinary h
  · exact readsWellKeyed_ordinary h

theorem readsWellKeyed_dateTimeOrNumber : ReadsWellKeyed dateTimeOrNumber := by
  intro text value rest h
  unfold dateTimeOrNumber at h
  split at h
  · cases h
    exact .plain rfl
  · unfold number at h
    split at h
    · exact readsWellKeyed_basedInteger 16 h
    · exact readsWellKeyed_basedInteger 8 h
    · exact readsWellKeyed_basedInteger 2 h
    · exact readsWellKeyed_decimalNumber h

theorem wellKeyed_of_map {α : Type} {read? : Option α} {make : α → Value × List Char}
    (h : read?.map make = some (value, rest)) (hmake : ∀ read, (make read).1.WellKeyed) :
    value.WellKeyed := by
  obtain ⟨read, -, heq⟩ := Option.map_eq_some_iff.1 h
  have hvalue := hmake read
  rwa [heq] at hvalue

theorem readsWellKeyed_scalar : ReadsWellKeyed scalar := by
  intro text value rest h
  unfold scalar at h
  split at h
  · cases h
  split at h
  · exact wellKeyed_of_map h fun _ => .plain rfl
  split at h
  · exact wellKeyed_of_map h fun _ => .plain rfl
  split at h
  · exact wellKeyed_of_map h fun _ => .plain rfl
  · exact readsWellKeyed_dateTimeOrNumber h

variable {item : Reader Value}

theorem wellKeyed_of_arrayItems (hitem : ReadsWellKeyed item) {items : List Value}
    (h : arrayItems item text = some (items, rest)) : ∀ value ∈ items, value.WellKeyed := by
  -- Items are read where one stands before the bracket and where one stands before a comma.
  fun_induction arrayItems item text generalizing items rest with
  | case1 => cases h
  | case2 =>
    cases h
    exact nofun
  | case3 => cases h
  | case4 text start _ _ value after hvalue =>
    cases h
    exact List.forall_mem_singleton.2 (hitem hvalue)
  | case5 text start _ _ value after hvalue later _ _ ih =>
    obtain ⟨⟨others, left⟩, hothers, heq⟩ := Option.map_eq_some_iff.1 h
    cases heq
    exact List.forall_mem_cons.2 ⟨hitem hvalue, ih hothers⟩
  | _ => cases h

theorem wellKeyed_of_assignment (hitem : ReadsWellKeyed item) {name : List String × String}
    (h : assignment item text = some ((name, value), rest)) : value.WellKeyed := by
  obtain ⟨⟨read, text⟩, -, h⟩ := Option.bind_eq_some_iff.1 h
  obtain ⟨text, -, h⟩ := Option.bind_eq_some_iff.1 h
  obtain ⟨⟨given, text⟩, hgiven, heq⟩ := Option.bind_eq_some_iff.1 h
  cases heq
  exact hitem hgiven

theorem wellKeyed_of_inlineEntries (hitem : ReadsWellKeyed item) {part next : Section}
    (hpart : part.WellKeyed) (h : inlineEntries item part text = some (next, rest)) :
    next.WellKeyed := by
  fun_induction inlineEntries item part text generalizing next rest with
  | case1 => cases h
  | case2 => cases h
  | case3 part text path key value after hvalue inserted hinserted =>
    cases h
    exact hpart.insert (wellKeyed_of_assignment hitem hvalue) hinserted
  | case4 part text path key value after hvalue inserted hinserted later _ _ ih =>
    exact ih (hpart.insert (wellKeyed_of_assignment hitem hvalue) hinserted) h
  | _ => cases h

theorem readsWellKeyed_inlineTable (hitem : ReadsWellKeyed item) :
    ReadsWellKeyed (inlineTable item) := by
  intro text value rest h
  unfold inlineTable at h
  split at h
  · cases h
    exact .table List.nodup_nil nofun
  · obtain ⟨⟨part, left⟩, hpart, heq⟩ := Option.bind_eq_some_iff.1 h
    cases heq
    exact (wellKeyed_of_inlineEntries hitem Section.wellKeyed_nil hpart).toTable

/-- Whatever is nested in a value is read by a reader of smaller depth. -/
theorem readsWellKeyed_value (depth : Nat) : ReadsWellKeyed (Toml.value depth) := by
  induction depth with
  | zero =>
    intro text given rest h
    exact readsWellKeyed_scalar h
  | succ depth ih =>
    intro text given rest h
    unfold Toml.value at h
    split at h
    · next heq =>
      cases heq
      obtain ⟨⟨items, left⟩, hitems, hgiven⟩ := Option.map_eq_some_iff.1 h
      cases hgiven
      exact .array (wellKeyed_of_arrayItems ih hitems)
    · next heq =>
      cases heq
      exact readsWellKeyed_inlineTable ih h
    · exact readsWellKeyed_scalar h

/-! ## 4. Documents -/

/-- The value that the statement gives to a key has no key twice. -/
def Statement.WellKeyed : Statement → Prop
  | .assign _ _ value => value.WellKeyed
  | _ => True

theorem wellKeyed_of_statement {said : Statement} (h : statement text = some (said, rest)) :
    said.WellKeyed := by
  unfold statement at h
  split at h
  · obtain ⟨_, -, h⟩ := Option.bind_eq_some_iff.1 h
    obtain ⟨_, -, heq⟩ := Option.bind_eq_some_iff.1 h
    cases heq
    trivial
  · obtain ⟨_, -, h⟩ := Option.bind_eq_some_iff.1 h
    obtain ⟨_, -, heq⟩ := Option.bind_eq_some_iff.1 h
    cases heq
    trivial
  · obtain ⟨⟨⟨_, value⟩, _⟩, hvalue, heq⟩ := Option.bind_eq_some_iff.1 h
    cases heq
    exact wellKeyed_of_assignment (readsWellKeyed_value depthLimit) hvalue

theorem wellKeyed_of_statements {said : List Statement} (h : statements text = some said) :
    ∀ one ∈ said, one.WellKeyed := by
  fun_induction statements text generalizing said with
  | case1 =>
    cases h
    exact nofun
  | case2 c text after _ _ ih => exact ih h
  | case6 c text _ one left hone after _ _ ih =>
    obtain ⟨others, hothers, heq⟩ := Option.map_eq_some_iff.1 h
    cases heq
    exact List.forall_mem_cons.2 ⟨wellKeyed_of_statement hone, ih hothers⟩
  | _ => cases h

/-- Neither the sections that are closed nor the open one have a key twice. -/
structure Assembly.WellKeyed (assembly : Assembly) : Prop where
  root : assembly.root.WellKeyed
  current : assembly.current.WellKeyed

variable {assembly next : Assembly} {path : List String} {key : String}

theorem Assembly.WellKeyed.close {part : Section} (h : assembly.WellKeyed)
    (hclose : assembly.close = some part) : part.WellKeyed := by
  unfold Assembly.close at hclose
  split at hclose
  · cases hclose
    exact h.current
  · refine h.root.change (fun hinner hnext => ?_) hclose
    cases hnext
    exact hinner.put (.table h.current)
  · refine h.root.change (fun {inner next} hinner hnext => ?_) hclose
    split at hnext
    · cases hnext
      exact hinner.put (.tables nofun h.current)
    · next before last hfind =>
      cases hnext
      cases hinner.of_find? hfind with
      | tables hbefore hlast =>
        refine hinner.put (.tables ?_ h.current)
        exact List.forall_mem_append.2 ⟨hbefore, List.forall_mem_singleton.2 hlast⟩
    · cases hnext

theorem Assembly.WellKeyed.openTable (h : assembly.WellKeyed)
    (hopen : assembly.openTable path key = some next) : next.WellKeyed := by
  obtain ⟨root, hroot, hopen⟩ := Option.bind_eq_some_iff.1 hopen
  obtain ⟨parent, hparent, hopen⟩ := Option.bind_eq_some_iff.1 hopen
  have hroot := h.close hroot
  have hparent := hroot.reach hparent
  -- Whichever section is opened, it is taken out of its place.
  have htaken : ∀ {current : Section}, current.WellKeyed →
      ((root.change false (fun part => some (part.erase key)) path).bind fun root =>
        some (Assembly.mk root current (some (path, key, false)))) = some next →
      next.WellKeyed := by
    intro current hcurrent htaken
    obtain ⟨erased, herased, heq⟩ := Option.bind_eq_some_iff.1 htaken
    cases heq
    refine ⟨hroot.change (fun hinner hnext => ?_) herased, hcurrent⟩
    cases hnext
    exact hinner.erase
  dsimp only at hopen
  split at hopen
  · exact htaken Section.wellKeyed_nil hopen
  · next part hfind =>
    split at hopen
    · have hpart : part.WellKeyed := by
        cases hparent.of_find? hfind with
        | table h => exact h
      exact htaken (.mk hpart.keys hpart.nodes) hopen
    · cases hopen
  · cases hopen

theorem Assembly.WellKeyed.openList (h : assembly.WellKeyed)
    (hopen : assembly.openList path key = some next) : next.WellKeyed := by
  obtain ⟨root, hroot, hopen⟩ := Option.bind_eq_some_iff.1 hopen
  obtain ⟨parent, -, hopen⟩ := Option.bind_eq_some_iff.1 hopen
  split at hopen
  · cases hopen
    exact ⟨h.close hroot, Section.wellKeyed_nil⟩
  · cases hopen
    exact ⟨h.close hroot, Section.wellKeyed_nil⟩
  · cases hopen

theorem Assembly.WellKeyed.follow {said : Statement} (h : assembly.WellKeyed)
    (hsaid : said.WellKeyed) (hfollow : assembly.follow said = some next) : next.WellKeyed := by
  cases said with
  | header path key => exact h.openTable hfollow
  | listHeader path key => exact h.openList hfollow
  | assign path key value =>
    obtain ⟨current, hcurrent, heq⟩ := Option.bind_eq_some_iff.1 hfollow
    cases heq
    exact ⟨h.root, h.current.insert hsaid hcurrent⟩

theorem Assembly.WellKeyed.foldlM {said : List Statement} (h : assembly.WellKeyed)
    (hsaid : ∀ one ∈ said, one.WellKeyed)
    (hfold : said.foldlM Assembly.follow assembly = some next) :
    next.WellKeyed := by
  induction said generalizing assembly with
  | nil =>
    cases hfold
    exact h
  | cons one said ih =>
    rw [List.foldlM_cons] at hfold
    obtain ⟨middle, hmiddle, hfold⟩ := Option.bind_eq_some_iff.1 hfold
    obtain ⟨hone, hsaid⟩ := List.forall_mem_cons.1 hsaid
    exact ih (h.follow hone hmiddle) hsaid hfold

theorem wellKeyed_of_assemble {said : List Statement} {part : Section}
    (hsaid : ∀ one ∈ said, one.WellKeyed) (h : assemble said = some part) : part.WellKeyed := by
  obtain ⟨assembly, hfold, hclose⟩ := Option.bind_eq_some_iff.1 h
  have hempty : Assembly.WellKeyed {} := ⟨Section.wellKeyed_nil, Section.wellKeyed_nil⟩
  exact (hempty.foldlM hsaid hfold).close hclose

theorem wellKeyed_of_markedDateTime? {given : Value} (h : given.markedDateTime? = some value) :
    value.WellKeyed := by
  cases given with
  | string text =>
    obtain ⟨moment, -, heq⟩ := Option.map_eq_some_iff.1 h
    cases heq
    exact .plain rfl
  | _ => cases h

mutual

theorem wellKeyed_of_unmark? : ∀ (given : Value) {value : Value}, given.WellKeyed →
    given.unmark? = some value → value.WellKeyed
  | .array items, value, hgiven, h => by
    rw [Value.unmark?] at h
    obtain ⟨left, hleft, heq⟩ := Option.map_eq_some_iff.1 h
    cases heq
    cases hgiven with
    | array hitems => exact .array (wellKeyed_of_unmarkItems? items hitems hleft)
    | plain hplain => cases hplain
  | .table [], value, hgiven, h => by
    cases h
    exact .table List.nodup_nil nofun
  | .table ((key, first) :: rest), value, hgiven, h => by
    rw [Value.unmark?] at h
    split at h
    · exact wellKeyed_of_markedDateTime? h
    · obtain ⟨changed, hchanged, h⟩ := Option.bind_eq_some_iff.1 h
      obtain ⟨left, hleft, heq⟩ := Option.bind_eq_some_iff.1 h
      cases heq
      cases hgiven with
      | table hkeys hentries =>
        obtain ⟨hfirst, hrest⟩ := List.forall_mem_cons.1 hentries
        obtain ⟨hsame, hleft⟩ := wellKeyed_of_unmarkEntries? rest hrest hleft
        -- The entries have other values now, but the same keys.
        refine .table ?_
          (List.forall_mem_cons.2 ⟨wellKeyed_of_unmark? first hfirst hchanged, hleft⟩)
        rw [DistinctKeys, List.map_cons, hsame]
        exact hkeys
      | plain hplain => cases hplain
  | .string _, value, hgiven, h | .integer _, value, hgiven, h | .float _, value, hgiven, h
  | .boolean _, value, hgiven, h | .dateTime _, value, hgiven, h => by
    cases h
    exact hgiven

theorem wellKeyed_of_unmarkItems? : ∀ (items : List Value) {left : List Value},
    (∀ item ∈ items, item.WellKeyed) → unmarkItems? items = some left →
      ∀ item ∈ left, item.WellKeyed
  | [], left, _, h => by
    cases h
    exact nofun
  | item :: rest, left, hitems, h => by
    rw [unmarkItems?] at h
    obtain ⟨changed, hchanged, h⟩ := Option.bind_eq_some_iff.1 h
    obtain ⟨others, hothers, heq⟩ := Option.bind_eq_some_iff.1 h
    cases heq
    obtain ⟨hitem, hrest⟩ := List.forall_mem_cons.1 hitems
    exact List.forall_mem_cons.2
      ⟨wellKeyed_of_unmark? item hitem hchanged, wellKeyed_of_unmarkItems? rest hrest hothers⟩

theorem wellKeyed_of_unmarkEntries? : ∀ (entries : Table) {left : Table},
    (∀ entry ∈ entries, entry.2.WellKeyed) → unmarkEntries? entries = some left →
      left.map Prod.fst = entries.map Prod.fst ∧ ∀ entry ∈ left, entry.2.WellKeyed
  | [], left, _, h => by
    cases h
    exact ⟨rfl, nofun⟩
  | (key, value) :: rest, left, hentries, h => by
    rw [unmarkEntries?] at h
    obtain ⟨changed, hchanged, h⟩ := Option.bind_eq_some_iff.1 h
    obtain ⟨others, hothers, heq⟩ := Option.bind_eq_some_iff.1 h
    cases heq
    obtain ⟨hvalue, hrest⟩ := List.forall_mem_cons.1 hentries
    obtain ⟨hkeys, hothers⟩ := wellKeyed_of_unmarkEntries? rest hrest hothers
    refine ⟨by rw [List.map_cons, List.map_cons, hkeys], ?_⟩
    exact List.forall_mem_cons.2 ⟨wellKeyed_of_unmark? value hvalue hchanged, hothers⟩

end

/-- In a document that is read no table has a key twice. -/
theorem wellKeyed_of_parse? {table : Table} (h : parse? text = some table) :
    (Value.table table).WellKeyed := by
  obtain ⟨said, hsaid, h⟩ := Option.bind_eq_some_iff.1 h
  obtain ⟨part, hpart, hunmark⟩ := Option.bind_eq_some_iff.1 h
  have hpart := wellKeyed_of_assemble (wellKeyed_of_statements hsaid) hpart
  cases hpart.toTable with
  | table hkeys hentries =>
    obtain ⟨hsame, hleft⟩ := wellKeyed_of_unmarkEntries? _ hentries hunmark
    refine .table ?_ hleft
    rw [DistinctKeys, hsame]
    exact hkeys
  | plain hplain => cases hplain

end DroolsInk.Toml

/-! ## 5. Settings files -/

namespace DroolsInk.Settings

open Toml (Value Table)

/-- In a settings file that is read no key comes twice, nor one of the styles. -/
theorem hasDistinctKeys_of_parse? {text : List Char} {table : Table}
    (h : Toml.parse? text = some table) :
    HasDistinctKeys table := by
  cases Toml.wellKeyed_of_parse? h with
  | table hkeys hentries =>
    refine ⟨hkeys, ?_⟩
    rw [stylesOf]
    rcases hlookup : table.lookup "styles" with _ | value
    · exact List.nodup_nil
    · have hstyles := hentries _ (Toml.mem_of_lookup_eq_some hlookup)
      cases hstyles with
      | table hkeys _ => exact hkeys
      | array => exact List.nodup_nil
      | plain hplain =>
        cases value with
        | table styles => cases hplain
        | _ => exact List.nodup_nil
  | plain hplain => cases hplain

/-- The settings that are read from a file are what its table means. -/
theorem isMeaningOf_of_ofBytes {path : String} {bytes : List UInt8} {settings : Settings}
    (h : (ofBytes path bytes).result = .ok settings) :
    ∃ text table, Text.decode? bytes = some text ∧ Toml.parse? text = some table ∧
      settings.IsMeaningOf table := by
  unfold ofBytes at h
  dsimp only at h
  split at h
  · cases h
  · next text hdecode =>
    split at h
    · cases h
    · next table hparse =>
      refine ⟨text, table, hdecode, hparse, ?_⟩
      have hdistinct := hasDistinctKeys_of_parse? hparse
      have hresult : (ofTable table).2 = .ok settings := by
        cases hresult : (ofTable table).2 with
        | error error =>
          rw [hresult] at h
          cases h
        | ok given =>
          rw [hresult] at h
          cases h
          rfl
      rw [ofTable, ofTableBy_snd .byKey hdistinct.keys] at hresult
      exact isMeaningOf_of_after hdistinct hresult

end DroolsInk.Settings
