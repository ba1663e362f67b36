import AdAway.Library.Grouping
import AdAway.Ui.ListScreens

/-!
# The items that the list screens show

`loadList` groups the items by host, so that a host is shown once even if many sources have it. The
row of a host is any of its items, and the screen lets the user change it only when it is one of the
user. An item of a source can be copied, and no more.

So an item of the user is out of reach while the row of its host is one of a source. This may happen
as soon as a source that is included has the host, too; and of two items of the user for the same
host only one is shown.

A query of more than 50000 bytes cannot be compared with a row, and `loadList` throws. SQL does not
say whether a row that fails another condition is compared at all.

## Main definitions

* `isListed`, `IsLoadList`, `MayThrow` — the query, its answers and its failure
* `rowActions` — what the screen offers for a row
* `ShowsUserRows`, `ShowsUserItems` — the user can reach the items

## Main results

* `isListed_iff` — the condition of the query, which joins two conditions by `||`
* `IsLoadList.shows_each_host_once` — one row for each host
* `showsUserRows_iff` — when the user can reach the items
* `showsUserItems_iff_enabled` — the items that are shown are those the screens can change
-/

namespace AdAway

/-! ### The query -/

/-- The number that `||` makes of two conditions. It is not the disjunction: the digit of the one is
put behind that of the other, and the text is read as a number again. -/
def sqlConcat (a b : Bool) : ℕ := 10 * a.toNat + b.toNat

/-- The conditions of `loadList` on the type and the source. -/
def isShown (type : ListType) (includeSources : Bool) (item : HostListItem) : Bool :=
  item.type = type &&
    sqlConcat (!includeSources && item.sourceId = userSourceId) includeSources ≠ 0

/-- The condition of `loadList`, on a row that can be compared with the query. -/
def isListed (type : ListType) (includeSources : Bool) (query : String) (item : HostListItem) :
    Bool :=
  isShown type includeSources item && like item.host query = some true

/-- `HostListItemDao.loadList` may answer `rows`. It does not answer when a row that meets the other
conditions cannot be compared with the query. -/
structure IsLoadList (items : List HostListItem) (type : ListType) (includeSources : Bool)
    (query : String) (rows : List HostListItem) : Prop where
  compared : ∀ item ∈ items, isShown type includeSources item = true →
    like item.host query ≠ none
  answer :
    Grouping.IsAnswer HostListItem.host (items.filter (isListed type includeSources query)) rows

/-- `HostListItemDao.loadList` may throw: some row, whether it meets the other conditions or not,
cannot be compared with the query. -/
def MayThrow (items : List HostListItem) (query : String) : Prop :=
  ∃ item ∈ items, like item.host query = none

/-! ### The rows -/

/-- What `HostListRow` offers for a row. -/
inductive RowAction
  | toggle
  | edit
  | delete
  | copyHost
  deriving DecidableEq, Repr

/-- `editable` of `HostListRow`. -/
def isEditable (item : HostListItem) : Bool := item.sourceId = userSourceId

/-- The actions of `HostListRow`. -/
def rowActions (item : HostListItem) : List RowAction :=
  if isEditable item then [.toggle, .edit, .delete] else [.copyHost]

/-! ### What is selected -/

/-- The item is of the type, matches the query, and is one of the sources that are shown. -/
structure IsMatch (type : ListType) (includeSources : Bool) (query : String)
    (item : HostListItem) : Prop where
  type_eq : item.type = type
  like : like item.host query = some true
  shown : includeSources = true ∨ item.sourceId = userSourceId

/-- Joined by `||`, the two conditions read as a number that is zero when neither holds. -/
theorem isListed_iff {type : ListType} {includeSources : Bool} {query : String}
    {item : HostListItem} :
    isListed type includeSources query item = true ↔ IsMatch type includeSources query item := by
  have hnumber : sqlConcat (!includeSources && item.sourceId = userSourceId) includeSources ≠ 0 ↔
      includeSources = true ∨ item.sourceId = userSourceId := by
    cases includeSources
    · by_cases huser : item.sourceId = userSourceId <;> simp [sqlConcat, huser]
    · simp [sqlConcat]
  rw [isListed, isShown, Bool.and_eq_true, Bool.and_eq_true, decide_eq_true_eq, decide_eq_true_eq,
    decide_eq_true_eq, hnumber]
  constructor
  · rintro ⟨⟨htype, hshown⟩, hlike⟩
    exact ⟨htype, hlike, hshown⟩
  · intro h
    exact ⟨⟨h.type_eq, h.shown⟩, h.like⟩

section Query

variable {items rows : List HostListItem} {type : ListType} {includeSources : Bool}
  {query : String}

theorem mem_selected_iff {item : HostListItem} :
    item ∈ items.filter (isListed type includeSources query) ↔
      item ∈ items ∧ IsMatch type includeSources query item := by
  rw [List.mem_filter, isListed_iff]

/-- **One row for each host** that has a matching item, and it is one of its matching items. -/
theorem IsLoadList.shows_each_host_once (h : IsLoadList items type includeSources query rows) :
    (rows.map HostListItem.host).Nodup ∧
      (∀ host, host ∈ rows.map HostListItem.host ↔
        ∃ item ∈ items, IsMatch type includeSources query item ∧ item.host = host) ∧
      ∀ row ∈ rows, row ∈ items ∧ IsMatch type includeSources query row := by
  refine ⟨h.answer.nodup_map_key, fun host => ?_,
    fun row hrow => mem_selected_iff.mp (h.answer.mem row hrow)⟩
  rw [h.answer.mem_map_key_iff]
  simp only [mem_selected_iff, and_assoc]

/-- The query may throw exactly if it is too complex and there is a row. -/
theorem mayThrow_iff : MayThrow items query ↔ TooComplex query ∧ items ≠ [] := by
  simp only [MayThrow, like_eq_none_iff, ne_eq, List.eq_nil_iff_forall_not_mem, not_forall, not_not]
  exact ⟨fun ⟨item, hmem, hlong⟩ => ⟨hlong, item, hmem⟩,
    fun ⟨hlong, item, hmem⟩ => ⟨item, hmem, hlong⟩⟩

/-- Where the query cannot throw, its answers are those of the grouping. -/
theorem isLoadList_iff (h : ¬ MayThrow items query) :
    IsLoadList items type includeSources query rows ↔
      Grouping.IsAnswer HostListItem.host (items.filter (isListed type includeSources query))
        rows :=
  ⟨fun hlist => hlist.answer,
    fun hanswer => ⟨fun item hmem _ hnone => h ⟨item, hmem, hnone⟩, hanswer⟩⟩

end Query

/-! ### What the user can reach -/

/-- The query does not throw, each host with a matching item has one row, and where the user has an
item of the type for the host, the row is one that the user can change. -/
def ShowsUserRows (items : List HostListItem) (type : ListType) (includeSources : Bool)
    (query : String) : Prop :=
  ¬ MayThrow items query ∧ ∀ rows, IsLoadList items type includeSources query rows →
    (rows.map HostListItem.host).Nodup ∧
      (∀ host, host ∈ rows.map HostListItem.host ↔
        ∃ item ∈ items, IsMatch type includeSources query item ∧ item.host = host) ∧
      ∀ row ∈ rows, (∃ item ∈ items, item.type = type ∧ item.sourceId = userSourceId ∧
        item.host = row.host) → rowActions row = [.toggle, .edit, .delete]

/-- The query does not throw, and each matching item of the user is a row. -/
def ShowsUserItems (items : List HostListItem) (type : ListType) (includeSources : Bool)
    (query : String) : Prop :=
  ¬ MayThrow items query ∧ ∀ rows, IsLoadList items type includeSources query rows →
    ∀ item ∈ items, item.sourceId = userSourceId → IsMatch type includeSources query item →
      item ∈ rows

/-- No other source has an item of the type for the host of a matching item of the user. -/
def UserHostsApart (items : List HostListItem) (type : ListType) (query : String) : Prop :=
  ∀ item ∈ items, item.sourceId = userSourceId → item.type = type → like item.host query = some true →
    ∀ other ∈ items, other.type = type → other.host = item.host → other.sourceId = userSourceId

/-- No two matching items of the user have the same host. -/
def UserHostsDistinct (items : List HostListItem) (type : ListType) (query : String) : Prop :=
  ∀ item ∈ items, item.sourceId = userSourceId → item.type = type → like item.host query = some true →
    ∀ other ∈ items, other.type = type → other.sourceId = userSourceId → other.host = item.host →
      other = item

theorem rowActions_eq_iff {row : HostListItem} :
    rowActions row = [.toggle, .edit, .delete] ↔ row.sourceId = userSourceId := by
  rw [rowActions, isEditable]
  by_cases huser : row.sourceId = userSourceId
  · exact iff_of_true (if_pos (decide_eq_true huser)) huser
  · rw [if_neg (by simpa using huser)]
    exact iff_of_false (by decide) huser

section Reach

variable {items : List HostListItem} {type : ListType} {includeSources : Bool} {query : String}

/-- The rows that may be returned for the host of an item of the user. -/
theorem showsUserRows_iff_forall :
    ShowsUserRows items type includeSources query ↔
      ¬ MayThrow items query ∧ ∀ other ∈ items, IsMatch type includeSources query other →
        (∃ item ∈ items, item.type = type ∧ item.sourceId = userSourceId ∧
          item.host = other.host) → other.sourceId = userSourceId := by
  refine and_congr_right fun hthrow => ?_
  have hrows : ∀ rows, IsLoadList items type includeSources query rows →
      ((rows.map HostListItem.host).Nodup ∧
        (∀ host, host ∈ rows.map HostListItem.host ↔
          ∃ item ∈ items, IsMatch type includeSources query item ∧ item.host = host) ∧
        (∀ row ∈ rows, (∃ item ∈ items, item.type = type ∧ item.sourceId = userSourceId ∧
          item.host = row.host) → rowActions row = [.toggle, .edit, .delete]) ↔
      ∀ row ∈ rows, (∃ item ∈ items, item.type = type ∧ item.sourceId = userSourceId ∧
        item.host = row.host) → row.sourceId = userSourceId) := by
    intro rows hanswer
    obtain ⟨hnodup, hhosts, -⟩ := hanswer.shows_each_host_once
    simp only [hnodup, hhosts, implies_true, true_and, rowActions_eq_iff]
  rw [forall₂_congr hrows]
  simp only [isLoadList_iff hthrow]
  refine Grouping.forall_isAnswer_iff.trans ?_
  simp only [mem_selected_iff, and_imp]

/-- Which items of the user are shown in each answer. -/
theorem showsUserItems_iff_forall :
    ShowsUserItems items type includeSources query ↔
      ¬ MayThrow items query ∧ ∀ item ∈ items, item.sourceId = userSourceId →
        IsMatch type includeSources query item →
          ∀ other ∈ items, IsMatch type includeSources query other → other.host = item.host →
            other = item := by
  refine and_congr_right fun hthrow => ?_
  simp only [isLoadList_iff hthrow]
  have hshown : (∀ rows, Grouping.IsAnswer HostListItem.host
        (items.filter (isListed type includeSources query)) rows →
          ∀ item ∈ items, item.sourceId = userSourceId → IsMatch type includeSources query item →
            item ∈ rows) ↔
      ∀ item ∈ items, item.sourceId = userSourceId → IsMatch type includeSources query item →
        ∀ rows, Grouping.IsAnswer HostListItem.host
          (items.filter (isListed type includeSources query)) rows → item ∈ rows :=
    ⟨fun h item hmem huser hmatch rows hanswer => h rows hanswer item hmem huser hmatch,
      fun h rows hanswer item hmem huser hmatch => h item hmem huser hmatch rows hanswer⟩
  rw [hshown]
  refine forall₂_congr fun item hmem => forall₂_congr fun huser hmatch => ?_
  refine (Grouping.mem_of_forall_isAnswer_iff (mem_selected_iff.mpr ⟨hmem, hmatch⟩)).trans ?_
  simp only [mem_selected_iff, and_imp]

/-- If each matching item of the user is shown, the rows are those that the user can change. -/
theorem ShowsUserItems.showsUserRows (h : ShowsUserItems items type includeSources query) :
    ShowsUserRows items type includeSources query := by
  rw [showsUserItems_iff_forall] at h
  rw [showsUserRows_iff_forall]
  refine ⟨h.1, ?_⟩
  rintro other hother hmatch ⟨item, hmem, htype, huser, hhost⟩
  have hlike : like item.host query = some true := by
    rw [hhost]
    exact hmatch.like
  rw [h.2 item hmem huser ⟨htype, hlike, Or.inr huser⟩ other hother hmatch hhost.symm]
  exact huser

/-- Under the condition, the rows for a host of the user are items of the user. -/
theorem sourceId_of_apart (hcondition : includeSources = false ∨ UserHostsApart items type query)
    {item other : HostListItem} (hmem : item ∈ items) (huser : item.sourceId = userSourceId)
    (htype : item.type = type) (hother : other ∈ items)
    (hmatch : IsMatch type includeSources query other) (hhost : other.host = item.host) :
    other.sourceId = userSourceId := by
  rcases hmatch.shown with hincluded | hotheruser
  · have hapart := hcondition.resolve_left (by rw [hincluded]; decide)
    have hlike : like item.host query = some true := by
      rw [← hhost]
      exact hmatch.like
    exact hapart item hmem huser htype hlike other hother hmatch.type_eq hhost
  · exact hotheruser

theorem showsUserRows_iff_apart :
    ShowsUserRows items type includeSources query ↔
      ¬ MayThrow items query ∧ (includeSources = false ∨ UserHostsApart items type query) := by
  rw [showsUserRows_iff_forall]
  refine and_congr_right fun _ => ?_
  constructor
  · intro h
    cases includeSources with
    | false => exact Or.inl rfl
    | true =>
      refine Or.inr fun item hmem huser htype hlike other hother hothertype hhost => ?_
      have hotherlike : like other.host query = some true := by rwa [hhost]
      exact h other hother ⟨hothertype, hotherlike, Or.inl rfl⟩
        ⟨item, hmem, htype, huser, hhost.symm⟩
  · rintro hcondition other hother hmatch ⟨item, hmem, htype, huser, hhost⟩
    exact sourceId_of_apart hcondition hmem huser htype hother hmatch hhost.symm

/-- Showing the rows is a run. -/
theorem run_read {g : Guava} {s : AppState} {rows : List HostListItem}
    (hrows : ∀ row ∈ rows, row ∈ s.db.hostsLists.rows) :
    ActionSystem.run (stepApp g) s (rows.map .read) =
      some { s with read := rows.reverse ++ s.read } := by
  induction rows generalizing s with
  | nil => rfl
  | cons row rows ih =>
    rw [List.forall_mem_cons] at hrows
    have hstep : stepApp g s (.read row) = some { s with read := row :: s.read } :=
      if_pos hrows.1
    have hrest := ih (s := { s with read := row :: s.read }) hrows.2
    rw [List.map_cons, ActionSystem.run_cons, hstep, Option.bind_some, hrest]
    simp

/-- **The items that are shown are those the screens can change.** When the screens have shown
nothing before and the query does not throw, an item of the user is among the rows of each answer if
and only if it can be toggled, edited and deleted once they are shown. -/
theorem showsUserItems_iff_enabled {g : Guava} {s : AppState} (hread : s.read = []) :
    ShowsUserItems s.db.hostsLists.rows type includeSources query ↔
      ¬ MayThrow s.db.hostsLists.rows query ∧
      ∀ rows t, IsLoadList s.db.hostsLists.rows type includeSources query rows →
        ActionSystem.run (stepApp g) s (rows.map .read) = some t →
        ∀ item ∈ s.db.hostsLists.rows, item.sourceId = userSourceId →
          IsMatch type includeSources query item →
          (stepApp g t (.toggleItemEnabled item)).isSome = true ∧
            (∀ host redirection,
              (stepApp g t (.updateListItem item host redirection)).isSome = true) ∧
            (stepApp g t (.removeListItem item)).isSome = true := by
  have hrun : ∀ rows, IsLoadList s.db.hostsLists.rows type includeSources query rows →
      ActionSystem.run (stepApp g) s (rows.map .read) =
        some { s with read := rows.reverse ++ s.read } := fun rows hanswer =>
    run_read fun row hrow => (hanswer.shows_each_host_once.2.2 row hrow).1
  refine and_congr_right fun _ => ⟨?_, ?_⟩
  · intro h rows t hanswer ht item hmem huser hmatch
    obtain rfl := Option.some.inj ((hrun rows hanswer).symm.trans ht)
    have heditable : AppState.Editable { s with read := rows.reverse ++ s.read } item :=
      ⟨List.mem_append_left _ (List.mem_reverse.mpr (h rows hanswer item hmem huser hmatch)), huser⟩
    simp [stepApp, heditable]
  · intro h rows hanswer item hmem huser hmatch
    obtain ⟨htoggle, -⟩ := h rows _ hanswer (hrun rows hanswer) item hmem huser hmatch
    rw [stepApp] at htoggle
    split at htoggle
    next heditable => simpa [hread] using heditable.1
    next => cases htoggle

end Reach

/-- **When the user can reach the items.** The rows are those that the user can change, where there
are such, if the query can be compared with the rows, and the other sources are left out or have none
of these hosts. And each item of the user is shown if, besides, no two of them have the same host. -/
theorem showsUserRows_iff (items : List HostListItem) (type : ListType) (includeSources : Bool)
    (query : String) :
    (ShowsUserRows items type includeSources query ↔
        (TooComplex query → items = []) ∧
          (includeSources = false ∨ UserHostsApart items type query)) ∧
      (ShowsUserItems items type includeSources query ↔
        (TooComplex query → items = []) ∧
          (includeSources = false ∨ UserHostsApart items type query) ∧
            UserHostsDistinct items type query) := by
  have hthrow : ¬ MayThrow items query ↔ (TooComplex query → items = []) := by
    rw [mayThrow_iff, not_and, not_ne_iff]
  rw [← hthrow]
  refine ⟨showsUserRows_iff_apart, ?_, ?_⟩
  · intro h
    obtain ⟨hcompared, hcondition⟩ := showsUserRows_iff_apart.mp h.showsUserRows
    refine ⟨hcompared, hcondition, ?_⟩
    intro item hmem huser htype hlike other hother hothertype hotheruser hhost
    have hotherlike : like other.host query = some true := by rwa [hhost]
    exact (showsUserItems_iff_forall.mp h).2 item hmem huser ⟨htype, hlike, Or.inr huser⟩ other hother
      ⟨hothertype, hotherlike, Or.inr hotheruser⟩ hhost
  · rintro ⟨hcompared, hcondition, hdistinct⟩
    refine showsUserItems_iff_forall.mpr ⟨hcompared, ?_⟩
    intro item hmem huser hmatch other hother hothermatch hhost
    have hotheruser :=
      sourceId_of_apart hcondition hmem huser hmatch.type_eq hother hothermatch hhost
    exact hdistinct item hmem huser hmatch.type_eq hmatch.like other hother hothermatch.type_eq
      hotheruser hhost

/-- A host that a source blocks. -/
def sourceAds : HostListItem := ⟨1, "ads.example", .blocked, true, none, 2⟩

/-- The same host, which the user has blocked later. -/
def userAds : HostListItem := ⟨2, "ads.example", .blocked, true, none, userSourceId⟩

/-- The row of this host may be the item of the source, which the user can only copy. -/
theorem not_showsUserRows :
    ¬ ∀ items type includeSources query, ShowsUserRows items type includeSources query := by
  intro h
  have hanswer : IsLoadList [sourceAds, userAds] .blocked true "%%" [sourceAds] := by
    have hselected : [sourceAds, userAds].filter (isListed .blocked true "%%") =
        [sourceAds, userAds] := by decide
    refine ⟨by decide, ?_⟩
    rw [hselected]
    exact ⟨by simp, by simp [userAds, sourceAds], List.pairwise_singleton _ _⟩
  obtain ⟨-, -, hactions⟩ := (h _ _ _ _).2 _ hanswer
  exact absurd (hactions sourceAds List.mem_cons_self
    ⟨userAds, List.mem_cons_of_mem _ List.mem_cons_self, rfl, rfl, rfl⟩) (by decide)

end AdAway
