import AdAway.Db.HostEntryDao
import Mathlib.Data.List.MinMax
import Mathlib.Data.List.Sort
import Mathlib.Data.Prod.Lex

/-!
# What a completed rebuild leaves in `host_entries`

The precedence between the three item types, and between the sources of a redirection, is implicit
in the order of the passes of `sync` and in `ORDER BY host ASC, source_id DESC`. Here it is stated
on its own: `Expected` says which rows belong into the table for given `hosts_lists`, without
mentioning a pass or an order, and `IsRebuilt` says that a table holds one of them for every host
that has one.

## The choice between tied redirections

Two enabled redirections of one host in one source tie in the `ORDER BY`, and the one SQLite
returns last wins. `Expected` therefore admits the redirection of any item of the smallest source
identifier; `IsRebuilt.find?_eq` shows that this is the only freedom.

## Main definitions

* `Listed`, `AllowMatches`, `TopRedirect` — what the items say about a host
* `Expected`, `IsRebuilt` — the rows of the rebuilt table
* `AllowedFit`, `CanComplete` — the allowed hosts `LIKE` can compare with, and the items for which
  some answers let `sync` complete

## Main results

* `find?_sync` — the table after the four passes, host by host
* `isRebuilt_of_sync` — a completed `sync` rebuilds the table
* `IsRebuilt.find?_eq` — a rebuilt table is unique up to tied redirections
* `sync_isSome_iff`, `exists_sync_isSome_iff` — when `sync` completes
-/

namespace AdAway

/-! ### What the table is for -/

/-- Some enabled item of this type lists the host. -/
def Listed (items : List HostListItem) (type : ListType) (host : String) : Prop :=
  ∃ i ∈ items, i.type = type ∧ i.enabled = true ∧ i.host = host

/-- Some enabled allowed item matches the host. -/
def AllowMatches (items : List HostListItem) (host : String) : Prop :=
  ∃ i ∈ items, i.type = .allowed ∧ i.enabled = true ∧ like host (toLikePattern i.host) = some true

/-- `i` redirects the host, and no item of a source before its own does. -/
structure TopRedirect (items : List HostListItem) (host : String) (i : HostListItem) : Prop where
  mem : i ∈ items
  type_eq : i.type = .redirected
  enabled_eq : i.enabled = true
  host_eq : i.host = host
  least : ∀ j ∈ items, j.type = .redirected → j.enabled = true → j.host = host →
    i.sourceId ≤ j.sourceId

/-- The lists answer for the host: it is redirected, or blocked and not allowed. -/
def Overridden (items : List HostListItem) (host : String) : Prop :=
  Listed items .redirected host ∨ Listed items .blocked host ∧ ¬ AllowMatches items host

/-- The rows that belong into the rebuilt table: redirecting beats allowing, which beats
blocking. -/
inductive Expected (items : List HostListItem) : HostEntry → Prop
  | redirected (i : HostListItem) (hi : TopRedirect items i.host i) : Expected items (redirectEntry i)
  | blocked (i : HostListItem) (hi : i ∈ items) (htype : i.type = .blocked)
      (hen : i.enabled = true) (hr : ¬ Listed items .redirected i.host)
      (ha : ¬ AllowMatches items i.host) : Expected items ⟨i.host, .blocked, i.redirection⟩

/-- The table holds expected rows only, and one for every host that has any. -/
structure IsRebuilt (items : List HostListItem) (t : HostEntries) : Prop where
  expected : ∀ e ∈ t.rows, Expected items e
  complete : ∀ e, Expected items e → ∃ e' ∈ t.rows, e'.host = e.host

/-! ### The table after the four passes -/

/-- A completed `sync`: its import, the loop over the allowed hosts, the loop over the
redirections. -/
theorem sync_eq_some_iff {items : List HostListItem} {q : SyncAnswers items}
    {old new : HostEntries} :
    sync items q old = some new ↔
      ∃ imported, importBlocked items (clear old) = some imported ∧
        ∃ left, q.allowed.foldlM (fun t w => allowHost (toLikePattern w) t) imported = some left ∧
          q.redirected.foldl (fun t i => redirectHost (redirectEntry i) t) left = new := by
  simp only [sync, Option.bind_eq_bind, Option.bind_eq_some_iff, Option.pure_def, Option.some_inj]

/-- The redirection of a host that an answer returns last. -/
def SyncAnswers.lastRedirect {items : List HostListItem} (q : SyncAnswers items) (host : String) :
    Option HostListItem :=
  q.redirected.reverse.find? fun i => i.host = host

/-- The table after the four passes, host by host: the last redirection returned for the host, or
else the imported row unless an allowed host matches it. -/
theorem find?_sync {items : List HostListItem} {q : SyncAnswers items} {old new : HostEntries}
    (h : sync items q old = some new) (host : String) :
    new.find? host
      = ((q.lastRedirect host).map redirectEntry).or
          (((blockedRows items).find? fun e => e.host = host).filter fun e =>
            q.allowed.all fun w => like e.host (toLikePattern w) ≠ some true) := by
  obtain ⟨imported, himp, left, hleft, rfl⟩ := sync_eq_some_iff.mp h
  have hredirect := KeyedTable.find?_foldl_upsert redirectEntry q.redirected left host
  have hallow := KeyedTable.find?_of_foldlM_deleteWhere?
    (fun w e => like (HostEntry.host e) (toLikePattern w)) hleft host
  have himport := KeyedTable.find?_of_insertAll? himp host
  rw [clear, KeyedTable.find?_empty, Option.none_or] at himport
  rw [himport] at hallow
  exact hredirect.trans (congrArg _ hallow)

/-- The last element with a property comes after every other one. -/
theorem rel_of_find?_reverse {α : Type*} {R : α → α → Prop} {p : α → Bool} {l : List α}
    (hl : l.Pairwise R) {a b : α} (ha : l.reverse.find? p = some a) (hb : b ∈ l)
    (hpb : p b = true) : b = a ∨ R b a := by
  obtain ⟨-, before, after, heq, hbefore⟩ := List.find?_eq_some_iff_append.mp ha
  have hmem : b ∈ before ++ a :: after := heq ▸ List.mem_reverse.mpr hb
  rcases List.mem_append.mp hmem with hmem | hmem
  · have := hbefore b hmem
    simp [hpb] at this
  · rcases List.mem_cons.mp hmem with rfl | hmem
    · exact Or.inl rfl
    · -- `b` comes after `a` in the reversed list, so before it in the list
      have hrev : (before ++ a :: after).Pairwise fun x y => R y x := by
        rw [← heq]
        exact List.pairwise_reverse.mpr hl
      exact Or.inr ((List.pairwise_cons.mp (List.pairwise_append.mp hrev).2.1).1 b hmem)

/-- The last redirection of a host in an answer is one of its first source. -/
theorem topRedirect_of_find?_reverse {items : List HostListItem} (q : SyncAnswers items)
    {host : String} {i : HostListItem}
    (h : q.lastRedirect host = some i) : TopRedirect items host i := by
  have hihost : i.host = host := by simpa using List.find?_some h
  obtain ⟨hi, hitype, hien⟩ :=
    q.mem_redirected.mp (List.mem_reverse.mp (List.mem_of_find?_eq_some h))
  refine ⟨hi, hitype, hien, hihost, fun j hj htype hen hjhost => ?_⟩
  have hjq : j ∈ q.redirected := q.mem_redirected.mpr ⟨hj, htype, hen⟩
  rcases rel_of_find?_reverse q.redirected_sorted h hjq (by simpa using hjhost) with
    rfl | hlt | ⟨-, hle⟩
  · exact le_rfl
  · rw [hjhost, hihost] at hlt
    exact absurd hlt (lt_irrefl host)
  · exact hle

theorem allowMatches_iff_exists {items : List HostListItem} (q : SyncAnswers items)
    (host : String) :
    AllowMatches items host ↔ ∃ w ∈ q.allowed, like host (toLikePattern w) = some true := by
  constructor
  · rintro ⟨i, hi, htype, hen, hlike⟩
    exact ⟨i.host, q.mem_allowed.mpr ⟨i, hi, htype, hen, rfl⟩, hlike⟩
  · rintro ⟨w, hw, hlike⟩
    obtain ⟨i, hi, htype, hen, rfl⟩ := q.mem_allowed.mp hw
    exact ⟨i, hi, htype, hen, hlike⟩

theorem allowMatches_iff {items : List HostListItem} (q : SyncAnswers items) (host : String) :
    AllowMatches items host ↔
      (q.allowed.all fun w => like host (toLikePattern w) ≠ some true) = false := by
  rw [allowMatches_iff_exists q, List.all_eq_false]
  exact exists_congr fun w => by simp

/-- A host with an enabled redirected item has a redirection in every answer. -/
theorem listed_redirected_iff {items : List HostListItem} (q : SyncAnswers items) (host : String) :
    Listed items .redirected host ↔ ∃ i, q.lastRedirect host = some i := by
  rw [← Option.isSome_iff_exists, SyncAnswers.lastRedirect, List.find?_isSome]
  constructor
  · rintro ⟨i, hi, htype, hen, hhost⟩
    exact ⟨i, List.mem_reverse.mpr (q.mem_redirected.mpr ⟨hi, htype, hen⟩), by simpa using hhost⟩
  · rintro ⟨i, hi, hhost⟩
    obtain ⟨hmem, htype, hen⟩ := q.mem_redirected.mp (List.mem_reverse.mp hi)
    exact ⟨i, hmem, htype, hen, by simpa using hhost⟩

/-- The row of a redirected host is that of the item an answer returns last. -/
theorem find?_sync_redirected {items : List HostListItem} {q : SyncAnswers items}
    {old new : HostEntries} (h : sync items q old = some new) {host : String}
    (hr : Listed items .redirected host) :
    ∃ i, q.lastRedirect host = some i ∧ new.find? host = some (redirectEntry i) := by
  obtain ⟨i, hi⟩ := (listed_redirected_iff q host).mp hr
  refine ⟨i, hi, ?_⟩
  rw [find?_sync h, hi]
  rfl

/-- **A completed `sync` rebuilds the table**, whatever it held before and in whatever order the
two list queries answered. -/
theorem isRebuilt_of_sync {items : List HostListItem} {q : SyncAnswers items}
    {old new : HostEntries} (h : sync items q old = some new) : IsRebuilt items new := by
  have hfind := find?_sync h
  constructor
  · intro e he
    have hnew := hfind e.host
    rw [KeyedTable.mem_rows_iff.mp he] at hnew
    cases hr : q.lastRedirect e.host with
    | some i =>
      have htop := topRedirect_of_find?_reverse q hr
      rw [hr] at hnew
      obtain rfl : e = redirectEntry i := Option.some.inj hnew
      exact .redirected i htop
    | none =>
      rw [hr, Option.map_none, Option.none_or, eq_comm, Option.filter_eq_some_iff] at hnew
      obtain ⟨i, hi, htype, hen, rfl⟩ := mem_blockedRows.mp (List.mem_of_find?_eq_some hnew.1)
      have hnr : ¬ Listed items .redirected i.host := by
        rw [listed_redirected_iff q, hr]
        simp
      have hna : ¬ AllowMatches items i.host := by
        rw [allowMatches_iff q, hnew.2]
        simp
      exact .blocked i hi htype hen hnr hna
  · intro e he
    suffices hsome : (new.find? e.host).isSome by
      obtain ⟨e', he'⟩ := Option.isSome_iff_exists.mp hsome
      exact ⟨e', (KeyedTable.find?_eq_some_iff.mp he').1, KeyedTable.key_of_find? he'⟩
    cases he with
    | redirected i hi =>
      obtain ⟨j, hj⟩ := (listed_redirected_iff q i.host).mp
        ⟨i, hi.mem, hi.type_eq, hi.enabled_eq, rfl⟩
      rw [hfind, show (redirectEntry i).host = i.host from rfl, hj]
      rfl
    | blocked i hi htype hen hr ha =>
      have hnone : q.lastRedirect i.host = none := by
        rw [Option.eq_none_iff_forall_not_mem]
        exact fun j hj => hr ((listed_redirected_iff q i.host).mpr ⟨j, hj⟩)
      obtain ⟨b, hb⟩ : ∃ b, ((blockedRows items).find? fun e => e.host = i.host) = some b := by
        rw [← Option.isSome_iff_exists, List.find?_isSome]
        exact ⟨_, mem_blockedRows.mpr ⟨i, hi, htype, hen, rfl⟩, by simp⟩
      have hbhost : b.host = i.host := by simpa using List.find?_some hb
      have hkept : (q.allowed.all fun w => like b.host (toLikePattern w) ≠ some true) = true := by
        rw [hbhost, ← Bool.not_eq_false, ← allowMatches_iff q]
        exact ha
      rw [hfind, hnone, Option.map_none, Option.none_or, hb, Option.filter_some, if_pos hkept]
      rfl

/-! ### The rows of a rebuilt table -/

theorem exists_topRedirect {items : List HostListItem} {host : String}
    (h : Listed items .redirected host) : ∃ i, TopRedirect items host i := by
  obtain ⟨j, hj, htype, hen, hhost⟩ := h
  let l := items.filter fun i => i.type = .redirected ∧ i.enabled = true ∧ i.host = host
  have hmem : ∀ {i}, i ∈ l ↔ i ∈ items ∧ i.type = .redirected ∧ i.enabled = true ∧ i.host = host :=
    fun {i} => by simp [l]
  cases hmin : l.argmin HostListItem.sourceId with
  | none =>
    have hjl := hmem.mpr ⟨hj, htype, hen, hhost⟩
    rw [List.argmin_eq_none.mp hmin] at hjl
    exact absurd hjl List.not_mem_nil
  | some i =>
    obtain ⟨hi, hit, hie, hih⟩ := hmem.mp (List.argmin_mem hmin)
    exact ⟨i, hi, hit, hie, hih, fun k hk hkt hke hkh =>
      List.le_of_mem_argmin (hmem.mpr ⟨hk, hkt, hke, hkh⟩) hmin⟩

theorem TopRedirect.listed {items : List HostListItem} {host : String} {i : HostListItem}
    (h : TopRedirect items host i) : Listed items .redirected host :=
  ⟨i, h.mem, h.type_eq, h.enabled_eq, h.host_eq⟩

namespace IsRebuilt

variable {items : List HostListItem} {t : HostEntries}

/-- The redirected rows are those of the hosts with an enabled redirected item. -/
theorem redirected_iff (h : IsRebuilt items t) (host : String) :
    (∃ e ∈ t.rows, e.host = host ∧ e.type = .redirected) ↔ Listed items .redirected host := by
  constructor
  · rintro ⟨e, he, rfl, htype⟩
    cases h.expected e he with
    | redirected i hi => exact hi.listed
    | blocked => cases htype
  · intro hl
    obtain ⟨i, hi⟩ := exists_topRedirect hl
    obtain rfl := hi.host_eq
    obtain ⟨e, he, hhost⟩ := h.complete _ (.redirected i hi)
    refine ⟨e, he, hhost, ?_⟩
    cases h.expected e he with
    | redirected => rfl
    | blocked j _ _ _ hr =>
      have hji : j.host = i.host := hhost
      exact absurd (hji ▸ hl) hr

/-- A redirected row carries the redirection of an item of the first source. -/
theorem redirection (h : IsRebuilt items t) {e : HostEntry} (he : e ∈ t.rows)
    (htype : e.type = .redirected) :
    ∃ i, TopRedirect items e.host i ∧ e.redirection = i.redirection := by
  cases h.expected e he with
  | redirected i hi => exact ⟨i, hi, rfl⟩
  | blocked => cases htype

/-- The blocked rows are those of the blocked hosts that are neither redirected nor allowed. -/
theorem blocked_iff (h : IsRebuilt items t) (host : String) :
    (∃ e ∈ t.rows, e.host = host ∧ e.type = .blocked) ↔
      Listed items .blocked host ∧ ¬ Listed items .redirected host ∧ ¬ AllowMatches items host := by
  constructor
  · rintro ⟨e, he, rfl, htype⟩
    cases h.expected e he with
    | redirected => cases htype
    | blocked i hi hit hie hr ha => exact ⟨⟨i, hi, hit, hie, rfl⟩, hr, ha⟩
  · rintro ⟨⟨i, hi, hit, hie, rfl⟩, hr, ha⟩
    obtain ⟨e, he, hhost⟩ := h.complete _ (.blocked i hi hit hie hr ha)
    refine ⟨e, he, hhost, ?_⟩
    cases h.expected e he with
    | redirected j hj =>
      have hji : j.host = i.host := hhost
      exact absurd (hji ▸ hj.listed) hr
    | blocked => rfl

theorem not_allowed (h : IsRebuilt items t) {e : HostEntry} (he : e ∈ t.rows) :
    e.type ≠ .allowed := by
  cases h.expected e he <;> exact ListType.noConfusion

/-- A host has a row exactly if the lists answer for it. -/
theorem find?_eq_none_iff (h : IsRebuilt items t) (host : String) :
    t.find? host = none ↔ ¬ Overridden items host := by
  rw [← not_iff_not, not_not, ← ne_eq, Option.ne_none_iff_exists']
  constructor
  · rintro ⟨e, he⟩
    obtain ⟨hmem, rfl⟩ := KeyedTable.find?_eq_some_iff.mp he
    cases h.expected e hmem with
    | redirected i hi => exact Or.inl hi.listed
    | blocked i hi htype hen hr ha => exact Or.inr ⟨⟨i, hi, htype, hen, rfl⟩, ha⟩
  · intro hover
    by_cases hr : Listed items .redirected host
    · obtain ⟨e, he, hhost, -⟩ := (h.redirected_iff host).mpr hr
      exact ⟨e, KeyedTable.find?_eq_some_iff.mpr ⟨he, hhost⟩⟩
    · obtain ⟨hb, ha⟩ := hover.resolve_left hr
      obtain ⟨e, he, hhost, -⟩ := (h.blocked_iff host).mpr ⟨hb, hr, ha⟩
      exact ⟨e, KeyedTable.find?_eq_some_iff.mpr ⟨he, hhost⟩⟩

end IsRebuilt

/-! ### Uniqueness -/

/-- All first-source redirections of the host agree. -/
def Untied (items : List HostListItem) (host : String) : Prop :=
  ∀ i j, TopRedirect items host i → TopRedirect items host j → i.redirection = j.redirection

/-- The same items, in any order and under any identifiers. -/
def SameItems (items items' : List HostListItem) : Prop :=
  (items'.map HostListItem.unnumbered).Perm (items.map HostListItem.unnumbered)

theorem SameItems.symm {items items' : List HostListItem} (h : SameItems items items') :
    SameItems items' items := List.Perm.symm h

theorem SameItems.exists_mem {items items' : List HostListItem} (h : SameItems items items')
    {i : HostListItem} (hi : i ∈ items') : ∃ j ∈ items, j.unnumbered = i.unnumbered :=
  List.mem_map.mp (h.mem_iff.mp (List.mem_map_of_mem hi))

theorem Listed.of_sameItems {items items' : List HostListItem} (h : SameItems items items')
    {type : ListType} {host : String} (hl : Listed items' type host) : Listed items type host := by
  obtain ⟨i, hi, rfl, hen, rfl⟩ := hl
  obtain ⟨j, hj, hji⟩ := h.exists_mem hi
  simp only [HostListItem.unnumbered, HostListItem.mk.injEq] at hji
  exact ⟨j, hj, hji.2.2.1, hji.2.2.2.1 ▸ hen, hji.2.1⟩

theorem AllowMatches.of_sameItems {items items' : List HostListItem} (h : SameItems items items')
    {host : String} (hl : AllowMatches items' host) : AllowMatches items host := by
  obtain ⟨i, hi, htype, hen, hlike⟩ := hl
  obtain ⟨j, hj, hji⟩ := h.exists_mem hi
  simp only [HostListItem.unnumbered, HostListItem.mk.injEq] at hji
  exact ⟨j, hj, hji.2.2.1.trans htype, hji.2.2.2.1 ▸ hen, hji.2.1 ▸ hlike⟩

/-- Only the enabled items decide which rows belong into the table. -/
theorem Expected.of_enabled {items items' : List HostListItem}
    (h : ∀ i, i.enabled = true → (i ∈ items ↔ i ∈ items')) {e : HostEntry} (he : Expected items e) :
    Expected items' e := by
  cases he with
  | redirected i hi =>
    refine .redirected i ⟨(h i hi.enabled_eq).mp hi.mem, hi.type_eq, hi.enabled_eq, rfl, ?_⟩
    exact fun j hj htype hen hhost => hi.least j ((h j hen).mpr hj) htype hen hhost
  | blocked i hi htype hen hr ha =>
    refine .blocked i ((h i hen).mp hi) htype hen ?_ ?_
    · rintro ⟨j, hj, htype, hen, hhost⟩
      exact hr ⟨j, (h j hen).mpr hj, htype, hen, hhost⟩
    · rintro ⟨j, hj, htype, hen, hlike⟩
      exact ha ⟨j, (h j hen).mpr hj, htype, hen, hlike⟩

theorem IsRebuilt.of_enabled {items items' : List HostListItem} {t : HostEntries}
    (h : IsRebuilt items t) (hsame : ∀ i, i.enabled = true → (i ∈ items ↔ i ∈ items')) :
    IsRebuilt items' t where
  expected := fun e he => (h.expected e he).of_enabled hsame
  complete := fun e he => h.complete e (he.of_enabled fun i hen => (hsame i hen).symm)

/-- Neither the order nor the identifiers of the items decide which rows belong into the table. -/
theorem Expected.of_sameItems {items items' : List HostListItem} (h : SameItems items items')
    {e : HostEntry} (he : Expected items' e) : Expected items e := by
  cases he with
  | redirected i hi =>
    obtain ⟨j, hj, hji⟩ := h.exists_mem hi.mem
    simp only [HostListItem.unnumbered, HostListItem.mk.injEq] at hji
    obtain ⟨-, hhost, htype, hen, hred, hsrc⟩ := hji
    have hentry : redirectEntry i = redirectEntry j := by
      rw [redirectEntry, redirectEntry, hhost, hred]
    rw [hentry]
    refine .redirected j
      ⟨hj, htype.trans hi.type_eq, hen.trans hi.enabled_eq, rfl, fun k hk hkt hke hkh => ?_⟩
    obtain ⟨l, hl, hlk⟩ := h.symm.exists_mem hk
    simp only [HostListItem.unnumbered, HostListItem.mk.injEq] at hlk
    obtain ⟨-, hlh, hlt, hle, -, hls⟩ := hlk
    have hleast := hi.least l hl (hlt.trans hkt) (hle.trans hke) ((hlh.trans hkh).trans hhost)
    rwa [hls, ← hsrc] at hleast
  | blocked i hi htype hen hr ha =>
    obtain ⟨j, hj, hji⟩ := h.exists_mem hi
    simp only [HostListItem.unnumbered, HostListItem.mk.injEq] at hji
    obtain ⟨-, hhost, hjt, hje, hred, -⟩ := hji
    rw [← hhost, ← hred]
    exact .blocked j hj (hjt.trans htype) (hje.trans hen)
      (fun hl => hr (hhost ▸ hl.of_sameItems h.symm))
      fun hl => ha (hhost ▸ hl.of_sameItems h.symm)

theorem IsRebuilt.of_sameItems {items items' : List HostListItem} (h : SameItems items items')
    {t : HostEntries} (ht : IsRebuilt items' t) : IsRebuilt items t :=
  ⟨fun e he => (ht.expected e he).of_sameItems h,
    fun e he => ht.complete e (he.of_sameItems h.symm)⟩

/-- The blocked rows do not depend on the order of the items. -/
theorem blockedRows_perm {rows rows' : List HostListItem} (h : SameItems rows rows') :
    (blockedRows rows').Perm (blockedRows rows) := by
  have hunnumbered : ∀ rows : List HostListItem,
      blockedRows (rows.map HostListItem.unnumbered) = blockedRows rows := by
    intro rows
    rw [blockedRows, blockedRows, List.filter_map, List.map_map]
    rfl
  rw [← hunnumbered rows', ← hunnumbered rows]
  exact ((h.filter _).map _).dedup

/-- When the import is accepted, two expected rows of one host differ by a tie only. -/
theorem Expected.unique {items : List HostListItem}
    (hb : ((blockedRows items).map HostEntry.host).Nodup) {e e' : HostEntry}
    (h : Expected items e) (h' : Expected items e') (hhost : e.host = e'.host)
    (hu : Untied items e.host) : e = e' := by
  cases h with
  | redirected i hi =>
    cases h' with
    | redirected j hj =>
      have hij : i.host = j.host := hhost
      have htop : TopRedirect items i.host j := hij ▸ hj
      have hred : i.redirection = j.redirection := hu i j hi htop
      rw [redirectEntry, redirectEntry, hij, hred]
    | blocked j _ _ _ hr =>
      have hij : i.host = j.host := hhost
      exact absurd (hij ▸ hi.listed) hr
  | blocked i hi htype hen hr =>
    cases h' with
    | redirected j hj =>
      have hij : i.host = j.host := hhost
      exact absurd (hij ▸ hj.listed) hr
    | blocked j hj hjtype hjen =>
      exact List.inj_on_of_nodup_map hb (mem_blockedRows.mpr ⟨i, hi, htype, hen, rfl⟩)
        (mem_blockedRows.mpr ⟨j, hj, hjtype, hjen, rfl⟩) hhost

/-- **A rebuilt table is unique**, host by host, where no redirection ties. -/
theorem IsRebuilt.find?_eq {items : List HostListItem} {t t' : HostEntries}
    (h : IsRebuilt items t) (h' : IsRebuilt items t')
    (hb : ((blockedRows items).map HostEntry.host).Nodup) {host : String}
    (hu : Untied items host) : t'.find? host = t.find? host := by
  have key : ∀ {s s' : HostEntries}, IsRebuilt items s → IsRebuilt items s' →
      ∀ e, s.find? host = some e → s'.find? host = some e := by
    intro s s' hs hs' e he
    obtain ⟨hmem, rfl⟩ := KeyedTable.find?_eq_some_iff.mp he
    obtain ⟨e', he', hhost⟩ := hs'.complete e (hs.expected e hmem)
    obtain rfl := Expected.unique hb (hs.expected e hmem) (hs'.expected e' he') hhost.symm hu
    exact KeyedTable.mem_rows_iff.mp he'
  ext e
  exact ⟨key h' h e, key h h' e⟩

/-! ### When the rebuild completes -/

/-- `sync` completes exactly when no two enabled blocked items of one host differ in their
redirection, and an allowed host that `LIKE` cannot compare with finds no blocked row left by the
allowed hosts before it. The old table plays no part. -/
theorem sync_isSome_iff {items : List HostListItem} (q : SyncAnswers items) (old : HostEntries) :
    (sync items q old).isSome ↔ ((blockedRows items).map HostEntry.host).Nodup ∧
      ∀ before w after, q.allowed = before ++ w :: after → TooComplex w →
        ∀ e ∈ blockedRows items, ∃ v ∈ before, like e.host (toLikePattern v) = some true := by
  have himport : (importBlocked items (clear old)).isSome ↔
      ((blockedRows items).map HostEntry.host).Nodup := by
    rw [importBlocked, KeyedTable.insertAll?_isSome_iff]
    exact and_iff_left fun _ _ => rfl
  rw [← himport]
  cases hold : importBlocked items (clear old) with
  | none => simp [sync, hold]
  | some imported =>
    have hrows : imported.rows = blockedRows items := KeyedTable.rows_of_insertAll? hold
    have hallow := KeyedTable.foldlM_deleteWhere?_isSome_iff
      (fun w e => like (HostEntry.host e) (toLikePattern w)) q.allowed imported
    simp only [hrows, like_eq_none_iff, tooComplex_toLikePattern_iff] at hallow
    have hsync : (sync items q old).isSome ↔
        (q.allowed.foldlM (fun t w => allowHost (toLikePattern w) t) imported).isSome := by
      simp [Option.isSome_iff_exists, sync_eq_some_iff, hold]
    rw [hsync]
    refine hallow.trans ?_
    simp only [Option.isSome_some, true_and]
    exact ⟨fun h before w after heq hlong e he => h before w after heq e he hlong,
      fun h before w after heq e he hlong => h before w after heq hlong e he⟩

/-- `LIKE` can compare with every enabled allowed host. -/
def AllowedFit (items : List HostListItem) : Prop :=
  ∀ w ∈ enabledAllowedHosts items, ¬ TooComplex w

/-- With allowed hosts that `LIKE` can compare with, `sync` can fail at its import only. -/
theorem sync_isSome_iff_of_allowedFit {items : List HostListItem} (hfit : AllowedFit items)
    (q : SyncAnswers items) (old : HostEntries) :
    (sync items q old).isSome ↔ ((blockedRows items).map HostEntry.host).Nodup := by
  rw [sync_isSome_iff, and_iff_left_iff_imp]
  rintro - before w after heq hlong
  have hw : w ∈ q.allowed := heq ▸ List.mem_append_right _ List.mem_cons_self
  exact absurd hlong (hfit w (q.allowed_perm.mem_iff.mp hw))

/-- No two enabled blocked items of one host differ in their redirection, and where `LIKE` cannot
compare with one of the allowed hosts, others match every blocked host. -/
def CanComplete (items : List HostListItem) : Prop :=
  ((blockedRows items).map HostEntry.host).Nodup ∧
    (¬ AllowedFit items → ∀ host, Listed items .blocked host → AllowMatches items host)

theorem canComplete_of_isSome {items : List HostListItem} {q : SyncAnswers items}
    {old : HostEntries} (h : (sync items q old).isSome) : CanComplete items := by
  obtain ⟨hnodup, hlong⟩ := (sync_isSome_iff q old).mp h
  refine ⟨hnodup, fun hfit host hb => ?_⟩
  obtain ⟨w, hw, hcomplex⟩ : ∃ w ∈ enabledAllowedHosts items, TooComplex w := by
    simpa [AllowedFit] using hfit
  obtain ⟨before, after, heq⟩ := List.append_of_mem (q.allowed_perm.mem_iff.mpr hw)
  obtain ⟨i, hi, htype, hen, rfl⟩ := hb
  obtain ⟨v, hv, hlike⟩ := hlong before w after heq hcomplex _
    (mem_blockedRows.mpr ⟨i, hi, htype, hen, rfl⟩)
  exact (allowMatches_iff_exists q i.host).mpr ⟨v, heq ▸ List.mem_append_left _ hv, hlike⟩

theorem AllowedFit.of_sameItems {items items' : List HostListItem} (h : SameItems items items')
    (hfit : AllowedFit items) : AllowedFit items' := by
  intro w hw
  obtain ⟨i, hi, rfl⟩ := List.mem_map.mp hw
  obtain ⟨hmem, hstate⟩ := List.mem_filter.mp hi
  obtain ⟨j, hj, hji⟩ := h.exists_mem hmem
  simp only [HostListItem.unnumbered, HostListItem.mk.injEq] at hji
  rw [decide_eq_true_eq] at hstate
  refine hji.2.1 ▸ hfit j.host (List.mem_map_of_mem (List.mem_filter.mpr ⟨hj, ?_⟩))
  rw [decide_eq_true_eq]
  exact ⟨hji.2.2.1.trans hstate.1, hji.2.2.2.1.trans hstate.2⟩

theorem CanComplete.of_sameItems {items items' : List HostListItem} (h : SameItems items items')
    (hcan : CanComplete items) : CanComplete items' := by
  refine ⟨((blockedRows_perm h).map HostEntry.host).nodup_iff.mpr hcan.1, fun hfit host hb => ?_⟩
  have hfit' : ¬ AllowedFit items := fun hall => hfit (hall.of_sameItems h)
  exact (hcan.2 hfit' host (hb.of_sameItems h)).of_sameItems h.symm

/-- The enabled allowed hosts, with those that `LIKE` cannot compare with at the end. -/
def allowedFitFirst (items : List HostListItem) : List String :=
  (enabledAllowedHosts items).filter (fun w => !decide (TooComplex w)) ++
    (enabledAllowedHosts items).filter fun w => !!decide (TooComplex w)

theorem allowedFitFirst_perm (items : List HostListItem) :
    (allowedFitFirst items).Perm (enabledAllowedHosts items) :=
  List.filter_append_perm _ _

/-- In that order `sync` completes, if it can. -/
theorem sync_isSome_of_allowedFitFirst {items : List HostListItem} {q : SyncAnswers items}
    (hq : q.allowed = allowedFitFirst items) (hcan : CanComplete items) (old : HostEntries) :
    (sync items q old).isSome := by
  refine (sync_isSome_iff q old).mpr ⟨hcan.1, fun before w after heq hlong e he => ?_⟩
  have hw : w ∈ q.allowed := heq ▸ List.mem_append_right _ List.mem_cons_self
  have hfit : ¬ AllowedFit items := fun hfit => hfit w (q.allowed_perm.mem_iff.mp hw) hlong
  obtain ⟨i, hi, htype, hen, rfl⟩ := mem_blockedRows.mp he
  obtain ⟨v, hv, hlike⟩ := (allowMatches_iff_exists q i.host).mp
    (hcan.2 hfit i.host ⟨i, hi, htype, hen, rfl⟩)
  refine ⟨v, ?_, hlike⟩
  have hshort : ¬ TooComplex v := fun hv =>
    (like_eq_some_true_iff.mp hlike).1 (tooComplex_toLikePattern_iff.mpr hv)
  have hfirst : v ∈ (enabledAllowedHosts items).filter fun w => !decide (TooComplex w) :=
    List.mem_filter.mpr ⟨q.allowed_perm.mem_iff.mp hv, by simpa using hshort⟩
  -- `v` is in the first half of the answer and `w` in the second
  rcases List.append_eq_append_iff.mp (hq.symm.trans heq) with ⟨mid, rfl, -⟩ | ⟨mid, hhalf, hrest⟩
  · exact List.mem_append_left _ hfirst
  · cases mid with
    | nil => rwa [hhalf, List.append_nil] at hfirst
    | cons u mid =>
      obtain ⟨rfl, -⟩ := List.cons.inj hrest
      have hwfirst := hhalf ▸ List.mem_append_right before List.mem_cons_self
      exact absurd hlong (by simpa using (List.mem_filter.mp hwfirst).2)

/-! ### Every rebuilt table is the result of a `sync` -/

/-- The order of the redirections that lets the choices of `t` win their ties. -/
def choiceKey (t : HostEntries) (i : HostListItem) : String ×ₗ ℤᵒᵈ ×ₗ Bool :=
  toLex (i.host, toLex (OrderDual.toDual i.sourceId, decide (redirectEntry i ∈ t.rows)))

theorem redirectOrder_of_choiceKey_le {t : HostEntries} {i j : HostListItem}
    (h : choiceKey t i ≤ choiceKey t j) : RedirectOrder i j := by
  rcases Prod.Lex.toLex_le_toLex.mp h with hlt | ⟨heq, hle⟩
  · exact Or.inl hlt
  · rcases Prod.Lex.toLex_le_toLex.mp hle with hlt | ⟨heq', -⟩
    · exact Or.inr ⟨heq, le_of_lt hlt⟩
    · exact Or.inr ⟨heq, le_of_eq (OrderDual.toDual.injective heq').symm⟩

/-- The answers that make the choices of `t`. -/
def choiceAnswers (items : List HostListItem) (t : HostEntries) : SyncAnswers items where
  allowed := allowedFitFirst items
  allowed_perm := allowedFitFirst_perm items
  redirected := (enabledRedirectedHosts items).insertionSort fun i j => choiceKey t i ≤ choiceKey t j
  redirected_perm := List.perm_insertionSort _ _
  redirected_sorted :=
    (List.pairwise_insertionSort (fun i j => choiceKey t i ≤ choiceKey t j) _).imp
      redirectOrder_of_choiceKey_le

theorem pairwise_choiceAnswers (items : List HostListItem) (t : HostEntries) :
    (choiceAnswers items t).redirected.Pairwise fun i j => choiceKey t i ≤ choiceKey t j :=
  List.pairwise_insertionSort (fun i j => choiceKey t i ≤ choiceKey t j)
    (enabledRedirectedHosts items)

/-- Some answers let `sync` complete exactly when the items can. -/
theorem exists_sync_isSome_iff {items : List HostListItem} (old : HostEntries) :
    (∃ q, (sync items q old).isSome) ↔ CanComplete items :=
  ⟨fun ⟨_, h⟩ => canComplete_of_isSome h,
    fun h => ⟨choiceAnswers items ∅, sync_isSome_of_allowedFitFirst rfl h old⟩⟩

/-- **Every rebuilt table is the result of a `sync`**, so `IsRebuilt` says no less than it does. -/
theorem IsRebuilt.exists_sync {items : List HostListItem} {t : HostEntries}
    (h : IsRebuilt items t) (hcan : CanComplete items) (old : HostEntries) :
    ∃ q new, sync items q old = some new ∧ ∀ host, t.find? host = new.find? host := by
  let q := choiceAnswers items t
  obtain ⟨new, hnew⟩ := Option.isSome_iff_exists.mp (sync_isSome_of_allowedFitFirst (q := q) rfl hcan old)
  refine ⟨q, new, hnew, fun host => ?_⟩
  by_cases hr : Listed items .redirected host
  · obtain ⟨e, he, rfl, htype⟩ := (h.redirected_iff host).mpr hr
    obtain ⟨k, hk, hek⟩ : ∃ k, TopRedirect items e.host k ∧ e = redirectEntry k := by
      cases h.expected e he with
      | redirected k hk => exact ⟨k, hk, rfl⟩
      | blocked => cases htype
    obtain ⟨i, hi⟩ := (listed_redirected_iff q e.host).mp hr
    have htop := topRedirect_of_find?_reverse q hi
    have hchosen : redirectEntry i ∈ t.rows := by
      have hkq : k ∈ q.redirected := q.mem_redirected.mpr ⟨hk.mem, hk.type_eq, hk.enabled_eq⟩
      rcases rel_of_find?_reverse (pairwise_choiceAnswers items t) hi hkq
        (by simpa using hk.host_eq) with rfl | hle
      · exact hek ▸ he
      · -- `k` and `i` tie, so the order puts the choice of the table last
        have hsrc : k.sourceId = i.sourceId := le_antisymm
          (hk.least i htop.mem htop.type_eq htop.enabled_eq htop.host_eq)
          (htop.least k hk.mem hk.type_eq hk.enabled_eq hk.host_eq)
        have hhost : k.host = i.host := hk.host_eq.trans htop.host_eq.symm
        have hke : redirectEntry k ∈ t.rows := hek ▸ he
        have hlast : true ≤ decide (redirectEntry i ∈ t.rows) := by
          simpa [choiceKey, Prod.Lex.toLex_le_toLex, hsrc, hhost, hke] using hle
        exact of_decide_eq_true (Bool.eq_true_of_true_le hlast)
    have hnewe : new.find? e.host = some (redirectEntry i) := by
      rw [find?_sync hnew, hi]
      rfl
    rw [hnewe]
    exact KeyedTable.find?_eq_some_iff.mpr ⟨hchosen, htop.host_eq⟩
  · have hu : Untied items host := fun i _ hi => absurd hi.listed hr
    exact (isRebuilt_of_sync hnew).find?_eq h hcan.1 hu

/-! ### The result of `sync` -/

/-- A redirected row of a host that the user redirects carries a redirection of the user, whose
source has the smallest identifier. -/
theorem IsRebuilt.user_redirection {items : List HostListItem} {t : HostEntries}
    (h : IsRebuilt items t) (hids : ∀ j ∈ items, userSourceId ≤ j.sourceId) {e : HostEntry}
    (he : e ∈ t.rows) (htype : e.type = .redirected) {u : HostListItem} (hu : u ∈ items)
    (hut : u.type = .redirected) (hue : u.enabled = true) (huh : u.host = e.host)
    (hus : u.sourceId = userSourceId) :
    ∃ i, TopRedirect items e.host i ∧ i.sourceId = userSourceId ∧ e.redirection = i.redirection := by
  obtain ⟨i, hi, hred⟩ := h.redirection he htype
  have hle : i.sourceId ≤ userSourceId := hus ▸ hi.least u hu hut hue huh
  exact ⟨i, hi, le_antisymm hle (hids i hi.mem), hred⟩

/-- **The result of a completed `sync`.** One row per host; a host is redirected exactly when an
enabled item redirects it, to the redirection of an item of the first such source, which is the
user's when the user redirects it; it is blocked exactly when an enabled item blocks it and none
redirects or allows it; there is no other row. Another old table, another order of the items and of
the answers give the same row for every host whose first source does not tie. Where it ties, the row
is that of the item the query returns last, so only the order of the redirected rows decides. -/
theorem sync_exact {items : List HostListItem} {q : SyncAnswers items} {old new : HostEntries}
    (h : sync items q old = some new) :
    (new.rows.map HostEntry.host).Nodup ∧
    (∀ host, (∃ e ∈ new.rows, e.host = host ∧ e.type = .redirected) ↔
      Listed items .redirected host) ∧
    (∀ e ∈ new.rows, e.type = .redirected →
      ∃ i, TopRedirect items e.host i ∧ e.redirection = i.redirection) ∧
    ((∀ j ∈ items, userSourceId ≤ j.sourceId) → ∀ e ∈ new.rows, e.type = .redirected →
      (∃ u ∈ items, u.type = .redirected ∧ u.enabled = true ∧ u.host = e.host ∧
        u.sourceId = userSourceId) →
      ∃ i, TopRedirect items e.host i ∧ i.sourceId = userSourceId ∧
        e.redirection = i.redirection) ∧
    (∀ host, (∃ e ∈ new.rows, e.host = host ∧ e.type = .blocked) ↔
      Listed items .blocked host ∧ ¬ Listed items .redirected host ∧ ¬ AllowMatches items host) ∧
    (∀ e ∈ new.rows, e.type ≠ .allowed) ∧
    (∀ items' (q' : SyncAnswers items') old' new', SameItems items items' →
      sync items' q' old' = some new' →
      ∀ host, Untied items host → new'.find? host = new.find? host) ∧
    ∀ host, Listed items .redirected host →
      ∃ i, q.lastRedirect host = some i ∧ new.find? host = some (redirectEntry i) := by
  have hnew := isRebuilt_of_sync h
  refine ⟨new.nodup_keys, hnew.redirected_iff, fun e he => hnew.redirection he, ?_,
    hnew.blocked_iff, fun e he => hnew.not_allowed he, ?_, fun host hr => find?_sync_redirected h hr⟩
  · rintro hids e he htype ⟨u, hu, hut, hue, huh, hus⟩
    exact hnew.user_redirection hids he htype hu hut hue huh hus
  · intro items' q' old' new' hsame h' host hu
    have hnew' : IsRebuilt items new' := (isRebuilt_of_sync h').of_sameItems hsame
    have hb : ((blockedRows items).map HostEntry.host).Nodup :=
      ((sync_isSome_iff q old).mp (Option.isSome_iff_exists.mpr ⟨new, h⟩)).1
    exact hnew.find?_eq hnew' hb hu

/-- Items of every type: the user redirects one host and allows a pattern, a source blocks
three hosts. -/
def mixedItems : List HostListItem :=
  [⟨1, "ads.example", .blocked, true, none, 2⟩,
    ⟨2, "cdn.example", .blocked, true, none, 2⟩,
    ⟨3, "trk.example", .blocked, true, none, 2⟩,
    ⟨4, "c?n.*", .allowed, true, none, 1⟩,
    ⟨5, "ads.example", .redirected, true, some "10.0.0.1", 1⟩]

/-- The only answers over these items. -/
def mixedAnswers : SyncAnswers mixedItems where
  allowed := ["c?n.*"]
  allowed_perm := .refl _
  redirected := [⟨5, "ads.example", .redirected, true, some "10.0.0.1", 1⟩]
  redirected_perm := .refl _
  redirected_sorted := List.pairwise_singleton _ _

theorem sync_exact_mixed : ∃ new, sync mixedItems mixedAnswers ∅ = some new ∧
    new.rows = [⟨"trk.example", .blocked, none⟩, ⟨"ads.example", .redirected, some "10.0.0.1"⟩] ∧
    ((∃ e ∈ new.rows, e.host = "cdn.example" ∧ e.type = .blocked) ↔
      Listed mixedItems .blocked "cdn.example" ∧ ¬ Listed mixedItems .redirected "cdn.example" ∧
        ¬ AllowMatches mixedItems "cdn.example") := by
  obtain ⟨new, hnew⟩ : ∃ new, sync mixedItems mixedAnswers ∅ = some new := ⟨_, rfl⟩
  obtain ⟨-, -, -, -, hblocked, -, -, -⟩ := sync_exact hnew
  refine ⟨new, hnew, ?_, hblocked "cdn.example"⟩
  cases hnew
  rfl

/-- Two redirections of one host by one source, stored under the identifiers `a` and `b`. -/
def tiedItems (a b : ℤ) : List HostListItem :=
  [⟨a, "ads.example", .redirected, true, some "1.1.1.1", 2⟩,
    ⟨b, "ads.example", .redirected, true, some "2.2.2.2", 2⟩]

theorem pairwise_redirectOrder_tied (a b : ℤ) : (tiedItems a b).Pairwise RedirectOrder := by
  simp [tiedItems, RedirectOrder]

theorem pairwise_redirectOrder_tied_reverse (a b : ℤ) :
    (tiedItems a b).reverse.Pairwise RedirectOrder := by
  simp [tiedItems, RedirectOrder]

/-- The answers that list the tied items in the order of `tiedItems`. -/
def tiedAnswers (a b : ℤ) : SyncAnswers (tiedItems a b) where
  allowed := []
  allowed_perm := .refl _
  redirected := tiedItems a b
  redirected_perm := .refl _
  redirected_sorted := pairwise_redirectOrder_tied a b

/-- The answers that list the tied items in the opposite order. -/
def tiedAnswersReversed (a b : ℤ) : SyncAnswers (tiedItems a b) where
  allowed := []
  allowed_perm := .refl _
  redirected := (tiedItems a b).reverse
  redirected_perm := List.reverse_perm _
  redirected_sorted := pairwise_redirectOrder_tied_reverse a b

/-- The order in which one source's two redirections of a host were stored decides between them:
each table answers in the order of the identifiers. -/
theorem not_sync_order_independent :
    ¬ ∀ items items' (q : SyncAnswers items) (q' : SyncAnswers items') old new new',
      SameItems items items' → sync items q old = some new → sync items' q' old = some new' →
      ∀ host, new'.find? host = new.find? host := by
  intro h
  have := h (tiedItems 1 2) (tiedItems 2 1) (tiedAnswers 1 2) (tiedAnswersReversed 2 1) ∅ _ _
    (List.Perm.refl _) rfl rfl "ads.example"
  exact absurd this (by decide)

end AdAway
