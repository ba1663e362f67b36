import AdAway.Db.HostEntrySync

/-!
# Redirections that tie

`getEnabledRedirectedHosts` sorts by host and then by source. Here the rows that tie in both come in
the order of their identifiers, which is the order in which they were inserted: the last one
inserted is the one `sync` leaves in the table.

## Main definitions

* `RedirectOrderById`, `SyncAnswers.ById` — the order, and the answers in it
* `LastRedirect` — the redirection that wins

## Main results

* `exists_answers_byId` — there are such answers
* `find?_sync_byId` — the row of a redirected host
-/

namespace AdAway

/-- `ORDER BY host ASC, source_id DESC`, and then by identifier. -/
def RedirectOrderById (i j : HostListItem) : Prop :=
  i.host < j.host ∨
    i.host = j.host ∧ (j.sourceId < i.sourceId ∨ j.sourceId = i.sourceId ∧ i.id ≤ j.id)

/-- The redirections are returned in this order. -/
def SyncAnswers.ById {items : List HostListItem} (q : SyncAnswers items) : Prop :=
  q.redirected.Pairwise RedirectOrderById

/-- `i` redirects the host from its first source, and is the last to do so. -/
structure LastRedirect (items : List HostListItem) (host : String) (i : HostListItem) : Prop
    extends TopRedirect items host i where
  last : ∀ j, TopRedirect items host j → j.id ≤ i.id

/-! ### Answers in the order of the identifiers -/

/-- The key of the order. -/
def byIdKey (i : HostListItem) : String ×ₗ ℤᵒᵈ ×ₗ ℤ :=
  toLex (i.host, toLex (OrderDual.toDual i.sourceId, i.id))

theorem redirectOrderById_of_byIdKey_le {i j : HostListItem} (h : byIdKey i ≤ byIdKey j) :
    RedirectOrderById i j := by
  rcases Prod.Lex.toLex_le_toLex.mp h with hlt | ⟨heq, hle⟩
  · exact Or.inl hlt
  · rcases Prod.Lex.toLex_le_toLex.mp hle with hlt | ⟨heq', hle'⟩
    · exact Or.inr ⟨heq, Or.inl hlt⟩
    · exact Or.inr ⟨heq, Or.inr ⟨(OrderDual.toDual.injective heq').symm, hle'⟩⟩

theorem RedirectOrderById.redirectOrder {i j : HostListItem} (h : RedirectOrderById i j) :
    RedirectOrder i j := by
  rcases h with hlt | ⟨heq, hlt | ⟨heq', -⟩⟩
  · exact Or.inl hlt
  · exact Or.inr ⟨heq, hlt.le⟩
  · exact Or.inr ⟨heq, heq'.le⟩

/-- Answers with the redirections in the order of the key. -/
def answersById (items : List HostListItem) : SyncAnswers items where
  allowed := allowedFitFirst items
  allowed_perm := allowedFitFirst_perm items
  redirected := (enabledRedirectedHosts items).insertionSort fun i j => byIdKey i ≤ byIdKey j
  redirected_perm := List.perm_insertionSort _ _
  redirected_sorted :=
    (List.pairwise_insertionSort (fun i j => byIdKey i ≤ byIdKey j) _).imp fun h =>
      (redirectOrderById_of_byIdKey_le h).redirectOrder

theorem byId_answersById (items : List HostListItem) : (answersById items).ById :=
  (List.pairwise_insertionSort (fun i j => byIdKey i ≤ byIdKey j)
    (enabledRedirectedHosts items)).imp redirectOrderById_of_byIdKey_le

theorem sync_answersById_isSome {items : List HostListItem} (hcan : CanComplete items)
    (old : HostEntries) : (sync items (answersById items) old).isSome :=
  sync_isSome_of_allowedFitFirst (q := answersById items) rfl hcan old

/-! ### The winner -/

section Winner

variable {items : List HostListItem} {q : SyncAnswers items} {host : String}

/-- The last redirection of a host in such an answer is the last one of its first source. -/
theorem SyncAnswers.ById.lastRedirect (hq : q.ById) {i : HostListItem}
    (h : q.lastRedirect host = some i) :
    LastRedirect items host i := by
  have htop := topRedirect_of_find?_reverse q h
  refine ⟨htop, fun j hj => ?_⟩
  have hjq : j ∈ q.redirected := q.mem_redirected.mpr ⟨hj.mem, hj.type_eq, hj.enabled_eq⟩
  have hhost : j.host = i.host := hj.host_eq.trans htop.host_eq.symm
  rcases rel_of_find?_reverse hq h hjq (by simpa using hj.host_eq) with
    rfl | hlt | ⟨-, hlt | ⟨-, hle⟩⟩
  · exact le_rfl
  · rw [hhost] at hlt
    exact absurd hlt (lt_irrefl i.host)
  · -- both are of the first source
    have := hj.least i htop.mem htop.type_eq htop.enabled_eq htop.host_eq
    omega
  · exact hle

/-- **The row of a redirected host** is that of the last redirection of its first source. -/
theorem find?_sync_byId {old new : HostEntries} (h : sync items q old = some new) (hq : q.ById)
    (hr : Listed items .redirected host) :
    ∃ i, LastRedirect items host i ∧ new.find? host = some (redirectEntry i) := by
  obtain ⟨i, hi, hrow⟩ := find?_sync_redirected h hr
  exact ⟨i, hq.lastRedirect hi, hrow⟩

/-- There is one winner, as identifiers are unique. -/
theorem LastRedirect.unique (hids : (items.map HostListItem.id).Nodup) {i j : HostListItem}
    (hi : LastRedirect items host i) (hj : LastRedirect items host j) : i = j :=
  List.inj_on_of_nodup_map hids hi.mem hj.mem
    (le_antisymm (hj.last i hi.toTopRedirect) (hi.last j hj.toTopRedirect))

end Winner

end AdAway
