import AdAway.Db.SyncInterleaving
import AdAway.Library.LoadingCache

/-!
# The VPN's view of `host_entries`

`VpnModel.getEntry` answers from `blockCache`, an LRU cache whose `create` reads `host_entries`.
`VpnModel.apply` drops the cache with `evictAll` after a `sync` has rebuilt the table. Nothing
orders these against the DNS lookups: a lookup may read the table between any two statements of
`sync`, and may keep what it read after `evictAll`.

The system below interleaves one run of `sync`, the `evictAll` that follows it and any number of
lookups. The cache is `LoadingCache`, whose store is the table of the moment; its capacity is the
action `trim`.

## Main definitions

* `VpnModel`, `VpnAction`, `stepVpn` — the system
* `BlockedThroughout` — what holds of a host that is blocked before and after

## Main results

* `run_sync_of_run` — the lookups do not disturb `sync`
* `absent_only_before_import` — when a blocked host is observed as absent
* `getEntry_after_apply` — what a lookup that starts after `apply` answers
-/

namespace AdAway

variable {items : List HostListItem} {ι : Type*} [DecidableEq ι]

/-- The table, the run of `sync` that rebuilds it and the cache in front of it. -/
structure VpnModel (ι : Type*) where
  /-- The position of the run of `sync`. -/
  pc : SyncPc
  /-- The table `host_entries`. -/
  hostEntries : HostEntries
  /-- The field `blockCache`, with the lookups that are using it. -/
  blockCache : LoadingCache.State ι String HostEntry

/-- What may happen next. -/
inductive VpnAction (ι : Type*)
  /-- The next statement of `sync`. -/
  | sync
  /-- `apply` drops the cache. -/
  | evictAll
  /-- A step of a lookup. -/
  | lookup (a : LoadingCache.Action ι String)
  deriving DecidableEq

/-- One step. `apply` is called once `sync` has returned. -/
def stepVpn (q : SyncAnswers items) (s : VpnModel ι) : VpnAction ι → Option (VpnModel ι)
  | .sync => (syncStatement q s.pc s.hostEntries).map fun p =>
    { s with pc := p.1, hostEntries := p.2 }
  | .evictAll =>
    if s.pc = .finished then some { s with blockCache := s.blockCache.evictAll } else none
  | .lookup a => (LoadingCache.step (fun host => getEntry host s.hostEntries) s.blockCache a).map
    fun c => { s with blockCache := c }

/-- One step, as a relation. -/
inductive VpnStep (q : SyncAnswers items) (s : VpnModel ι) : VpnAction ι → VpnModel ι → Prop
  | sync (pc t) (h : SyncStatement q s.pc s.hostEntries pc t) :
      VpnStep q s .sync { s with pc := pc, hostEntries := t }
  | evictAll (h : s.pc = .finished) :
      VpnStep q s .evictAll { s with blockCache := s.blockCache.evictAll }
  | lookup (a c)
      (h : LoadingCache.step (fun host => getEntry host s.hostEntries) s.blockCache a = some c) :
      VpnStep q s (.lookup a) { s with blockCache := c }

theorem stepVpn_eq_some {q : SyncAnswers items} {s s' : VpnModel ι} {a : VpnAction ι}
    (h : stepVpn q s a = some s') : VpnStep q s a s' := by
  cases a with
  | sync =>
    obtain ⟨⟨pc, t⟩, hst, rfl⟩ := Option.map_eq_some_iff.mp h
    exact .sync pc t (syncStatement_eq_some hst)
  | evictAll =>
    rw [stepVpn] at h
    split at h
    next hpc => exact Option.some.inj h ▸ .evictAll hpc
    next => cases h
  | lookup a =>
    obtain ⟨c, hc, rfl⟩ := Option.map_eq_some_iff.mp h
    exact .lookup a c hc

/-- A `sync` is about to start. -/
def startVpn (old : HostEntries) (c : LoadingCache.State ι String HostEntry) : VpnModel ι :=
  ⟨.start, old, c⟩

/-- What a run of `sync` still makes of the table is not changed by a step. -/
theorem resume_eq_of_step {q : SyncAnswers items} {s s' : VpnModel ι} {a : VpnAction ι}
    (h : stepVpn q s a = some s') :
    resume q s'.pc s'.hostEntries = resume q s.pc s.hostEntries := by
  cases stepVpn_eq_some h with
  | sync pc t hst => exact hst.resume_eq
  | evictAll => rfl
  | lookup => rfl

/-- The lookups do not disturb `sync`: what it leaves once finished is its result. -/
theorem run_sync_of_run {q : SyncAnswers items} {old : HostEntries}
    {c : LoadingCache.State ι String HostEntry} {as : List (VpnAction ι)} {s : VpnModel ι}
    (h : ActionSystem.run (stepVpn q) (startVpn old c) as = some s) (hpc : s.pc = .finished) :
    sync items q old = some s.hostEntries := by
  have hresume : resume q s.pc s.hostEntries = sync items q old :=
    ActionSystem.invariant_run (I := fun s => resume q s.pc s.hostEntries = sync items q old)
      (fun _ _ _ hs hstep => (resume_eq_of_step hstep).trans hs) rfl h
  rw [← hresume, hpc]
  rfl

/-! ### Lookups during a `sync` -/

/-- The table lists the host as blocked. -/
def ListsBlocked (host : String) (t : HostEntries) : Prop :=
  ∃ e, getEntry host t = some e ∧ e.type = .blocked

/-- The states of a `sync` that a blocked host goes through: listed in the old table, absent from
the cleared one, listed again from the import on. -/
structure BlockedThroughout (q : SyncAnswers items) (host : String) (pc : SyncPc)
    (t : HostEntries) : Prop where
  within : pc.Within q
  phase : pc = .start ∧ ListsBlocked host t ∨
    pc = .cleared ∧ t = ∅ ∨
    ¬ pc.willImport ∧ pc ≠ .failed ∧ (∀ e ∈ t.rows, Sourced items e) ∧
      ∃ e, t.find? host = some e

theorem type_eq_blocked_of_sourced {host : String} {t : HostEntries} {e : HostEntry}
    (hr : ¬ Listed items .redirected host) (ht : ∀ e ∈ t.rows, Sourced items e)
    (he : t.find? host = some e) : e.type = .blocked := by
  obtain ⟨hmem, rfl⟩ := KeyedTable.find?_eq_some_iff.mp he
  rcases ht e hmem with hb | ⟨i, hi, htype, hen, rfl⟩
  · obtain ⟨i, -, -, -, rfl⟩ := mem_blockedRows.mp hb
    rfl
  · exact absurd ⟨i, hi, htype, hen, rfl⟩ hr

theorem BlockedThroughout.step {q : SyncAnswers items} {host : String} {pc pc' : SyncPc}
    {t t' : HostEntries} (hs : BlockedThroughout q host pc t) (h : SyncStatement q pc t pc' t')
    (hok : pc' ≠ .failed) (hb : Listed items .blocked host) (ha : ¬ AllowMatches items host) :
    BlockedThroughout q host pc' t' := by
  refine ⟨h.within hs.within, ?_⟩
  have hwithin := hs.within
  rcases hs.phase with ⟨rfl, -⟩ | ⟨rfl, rfl⟩ | ⟨himport, hfailed, hsourced, hrow⟩
  · cases h
    exact Or.inr (Or.inl ⟨rfl, rfl⟩)
  · have hpc' : pc' = .imported := by
      cases h with
      | importBlocked => rfl
      | importFails => exact absurd rfl hok
    subst hpc'
    refine Or.inr (Or.inr ⟨id, SyncPc.noConfusion, ?_, ?_⟩)
    · exact h.sourced hwithin (Or.inr fun e he => absurd he List.not_mem_nil)
    · exact (h.block hwithin hok hb ha (Or.inr trivial)).resolve_right id
  · have himport' := h.not_willImport himport
    have hrow' := h.block hwithin hok hb ha (Or.inl hrow)
    exact Or.inr (Or.inr ⟨himport', hok, h.sourced hwithin (Or.inr hsourced),
      hrow'.resolve_right himport'⟩)

theorem BlockedThroughout.listsBlocked {q : SyncAnswers items} {host : String} {pc : SyncPc}
    {t : HostEntries} (hs : BlockedThroughout q host pc t) (hr : ¬ Listed items .redirected host)
    (hpc : pc ≠ .cleared) : ListsBlocked host t := by
  rcases hs.phase with ⟨-, h⟩ | ⟨h, -⟩ | ⟨-, -, hsourced, e, he⟩
  · exact h
  · exact absurd h hpc
  · exact ⟨e, he, type_eq_blocked_of_sourced hr hsourced he⟩

/-- **A blocked host during a `sync`.** A host that is blocked before and after is listed as blocked
in every state but the one between `clear` and `importBlocked`, and a lookup observes it as absent
only by reading the table in that state. -/
theorem absent_only_before_import {q : SyncAnswers items} {old new : HostEntries} {host : String}
    (hsync : sync items q old = some new) (hold : ListsBlocked host old)
    (hnew : ListsBlocked host new) {c : LoadingCache.State ι String HostEntry}
    {as : List (VpnAction ι)} {s : VpnModel ι}
    (hrun : ActionSystem.run (stepVpn q) (startVpn old c) as = some s) :
    (s.pc ≠ .cleared → ListsBlocked host s.hostEntries) ∧
    ∀ a s' i, stepVpn q s a = some s' → s'.blockCache.lookups i = .answered host none →
      s.blockCache.lookups i ≠ .answered host none →
      a = .lookup (.create i) ∧ s.pc = .cleared := by
  obtain ⟨e, he, htype⟩ := hnew
  obtain ⟨hmem, hehost⟩ := KeyedTable.find?_eq_some_iff.mp he
  obtain ⟨hb, hr, ha⟩ := ((isRebuilt_of_sync hsync).blocked_iff host).mp ⟨e, hmem, hehost, htype⟩
  -- the run completes, so no statement of it throws
  have hinv : resume q s.pc s.hostEntries = some new ∧
      BlockedThroughout q host s.pc s.hostEntries := by
    refine ActionSystem.invariant_run (I := fun s => resume q s.pc s.hostEntries = some new ∧
      BlockedThroughout q host s.pc s.hostEntries) ?_ ?_ hrun
    · intro s a s' hs hstep
      have hresume := (resume_eq_of_step hstep).trans hs.1
      refine ⟨hresume, ?_⟩
      cases stepVpn_eq_some hstep with
      | sync pc t hst =>
        have hok : pc ≠ .failed := by
          rintro rfl
          cases hresume
        exact hs.2.step hst hok hb ha
      | evictAll => exact hs.2
      | lookup => exact hs.2
    · exact ⟨hsync, trivial, Or.inl ⟨rfl, hold⟩⟩
  have hs := hinv.2
  refine ⟨hs.listsBlocked hr, fun a s' i hstep habsent hbefore => ?_⟩
  cases stepVpn_eq_some hstep with
  | sync => exact absurd habsent hbefore
  | evictAll => exact absurd habsent hbefore
  | lookup a c' hc =>
    obtain ⟨rfl, -, hnone⟩ := LoadingCache.answered_none_of_step hc habsent hbefore
    refine ⟨rfl, ?_⟩
    by_contra hpc
    obtain ⟨e', he', -⟩ := hs.listsBlocked hr hpc
    rw [he'] at hnone
    cases hnone

/-- A table that lists one host as blocked. -/
def blockedTable : HostEntries := ⟨[⟨"ads.example", .blocked, none⟩], List.nodup_singleton _⟩

/-- A cache nobody has used yet. -/
def idleCache : LoadingCache.State ι String HostEntry := ⟨fun _ => none, fun _ => .idle⟩

theorem listsBlocked_blockedTable : ListsBlocked "ads.example" blockedTable := ⟨_, rfl, rfl⟩

theorem absent_only_before_import_imported : ∃ s : VpnModel Unit,
    ActionSystem.run (stepVpn blockedItemAnswers) (startVpn blockedTable idleCache)
      [.lookup (.get () "ads.example"), .sync, .sync] = some s ∧
    ListsBlocked "ads.example" s.hostEntries := by
  obtain ⟨s, hs⟩ : ∃ s : VpnModel Unit,
      ActionSystem.run (stepVpn blockedItemAnswers) (startVpn blockedTable idleCache)
        [.lookup (.get () "ads.example"), .sync, .sync] = some s := ⟨_, rfl⟩
  have hsync : sync blockedItem blockedItemAnswers blockedTable = some blockedTable := rfl
  have hpc : s.pc ≠ .cleared := by
    cases hs
    exact SyncPc.noConfusion
  exact ⟨s, hs, (absent_only_before_import hsync listsBlocked_blockedTable
    listsBlocked_blockedTable hs).1 hpc⟩

/-- A lookup that reads between `clear` and `importBlocked` observes a blocked host as absent. -/
theorem not_never_absent :
    ¬ ∀ items (q : SyncAnswers items) old new host as (s : VpnModel Unit),
      sync items q old = some new → ListsBlocked host old → ListsBlocked host new →
      ActionSystem.run (stepVpn q) (startVpn old idleCache) as = some s →
      ∀ i, s.blockCache.lookups i ≠ .answered host none := by
  intro h
  exact h blockedItem blockedItemAnswers blockedTable blockedTable "ads.example"
    [.lookup (.get () "ads.example"), .sync, .lookup (.create ())] _ rfl listsBlocked_blockedTable
    listsBlocked_blockedTable rfl () rfl

/-! ### Lookups after `apply` -/

/-- A row of the host that a lookup in flight has read and not kept yet. -/
def HeldFor (host : String) (s : VpnModel ι) (e : HostEntry) : Prop :=
  ∃ j, s.blockCache.lookups j = .loaded host e

/-- After `evictAll`: the table no longer changes, and the cache holds its rows or rows held by a
lookup at the eviction. -/
structure AfterApply (s₀ s : VpnModel ι) : Prop where
  pc : s.pc = .finished
  hostEntries : s.hostEntries = s₀.hostEntries
  holds : LoadingCache.Holds
    (fun host e => getEntry host s₀.hostEntries = some e ∨ HeldFor host s₀ e) s.blockCache

theorem afterApply_evictAll {q : SyncAnswers items} {s₀ s : VpnModel ι}
    (h : stepVpn q s₀ .evictAll = some s) : AfterApply s₀ s := by
  cases stepVpn_eq_some h with
  | evictAll hpc => exact ⟨hpc, rfl, LoadingCache.Holds.evictAll fun i _ _ hl => Or.inr ⟨i, hl⟩⟩

theorem AfterApply.step {q : SyncAnswers items} {s₀ s s' : VpnModel ι} {a : VpnAction ι}
    (hs : AfterApply s₀ s) (h : stepVpn q s a = some s') : AfterApply s₀ s' := by
  cases stepVpn_eq_some h with
  | sync pc t hst =>
    rw [hs.pc] at hst
    cases hst
  | evictAll hpc => exact ⟨hpc, hs.hostEntries, LoadingCache.Holds.evictAll hs.holds.loaded⟩
  | lookup a c hc =>
    refine ⟨hs.pc, hs.hostEntries, hs.holds.step (fun host e he => Or.inl ?_) hc⟩
    rw [← hs.hostEntries]
    exact he

/-- **A lookup after `apply`.** What a lookup that starts after `apply` returns is the row of the
rebuilt table, or no row if there is none; only a row that a lookup of the host in flight at
`evictAll` had read before can take its place. -/
theorem getEntry_after_apply {q : SyncAnswers items} {old : HostEntries}
    {c : LoadingCache.State ι String HostEntry} {as bs cs : List (VpnAction ι)}
    {s s₁ s₂ s₃ u : VpnModel ι} {i : ι} {host : String}
    (hsync : ActionSystem.run (stepVpn q) (startVpn old c) as = some s)
    (happly : stepVpn q s .evictAll = some s₁)
    (hbefore : ActionSystem.run (stepVpn q) s₁ bs = some s₂)
    (hget : stepVpn q s₂ (.lookup (.get i host)) = some s₃)
    (hafter : ActionSystem.run (stepVpn q) s₃ cs = some u)
    (hsame : ∀ k, VpnAction.lookup (.get i k) ∉ cs) {r : Option HostEntry} {k : String}
    (hr : u.blockCache.lookups i = .answered k r) :
    k = host ∧ sync items q old = some u.hostEntries ∧
      (r = getEntry host u.hostEntries ∨ ∃ e, HeldFor host s e ∧ r = some e) := by
  let Q : Option HostEntry → Prop := fun r =>
    r = getEntry host s.hostEntries ∨ ∃ e, HeldFor host s e ∧ r = some e
  have hsome : ∀ e, getEntry host s.hostEntries = some e ∨ HeldFor host s e → Q (some e) :=
    fun e => Or.imp Eq.symm fun he => ⟨e, he, rfl⟩
  have h₂ : AfterApply s s₂ :=
    ActionSystem.invariant_run (fun _ _ _ hs hstep => hs.step hstep) (afterApply_evictAll happly)
      hbefore
  have h₃ : AfterApply s s₃ ∧ LoadingCache.Serves host Q (s₃.blockCache.lookups i) := by
    refine ⟨h₂.step hget, ?_⟩
    cases stepVpn_eq_some hget with
    | lookup a c' hc => exact LoadingCache.serves_get h₂.holds hsome hc
  have hother : ∀ a ∈ cs, ∀ k, a ≠ .lookup (.get i k) := fun a ha k heq => hsame k (heq ▸ ha)
  have hu : AfterApply s u ∧ LoadingCache.Serves host Q (u.blockCache.lookups i) := by
    refine ActionSystem.invariant_run_of_stepsMeet
      (I := fun t => AfterApply s t ∧ LoadingCache.Serves host Q (t.blockCache.lookups i)) ?_ h₃
      (ActionSystem.stepsMeet_of_forall_mem hother) hafter
    intro t a t' ht ha hstep
    refine ⟨ht.1.step hstep, ?_⟩
    cases stepVpn_eq_some hstep with
    | sync => exact ht.2
    | evictAll => exact ht.2
    | lookup a c' hc =>
      refine ht.2.step (fun k heq => ha k (heq ▸ rfl)) ht.1.holds (fun hnone => Or.inl ?_) hsome hc
      rw [← ht.1.hostEntries]
      exact hnone.symm
  have hs : s.pc = .finished := by
    cases stepVpn_eq_some happly with
    | evictAll hpc => exact hpc
  have hserves := hu.2
  rw [hr] at hserves
  rw [hu.1.hostEntries]
  exact ⟨hserves.1, run_sync_of_run hsync hs, hserves.2⟩

/-- The only answers over no items. -/
def noAnswers : SyncAnswers [] where
  allowed := []
  allowed_perm := .of_eq rfl
  redirected := []
  redirected_perm := .of_eq rfl
  redirected_sorted := .nil

/-- Lookups before the `sync`, which empties the table, and after the `evictAll`. -/
theorem getEntry_after_apply_removed : ∃ s u : VpnModel Unit,
    ActionSystem.run (stepVpn noAnswers) (startVpn blockedTable idleCache)
      [.lookup (.get () "ads.example"), .lookup (.create ()), .lookup (.put ()),
        .sync, .sync, .sync, .sync] = some s ∧
    u.blockCache.lookups () = .answered "ads.example" none ∧
    (none = getEntry "ads.example" u.hostEntries ∨ ∃ e, HeldFor "ads.example" s e ∧ none = some e) := by
  obtain ⟨s, hs⟩ : ∃ s : VpnModel Unit,
      ActionSystem.run (stepVpn noAnswers) (startVpn blockedTable idleCache)
        [.lookup (.get () "ads.example"), .lookup (.create ()), .lookup (.put ()),
          .sync, .sync, .sync, .sync] = some s := ⟨_, rfl⟩
  obtain ⟨s₁, h₁⟩ : ∃ s₁, stepVpn noAnswers s .evictAll = some s₁ := by
    cases hs
    exact ⟨_, rfl⟩
  obtain ⟨s₃, h₃⟩ : ∃ s₃, stepVpn noAnswers s₁ (.lookup (.get () "ads.example")) = some s₃ := by
    cases hs
    cases h₁
    exact ⟨_, rfl⟩
  obtain ⟨u, hu⟩ : ∃ u, ActionSystem.run (stepVpn noAnswers) s₃ [.lookup (.create ())] = some u := by
    cases hs
    cases h₁
    cases h₃
    exact ⟨_, rfl⟩
  have hr : u.blockCache.lookups () = .answered "ads.example" none := by
    cases hs
    cases h₁
    cases h₃
    cases hu
    rfl
  have h₂ : ActionSystem.run (stepVpn noAnswers) s₁ [] = some s₁ := rfl
  have hafter := getEntry_after_apply hs h₁ h₂ h₃ hu (by simp) hr
  exact ⟨s, u, hs, hr, hafter.2.2⟩

/-- A lookup in flight across `sync` and `apply` puts a row of the old table back into the cache. -/
theorem not_getEntry_after_apply_exact :
    ¬ ∀ items (q : SyncAnswers items) old as bs cs (s s₁ s₂ s₃ u : VpnModel Unit) i host r k,
      ActionSystem.run (stepVpn q) (startVpn old idleCache) as = some s →
      stepVpn q s .evictAll = some s₁ → ActionSystem.run (stepVpn q) s₁ bs = some s₂ →
      stepVpn q s₂ (.lookup (.get i host)) = some s₃ →
      ActionSystem.run (stepVpn q) s₃ cs = some u →
      (∀ k, VpnAction.lookup (.get i k) ∉ cs) → u.blockCache.lookups i = .answered k r →
      r = getEntry host u.hostEntries := by
  intro h
  have hstale := h [] noAnswers blockedTable
    [.lookup (.get () "ads.example"), .lookup (.create ()), .sync, .sync, .sync, .sync]
    [.lookup (.put ())] [] _ _ _ _ _ () "ads.example" (some ⟨"ads.example", .blocked, none⟩)
    "ads.example" rfl rfl rfl rfl rfl (by simp) rfl
  cases hstale

end AdAway
