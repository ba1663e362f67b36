import AdAway.Db.HostEntrySync
import AdAway.Library.Interleaving

/-!
# `sync` statement by statement

`HostEntryDao.sync()` has no transaction: each of its statements commits on its own, and other
threads read and write `host_entries` between two of them. Here a run of `sync` is a position
`SyncPc`, and `syncStatement` executes the statement it stands at. Run alone, the statements are
`sync` again.

## Two runs at once

The background update, the home screen and the configuration snackbar each call `sync` on an
executor of their own. `stepRuns` interleaves any number of runs over the same `hosts_lists`. A run
clears rows another run has already written, so no row is simply there from some moment on. What
holds is a debt: a row that is missing (or one too many) is owed by some run that has yet to reach
the statement that repairs it. `willImport`, `willAllow` and `willRedirect` are the three debts, and
a run that has finished owes nothing.

A run that gets past an allowed host that `LIKE` cannot compare with has found the table empty, so
another run has cleared it and will come to that host later. `SyncRunsInv.hosts` passes this debt on
from run to run, unless the other allowed hosts match every blocked host.

## Main definitions

* `SyncPc`, `syncStatement` — the positions of a run and the statement at each of them
* `SyncStatement` — the same as a relation, one constructor a statement
* `stepRuns`, `startRuns` — any number of runs over one table

## Main results

* `run_syncStatement_iff` — one run alone is `sync`
* `SyncRunsInv.step` — the debts are kept by every statement of every run
* `isRebuilt_of_finished` — when every run has finished, the table is rebuilt
-/

namespace AdAway

variable {items : List HostListItem}

/-! ### One run -/

/-- The statement a run of `sync` executes next. -/
inductive SyncPc
  /-- Before `clear`. -/
  | start
  /-- Before `importBlocked`. -/
  | cleared
  /-- Before `getEnabledAllowedHosts`. -/
  | imported
  /-- In the loop over the allowed hosts, with these to go. -/
  | allowing (rest : List String)
  /-- In the loop over the redirected hosts, with these to go. -/
  | redirecting (rest : List HostListItem)
  /-- A statement has thrown. -/
  | failed
  deriving DecidableEq

/-- The position after the last statement. -/
abbrev SyncPc.finished : SyncPc := .redirecting []

/-- The statement at a position of a run whose list queries answer `q`. -/
def syncStatement (q : SyncAnswers items) : SyncPc → HostEntries → Option (SyncPc × HostEntries)
  | .start, t => some (.cleared, clear t)
  | .cleared, t =>
    match importBlocked items t with
    | some t' => some (.imported, t')
    | none => some (.failed, t)
  | .imported, t => some (.allowing q.allowed, t)
  | .allowing (allowedHost :: rest), t =>
    match allowHost (toLikePattern allowedHost) t with
    | some t' => some (.allowing rest, t')
    | none => some (.failed, t)
  | .allowing [], t => some (.redirecting q.redirected, t)
  | .redirecting (i :: rest), t => some (.redirecting rest, redirectHost (redirectEntry i) t)
  | .redirecting [], _ => none
  | .failed, _ => none

/-- One statement of a run, as a relation. -/
inductive SyncStatement (q : SyncAnswers items) :
    SyncPc → HostEntries → SyncPc → HostEntries → Prop
  | clear (t) : SyncStatement q .start t .cleared (clear t)
  | importBlocked {t t'} (h : importBlocked items t = some t') :
      SyncStatement q .cleared t .imported t'
  | importFails {t} (h : AdAway.importBlocked items t = none) : SyncStatement q .cleared t .failed t
  | getAllowed (t) : SyncStatement q .imported t (.allowing q.allowed) t
  | allowHost {w rest t t'} (h : allowHost (toLikePattern w) t = some t') :
      SyncStatement q (.allowing (w :: rest)) t (.allowing rest) t'
  | allowFails {w rest t} (h : AdAway.allowHost (toLikePattern w) t = none) :
      SyncStatement q (.allowing (w :: rest)) t .failed t
  | getRedirected (t) : SyncStatement q (.allowing []) t (.redirecting q.redirected) t
  | redirectHost (i rest t) :
      SyncStatement q (.redirecting (i :: rest)) t (.redirecting rest)
        (redirectHost (redirectEntry i) t)

theorem syncStatement_eq_some {q : SyncAnswers items} {pc pc' : SyncPc} {t t' : HostEntries}
    (h : syncStatement q pc t = some (pc', t')) : SyncStatement q pc t pc' t' := by
  cases pc with
  | start => cases h; exact .clear t
  | cleared =>
    rw [syncStatement] at h
    split at h
    next himp => cases h; exact .importBlocked himp
    next himp => cases h; exact .importFails himp
  | imported => cases h; exact .getAllowed t
  | allowing rest =>
    cases rest with
    | nil => cases h; exact .getRedirected t
    | cons w rest =>
      rw [syncStatement] at h
      split at h
      next hallow => cases h; exact .allowHost hallow
      next hallow => cases h; exact .allowFails hallow
  | redirecting rest =>
    cases rest with
    | nil => cases h
    | cons i rest => cases h; exact .redirectHost i rest t
  | failed => cases h

/-! ### One run alone -/

/-- The statements of one run that nothing interleaves with. -/
def syncAlone (q : SyncAnswers items) (s : SyncPc × HostEntries) (_ : Unit) :
    Option (SyncPc × HostEntries) :=
  syncStatement q s.1 s.2

/-- The loop over the allowed hosts, with `rest` to go. -/
def allowRest (rest : List String) (t : HostEntries) : Option HostEntries :=
  rest.foldlM (fun t allowedHost => allowHost (toLikePattern allowedHost) t) t

/-- The loop over the redirected hosts, with `rest` to go. -/
def redirectRest (rest : List HostListItem) (t : HostEntries) : HostEntries :=
  rest.foldl (fun t i => redirectHost (redirectEntry i) t) t

/-- What the rest of a run makes of the table, when nothing interleaves with it. -/
def resume (q : SyncAnswers items) : SyncPc → HostEntries → Option HostEntries
  | .start, t => sync items q t
  | .cleared, t =>
    (importBlocked items t).bind fun t => (allowRest q.allowed t).map (redirectRest q.redirected)
  | .imported, t => (allowRest q.allowed t).map (redirectRest q.redirected)
  | .allowing rest, t => (allowRest rest t).map (redirectRest q.redirected)
  | .redirecting rest, t => some (redirectRest rest t)
  | .failed, _ => none

/-- The statements a run has left, counting the loop heads. -/
def SyncPc.remaining (q : SyncAnswers items) : SyncPc → ℕ
  | .start => q.allowed.length + q.redirected.length + 4
  | .cleared => q.allowed.length + q.redirected.length + 3
  | .imported => q.allowed.length + q.redirected.length + 2
  | .allowing rest => rest.length + q.redirected.length + 1
  | .redirecting rest => rest.length
  | .failed => 0

theorem resume_start (q : SyncAnswers items) (t : HostEntries) :
    resume q .start t = resume q .cleared (clear t) := by
  simp only [resume, sync, Option.bind_eq_bind]
  refine congrArg _ (funext fun imported => ?_)
  rw [Option.map_eq_bind]
  rfl

theorem SyncStatement.resume_eq {q : SyncAnswers items} {pc pc' : SyncPc} {t t' : HostEntries}
    (h : SyncStatement q pc t pc' t') : resume q pc' t' = resume q pc t := by
  cases h with
  | clear => exact (resume_start q t).symm
  | importBlocked h => simp only [resume, h, Option.bind_some]
  | importFails h => simp only [resume, h, Option.bind_none]
  | getAllowed => rfl
  | allowHost h => simp only [resume, allowRest, List.foldlM_cons, h, Option.bind_eq_bind,
      Option.bind_some]
  | allowFails h => simp only [resume, allowRest, List.foldlM_cons, h, Option.bind_eq_bind,
      Option.bind_none, Option.map_none]
  | getRedirected => rfl
  | redirectHost => rfl

theorem SyncStatement.remaining_lt {q : SyncAnswers items} {pc pc' : SyncPc} {t t' : HostEntries}
    (h : SyncStatement q pc t pc' t') : pc'.remaining q < pc.remaining q := by
  cases h <;> simp [SyncPc.remaining]

theorem exists_syncAlone (q : SyncAnswers items) (u : SyncPc × HostEntries)
    (hu : ¬ (u.1 = .finished ∨ u.1 = .failed)) : ∃ a u', syncAlone q u a = some u' := by
  obtain ⟨pc, t⟩ := u
  suffices (syncStatement q pc t).isSome from
    ⟨(), Option.isSome_iff_exists.mp this⟩
  rcases pc with _ | _ | _ | ⟨_ | _⟩ | ⟨_ | _⟩ | _
  case cleared => rw [syncStatement]; split <;> rfl
  case allowing.cons => rw [syncStatement]; split <;> rfl
  case redirecting.nil => exact absurd (Or.inl rfl) hu
  case failed => exact absurd (Or.inr rfl) hu
  all_goals rfl

/-- **One run alone is `sync`**: it finishes with `new` exactly when `sync` returns it. -/
theorem run_syncAlone_iff (q : SyncAnswers items) (old new : HostEntries) :
    (∃ as, ActionSystem.run (syncAlone q) (.start, old) as = some (.finished, new)) ↔
      sync items q old = some new := by
  have hresume : ∀ {as u}, ActionSystem.run (syncAlone q) (.start, old) as = some u →
      resume q u.1 u.2 = sync items q old := fun {as u} h =>
    ActionSystem.invariant_run (I := fun u => resume q u.1 u.2 = sync items q old)
      (fun _ _ _ hs hstep => (syncStatement_eq_some hstep).resume_eq.trans hs) rfl h
  constructor
  · rintro ⟨as, h⟩
    rw [← hresume h]
    rfl
  · intro hsync
    obtain ⟨as, ⟨pc, t⟩, hrun, hfin⟩ := ActionSystem.exists_run_of_progress
      (I := fun _ => True) (μ := fun u => u.1.remaining q) (s := (.start, old))
      (fun _ _ _ _ _ => trivial) (fun _ _ _ _ h => (syncStatement_eq_some h).remaining_lt)
      (fun u _ => exists_syncAlone q u) trivial
    have hres := hresume hrun
    rcases hfin with rfl | rfl
    · obtain rfl : t = new := Option.some.inj (hres.trans hsync)
      exact ⟨as, hrun⟩
    · cases hres.trans hsync

/-! ### What a run still owes -/

/-- The run has yet to import the blocked hosts. -/
def SyncPc.willImport : SyncPc → Prop
  | .start | .cleared => True
  | _ => False

/-- The run has yet to delete a host. -/
def SyncPc.willAllow (host : String) : SyncPc → Prop
  | .start | .cleared | .imported => True
  | .allowing rest => ∃ w ∈ rest, like host (toLikePattern w) = some true
  | _ => False

/-- The run has yet to compare the table with an allowed host. -/
def SyncPc.willCompare (w : String) : SyncPc → Prop
  | .start | .cleared | .imported => True
  | .allowing rest => w ∈ rest
  | _ => False

theorem SyncPc.willCompare_of_willImport {w : String} {pc : SyncPc} (h : pc.willImport) :
    pc.willCompare w := by
  cases pc <;> first | exact trivial | exact absurd h id

/-- The run has yet to insert the redirection of a host. -/
def SyncPc.willRedirect (items : List HostListItem) (host : String) : SyncPc → Prop
  | .start | .cleared | .imported | .allowing _ => True
  | .redirecting rest => ∃ i ∈ rest, TopRedirect items host i
  | .failed => False

/-- What is left of a loop is the end of the answer it goes through. -/
def SyncPc.Within (q : SyncAnswers items) : SyncPc → Prop
  | .allowing rest => rest <:+ q.allowed
  | .redirecting rest => rest <:+ q.redirected
  | _ => True

/-- The row comes from an enabled blocked or redirected item. -/
def Sourced (items : List HostListItem) (e : HostEntry) : Prop :=
  e ∈ blockedRows items ∨ ∃ i ∈ items, i.type = .redirected ∧ i.enabled = true ∧ e = redirectEntry i

/-- The table redirects the host as its first source says. -/
def Redirects (items : List HostListItem) (host : String) (t : HostEntries) : Prop :=
  ∃ i, TopRedirect items host i ∧ t.find? host = some (redirectEntry i)

section Statements

variable {q : SyncAnswers items} {pc pc' : SyncPc} {t t' : HostEntries} {host : String}

theorem SyncStatement.not_willImport (h : SyncStatement q pc t pc' t') (hpc : ¬ pc.willImport) :
    ¬ pc'.willImport := by
  cases h with
  | clear => exact absurd trivial hpc
  | _ => exact id

theorem SyncStatement.within (h : SyncStatement q pc t pc' t') (hpc : pc.Within q) :
    pc'.Within q := by
  cases h with
  | getAllowed => exact List.suffix_refl _
  | allowHost => exact (List.suffix_cons _ _).trans hpc
  | getRedirected => exact List.suffix_refl _
  | redirectHost i rest => exact (List.suffix_cons i rest).trans hpc
  | _ => trivial

/-- Past its import, a run has seen that no two blocked rows share a host. -/
theorem SyncStatement.nodup (h : SyncStatement q pc t pc' t') (hok : pc' ≠ .failed)
    (hpc : pc.willImport ∨ ((blockedRows items).map HostEntry.host).Nodup) :
    pc'.willImport ∨ ((blockedRows items).map HostEntry.host).Nodup := by
  cases h with
  | clear => exact Or.inl trivial
  | importBlocked himp =>
    have hsome := Option.isSome_iff_exists.mpr ⟨_, himp⟩
    exact Or.inr (KeyedTable.insertAll?_isSome_iff.mp hsome).1
  | importFails => exact absurd rfl hok
  | _ => exact Or.inr (hpc.resolve_left id)

theorem SyncStatement.sourced (h : SyncStatement q pc t pc' t') (hpc : pc.Within q)
    (ht : pc = .start ∨ ∀ e ∈ t.rows, Sourced items e) : ∀ e ∈ t'.rows, Sourced items e := by
  cases h with
  | clear => exact fun e he => absurd he List.not_mem_nil
  | importBlocked himp =>
    intro e he
    rw [KeyedTable.rows_of_insertAll? himp] at he
    rcases List.mem_append.mp he with he | he
    · exact ht.resolve_left SyncPc.noConfusion e he
    · exact Or.inl he
  | redirectHost i rest =>
    intro e he
    rcases List.mem_append.mp he with he | he
    · exact ht.resolve_left SyncPc.noConfusion e (List.mem_filter.mp he).1
    · obtain rfl := List.mem_singleton.mp he
      exact Or.inr ⟨i, (q.mem_redirected.mp (hpc.subset List.mem_cons_self)).imp id fun h =>
        ⟨h.1, h.2, rfl⟩⟩
  | allowHost hallow =>
    exact fun e he => ht.resolve_left SyncPc.noConfusion e (mem_of_mem_allowHost hallow he)
  | _ => exact ht.resolve_left SyncPc.noConfusion

/-- A host that no item redirects keeps its row when another host is redirected. -/
theorem SyncPc.Within.find?_of_not_redirected {i : HostListItem} {rest : List HostListItem}
    (hpc : (SyncPc.redirecting (i :: rest)).Within q) (hr : ¬ Listed items .redirected host) :
    (redirectHost (redirectEntry i) t).find? host = t.find? host := by
  obtain ⟨hi, htype, hen⟩ := q.mem_redirected.mp (hpc.subset List.mem_cons_self)
  have hne : i.host ≠ host := fun hhost => hr ⟨i, hi, htype, hen, hhost⟩
  rw [find?_redirectHost, if_neg hne]

/-- The row of a blocked host stays, or is owed by the run that cleared it. -/
theorem SyncStatement.block (h : SyncStatement q pc t pc' t') (hpc : pc.Within q)
    (hok : pc' ≠ .failed) (hb : Listed items .blocked host) (ha : ¬ AllowMatches items host)
    (ht : (∃ e, t.find? host = some e) ∨ pc.willImport) :
    (∃ e, t'.find? host = some e) ∨ pc'.willImport := by
  cases h with
  | clear => exact Or.inr trivial
  | importBlocked himp =>
    obtain ⟨i, hi, htype, hen, rfl⟩ := hb
    obtain ⟨e, he⟩ : ∃ e, ((blockedRows items).find? fun e => e.host = i.host) = some e := by
      rw [← Option.isSome_iff_exists, List.find?_isSome]
      exact ⟨_, mem_blockedRows.mpr ⟨i, hi, htype, hen, rfl⟩, by simp⟩
    refine Or.inl ?_
    rw [KeyedTable.find?_of_insertAll? himp, he]
    cases t.find? i.host <;> exact ⟨_, rfl⟩
  | importFails => exact absurd rfl hok
  | @allowHost w _ _ _ hallow =>
    have hw : w ∈ q.allowed := hpc.subset List.mem_cons_self
    have hnot : ¬ like host (toLikePattern w) = some true := fun hlike =>
      ha ((allowMatches_iff_exists q host).mpr ⟨w, hw, hlike⟩)
    rw [find?_of_allowHost hallow, if_neg hnot]
    exact Or.inl (ht.resolve_right id)
  | allowFails => exact absurd rfl hok
  | redirectHost i rest =>
    rw [find?_redirectHost]
    split
    · exact Or.inl ⟨_, rfl⟩
    · exact Or.inl (ht.resolve_right id)
  | _ => exact Or.inl (ht.resolve_right id)

/-- A run comes to an allowed host that `LIKE` cannot compare with later, or finds the table
empty. -/
theorem SyncStatement.compare (h : SyncStatement q pc t pc' t') (hok : pc' ≠ .failed) {w : String}
    (hw : w ∈ q.allowed) (hlong : TooComplex w) (hpc : pc.willCompare w) :
    pc'.willCompare w ∨ t'.rows = [] := by
  cases h with
  | importFails => exact absurd rfl hok
  | getAllowed => exact Or.inl hw
  | @allowHost v rest _ _ hallow =>
    rcases List.mem_cons.mp hpc with rfl | hrest
    · -- the comparison did not throw
      refine Or.inr (List.eq_nil_iff_forall_not_mem.mpr fun e he => ?_)
      have hnone := allowHost_eq_none_iff.mpr
        ⟨hlong, List.ne_nil_of_mem (mem_of_mem_allowHost hallow he)⟩
      rw [hallow] at hnone
      cases hnone
    · exact Or.inl hrest
  | allowFails => exact absurd rfl hok
  | getRedirected => exact absurd hpc List.not_mem_nil
  | redirectHost => exact absurd hpc id
  | _ => exact Or.inl trivial

/-- An allowed host stays absent, or its deletion is owed by the run that imported it. -/
theorem SyncStatement.allow (h : SyncStatement q pc t pc' t') (hpc : pc.Within q)
    (hok : pc' ≠ .failed) (hr : ¬ Listed items .redirected host) (ha : AllowMatches items host)
    (ht : t.find? host = none ∨ pc.willAllow host) :
    t'.find? host = none ∨ pc'.willAllow host := by
  cases h with
  | clear => exact Or.inr trivial
  | importBlocked => exact Or.inr trivial
  | importFails => exact absurd rfl hok
  | allowFails => exact absurd rfl hok
  | getAllowed => exact Or.inr ((allowMatches_iff_exists q host).mp ha)
  | allowHost hallow =>
    rw [find?_of_allowHost hallow]
    rcases ht with hnone | ⟨v, hv, hlike⟩
    · rw [hnone, ite_self]
      exact Or.inl rfl
    · rcases List.mem_cons.mp hv with rfl | hv
      · exact Or.inl (if_pos hlike)
      · exact Or.inr ⟨v, hv, hlike⟩
  | getRedirected =>
    rcases ht with hnone | ⟨v, hv, -⟩
    · exact Or.inl hnone
    · exact absurd hv List.not_mem_nil
  | redirectHost i rest =>
    rw [hpc.find?_of_not_redirected hr]
    exact Or.inl (ht.resolve_right id)

/-- In the answer, what comes after a redirection that is not of the first source still holds one
that is. -/
theorem exists_topRedirect_mem_rest {i : HostListItem} {rest : List HostListItem}
    (hrest : i :: rest <:+ q.redirected) (hi : ¬ TopRedirect items i.host i) :
    ∃ j ∈ rest, TopRedirect items i.host j := by
  obtain ⟨before, hbefore⟩ := hrest
  have hmem : ∀ j, j ∈ before ++ i :: rest → j ∈ items ∧ j.type = .redirected ∧ j.enabled = true :=
    fun j hj => q.mem_redirected.mp (hbefore ▸ hj)
  obtain ⟨himem, hitype, hien⟩ := hmem i (List.mem_append_right _ List.mem_cons_self)
  obtain ⟨k, hk⟩ := exists_topRedirect ⟨i, himem, hitype, hien, rfl⟩
  have hkq : k ∈ before ++ i :: rest :=
    hbefore ▸ q.mem_redirected.mpr ⟨hk.mem, hk.type_eq, hk.enabled_eq⟩
  rcases List.mem_append.mp hkq with hkb | hkr
  · -- an item before `i` has no smaller source, so `i` would be of the first source as well
    refine absurd ?_ hi
    have hsorted : (before ++ i :: rest).Pairwise RedirectOrder := hbefore ▸ q.redirected_sorted
    have hki := (List.pairwise_append.mp hsorted).2.2 k hkb i List.mem_cons_self
    refine ⟨himem, hitype, hien, rfl, fun j hj hjt hje hjh => ?_⟩
    rcases hki with hlt | ⟨-, hle⟩
    · exact absurd (hk.host_eq ▸ hlt) (lt_irrefl _)
    · exact hle.trans (hk.least j hj hjt hje hjh)
  · rcases List.mem_cons.mp hkr with rfl | hkr
    · exact absurd hk hi
    · exact ⟨k, hkr, hk⟩

/-- A redirected host keeps its row, or a run still owes it. -/
theorem SyncStatement.redirect (h : SyncStatement q pc t pc' t') (hpc : pc.Within q)
    (hok : pc' ≠ .failed) (hr : Listed items .redirected host)
    (ht : Redirects items host t ∨ pc.willRedirect items host) :
    Redirects items host t' ∨ pc'.willRedirect items host := by
  cases h with
  | importFails => exact absurd rfl hok
  | allowFails => exact absurd rfl hok
  | getRedirected =>
    obtain ⟨i, hi⟩ := exists_topRedirect hr
    exact Or.inr ⟨i, q.mem_redirected.mpr ⟨hi.mem, hi.type_eq, hi.enabled_eq⟩, hi⟩
  | redirectHost i rest =>
    rcases eq_or_ne i.host host with rfl | hne
    · by_cases htop : TopRedirect items i.host i
      · refine Or.inl ⟨i, htop, ?_⟩
        rw [find?_redirectHost, if_pos rfl]
      · exact Or.inr (exists_topRedirect_mem_rest hpc htop)
    · rcases ht with ⟨j, hj, hfind⟩ | ⟨j, hj, htop⟩
      · refine Or.inl ⟨j, hj, ?_⟩
        rw [find?_redirectHost, if_neg hne]
        exact hfind
      · rcases List.mem_cons.mp hj with rfl | hj
        · exact absurd htop.host_eq hne
        · exact Or.inr ⟨j, hj, htop⟩
  | _ => exact Or.inr trivial

end Statements

/-! ### Any number of runs -/

section Runs

variable {ι : Type*} [DecidableEq ι]

/-- Runs of `sync` over one table: their positions, and the table they share. -/
abbrev SyncRuns (ι : Type*) := Interleaving.State ι SyncPc HostEntries

/-- The next statement of run `i`. -/
def stepRuns (q : ι → SyncAnswers items) : SyncRuns ι → ι → Option (SyncRuns ι) :=
  Interleaving.step fun i => syncStatement (q i)

/-- Every run is about to start. -/
def startRuns (old : HostEntries) : SyncRuns ι := ⟨fun _ => .start, old⟩

/-- Every row and every missing row is settled: as it should be, or owed by a run. -/
structure SyncRunsInv (q : ι → SyncAnswers items) (s : SyncRuns ι) : Prop where
  within : ∀ i, (s.locals i).Within (q i)
  nodup : ∀ i, (s.locals i).willImport ∨ ((blockedRows items).map HostEntry.host).Nodup
  sourced : (∀ i, s.locals i = .start) ∨ ∀ e ∈ s.shared.rows, Sourced items e
  block : ∀ host, Listed items .blocked host → ¬ AllowMatches items host →
    Interleaving.Settled (fun t => ∃ e, t.find? host = some e) (fun _ pc => pc.willImport) s
  hosts : ∀ host, Listed items .blocked host → ¬ AllowMatches items host →
    ∀ w ∈ enabledAllowedHosts items, TooComplex w → ∃ i, (s.locals i).willCompare w
  allow : ∀ host, ¬ Listed items .redirected host → AllowMatches items host →
    Interleaving.Settled (fun t => t.find? host = none) (fun _ pc => pc.willAllow host) s
  redirect : ∀ host, Listed items .redirected host →
    Interleaving.Settled (Redirects items host) (fun _ pc => pc.willRedirect items host) s

omit [DecidableEq ι] in
theorem syncRunsInv_start [Nonempty ι] (q : ι → SyncAnswers items) (old : HostEntries) :
    SyncRunsInv q (startRuns old) := by
  obtain ⟨i⟩ := ‹Nonempty ι›
  exact ⟨fun _ => trivial, fun _ => Or.inl trivial, Or.inl fun _ => rfl,
    fun _ _ _ => Or.inr ⟨i, trivial⟩, fun _ _ _ _ _ _ => ⟨i, trivial⟩,
    fun _ _ _ => Or.inr ⟨i, trivial⟩, fun _ _ => Or.inr ⟨i, trivial⟩⟩

/-- Every statement of every run keeps the debts, unless it throws. -/
theorem SyncRunsInv.step {q : ι → SyncAnswers items} {s s' : SyncRuns ι} {i : ι}
    (hs : SyncRunsInv q s) (h : stepRuns q s i = some s') (hok : s'.locals i ≠ .failed) :
    SyncRunsInv q s' := by
  obtain ⟨pc, t, hst, rfl⟩ := Interleaving.step_eq_some.mp h
  have hst := syncStatement_eq_some hst
  have hpc : pc ≠ .failed := by simpa using hok
  have hwithin := hs.within i
  have hblock := fun host hb ha =>
    (hs.block host hb ha).step (hst.block hwithin hpc hb ha)
  constructor
  · exact Interleaving.forall_update (P := fun j pc => SyncPc.Within (q j) pc) hs.within
      (hst.within hwithin)
  · exact Interleaving.forall_update
      (P := fun _ pc => SyncPc.willImport pc ∨ ((blockedRows items).map HostEntry.host).Nodup)
      hs.nodup (hst.nodup hpc (hs.nodup i))
  · refine Or.inr (hst.sourced hwithin ?_)
    rcases hs.sourced with hstart | hsourced
    · exact Or.inl (hstart i)
    · exact Or.inr hsourced
  · exact hblock
  · intro host hb ha w hw hlong
    obtain ⟨j, hj⟩ := hs.hosts host hb ha w hw hlong
    rcases eq_or_ne j i with rfl | hne
    · rcases hst.compare hpc ((q j).allowed_perm.mem_iff.mpr hw) hlong hj with hlater | hempty
      · exact ⟨j, by simpa using hlater⟩
      · -- the row of the blocked host is missing, so some run is yet to import it
        rcases hblock host hb ha with ⟨e, he⟩ | ⟨k, hk⟩
        · have hmem := (KeyedTable.find?_eq_some_iff.mp he).1
          rw [hempty] at hmem
          exact absurd hmem List.not_mem_nil
        · exact ⟨k, SyncPc.willCompare_of_willImport hk⟩
    · exact ⟨j, by simpa [hne] using hj⟩
  · exact fun host hr ha => (hs.allow host hr ha).step (hst.allow hwithin hpc hr ha)
  · exact fun host hr => (hs.redirect host hr).step (hst.redirect hwithin hpc hr)

/-- A failed run takes no further step. -/
theorem ne_failed_of_stepRuns {q : ι → SyncAnswers items} {s s' : SyncRuns ι} {i j : ι}
    (h : stepRuns q s i = some s') (hj : s'.locals j ≠ .failed) : s.locals j ≠ .failed := by
  intro hfailed
  obtain ⟨pc, t, hst, rfl⟩ := Interleaving.step_eq_some.mp h
  rcases eq_or_ne j i with rfl | hne
  · rw [hfailed] at hst
    cases hst
  · simp [hne, hfailed] at hj

theorem syncRunsInv_run {q : ι → SyncAnswers items} {s s' : SyncRuns ι} {as : List ι}
    (hs : SyncRunsInv q s) (h : ActionSystem.run (stepRuns q) s as = some s')
    (hok : ∀ i, s'.locals i ≠ .failed) : SyncRunsInv q s' := by
  have hor : (∃ i, s'.locals i = .failed) ∨ SyncRunsInv q s' := by
    refine ActionSystem.invariant_run (I := fun s => (∃ i, s.locals i = .failed) ∨
      SyncRunsInv q s) ?_ (Or.inr hs) h
    intro s a t hI hstep
    by_cases hf : ∃ i, t.locals i = .failed
    · exact Or.inl hf
    · have hno : ∀ i, t.locals i ≠ .failed := fun i hi => hf ⟨i, hi⟩
      rcases hI with ⟨i, hi⟩ | hI
      · exact absurd hi (ne_failed_of_stepRuns hstep (hno i))
      · exact Or.inr (hI.step hstep (hno a))
  exact hor.resolve_left fun ⟨i, hi⟩ => hok i hi

omit [DecidableEq ι] in
/-- **When every run has finished, the table is rebuilt.** -/
theorem isRebuilt_of_finished [Nonempty ι] {q : ι → SyncAnswers items} {s : SyncRuns ι}
    (hs : SyncRunsInv q s) (hfin : ∀ i, s.locals i = .finished) : IsRebuilt items s.shared := by
  have hsourced : ∀ e ∈ s.shared.rows, Sourced items e := by
    refine hs.sourced.resolve_left fun hstart => ?_
    obtain ⟨i⟩ := ‹Nonempty ι›
    cases (hstart i).symm.trans (hfin i)
  have hblock := fun host hb ha => (hs.block host hb ha).good fun i => by
    rw [hfin i]
    exact id
  have hallow := fun host hr ha => (hs.allow host hr ha).good fun i => by
    rw [hfin i]
    exact id
  have hredirect := fun host hr => (hs.redirect host hr).good fun i => by
    rw [hfin i]
    exact fun ⟨j, hj, _⟩ => List.not_mem_nil hj
  constructor
  · intro e he
    have hfind := KeyedTable.mem_rows_iff.mp he
    by_cases hr : Listed items .redirected e.host
    · obtain ⟨i, hi, hrow⟩ := hredirect e.host hr
      obtain rfl : e = redirectEntry i := Option.some.inj (hfind.symm.trans hrow)
      exact .redirected i hi
    · rcases hsourced e he with hb | ⟨i, hi, htype, hen, rfl⟩
      · obtain ⟨i, hi, htype, hen, rfl⟩ := mem_blockedRows.mp hb
        refine .blocked i hi htype hen hr fun ha => ?_
        cases hfind.symm.trans (hallow i.host hr ha)
      · exact absurd ⟨i, hi, htype, hen, rfl⟩ hr
  · intro e he
    suffices hrow : ∃ e', s.shared.find? e.host = some e' by
      obtain ⟨e', he'⟩ := hrow
      exact ⟨e', (KeyedTable.find?_eq_some_iff.mp he').1, KeyedTable.key_of_find? he'⟩
    cases he with
    | redirected i hi =>
      obtain ⟨j, -, hrow⟩ := hredirect i.host hi.listed
      exact ⟨_, hrow⟩
    | blocked i hi htype hen hr ha => exact hblock i.host ⟨i, hi, htype, hen, rfl⟩ ha

omit [DecidableEq ι] in
/-- When every run has finished, a single run may complete as well. -/
theorem canComplete_of_finished [Nonempty ι] {q : ι → SyncAnswers items} {s : SyncRuns ι}
    (hs : SyncRunsInv q s) (hfin : ∀ i, s.locals i = .finished) : CanComplete items := by
  constructor
  · refine (hs.nodup (Classical.arbitrary ι)).resolve_left ?_
    rw [hfin]
    exact id
  · intro hfit host hb
    by_contra ha
    obtain ⟨w, hw, hlong⟩ : ∃ w ∈ enabledAllowedHosts items, TooComplex w := by
      simpa [AllowedFit] using hfit
    obtain ⟨i, hi⟩ := hs.hosts host hb ha w hw hlong
    rw [hfin i] at hi
    exact hi

/-- The import of the blocked hosts violates the unique key: two of its rows share a host, or the
table already holds a row of one of its hosts. -/
def ImportConflicts (items : List HostListItem) (t : HostEntries) : Prop :=
  ¬ ((blockedRows items).map HostEntry.host).Nodup ∨
    ∃ e ∈ blockedRows items, ∃ e' ∈ t.rows, e'.host = e.host

theorem importBlocked_eq_none_iff {t : HostEntries} :
    importBlocked items t = none ↔ ImportConflicts items t := by
  rw [← Option.not_isSome_iff_eq_none, importBlocked, KeyedTable.insertAll?_isSome_iff, not_and_or,
    ImportConflicts]
  refine or_congr_right ?_
  simp only [KeyedTable.find?_eq_none_iff, not_forall, not_not, exists_prop]

/-- The statement of a run at this position throws on this table. -/
def Throws (items : List HostListItem) : SyncPc → HostEntries → Prop
  | .cleared, t => ImportConflicts items t
  | .allowing (allowedHost :: _), t => TooComplex allowedHost ∧ t.rows ≠ []
  | _, _ => False

theorem SyncStatement.failed_iff {q : SyncAnswers items} {pc pc' : SyncPc} {t t' : HostEntries}
    (h : SyncStatement q pc t pc' t') : pc' = .failed ↔ Throws items pc t := by
  cases h with
  | importBlocked himp => simp [Throws, ← importBlocked_eq_none_iff, himp]
  | importFails himp => simp [Throws, ← importBlocked_eq_none_iff, himp]
  | allowHost hallow => simp [Throws, ← allowHost_eq_none_iff, hallow]
  | allowFails hallow => simp [Throws, ← allowHost_eq_none_iff, hallow]
  | _ => simp [Throws]

/-- A run fails exactly at a statement that throws. -/
theorem stepRuns_failed_iff {q : ι → SyncAnswers items} {s s' : SyncRuns ι} {i j : ι}
    (h : stepRuns q s i = some s') (hj : s.locals j ≠ .failed) :
    s'.locals j = .failed ↔ j = i ∧ Throws items (s.locals i) s.shared := by
  obtain ⟨pc, t, hst, rfl⟩ := Interleaving.step_eq_some.mp h
  rcases eq_or_ne j i with rfl | hne
  · simp [(syncStatement_eq_some hst).failed_iff]
  · simp [hne, hj]

/-- **Any interleaving of runs of `sync`.** A run fails exactly at an import that finds a row of a
blocked host in the table, or two blocked rows of one host, and at an allowed host that `LIKE` cannot
compare with the rows left in the table. When every run has finished, the table is the result of a
single `sync`. -/
theorem syncRuns_exact [Nonempty ι] (q : ι → SyncAnswers items) (old : HostEntries)
    {as : List ι} {s : SyncRuns ι}
    (h : ActionSystem.run (stepRuns q) (startRuns old) as = some s) :
    (∀ i s', stepRuns q s i = some s' → ∀ j, s.locals j ≠ .failed →
      (s'.locals j = .failed ↔ j = i ∧ Throws items (s.locals i) s.shared)) ∧
    ((∀ i, s.locals i = .finished) →
      ∃ q' new, sync items q' old = some new ∧ ∀ host, s.shared.find? host = new.find? host) := by
  refine ⟨fun i s' hstep j hj => stepRuns_failed_iff hstep hj, fun hfin => ?_⟩
  have hok : ∀ i, s.locals i ≠ .failed := fun i => by
    rw [hfin i]
    exact SyncPc.noConfusion
  have hs := syncRunsInv_run (syncRunsInv_start q old) h hok
  exact (isRebuilt_of_finished hs hfin).exists_sync (canComplete_of_finished hs hfin) old

/-- One enabled blocked item. -/
def blockedItem : List HostListItem := [⟨1, "ads.example", .blocked, true, none, 2⟩]

/-- The only answers over it. -/
def blockedItemAnswers : SyncAnswers blockedItem where
  allowed := []
  allowed_perm := .of_eq rfl
  redirected := []
  redirected_perm := .of_eq rfl
  redirected_sorted := .nil

theorem syncRuns_exact_two : ∃ s : SyncRuns Bool,
    ActionSystem.run (stepRuns fun _ => blockedItemAnswers) (startRuns ∅)
      [false, false, false, true, true, false, true, true] = some s ∧
    (∀ i, s.locals i = .finished) ∧
    ∃ q' new, sync blockedItem q' ∅ = some new ∧ ∀ host, s.shared.find? host = new.find? host := by
  obtain ⟨s, hs⟩ : ∃ s : SyncRuns Bool,
      ActionSystem.run (stepRuns fun _ => blockedItemAnswers) (startRuns ∅)
        [false, false, false, true, true, false, true, true] = some s := ⟨_, rfl⟩
  have hfin : ∀ i, s.locals i = .finished := by
    cases hs
    exact Bool.rec rfl rfl
  exact ⟨s, hs, hfin, (syncRuns_exact _ _ hs).2 hfin⟩

/-- Two runs that both clear before either imports: the second import fails, although each run
alone completes. -/
theorem not_syncRuns_never_fail :
    ¬ ∀ items (q : Bool → SyncAnswers items) old as s, (∀ i, (sync items (q i) old).isSome) →
      ActionSystem.run (stepRuns q) (startRuns old) as = some s →
      (∀ i, s.locals i ≠ .failed) ∧
      ((∀ i, s.locals i = .finished) → ∃ q' new, sync items q' old = some new ∧
        ∀ host, s.shared.find? host = new.find? host) := by
  intro h
  have hfail := h blockedItem (fun _ => blockedItemAnswers) ∅ [false, true, false, true] _
    (fun _ => rfl) rfl
  exact hfail.1 true rfl

end Runs

end AdAway
