import AdAway.Library.Polling
import Mathlib.Data.Int.Notation

/-!
# Following the download of an update

The update screen starts a download, and one of the three threads for the network asks for its state
every 100 ms, until the download has succeeded or failed. A row that is not found is no reason to
stop: the loop asks again.

But a row that is not found will never be found again. A download that the user cancels is removed,
and `update` returns `-1` where it has started none; the identifier is not checked. Then the loop
ends only if it was told to before, and else its thread is lost to the application. Three of them
stop all work on the network.

## Main definitions

* `DownloadAnswer` — what one turn of the loop meets
* `pollDownload`, `trackProgress` — the loop, and what it posts
* `updateModelUpdate`, `queryDownload` — the identifier, and the answers for it

## Main results

* `complete_mem_posts_iff` — when the screen shows the update as complete
* `trackProgress_returns_iff` — when the loop ends, for a download that is gone at some point
* `not_returns_of_no_manifest` — without a manifest it never does
* `networkIO_exhausted` — three such downloads stop the work on the network
-/

namespace AdAway

/-- `DownloadManager.STATUS_RUNNING`. -/
def statusRunning : ℤ := 2

/-- `DownloadManager.STATUS_SUCCESSFUL`. -/
def statusSuccessful : ℤ := 8

/-- `DownloadManager.STATUS_FAILED`. -/
def statusFailed : ℤ := 16

/-- The columns of a download that are read. -/
structure DownloadRow where
  status : ℤ
  totalSizeBytes : ℤ
  bytesDownloadedSoFar : ℤ
  deriving DecidableEq, Repr

/-- What one turn of the loop meets. -/
inductive DownloadAnswer
  /-- The sleep is interrupted. -/
  | interrupted
  /-- The query raises, or it returns no cursor. -/
  | raised
  /-- The cursor is empty. -/
  | notFound
  /-- The cursor has a row. -/
  | found (row : DownloadRow)
  deriving DecidableEq, Repr

/-- `DownloadStatus`. -/
inductive DownloadStatus
  /-- `PendingDownloadStatus`. -/
  | pending (downloaded total progress : ℤ)
  /-- `CompleteDownloadStatus`. -/
  | complete
  deriving DecidableEq, Repr

/-- The constructor of `PendingDownloadStatus`. The product is a `long`, the progress an `int`. -/
def pendingDownloadStatus (downloaded total : ℤ) : DownloadStatus :=
  .pending downloaded total ((((downloaded * 100).bmod 0x10000000000000000).tdiv total).bmod
    0x100000000)

/-- One turn of the loop of `trackProgress`. It posts `null` when there is nothing more to show. -/
def pollDownload : DownloadAnswer → Polling.Turn (Option DownloadStatus)
  | .interrupted => ⟨[none], true⟩
  | .raised => ⟨[], true⟩
  | .notFound => ⟨[], false⟩
  | .found row =>
    if row.status = statusFailed then ⟨[none], true⟩
    else if row.status = statusRunning then
      if 0 < row.totalSizeBytes then
        ⟨[some (pendingDownloadStatus row.bytesDownloadedSoFar row.totalSizeBytes)], false⟩
      else ⟨[], false⟩
    else if row.status = statusSuccessful then ⟨[some .complete], true⟩
    else ⟨[], false⟩

/-- `UpdateViewModel.trackProgress`: the values it posts, if it ends within this many turns. -/
def trackProgress (answers : ℕ → DownloadAnswer) (fuel : ℕ) :
    Option (List (Option DownloadStatus)) :=
  Polling.run pollDownload answers fuel 0

/-- `UpdateModel.update`: the identifier of the download. -/
def updateModelUpdate {Manifest : Type*} (manifest : Option Manifest) (download : Manifest → ℤ) :
    ℤ :=
  match manifest with
  | none => -1
  | some manifest => download manifest

/-- The answers for an identifier, from the rows there are at each turn. -/
def queryDownload (rows : ℕ → ℤ → Option DownloadRow) (downloadId : ℤ) (n : ℕ) : DownloadAnswer :=
  match rows n downloadId with
  | none => .notFound
  | some row => .found row

/-! ### When the loop ends -/

/-- The answers that end the loop. -/
def EndsTracking : DownloadAnswer → Prop
  | .interrupted => True
  | .raised => True
  | .notFound => False
  | .found row => row.status = statusFailed ∨ row.status = statusSuccessful

theorem pollDownload_finished_iff (answer : DownloadAnswer) :
    (pollDownload answer).finished = true ↔ EndsTracking answer := by
  cases answer with
  | interrupted => exact iff_of_true rfl trivial
  | raised => exact iff_of_true rfl trivial
  | notFound => exact iff_of_false Bool.false_ne_true id
  | found row =>
    rw [pollDownload, EndsTracking]
    by_cases hfailed : row.status = statusFailed
    · rw [if_pos hfailed]
      exact iff_of_true rfl (Or.inl hfailed)
    · rw [if_neg hfailed]
      by_cases hrunning : row.status = statusRunning
      · rw [if_pos hrunning]
        refine iff_of_false ?_ (by rw [hrunning]; decide)
        split <;> exact Bool.false_ne_true
      · rw [if_neg hrunning]
        by_cases hsuccessful : row.status = statusSuccessful
        · rw [if_pos hsuccessful]
          exact iff_of_true rfl (Or.inr hsuccessful)
        · rw [if_neg hsuccessful]
          exact iff_of_false Bool.false_ne_true fun h => h.elim hfailed hsuccessful

/-- Completion is posted for a download that has succeeded, and then the loop ends. -/
theorem complete_mem_reports_iff (answer : DownloadAnswer) :
    some .complete ∈ (pollDownload answer).reports ↔
      ∃ row, answer = .found row ∧ row.status = statusSuccessful := by
  cases answer with
  | interrupted => simp [pollDownload]
  | raised => simp [pollDownload]
  | notFound => simp [pollDownload]
  | found row =>
    rw [pollDownload]
    by_cases hfailed : row.status = statusFailed
    · simp [hfailed, statusFailed, statusSuccessful]
    · rw [if_neg hfailed]
      by_cases hrunning : row.status = statusRunning
      · rw [if_pos hrunning]
        split <;> simp [hrunning, statusRunning, statusSuccessful, pendingDownloadStatus]
      · rw [if_neg hrunning]
        by_cases hsuccessful : row.status = statusSuccessful <;> simp [hsuccessful]

/-- **The screen shows the update as complete** if and only if the loop has ended because the
download had succeeded. -/
theorem complete_mem_posts_iff {answers : ℕ → DownloadAnswer} {fuel : ℕ}
    {posts : List (Option DownloadStatus)} (h : trackProgress answers fuel = some posts) :
    some .complete ∈ posts ↔
      ∃ m row, (∀ j, j < m → ¬ EndsTracking (answers j)) ∧ answers m = .found row ∧
        row.status = statusSuccessful := by
  obtain ⟨m, -, hlast, hbefore, rfl⟩ := Polling.run_eq_some_iff.mp h
  simp only [Nat.zero_add, pollDownload_finished_iff, ← Bool.not_eq_true] at hlast hbefore
  simp only [List.mem_flatMap, List.mem_range, Nat.zero_add, complete_mem_reports_iff]
  constructor
  · rintro ⟨j, hj, row, hrow, hstatus⟩
    exact ⟨j, row, fun i hi => hbefore i (by omega), hrow, hstatus⟩
  · rintro ⟨j, row, hearlier, hrow, hstatus⟩
    have hends : EndsTracking (answers j) := by
      rw [hrow]
      exact Or.inr hstatus
    have hj : j ≤ m := by
      by_contra hlater
      exact hearlier m (Nat.not_le.mp hlater) hlast
    exact ⟨j, Nat.lt_succ_of_le hj, row, hrow, hstatus⟩

/-- A download that is not found from the `n`-th turn on. -/
def AbsentFrom (answers : ℕ → DownloadAnswer) (n : ℕ) : Prop :=
  ∀ m, n ≤ m → answers m = .notFound

theorem returns_iff_of_absentFrom {answers : ℕ → DownloadAnswer} {n : ℕ}
    (habsent : AbsentFrom answers n) :
    Polling.Returns pollDownload answers ↔ ∃ m, m < n ∧ EndsTracking (answers m) := by
  have hsilent : ∀ m, n ≤ m → (pollDownload (answers m)).finished = false := by
    intro m hm
    rw [habsent m hm]
    rfl
  rw [Polling.returns_iff_of_silent hsilent]
  simp only [pollDownload_finished_iff]

/-- **When the loop ends**, for a download that is gone at some point: when it has seen the download
succeed or fail before, or was stopped before. -/
theorem trackProgress_returns_iff {answers : ℕ → DownloadAnswer} {n : ℕ}
    (habsent : AbsentFrom answers n) :
    (∃ fuel, (trackProgress answers fuel).isSome = true) ↔
      ∃ m, m < n ∧ EndsTracking (answers m) :=
  returns_iff_of_absentFrom habsent

/-- A download that has succeeded at the second turn, and whose row is removed then. -/
def completedDownload : ℕ → DownloadAnswer
  | 0 => .found ⟨statusRunning, 1000, 100⟩
  | 1 => .found ⟨statusSuccessful, 1000, 1000⟩
  | _ + 2 => .notFound

theorem trackProgress_returns_iff_completedDownload :
    ∃ fuel, (trackProgress completedDownload fuel).isSome = true := by
  have habsent : AbsentFrom completedDownload 2 := by
    rintro (_ | _ | m) hm
    · omega
    · omega
    · rfl
  exact (trackProgress_returns_iff habsent).mpr ⟨1, by omega, Or.inr rfl⟩

/-- A download that is cancelled after the first turn. -/
def cancelledDownload : ℕ → DownloadAnswer
  | 0 => .found ⟨statusRunning, 1000, 100⟩
  | _ + 1 => .notFound

theorem absentFrom_cancelledDownload : AbsentFrom cancelledDownload 1 := by
  intro m hm
  cases m with
  | zero => omega
  | succ m => rfl

/-- The thread that follows a cancelled download never returns. -/
theorem not_trackProgress_returns :
    ¬ ∀ answers n, AbsentFrom answers n → ∃ fuel, (trackProgress answers fuel).isSome = true := by
  intro h
  obtain ⟨m, hm, hends⟩ :=
    (returns_iff_of_absentFrom absentFrom_cancelledDownload).mp
      (h _ 1 absentFrom_cancelledDownload)
  obtain rfl : m = 0 := by omega
  rcases hends with hfailed | hsuccessful
  · exact absurd hfailed (by decide)
  · exact absurd hsuccessful (by decide)

/-- **Without a manifest the loop never ends**: no row has the identifier `-1`. -/
theorem not_returns_of_no_manifest {Manifest : Type*} (download : Manifest → ℤ)
    {rows : ℕ → ℤ → Option DownloadRow} (hrows : ∀ n, rows n (-1) = none) :
    ¬ Polling.Returns pollDownload
      (queryDownload rows (updateModelUpdate none download)) := by
  have habsent : AbsentFrom (queryDownload rows (updateModelUpdate none download)) 0 := by
    intro m _
    rw [updateModelUpdate, queryDownload, hrows]
  rw [returns_iff_of_absentFrom habsent]
  rintro ⟨m, hm, -⟩
  exact absurd hm (Nat.not_lt_zero m)

/-! ### The threads for the network -/

/-- The threads of `AppExecutors.networkIO`. -/
def networkIOThreads : ℕ := 3

/-- **Three such downloads stop the work on the network.** When each thread follows a download that
is gone before the loop was told to end, whatever else is executed waits for ever: no task returns
whose loop does not. -/
theorem networkIO_exhausted {τ : Type*} [DecidableEq τ] {answers : τ → ℕ → DownloadAnswer}
    {pool pool' : Polling.Pool τ} {events : List (Polling.PoolEvent τ)}
    (hfull : pool.running.length = networkIOThreads)
    (hgone : ∀ task ∈ pool.running, ∃ n, AbsentFrom (answers task) n ∧
      ∀ m, m < n → ¬ EndsTracking (answers task m))
    (hreturned : ∀ task ∈ pool.running, .returned task ∈ events →
      Polling.Returns pollDownload (answers task))
    (hrun : ActionSystem.run (Polling.stepPool networkIOThreads) pool events = some pool') :
    pool' = ⟨pool.running, pool.waiting ++ Polling.executed events⟩ := by
  refine Polling.run_stepPool_of_full (Nat.le_of_eq hfull.symm) (fun task hmem hlast => ?_) hrun
  obtain ⟨n, habsent, hnone⟩ := hgone task hmem
  obtain ⟨m, hm, hends⟩ := (returns_iff_of_absentFrom habsent).mp (hreturned task hmem hlast)
  exact hnone m hm hends

end AdAway
