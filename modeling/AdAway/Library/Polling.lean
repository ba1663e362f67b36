import AdAway.Library.ActionSystem
import Mathlib.Data.List.Basic
import Mathlib.Data.Nat.Find

/-!
# Tasks that poll

A task asks the world for an answer again and again, until an answer tells it to stop. Nothing in
the task bounds how often it asks: whether it returns is a fact about the answers. Here a loop is
given fuel, and it returns when some fuel is enough.

A task that does not return keeps its thread. In a pool with a fixed number of threads this is felt
by others: once each thread has such a task, whatever is executed later waits for ever.

## Main definitions

* `Polling.Turn` — what the loop does with one answer
* `Polling.run`, `Polling.Returns` — the loop, and whether it ends
* `Polling.Pool`, `Polling.stepPool` — a pool with a fixed number of threads

## Main results

* `Polling.run_eq_some_iff` — what a loop reports
* `Polling.returns_iff`, `Polling.returns_iff_of_silent` — which loops return
* `Polling.run_stepPool_of_full` — a pool whose threads are all kept starts nothing more
-/

namespace Polling

variable {α β τ : Type*}

/-! ### Loops -/

/-- What one turn of the loop does: what it reports, and whether it is the last one. -/
structure Turn (β : Type*) where
  reports : List β
  finished : Bool

section Loop

variable (turn : α → Turn β) (answers : ℕ → α)

/-- The loop, from the `n`-th answer on: what it has reported when it ends. -/
def run : ℕ → ℕ → Option (List β)
  | 0, _ => none
  | fuel + 1, n =>
    if (turn (answers n)).finished then some (turn (answers n)).reports
    else (run fuel (n + 1)).map fun reports => (turn (answers n)).reports ++ reports

/-- The loop ends. -/
def Returns : Prop := ∃ fuel, (run turn answers fuel 0).isSome = true

variable {turn answers}

/-- **What a loop reports** when it ends: its turns up to the first answer that tells it to. -/
theorem run_eq_some_iff {fuel n : ℕ} {reports : List β} :
    run turn answers fuel n = some reports ↔
      ∃ m, m < fuel ∧ (turn (answers (n + m))).finished = true ∧
        (∀ j, j < m → (turn (answers (n + j))).finished = false) ∧
        reports = (List.range (m + 1)).flatMap fun j => (turn (answers (n + j))).reports := by
  induction fuel generalizing n reports with
  | zero => simp [run]
  | succ fuel ih =>
    have hshift : ∀ j, n + 1 + j = n + (j + 1) := fun j => by omega
    have hreports : ∀ m,
        (List.range (m + 1 + 1)).flatMap (fun j => (turn (answers (n + j))).reports) =
          (turn (answers n)).reports ++
            (List.range (m + 1)).flatMap fun j => (turn (answers (n + 1 + j))).reports := by
      intro m
      rw [List.range_succ_eq_map, List.flatMap_cons, List.flatMap_map]
      simp only [hshift, Nat.add_zero]
    rw [run]
    split
    next hfinished =>
      constructor
      · intro h
        cases h
        exact ⟨0, by omega, hfinished, fun j hj => absurd hj (Nat.not_lt_zero j), by simp⟩
      · rintro ⟨m, -, -, hbefore, rfl⟩
        cases m with
        | zero => simp
        | succ m =>
          have hcontinues := hbefore 0 (by omega)
          rw [Nat.add_zero, hfinished] at hcontinues
          cases hcontinues
    next hfinished =>
      rw [Option.map_eq_some_iff]
      constructor
      · rintro ⟨rest, hrest, rfl⟩
        obtain ⟨m, hm, hlast, hbefore, rfl⟩ := ih.mp hrest
        refine ⟨m + 1, by omega, by rwa [← hshift], fun j hj => ?_, (hreports m).symm⟩
        cases j with
        | zero => exact Bool.eq_false_iff.mpr hfinished
        | succ j =>
          rw [← hshift]
          exact hbefore j (by omega)
      · rintro ⟨m, hm, hlast, hbefore, rfl⟩
        cases m with
        | zero => exact absurd hlast hfinished
        | succ m =>
          refine ⟨_, ih.mpr ⟨m, by omega, by rwa [hshift], fun j hj => ?_, rfl⟩, (hreports m).symm⟩
          rw [hshift]
          exact hbefore (j + 1) (by omega)

/-- The loop ends if there is fuel up to an answer that tells it to. -/
theorem isSome_run_iff {fuel n : ℕ} :
    (run turn answers fuel n).isSome = true ↔
      ∃ m, m < fuel ∧ (turn (answers (n + m))).finished = true := by
  rw [Option.isSome_iff_exists]
  constructor
  · rintro ⟨reports, hrun⟩
    obtain ⟨m, hm, hlast, -, -⟩ := run_eq_some_iff.mp hrun
    exact ⟨m, hm, hlast⟩
  · rintro ⟨m, hm, hlast⟩
    -- it ends with the first of them
    have hexists : ∃ m, (turn (answers (n + m))).finished = true := ⟨m, hlast⟩
    have hfirst : Nat.find hexists < fuel := Nat.lt_of_le_of_lt (Nat.find_min' hexists hlast) hm
    exact ⟨_, run_eq_some_iff.mpr ⟨Nat.find hexists, hfirst, Nat.find_spec hexists,
      fun j hj => Bool.eq_false_iff.mpr (Nat.find_min hexists hj), rfl⟩⟩

/-- **Which loops return**: those that are told to. -/
theorem returns_iff : Returns turn answers ↔ ∃ n, (turn (answers n)).finished = true := by
  constructor
  · rintro ⟨fuel, hfuel⟩
    obtain ⟨m, -, hlast⟩ := isSome_run_iff.mp hfuel
    exact ⟨0 + m, hlast⟩
  · rintro ⟨n, hlast⟩
    exact ⟨n + 1, isSome_run_iff.mpr ⟨n, by omega, by rwa [Nat.zero_add]⟩⟩

/-- When no answer from the `n`-th on tells it to end, an answer before that must. -/
theorem returns_iff_of_silent {n : ℕ}
    (hsilent : ∀ m, n ≤ m → (turn (answers m)).finished = false) :
    Returns turn answers ↔ ∃ m, m < n ∧ (turn (answers m)).finished = true := by
  rw [returns_iff]
  constructor
  · rintro ⟨m, hlast⟩
    refine ⟨m, ?_, hlast⟩
    by_contra hm
    rw [hsilent m (Nat.not_lt.mp hm)] at hlast
    cases hlast
  · rintro ⟨m, -, hlast⟩
    exact ⟨m, hlast⟩

end Loop

/-! ### Pools -/

/-- A pool: the tasks on its threads, and the tasks that wait for a thread. -/
structure Pool (τ : Type*) where
  running : List τ
  waiting : List τ
  deriving DecidableEq, Repr

/-- What happens to a pool. -/
inductive PoolEvent (τ : Type*)
  /-- A task is given to the pool. -/
  | execute (task : τ)
  /-- A task returns, and its thread takes the next one. -/
  | returned (task : τ)
  deriving DecidableEq, Repr

variable [DecidableEq τ]

/-- One event, in a pool with this many threads. -/
def stepPool (threads : ℕ) (pool : Pool τ) : PoolEvent τ → Option (Pool τ)
  | .execute task =>
    if pool.running.length < threads then some { pool with running := pool.running ++ [task] }
    else some { pool with waiting := pool.waiting ++ [task] }
  | .returned task =>
    if task ∈ pool.running then
      some ⟨pool.running.erase task ++ pool.waiting.take 1, pool.waiting.drop 1⟩
    else none

/-- The tasks that are given to the pool. -/
def executed (events : List (PoolEvent τ)) : List τ :=
  events.filterMap fun
    | .execute task => some task
    | .returned _ => none

theorem stepPool_of_full {threads : ℕ} {pool pool' : Pool τ} {event : PoolEvent τ}
    (hfull : threads ≤ pool.running.length) (hkept : ∀ task ∈ pool.running, event ≠ .returned task)
    (h : stepPool threads pool event = some pool') :
    pool' = ⟨pool.running, pool.waiting ++ executed [event]⟩ := by
  cases event with
  | execute task =>
    rw [stepPool, if_neg (Nat.not_lt.mpr hfull)] at h
    cases h
    rfl
  | returned task =>
    rw [stepPool] at h
    split at h
    next hmem => exact absurd rfl (hkept task hmem)
    next => cases h

/-- **A pool whose threads are all kept starts nothing more.** -/
theorem run_stepPool_of_full {threads : ℕ} {pool pool' : Pool τ} {events : List (PoolEvent τ)}
    (hfull : threads ≤ pool.running.length)
    (hkept : ∀ task ∈ pool.running, .returned task ∉ events)
    (h : ActionSystem.run (stepPool threads) pool events = some pool') :
    pool' = ⟨pool.running, pool.waiting ++ executed events⟩ := by
  induction events generalizing pool with
  | nil =>
    cases h
    rw [executed, List.filterMap_nil, List.append_nil]
  | cons event events ih =>
    obtain ⟨next, hstep, hrest⟩ := ActionSystem.run_cons_eq_some.mp h
    have hevent : ∀ task ∈ pool.running, event ≠ .returned task := fun task hmem heq =>
      hkept task hmem (heq ▸ List.mem_cons_self)
    obtain rfl := stepPool_of_full hfull hevent hstep
    have hlater : ∀ task ∈ pool.running, .returned task ∉ events := fun task hmem hlast =>
      hkept task hmem (List.mem_cons_of_mem _ hlast)
    have hend := ih (by exact hfull) (by exact hlater) hrest
    rw [hend, List.append_assoc, executed, executed, ← List.filterMap_append]
    rfl

end Polling
