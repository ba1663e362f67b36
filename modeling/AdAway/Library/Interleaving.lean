import AdAway.Library.ActionSystem
import Mathlib.Logic.Function.Basic

/-!
# Threads over a shared store

Threads with local states `ι → lam` take turns on one shared store. The action of the system is
the thread that takes the next turn, so a list of threads is an interleaving and
`ActionSystem.run` executes it.

## Debts

A thread that destroys something other threads rely on, and restores it in a later turn, is in debt
meanwhile. `Settled Good Owes` says that the shared store is good or that some thread still owes
the repair. `Settled.step` reduces its preservation to the thread that takes the turn: the other
threads keep their debts because a turn leaves their local states alone.

## Main definitions

* `Interleaving.State`, `Interleaving.step` — the system
* `Interleaving.Settled` — good, or owed by a thread

## Main results

* `Interleaving.step_eq_some` — what one turn does
* `Interleaving.Settled.step`, `Interleaving.Settled.good` — the debt rule
-/

namespace Interleaving

/-- The local states of the threads and the shared store. -/
@[ext] structure State (ι lam σ : Type*) where
  /-- The local state of each thread. -/
  locals : ι → lam
  /-- The shared store. -/
  shared : σ

variable {ι lam σ : Type*} [DecidableEq ι]

/-- One turn of thread `i`, whose program is `f i`. -/
def step (f : ι → lam → σ → Option (lam × σ)) (s : State ι lam σ) (i : ι) :
    Option (State ι lam σ) :=
  (f i (s.locals i) s.shared).map fun p => ⟨Function.update s.locals i p.1, p.2⟩

theorem step_eq_some {f : ι → lam → σ → Option (lam × σ)} {s s' : State ι lam σ} {i : ι} :
    step f s i = some s' ↔
      ∃ l t, f i (s.locals i) s.shared = some (l, t) ∧ s' = ⟨Function.update s.locals i l, t⟩ := by
  rw [step, Option.map_eq_some_iff]
  constructor
  · rintro ⟨⟨l, t⟩, h, rfl⟩
    exact ⟨l, t, h, rfl⟩
  · rintro ⟨l, t, h, rfl⟩
    exact ⟨(l, t), h, rfl⟩

/-- A property of each local state needs a look at the thread that takes the turn only. -/
theorem forall_update {P : ι → lam → Prop} {locals : ι → lam} {i : ι} {l : lam}
    (h : ∀ j, P j (locals j)) (hi : P i l) : ∀ j, P j (Function.update locals i l j) := by
  intro j
  rcases eq_or_ne j i with rfl | hne
  · rwa [Function.update_self]
  · rw [Function.update_of_ne hne]
    exact h j

/-- The store is good, or some thread owes the repair. -/
def Settled (Good : σ → Prop) (Owes : ι → lam → Prop) (s : State ι lam σ) : Prop :=
  Good s.shared ∨ ∃ j, Owes j (s.locals j)

/-- **The debt rule.** A turn keeps the store good or owed, if its own thread does. -/
theorem Settled.step {Good : σ → Prop} {Owes : ι → lam → Prop} {s : State ι lam σ} {i : ι}
    {l : lam} {t : σ} (hs : Settled Good Owes s)
    (hturn : Good s.shared ∨ Owes i (s.locals i) → Good t ∨ Owes i l) :
    Settled Good Owes ⟨Function.update s.locals i l, t⟩ := by
  have hself : Good t ∨ Owes i l → Settled Good Owes ⟨Function.update s.locals i l, t⟩ := by
    rintro (hg | ho)
    · exact Or.inl hg
    · refine Or.inr ⟨i, ?_⟩
      show Owes i (Function.update s.locals i l i)
      rwa [Function.update_self]
  rcases hs with hg | ⟨j, hj⟩
  · exact hself (hturn (Or.inl hg))
  · rcases eq_or_ne j i with rfl | hne
    · exact hself (hturn (Or.inr hj))
    · refine Or.inr ⟨j, ?_⟩
      show Owes j (Function.update s.locals i l j)
      rwa [Function.update_of_ne hne]

omit [DecidableEq ι] in
/-- Without debts the store is good. -/
theorem Settled.good {Good : σ → Prop} {Owes : ι → lam → Prop} {s : State ι lam σ}
    (hs : Settled Good Owes s) (hno : ∀ j, ¬ Owes j (s.locals j)) : Good s.shared :=
  hs.resolve_right fun ⟨j, hj⟩ => hno j hj

end Interleaving
