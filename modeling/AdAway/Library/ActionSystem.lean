import Mathlib.Data.List.Basic

/-!
# Runs of a partial step function

A system is a step function `step : σ → α → Option σ`: in state `s` the action `a` is either
disabled (`none`) or leads to one next state. Nondeterminism and concurrency live in the choice
of the action, so *every interleaving* is a quantifier over lists of actions.

The definitions are computable, so a counterexample is a concrete list of actions that the kernel
runs.

## Conditional invariants

`StepsMeet` restricts a run by a condition on the state *before* each step and on the action
taken. It never mentions the state after the step, so a condition cannot smuggle in the outcome.

## Main definitions

* `run` — the state after a list of actions
* `Reaches` — some run leads from one state to another
* `StepsMeet` — every step of a run meets a condition

## Main results

* `run_map` — a translation that commutes with steps commutes with runs
* `invariant_run`, `invariant_run_of_stepsMeet` — the invariant rules
* `stepsMeet_iff_forall_prefix_of` — a condition that is exact for each step is exact for a run
* `length_add_le_of_measure` — a decreasing measure bounds every run
* `exists_run_of_progress` — progress and a decreasing measure reach a final state
-/

namespace ActionSystem

variable {σ α : Type*} {step : σ → α → Option σ}

/-- The state after performing `as` from `s`, if every action was enabled in turn. -/
def run (step : σ → α → Option σ) : σ → List α → Option σ
  | s, [] => some s
  | s, a :: as => (step s a).bind fun t => run step t as

@[simp] theorem run_nil (s : σ) : run step s [] = some s := rfl

theorem run_cons (s : σ) (a : α) (as : List α) :
    run step s (a :: as) = (step s a).bind fun t => run step t as := rfl

theorem run_cons_eq_some {s u : σ} {a : α} {as : List α} :
    run step s (a :: as) = some u ↔ ∃ t, step s a = some t ∧ run step t as = some u := by
  rw [run_cons, Option.bind_eq_some_iff]

theorem run_append (s : σ) (as bs : List α) :
    run step s (as ++ bs) = (run step s as).bind fun t => run step t bs := by
  induction as generalizing s with
  | nil => rfl
  | cons a as ih =>
    rw [List.cons_append, run_cons, run_cons, Option.bind_assoc]
    exact congrArg _ (funext fun t => ih t)

theorem run_append_eq_some {s u : σ} {as bs : List α} :
    run step s (as ++ bs) = some u ↔ ∃ t, run step s as = some t ∧ run step t bs = some u := by
  rw [run_append, Option.bind_eq_some_iff]

/-- Some run leads from one state to the other. -/
def Reaches (step : σ → α → Option σ) (s u : σ) : Prop := ∃ as, run step s as = some u

theorem Reaches.refl (s : σ) : Reaches step s s := ⟨[], rfl⟩

theorem Reaches.trans {s t u : σ} (h : Reaches step s t) (h' : Reaches step t u) :
    Reaches step s u := by
  obtain ⟨as, has⟩ := h
  obtain ⟨bs, hbs⟩ := h'
  exact ⟨as ++ bs, run_append_eq_some.mpr ⟨t, has, hbs⟩⟩

/-- An action, and then a run. -/
theorem Reaches.head {s t u : σ} {a : α} (h : step s a = some t) (h' : Reaches step t u) :
    Reaches step s u := by
  obtain ⟨as, has⟩ := h'
  exact ⟨a :: as, run_cons_eq_some.mpr ⟨t, h, has⟩⟩

/-- When every action is always enabled, every list of actions is a run. -/
theorem exists_run_of_total (htotal : ∀ s a, (step s a).isSome = true) (s : σ) (as : List α) :
    ∃ u, run step s as = some u := by
  induction as generalizing s with
  | nil => exact ⟨s, rfl⟩
  | cons a as ih =>
    obtain ⟨t, ht⟩ := Option.isSome_iff_exists.mp (htotal s a)
    obtain ⟨u, hu⟩ := ih t
    exact ⟨u, run_cons_eq_some.mpr ⟨t, ht, hu⟩⟩

/-- A translation of states and actions that commutes with one step commutes with runs. -/
theorem run_map {σ' α' : Type*} {step' : σ' → α' → Option σ'} {f : σ → σ'} {g : α → α'}
    (hstep : ∀ s a, step' (f s) (g a) = (step s a).map f) (s : σ) (as : List α) :
    run step' (f s) (as.map g) = (run step s as).map f := by
  induction as generalizing s with
  | nil => rfl
  | cons a as ih =>
    rw [List.map_cons, run_cons, run_cons, hstep]
    cases step s a with
    | none => rfl
    | some t => exact ih t

/-! ### Invariants -/

/-- Each step of the run from `s` along `as` meets `ok`, a condition on the state before the step
and the action. -/
def StepsMeet (step : σ → α → Option σ) (ok : σ → α → Prop) : σ → List α → Prop
  | _, [] => True
  | s, a :: as => ok s a ∧ ∀ t, step s a = some t → StepsMeet step ok t as

instance instDecidableStepsMeet {ok : σ → α → Prop} [∀ s a, Decidable (ok s a)] (s : σ) :
    (as : List α) → Decidable (StepsMeet step ok s as)
  | [] => isTrue trivial
  | a :: as =>
    have hrest : ∀ t, Decidable (StepsMeet step ok t as) := fun t =>
      instDecidableStepsMeet t as
    have : Decidable (∀ t, step s a = some t → StepsMeet step ok t as) :=
      match step s a with
      | none => isTrue nofun
      | some t =>
        match hrest t with
        | isTrue ht => isTrue fun _ heq => Option.some.inj heq ▸ ht
        | isFalse ht => isFalse fun hall => ht (hall t rfl)
    inferInstanceAs (Decidable (ok s a ∧ ∀ t, step s a = some t → StepsMeet step ok t as))

/-- A condition on the actions alone is met when every action of the list meets it. -/
theorem stepsMeet_of_forall_mem {P : α → Prop} {s : σ} {as : List α} (h : ∀ a ∈ as, P a) :
    StepsMeet step (fun _ a => P a) s as := by
  induction as generalizing s with
  | nil => trivial
  | cons a as ih =>
    exact ⟨h a List.mem_cons_self, fun t _ => ih fun b hb => h b (List.mem_cons_of_mem a hb)⟩

/-- Along a run, a condition on the actions alone is one on the list of actions. -/
theorem stepsMeet_iff_forall_mem {P : α → Prop} {s u : σ} {as : List α}
    (h : run step s as = some u) : StepsMeet step (fun _ a => P a) s as ↔ ∀ a ∈ as, P a := by
  refine ⟨fun hok => ?_, stepsMeet_of_forall_mem⟩
  induction as generalizing s with
  | nil => exact nofun
  | cons a as ih =>
    obtain ⟨t, ht, hu⟩ := run_cons_eq_some.mp h
    exact List.forall_mem_cons.mpr ⟨hok.1, ih hu (hok.2 t ht)⟩

/-- Each step meets the condition exactly if the one at each cut of the list does. -/
theorem stepsMeet_iff_forall_append {ok : σ → α → Prop} {s : σ} {as : List α} :
    StepsMeet step ok s as ↔ ∀ before a after t, as = before ++ a :: after →
      run step s before = some t → ok t a := by
  induction as generalizing s with
  | nil => exact iff_of_true trivial fun before a after t happ => by simp at happ
  | cons b as ih =>
    constructor
    · rintro ⟨hok, hrest⟩ before a after t happ ht
      rcases before with _ | ⟨c, before⟩
      · obtain ⟨rfl, rfl⟩ := List.cons.inj happ
        exact Option.some.inj ht ▸ hok
      · obtain ⟨rfl, rfl⟩ := List.cons.inj happ
        obtain ⟨r, hr, ht⟩ := run_cons_eq_some.mp ht
        exact ih.mp (hrest r hr) before a after t rfl ht
    · refine fun h => ⟨h [] b as s rfl rfl, fun r hr => ih.mpr fun before a after t happ ht => ?_⟩
      exact h (b :: before) a after t (by rw [happ, List.cons_append])
        (run_cons_eq_some.mpr ⟨r, hr, ht⟩)

/-- **The invariant rule**, for runs restricted by a step condition. -/
theorem invariant_run_of_stepsMeet {ok : σ → α → Prop} {I : σ → Prop}
    (hstep : ∀ s a t, I s → ok s a → step s a = some t → I t) {s u : σ} {as : List α}
    (hs : I s) (hok : StepsMeet step ok s as) (h : run step s as = some u) : I u := by
  induction as generalizing s with
  | nil => exact Option.some.inj h ▸ hs
  | cons a as ih =>
    obtain ⟨t, ht, hu⟩ := run_cons_eq_some.mp h
    exact ih (hstep s a t hs hok.1 ht) (hok.2 t ht) hu

/-- **The invariant rule**, for runs whose actions have a property. -/
theorem invariant_run_of_forall_mem {P : α → Prop} {I : σ → Prop}
    (hstep : ∀ s a t, I s → P a → step s a = some t → I t) {s u : σ} {as : List α} (hs : I s)
    (has : ∀ a ∈ as, P a) (h : run step s as = some u) : I u :=
  invariant_run_of_stepsMeet hstep hs (stepsMeet_of_forall_mem has) h

/-- **The invariant rule**, for all runs. -/
theorem invariant_run {I : σ → Prop} (hstep : ∀ s a t, I s → step s a = some t → I t)
    {s u : σ} {as : List α} (hs : I s) (h : run step s as = some u) : I u := by
  induction as generalizing s with
  | nil => exact Option.some.inj h ▸ hs
  | cons a as ih =>
    obtain ⟨t, ht, hu⟩ := run_cons_eq_some.mp h
    exact ih (hstep s a t hs ht) hu

/-- **The rule of the exact condition.** Let `I` say when the property `P` holds for good: it is
kept by the steps that meet `ok`, and any other step from it breaks `P`. Then `P` holds in every
state of a run exactly if the steps of the run meet `ok`. -/
theorem stepsMeet_iff_forall_prefix_of {ok : σ → α → Prop} {I P : σ → Prop}
    (hsound : ∀ s, I s → P s) (hstep : ∀ s a t, I s → ok s a → step s a = some t → I t)
    (hexact : ∀ s a t, I s → step s a = some t → P t → ok s a) {s u : σ} {as : List α} (hs : I s)
    (h : run step s as = some u) :
    (∀ bs, bs <+: as → ∀ t, run step s bs = some t → P t) ↔ StepsMeet step ok s as := by
  induction as generalizing s with
  | nil =>
    refine iff_of_true (fun bs hbs t ht => ?_) trivial
    obtain rfl := List.prefix_nil.mp hbs
    exact Option.some.inj ht ▸ hsound s hs
  | cons a as ih =>
    obtain ⟨t, ht, hu⟩ := run_cons_eq_some.mp h
    constructor
    · intro hall
      have hP : P t := hall [a] (List.prefix_append [a] as) t (run_cons_eq_some.mpr ⟨t, ht, rfl⟩)
      have hok : ok s a := hexact s a t hs ht hP
      refine ⟨hok, fun t' ht' => ?_⟩
      obtain rfl := Option.some.inj (ht.symm.trans ht')
      refine (ih (hstep s a t hs hok ht) hu).mp fun bs hbs t' ht' => ?_
      exact hall (a :: bs) (List.cons_prefix_cons.mpr ⟨rfl, hbs⟩) t'
        (run_cons_eq_some.mpr ⟨t, ht, ht'⟩)
    · rintro ⟨hok, hrest⟩ bs hbs t' ht'
      have hI : I t := hstep s a t hs hok ht
      cases bs with
      | nil => exact Option.some.inj ht' ▸ hsound s hs
      | cons b bs =>
        obtain ⟨rfl, hprefix⟩ := List.cons_prefix_cons.mp hbs
        obtain ⟨t'', hstep', ht'⟩ := run_cons_eq_some.mp ht'
        obtain rfl := Option.some.inj (ht.symm.trans hstep')
        exact (ih hI hu).mpr (hrest t ht) bs hprefix t' ht'

/-- The rule for an invariant that a step keeps exactly if it meets `ok`. -/
theorem stepsMeet_iff_forall_prefix {ok : σ → α → Prop} {I : σ → Prop}
    (hstep : ∀ s a t, I s → step s a = some t → (I t ↔ ok s a)) {s u : σ} {as : List α} (hs : I s)
    (h : run step s as = some u) :
    (∀ bs, bs <+: as → ∀ t, run step s bs = some t → I t) ↔ StepsMeet step ok s as :=
  stepsMeet_iff_forall_prefix_of (fun _ => id)
    (fun s a t hs hok ht => (hstep s a t hs ht).mpr hok)
    (fun s a t hs ht hI => (hstep s a t hs ht).mp hI) hs h

/-! ### Termination -/

/-- A measure that every step decreases bounds the length of every run. -/
theorem length_add_le_of_measure {I : σ → Prop} {μ : σ → ℕ}
    (hstep : ∀ s a t, I s → step s a = some t → I t)
    (hμ : ∀ s a t, I s → step s a = some t → μ t < μ s) {s u : σ} {as : List α}
    (hs : I s) (h : run step s as = some u) : as.length + μ u ≤ μ s := by
  induction as generalizing s with
  | nil => cases h; simp
  | cons a as ih =>
    obtain ⟨t, ht, hu⟩ := run_cons_eq_some.mp h
    have hrest := ih (hstep s a t hs ht) hu
    have hdec := hμ s a t hs ht
    rw [List.length_cons]
    omega

/-- **Termination.** When every state that is not final has an enabled action, and every step
decreases the measure, a final state can be reached. -/
theorem exists_run_of_progress {I Final : σ → Prop} {μ : σ → ℕ}
    (hstep : ∀ s a t, I s → step s a = some t → I t)
    (hμ : ∀ s a t, I s → step s a = some t → μ t < μ s)
    (hprog : ∀ s, I s → ¬ Final s → ∃ a t, step s a = some t) {s : σ} (hs : I s) :
    ∃ as u, run step s as = some u ∧ Final u := by
  induction hn : μ s using Nat.strongRecOn generalizing s with
  | ind n ih =>
    by_cases hfin : Final s
    · exact ⟨[], s, rfl, hfin⟩
    · obtain ⟨a, t, ht⟩ := hprog s hs hfin
      obtain ⟨as, u, hu, huf⟩ := ih (μ t) (hn ▸ hμ s a t hs ht) (hstep s a t hs ht) rfl
      exact ⟨a :: as, u, run_cons_eq_some.mpr ⟨t, ht, hu⟩, huf⟩

end ActionSystem
