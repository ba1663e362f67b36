import Mathlib.Data.Int.Order.Basic
import Mathlib.Data.List.Lex
import Mathlib.Data.List.Sort
import Mathlib.Order.Lattice

/-!
# Comparison functions

A comparison function answers with a number, of which only the sign counts. A sorting algorithm
relies on more than the signs it has seen: that swapping the arguments swaps the sign, that the
order is transitive, and that two values which compare as equal compare alike with all others.

All of it holds at once when the function compares keys of a linear order, and this is how it is
proved: the key says what the order is, too. The keys of lists are the lists of keys, and their
order is the lexicographic one.

## Main definitions

* `Comparator.Lawful` — what a sorting algorithm relies on
* `Comparator.Compares` — a function that compares keys
* `Comparator.Before` — the lexicographic order, in terms of what two lists have in common

## Main results

* `Comparator.Compares.lawful` — comparing keys is lawful
* `Comparator.Compares.list`, `Comparator.list_neg_iff` — from the elements to lists, element by
  element
* `Comparator.Lawful.pairwise_insertionSort` — sorting leaves no pair out of order
-/

namespace Comparator

variable {α β : Type*}

/-- What a sorting algorithm relies on. -/
structure Lawful (cmp : α → α → ℤ) : Prop where
  refl : ∀ a, cmp a a = 0
  sign_swap : ∀ a b, (cmp a b).sign = -(cmp b a).sign
  trans : ∀ a b c, cmp a b ≤ 0 → cmp b c ≤ 0 → cmp a c ≤ 0
  trans_lt : ∀ a b c, cmp a b < 0 → cmp b c < 0 → cmp a c < 0
  congr : ∀ a b, cmp a b = 0 → ∀ c, (cmp a c).sign = (cmp b c).sign

theorem Lawful.total {cmp : α → α → ℤ} (h : Lawful cmp) (a b : α) :
    cmp a b ≤ 0 ∨ cmp b a ≤ 0 := by
  by_contra hboth
  obtain ⟨hab, hba⟩ := not_or.mp hboth
  have hswap := h.sign_swap a b
  rw [Int.sign_eq_one_of_pos (not_le.mp hab), Int.sign_eq_one_of_pos (not_le.mp hba)] at hswap
  omega

/-- **Sorting leaves no pair out of order.** -/
theorem Lawful.pairwise_insertionSort {cmp : α → α → ℤ} (h : Lawful cmp) (l : List α) :
    (l.insertionSort fun a b => cmp a b ≤ 0).Pairwise fun a b => cmp a b ≤ 0 :=
  have : Std.Total fun a b => cmp a b ≤ 0 := ⟨h.total⟩
  have : IsTrans α fun a b => cmp a b ≤ 0 := ⟨h.trans⟩
  List.pairwise_insertionSort _ l

/-- The function compares the keys `f`. -/
structure Compares [LinearOrder β] (cmp : α → α → ℤ) (f : α → β) : Prop where
  neg_iff : ∀ a b, cmp a b < 0 ↔ f a < f b
  pos_iff : ∀ a b, 0 < cmp a b ↔ f b < f a

namespace Compares

variable [LinearOrder β] {cmp : α → α → ℤ} {f : α → β} (h : Compares cmp f)
include h

theorem eq_zero_iff (a b : α) : cmp a b = 0 ↔ f a = f b := by
  constructor
  · intro hzero
    have hlt : ¬ f a < f b := fun hlt => by
      have := (h.neg_iff a b).mpr hlt
      omega
    have hgt : ¬ f b < f a := fun hgt => by
      have := (h.pos_iff a b).mpr hgt
      omega
    exact le_antisymm (not_lt.mp hgt) (not_lt.mp hlt)
  · intro heq
    have hneg : ¬ cmp a b < 0 := fun hneg => ((h.neg_iff a b).mp hneg).ne heq
    have hpos : ¬ 0 < cmp a b := fun hpos => ((h.pos_iff a b).mp hpos).ne' heq
    omega

theorem le_zero_iff (a b : α) : cmp a b ≤ 0 ↔ f a ≤ f b := by
  rw [← not_lt, h.pos_iff, not_lt]

/-- The sign is known from the keys. -/
theorem sign_eq_of_key_eq {a b a' b' : α} (ha : f a = f a') (hb : f b = f b') :
    (cmp a b).sign = (cmp a' b').sign := by
  rcases lt_trichotomy (f a) (f b) with hlt | heq | hgt
  · have hlt' : f a' < f b' := by rwa [← ha, ← hb]
    rw [Int.sign_eq_neg_one_of_neg ((h.neg_iff a b).mpr hlt),
      Int.sign_eq_neg_one_of_neg ((h.neg_iff a' b').mpr hlt')]
  · have heq' : f a' = f b' := by rwa [← ha, ← hb]
    rw [(h.eq_zero_iff a b).mpr heq, (h.eq_zero_iff a' b').mpr heq']
  · have hgt' : f b' < f a' := by rwa [← ha, ← hb]
    rw [Int.sign_eq_one_of_pos ((h.pos_iff a b).mpr hgt),
      Int.sign_eq_one_of_pos ((h.pos_iff a' b').mpr hgt')]

theorem sign_swap (a b : α) : (cmp a b).sign = -(cmp b a).sign := by
  rcases lt_trichotomy (f a) (f b) with hlt | heq | hgt
  · rw [Int.sign_eq_neg_one_of_neg ((h.neg_iff a b).mpr hlt),
      Int.sign_eq_one_of_pos ((h.pos_iff b a).mpr hlt)]
  · rw [(h.eq_zero_iff a b).mpr heq, (h.eq_zero_iff b a).mpr heq.symm]
    rfl
  · rw [Int.sign_eq_one_of_pos ((h.pos_iff a b).mpr hgt),
      Int.sign_eq_neg_one_of_neg ((h.neg_iff b a).mpr hgt)]
    rfl

/-- **Comparing keys is lawful.** -/
theorem lawful : Lawful cmp where
  refl a := (h.eq_zero_iff a a).mpr rfl
  sign_swap := h.sign_swap
  trans a b c hab hbc := by
    rw [h.le_zero_iff] at hab hbc ⊢
    exact hab.trans hbc
  trans_lt a b c hab hbc := by
    rw [h.neg_iff] at hab hbc ⊢
    exact hab.trans hbc
  congr a b hab c := h.sign_eq_of_key_eq ((h.eq_zero_iff a b).mp hab) rfl

/-- A comparison of values by what is compared of them. -/
theorem comap {γ : Type*} (g : γ → α) :
    Compares (fun a b => cmp (g a) (g b)) (f ∘ g) where
  neg_iff a b := h.neg_iff (g a) (g b)
  pos_iff a b := h.pos_iff (g a) (g b)

/-- **From the elements to lists.** The first elements that do not compare as equal decide, and else
the shorter list comes first; the number for that does not matter. -/
theorem list {cmpList : List α → List α → ℤ} (hnil : cmpList [] [] = 0)
    (hshort : ∀ b t, cmpList [] (b :: t) < 0) (hlong : ∀ a s, 0 < cmpList (a :: s) [])
    (hcons : ∀ a s b t, cmpList (a :: s) (b :: t) =
      if cmp a b ≠ 0 then cmp a b else cmpList s t) :
    Compares cmpList (List.map f) := by
  have hboth : ∀ s t, (cmpList s t < 0 ↔ s.map f < t.map f) ∧
      (0 < cmpList s t ↔ t.map f < s.map f) := by
    intro s
    induction s with
    | nil =>
      intro t
      cases t with
      | nil => simp [hnil]
      | cons b t =>
        have := hshort b t
        exact ⟨iff_of_true this (List.nil_lt_cons _ _),
          iff_of_false (by omega) (List.not_lt_nil _)⟩
    | cons a s ih =>
      intro t
      cases t with
      | nil =>
        have := hlong a s
        exact ⟨iff_of_false (by omega) (List.not_lt_nil _),
          iff_of_true this (List.nil_lt_cons _ _)⟩
      | cons b t =>
        rw [hcons, List.map_cons, List.map_cons, List.cons_lt_cons_iff, List.cons_lt_cons_iff]
        by_cases hzero : cmp a b = 0
        · have hkey : f a = f b := (h.eq_zero_iff a b).mp hzero
          rw [if_neg (not_not_intro hzero), hkey]
          simpa using ih t
        · have hkey : f a ≠ f b := fun heq => hzero ((h.eq_zero_iff a b).mpr heq)
          rw [if_pos hzero, h.neg_iff, h.pos_iff]
          exact ⟨⟨Or.inl, fun hor => hor.resolve_right fun heq => hkey heq.1⟩,
            ⟨Or.inl, fun hor => hor.resolve_right fun heq => hkey heq.1.symm⟩⟩
  exact ⟨fun s t => (hboth s t).1, fun s t => (hboth s t).2⟩

end Compares

/-! ### Lists of which nothing is hidden -/

/-- The first list is the beginning of the second, or has the smaller element where they begin to
differ. -/
def Before (cmp : α → α → ℤ) (s t : List α) : Prop :=
  (∃ a rest, t = s ++ a :: rest) ∨
    ∃ common a b rest rest', s = common ++ a :: rest ∧ t = common ++ b :: rest' ∧ cmp a b < 0

theorem before_cons_iff {cmp : α → α → ℤ} {a b : α} {s t : List α} :
    Before cmp (a :: s) (b :: t) ↔ cmp a b < 0 ∨ a = b ∧ Before cmp s t := by
  constructor
  · rintro (⟨c, rest, heq⟩ | ⟨common, c, d, rest, rest', hs, ht, hneg⟩)
    · obtain ⟨rfl, rfl⟩ := List.cons_eq_cons.mp heq
      exact Or.inr ⟨rfl, Or.inl ⟨c, rest, rfl⟩⟩
    · cases common with
      | nil =>
        obtain ⟨rfl, rfl⟩ := List.cons_eq_cons.mp hs
        obtain ⟨rfl, rfl⟩ := List.cons_eq_cons.mp ht
        exact Or.inl hneg
      | cons e common =>
        obtain ⟨rfl, rfl⟩ := List.cons_eq_cons.mp hs
        obtain ⟨rfl, rfl⟩ := List.cons_eq_cons.mp ht
        exact Or.inr ⟨rfl, Or.inr ⟨common, c, d, rest, rest', rfl, rfl, hneg⟩⟩
  · rintro (hneg | ⟨rfl, ⟨c, rest, rfl⟩ | ⟨common, c, d, rest, rest', rfl, rfl, hneg⟩⟩)
    · exact Or.inr ⟨[], a, b, s, t, rfl, rfl, hneg⟩
    · exact Or.inl ⟨c, rest, rfl⟩
    · exact Or.inr ⟨a :: common, c, d, rest, rest', rfl, rfl, hneg⟩

/-- A comparison of lists, element by element, says which one is before the other, if elements
compare as equal only when they are. -/
theorem list_neg_iff {cmp : α → α → ℤ} {cmpList : List α → List α → ℤ}
    (heq : ∀ a b, cmp a b = 0 ↔ a = b) (hnil : cmpList [] [] = 0)
    (hshort : ∀ b t, cmpList [] (b :: t) < 0) (hlong : ∀ a s, 0 < cmpList (a :: s) [])
    (hcons : ∀ a s b t, cmpList (a :: s) (b :: t) =
      if cmp a b ≠ 0 then cmp a b else cmpList s t) :
    ∀ s t, cmpList s t < 0 ↔ Before cmp s t := by
  intro s
  induction s with
  | nil =>
    intro t
    cases t with
    | nil => simp [hnil, Before]
    | cons b t => exact iff_of_true (hshort b t) (Or.inl ⟨b, t, rfl⟩)
  | cons a s ih =>
    intro t
    cases t with
    | nil =>
      have := hlong a s
      exact iff_of_false (by omega) (by simp [Before])
    | cons b t =>
      rw [hcons, before_cons_iff, ← ih t]
      by_cases hzero : cmp a b = 0
      · rw [if_neg (not_not_intro hzero), hzero]
        simp [(heq a b).mp hzero]
      · rw [if_pos hzero]
        simp [mt (heq a b).mpr hzero]

end Comparator
