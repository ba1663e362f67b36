import Mathlib.Algebra.BigOperators.Group.List.Basic
import Mathlib.Data.List.Chain

/-!
# Texts split at separators

A text is split at its separators, and no part may be empty, or begin or end with one of some
characters. This is a rule on neighbours alone, once the text stands between two separators: no two
separators in a row, and none of these characters beside one.

Such a rule is easier to carry from one text to another than a rule on parts.

## Main definitions

* `Separated.EdgesOk` — the rule on a part
* `Separated.Fits` — the rule on neighbours
* `Separated.dropFinal` — a text without its final separator

## Main results

* `Separated.forall_edgesOk_iff` — the two rules agree
* `Separated.forall_edgesOk_dropFinal_iff` — the same when a final separator is dropped
* `Separated.length_splitOnP` — how many parts there are
-/

namespace Separated

variable {α β : Type*}

/-- A part is not empty, and neither begins nor ends with a character that may not be at an edge. -/
def EdgesOk (edge : α → Bool) (part : List α) : Prop :=
  part ≠ [] ∧ (∀ a ∈ part.head?, edge a = false) ∧ ∀ a ∈ part.getLast?, edge a = false

/-- One character may follow another. -/
def Fits (sep edge : α → Bool) (a b : α) : Prop :=
  (sep a = true → sep b = false ∧ edge b = false) ∧ (sep b = true → edge a = false)

variable {sep edge : α → Bool}

theorem fits_of_sep {a b : α} (ha : sep a = true) :
    Fits sep edge a b ↔ sep b = false ∧ edge b = false := by
  constructor
  · intro h
    exact h.1 ha
  · intro h
    refine ⟨fun _ => h, fun hb => ?_⟩
    rw [h.1] at hb
    exact absurd hb (by simp)

theorem fits_of_not_sep {a b : α} (ha : sep a = false) :
    Fits sep edge a b ↔ (sep b = true → edge a = false) := by
  simp [Fits, ha]

/-- What stands first in a text, seen from its first part. -/
theorem head_of_splitOnP {s part : List α} {parts : List (List α)} {q : α} (hq : sep q = true)
    (h : s.splitOnP sep = part :: parts) :
    ∃ y, (s ++ [q]).head? = some y ∧
      (part = [] ∧ sep y = true ∨ part.head? = some y ∧ sep y = false) := by
  cases s with
  | nil =>
    rw [List.splitOnP_nil] at h
    obtain ⟨rfl, -⟩ := List.cons.inj h
    exact ⟨q, rfl, Or.inl ⟨rfl, hq⟩⟩
  | cons c s =>
    refine ⟨c, rfl, ?_⟩
    rw [List.splitOnP_cons_eq_if_modifyHead] at h
    split at h
    next hc =>
      obtain ⟨rfl, -⟩ := List.cons.inj h
      exact Or.inl ⟨rfl, hc⟩
    next hc =>
      obtain ⟨part', parts', hparts⟩ := List.exists_cons_of_ne_nil (List.splitOnP_ne_nil sep s)
      rw [hparts, List.modifyHead_cons] at h
      obtain ⟨rfl, -⟩ := List.cons.inj h
      exact Or.inr ⟨rfl, Bool.eq_false_iff.mpr hc⟩

/-- The rule on neighbours, in a text that is followed by a separator but may begin inside a
part. -/
theorem isChain_append_iff {s part : List α} {parts : List (List α)} {q : α} (hq : sep q = true)
    (h : s.splitOnP sep = part :: parts) :
    List.IsChain (Fits sep edge) (s ++ [q]) ↔
      (∀ a ∈ part.getLast?, edge a = false) ∧ ∀ part ∈ parts, EdgesOk edge part := by
  induction s generalizing part parts with
  | nil =>
    rw [List.splitOnP_nil] at h
    obtain ⟨rfl, rfl⟩ := List.cons.inj h
    simp
  | cons c s ih =>
    obtain ⟨part', parts', hparts⟩ := List.exists_cons_of_ne_nil (List.splitOnP_ne_nil sep s)
    obtain ⟨y, hy, hpart⟩ := head_of_splitOnP hq hparts
    have hhead : (∀ z ∈ (s ++ [q]).head?, Fits sep edge c z) ↔ Fits sep edge c y := by
      simp [hy]
    rw [List.cons_append, List.isChain_cons, ih hparts, hhead]
    rw [List.splitOnP_cons_eq_if_modifyHead, hparts] at h
    split at h
    next hc =>
      -- a new part begins behind the separator
      obtain ⟨rfl, rfl⟩ := List.cons.inj h
      rw [fits_of_sep hc, List.forall_mem_cons]
      rcases hpart with ⟨rfl, hsep⟩ | ⟨hfirst, hsep⟩
      · simp [hsep, EdgesOk]
      · have hne : part' ≠ [] := by
          rintro rfl
          exact absurd hfirst (by simp)
        simp only [hsep, EdgesOk, hfirst, hne, true_and, ne_eq, not_false_eq_true,
          Option.mem_def, Option.some.injEq, forall_eq', List.getLast?_nil, reduceCtorEq,
          false_implies, implies_true, and_assoc]
    next hc =>
      -- the first part is longer by one character
      rw [List.modifyHead_cons] at h
      obtain ⟨rfl, rfl⟩ := List.cons.inj h
      rw [fits_of_not_sep (Bool.eq_false_iff.mpr hc), ← and_assoc]
      refine and_congr_left fun _ => ?_
      rcases hpart with ⟨rfl, hsep⟩ | ⟨hfirst, hsep⟩
      · simp [hsep]
      · obtain ⟨part'', rfl⟩ := List.head?_eq_some_iff.mp hfirst
        simp [hsep, List.getLast?_cons_cons]

/-- **The rule on the parts is a rule on neighbours**, in a text between two separators. -/
theorem forall_edgesOk_iff {s : List α} {p q : α} (hp : sep p = true) (hq : sep q = true) :
    (∀ part ∈ s.splitOnP sep, EdgesOk edge part) ↔
      List.IsChain (Fits sep edge) (p :: (s ++ [q])) := by
  have hsplit : (p :: s).splitOnP sep = [] :: s.splitOnP sep := by
    rw [List.splitOnP_cons_eq_if_modifyHead, if_pos hp]
  rw [← List.cons_append, isChain_append_iff hq hsplit]
  simp

/-- A text without its final separator. -/
def dropFinal (sep : α → Bool) (s : List α) : List α :=
  if s.getLast?.any sep then s.dropLast else s

/-- The rule when a final separator is dropped: the text itself, behind a separator, follows the
rule on neighbours, and may end. -/
theorem forall_edgesOk_dropFinal_iff {s : List α} {p : α} (hp : sep p = true)
    (hedge : ∀ a, sep a = true → edge a = false) :
    (∀ part ∈ (dropFinal sep s).splitOnP sep, EdgesOk edge part) ↔
      s ≠ [] ∧ List.IsChain (Fits sep edge) (p :: s) ∧ ∀ a ∈ s.getLast?, edge a = false := by
  rcases List.eq_nil_or_concat s with rfl | ⟨s, a, rfl⟩
  · simp [dropFinal, EdgesOk]
  · rw [List.concat_eq_append, dropFinal]
    cases ha : sep a with
    | true =>
      have hdrop : ((s ++ [a]).getLast?.any sep) = true := by simp [ha]
      rw [if_pos hdrop, List.dropLast_concat, forall_edgesOk_iff hp ha]
      simp [hedge a ha]
    | false =>
      have hkeep : ¬ ((s ++ [a]).getLast?.any sep) = true := by simp [ha]
      have hlast : Fits sep edge a p ↔ edge a = false := by
        rw [fits_of_not_sep ha]
        simp [hp]
      have hend : (p :: (s ++ [a])).getLast? = some a := by
        rw [← List.cons_append, List.getLast?_concat]
      rw [if_neg hkeep, forall_edgesOk_iff hp hp, ← List.cons_append, List.isChain_append, hend]
      simp [hlast]

/-- What holds of the characters of all parts. -/
theorem forall_mem_splitOnP_iff {s : List α} {P : α → Prop} :
    (∀ part ∈ s.splitOnP sep, ∀ a ∈ part, P a) ↔ ∀ a ∈ s, sep a = false → P a := by
  induction s with
  | nil => simp
  | cons c s ih =>
    obtain ⟨part, parts, hparts⟩ := List.exists_cons_of_ne_nil (List.splitOnP_ne_nil sep s)
    rw [List.forall_mem_cons, ← ih, List.splitOnP_cons_eq_if_modifyHead, hparts]
    split
    next hc => simp [hc]
    next hc => simp [hc, and_assoc]

theorem forall_mem_dropFinal_iff {s : List α} {P : α → Prop} :
    (∀ a ∈ dropFinal sep s, sep a = false → P a) ↔ ∀ a ∈ s, sep a = false → P a := by
  rcases List.eq_nil_or_concat s with rfl | ⟨s, a, rfl⟩
  · rfl
  · rw [List.concat_eq_append, dropFinal]
    split
    next ha =>
      have ha' : sep a = true := by simpa using ha
      rw [List.dropLast_concat, List.forall_mem_append]
      simp [ha']
    next => rfl

/-- A text has one part more than it has separators. -/
theorem length_splitOnP (s : List α) :
    (s.splitOnP sep).flatten.length + (s.splitOnP sep).length = s.length + 1 := by
  induction s with
  | nil => rfl
  | cons c s ih =>
    obtain ⟨part, parts, hparts⟩ := List.exists_cons_of_ne_nil (List.splitOnP_ne_nil sep s)
    rw [hparts] at ih
    rw [List.splitOnP_cons_eq_if_modifyHead, hparts]
    simp only [List.flatten_cons, List.length_append, List.length_cons] at ih
    split
    · simp only [List.flatten_cons, List.length_append, List.length_cons, List.length_nil]
      omega
    · simp only [List.modifyHead_cons, List.flatten_cons, List.length_append, List.length_cons]
      omega

/-- A text whose parts are not empty has about twice as many characters as parts. -/
theorem two_mul_length_splitOnP_le {s : List α} (hne : ∀ part ∈ s.splitOnP sep, part ≠ []) :
    2 * (s.splitOnP sep).length ≤ s.length + 1 := by
  have hcount := List.length_le_sum_of_one_le ((s.splitOnP sep).map List.length) (by
    intro n hn
    obtain ⟨part, hpart, rfl⟩ := List.mem_map.mp hn
    exact List.length_pos_of_ne_nil (hne part hpart))
  rw [← List.length_flatten, List.length_map] at hcount
  have htotal : (s.splitOnP sep).flatten.length + (s.splitOnP sep).length = s.length + 1 :=
    length_splitOnP s
  omega

theorem splitOnP_map (f : β → α) (s : List β) :
    (s.map f).splitOnP sep = (s.splitOnP (sep ∘ f)).map (List.map f) := by
  induction s with
  | nil => rfl
  | cons c s ih =>
    obtain ⟨part, parts, hparts⟩ := List.exists_cons_of_ne_nil (List.splitOnP_ne_nil (sep ∘ f) s)
    rw [List.map_cons, List.splitOnP_cons_eq_if_modifyHead, List.splitOnP_cons_eq_if_modifyHead, ih,
      hparts, Function.comp_apply]
    split <;> rfl

theorem dropFinal_map (f : β → α) (s : List β) :
    dropFinal sep (s.map f) = (dropFinal (sep ∘ f) s).map f := by
  have hlast : (s.map f).getLast?.any sep = s.getLast?.any (sep ∘ f) := by
    rw [List.getLast?_map, Option.any_map]
    rfl
  rw [dropFinal, dropFinal, hlast]
  split
  · exact List.map_dropLast.symm
  · rfl

end Separated
