import Mathlib.Data.List.Induction
import Mathlib.Data.List.Nodup

/-!
# Sets that keep the order of insertion

A linked set keeps each element at the place of its first insertion. Collecting a list into one
drops the later occurrences of each element and leaves the rest in order.

## Main definitions

* `LinkedSet`, `LinkedSet.add`, `LinkedSet.ofList` — the set and its operations

## Main results

* `LinkedSet.mem_ofList` — the elements of the list
* `LinkedSet.pairwise_idxOf_ofList` — they are in the order of their first occurrences
-/

/-- A set with an order. -/
@[ext] structure LinkedSet (α : Type*) where
  elements : List α
  nodup : elements.Nodup

namespace LinkedSet

variable {α : Type*} [DecidableEq α]

/-- The empty set. -/
def empty : LinkedSet α := ⟨[], List.nodup_nil⟩

/-- An element that is new is put at the end. -/
def add (s : LinkedSet α) (a : α) : LinkedSet α :=
  if h : a ∈ s.elements then s
  else ⟨s.elements ++ [a], List.nodup_append.mpr ⟨s.nodup, List.nodup_singleton a, by
    intro b hb c hc heq
    obtain rfl := List.mem_singleton.mp hc
    exact h (heq ▸ hb)⟩⟩

/-- The elements of a list, added one by one. -/
def ofList (l : List α) : LinkedSet α := l.foldl add empty

theorem elements_add_of_mem {s : LinkedSet α} {a : α} (h : a ∈ s.elements) : s.add a = s := by
  rw [add, dif_pos h]

theorem elements_add_of_not_mem {s : LinkedSet α} {a : α} (h : a ∉ s.elements) :
    (s.add a).elements = s.elements ++ [a] := by
  rw [add, dif_neg h]

theorem mem_add {s : LinkedSet α} {a b : α} : b ∈ (s.add a).elements ↔ b ∈ s.elements ∨ b = a := by
  by_cases h : a ∈ s.elements
  · rw [elements_add_of_mem h]
    exact ⟨Or.inl, fun hb => hb.elim id fun heq => heq ▸ h⟩
  · rw [elements_add_of_not_mem h, List.mem_append, List.mem_singleton]

theorem ofList_concat (l : List α) (a : α) : ofList (l ++ [a]) = (ofList l).add a := by
  rw [ofList, List.foldl_append]
  rfl

theorem mem_ofList {l : List α} {a : α} : a ∈ (ofList l).elements ↔ a ∈ l := by
  induction l using List.reverseRecOn with
  | nil => exact Iff.rfl
  | append_singleton l b ih =>
    rw [ofList_concat, mem_add, ih, List.mem_append, List.mem_singleton]

/-- **The order of the first occurrences.** -/
theorem pairwise_idxOf_ofList (l : List α) :
    (ofList l).elements.Pairwise fun a b => l.idxOf a < l.idxOf b := by
  induction l using List.reverseRecOn with
  | nil => exact List.Pairwise.nil
  | append_singleton l b ih =>
    have hold : ∀ a ∈ (ofList l).elements, (l ++ [b]).idxOf a = l.idxOf a :=
      fun a ha => List.idxOf_append_of_mem (mem_ofList.mp ha)
    have hsame : (ofList l).elements.Pairwise fun a c => (l ++ [b]).idxOf a < (l ++ [b]).idxOf c :=
      ih.imp_of_mem fun ha hc hlt => by rwa [hold _ ha, hold _ hc]
    rw [ofList_concat]
    by_cases hb : b ∈ (ofList l).elements
    · rwa [elements_add_of_mem hb]
    · rw [elements_add_of_not_mem hb, List.pairwise_append]
      refine ⟨hsame, List.pairwise_singleton _ _, fun a ha c hc => ?_⟩
      obtain rfl := List.mem_singleton.mp hc
      rw [hold a ha, List.idxOf_append_of_notMem fun hmem => hb (mem_ofList.mpr hmem)]
      exact Nat.lt_of_lt_of_le (List.idxOf_lt_length_iff.mpr (mem_ofList.mp ha)) (Nat.le_add_right _ _)

end LinkedSet
