import Mathlib.Data.Finset.Sort

/-!
# Grouped queries

A query that groups its rows by a key, and sorts them by it, returns one row for each key. The other
columns are not determined by the key; a database may take them from any row of the group. So such a
query has many answers, and a client has to be right for all of them.

What all answers have in common is easy to say: any selected row may be the one that is returned. A
property of the returned rows holds in every answer if and only if it holds of all selected rows,
and a row is in every answer if and only if it is alone in its group.

## Main definitions

* `Grouping.IsAnswer` — the answers of a grouped query

## Main results

* `Grouping.exists_isAnswer_mem` — any selected row may be returned
* `Grouping.forall_isAnswer_iff` — a property of all rows that may be returned
* `Grouping.mem_of_forall_isAnswer_iff` — the rows that are always returned
-/

namespace Grouping

variable {α κ : Type*} [LinearOrder κ]

/-- A database may answer `rows` when it groups the selected rows by their keys, and sorts them by
the keys. -/
structure IsAnswer (key : α → κ) (selected rows : List α) : Prop where
  mem : ∀ row ∈ rows, row ∈ selected
  complete : ∀ a ∈ selected, ∃ row ∈ rows, key row = key a
  sorted : rows.Pairwise fun a b => key a < key b

variable {key : α → κ} {selected rows : List α}

theorem IsAnswer.nodup_map_key (h : IsAnswer key selected rows) : (rows.map key).Nodup :=
  List.pairwise_map.mpr (h.sorted.imp fun hlt => hlt.ne)

theorem IsAnswer.mem_map_key_iff (h : IsAnswer key selected rows) (k : κ) :
    k ∈ rows.map key ↔ ∃ a ∈ selected, key a = k := by
  rw [List.mem_map]
  constructor
  · rintro ⟨row, hrow, rfl⟩
    exact ⟨row, h.mem row hrow, rfl⟩
  · rintro ⟨a, ha, rfl⟩
    exact h.complete a ha

/-- A key has one row. -/
theorem IsAnswer.eq_of_key_eq (h : IsAnswer key selected rows) {a b : α} (ha : a ∈ rows)
    (hb : b ∈ rows) (heq : key a = key b) : a = b :=
  List.inj_on_of_nodup_map h.nodup_map_key ha hb heq

/-- **Any selected row may be returned.** -/
theorem exists_isAnswer_mem (key : α → κ) {a : α} (ha : a ∈ selected) :
    ∃ rows, IsAnswer key selected rows ∧ a ∈ rows := by
  -- the row that is returned for a key, `a` for its own
  let pick (k : κ) : Option α := if key a = k then some a else selected.find? fun b => key b = k
  have hpick : ∀ k b, pick k = some b → b ∈ selected ∧ key b = k := by
    intro k b hb
    simp only [pick] at hb
    split at hb
    next heq =>
      cases hb
      exact ⟨ha, heq⟩
    next => exact ⟨List.mem_of_find?_eq_some hb, by simpa using List.find?_some hb⟩
  have hself : pick (key a) = some a := if_pos rfl
  have hsome : ∀ b ∈ selected, ∃ c, pick (key b) = some c := by
    intro b hb
    simp only [pick]
    split
    next => exact ⟨a, rfl⟩
    next =>
      rw [← Option.isSome_iff_exists, List.find?_isSome]
      exact ⟨b, hb, decide_eq_true rfl⟩
  have hkeys : ∀ b ∈ selected, key b ∈ (selected.map key).toFinset.sort := by
    intro b hb
    rw [Finset.mem_sort, List.mem_toFinset]
    exact List.mem_map_of_mem hb
  refine ⟨(selected.map key).toFinset.sort.filterMap pick, ⟨?_, ?_, ?_⟩, ?_⟩
  · intro row hrow
    obtain ⟨k, -, hk⟩ := List.mem_filterMap.mp hrow
    exact (hpick k row hk).1
  · intro b hb
    obtain ⟨c, hc⟩ := hsome b hb
    exact ⟨c, List.mem_filterMap.mpr ⟨key b, hkeys b hb, hc⟩, (hpick _ c hc).2⟩
  · rw [List.pairwise_filterMap]
    refine (Finset.sortedLT_sort _).pairwise.imp fun {k k'} hlt b hb b' hb' => ?_
    rwa [(hpick k b hb).2, (hpick k' b' hb').2]
  · exact List.mem_filterMap.mpr ⟨key a, hkeys a ha, hself⟩

/-- **A property of all rows that may be returned** is one of all selected rows. -/
theorem forall_isAnswer_iff {P : α → Prop} :
    (∀ rows, IsAnswer key selected rows → ∀ row ∈ rows, P row) ↔ ∀ a ∈ selected, P a := by
  constructor
  · intro h a ha
    obtain ⟨rows, hanswer, hmem⟩ := exists_isAnswer_mem key ha
    exact h rows hanswer a hmem
  · intro h rows hanswer row hrow
    exact h row (hanswer.mem row hrow)

/-- **The rows that are always returned** are alone in their groups. -/
theorem mem_of_forall_isAnswer_iff {a : α} (ha : a ∈ selected) :
    (∀ rows, IsAnswer key selected rows → a ∈ rows) ↔ ∀ b ∈ selected, key b = key a → b = a := by
  constructor
  · intro h b hb heq
    obtain ⟨rows, hanswer, hmem⟩ := exists_isAnswer_mem key hb
    exact hanswer.eq_of_key_eq hmem (h rows hanswer) heq
  · intro h rows hanswer
    obtain ⟨row, hrow, heq⟩ := hanswer.complete a ha
    rwa [← h row (hanswer.mem row hrow) heq]

end Grouping
