import AdAway.Library.KeyedTable
import Mathlib.Data.Int.Basic

/-!
# Tables with a generated key

A `KeyedTable` whose key is an integer that the database generates: a row inserted without a key
gets the next number of a sequence that never goes back. That no row is ahead of the sequence is a
field, so an insert cannot meet a taken key and always succeeds.

What a program may know of a generated key is little, so the lemmas describe a statement by what it
does to a projection of the rows that forgets the key.

## Main definitions

* `SequencedTable` — rows whose key was generated
* `SequencedTable.insert`, `insertAll`, `skip` — insert without a key
* `SequencedTable.deleteWhere`, `updateWhere` — statements that keep the keys

## Main results

* `SequencedTable.ext_rows` — when two tables are the same
* `SequencedTable.find?_updateWhere` — what a lookup answers after an update
* `SequencedTable.exists_rows_insertAll` — the rows of a bulk insert
* `SequencedTable.rows_insertAll` — which numbers they get
* `SequencedTable.filterMap_insertAll` — what a projection sees of a bulk insert
-/

/-- Rows with a generated key, and the last number generated. -/
structure SequencedTable {α : Type*} (key : α → ℤ) extends KeyedTable key where
  /-- The last number generated. -/
  sequence : ℤ
  key_le : ∀ a ∈ rows, key a ≤ sequence

namespace SequencedTable

variable {α β γ : Type*} {key : α → ℤ}

/-- A table is its rows and its sequence. -/
theorem ext_rows {t t' : SequencedTable key} (hrows : t.rows = t'.rows)
    (hsequence : t.sequence = t'.sequence) : t = t' := by
  obtain ⟨⟨rows, hnodup⟩, sequence, hle⟩ := t
  obtain ⟨⟨rows', hnodup'⟩, sequence', hle'⟩ := t'
  obtain rfl : rows = rows' := hrows
  obtain rfl : sequence = sequence' := hsequence
  rfl

/-- The table without rows. -/
def empty : SequencedTable key := ⟨KeyedTable.empty, 0, fun _ h => absurd h List.not_mem_nil⟩

/-- `INSERT INTO t` of the row that `row` makes of its key. -/
def insert (t : SequencedTable key) (row : ℤ → α) (hrow : ∀ n, key (row n) = n) :
    SequencedTable key where
  rows := t.rows ++ [row (t.sequence + 1)]
  nodup_keys := by
    rw [List.map_append, List.nodup_append]
    refine ⟨t.nodup_keys, List.nodup_singleton _, ?_⟩
    intro k hk k' hk'
    obtain ⟨a, ha, rfl⟩ := List.mem_map.mp hk
    rw [List.map_singleton, List.mem_singleton, hrow] at hk'
    have := t.key_le a ha
    omega
  sequence := t.sequence + 1
  key_le := by
    intro a ha
    rcases List.mem_append.mp ha with ha | ha
    · have := t.key_le a ha
      omega
    · obtain rfl := List.mem_singleton.mp ha
      exact Int.le_of_eq (hrow _)

/-- `INSERT INTO t` of several rows. -/
def insertAll (t : SequencedTable key) (row : β → ℤ → α) (hrow : ∀ b n, key (row b n) = n)
    (bs : List β) : SequencedTable key :=
  bs.foldl (fun t b => t.insert (row b) (hrow b)) t

/-- `INSERT OR IGNORE INTO t` of a row that is ignored: its number is not given to another one. -/
def skip (t : SequencedTable key) : SequencedTable key where
  toKeyedTable := t.toKeyedTable
  sequence := t.sequence + 1
  key_le := by
    intro a ha
    have := t.key_le a ha
    omega

@[simp] theorem rows_skip (t : SequencedTable key) : t.skip.rows = t.rows := rfl

@[simp] theorem find?_skip (t : SequencedTable key) (k : ℤ) : t.skip.find? k = t.find? k := rfl

/-- `DELETE FROM t WHERE p`. -/
def deleteWhere (t : SequencedTable key) (p : α → Bool) : SequencedTable key where
  toKeyedTable := t.toKeyedTable.deleteWhere p
  sequence := t.sequence
  key_le := fun a ha => t.key_le a (List.mem_of_mem_filter ha)

/-- `UPDATE t SET f WHERE p`. -/
def updateWhere (t : SequencedTable key) (p : α → Bool) (f : α → α) (hf : ∀ a, key (f a) = key a) :
    SequencedTable key where
  rows := t.rows.map fun a => if p a then f a else a
  nodup_keys := by
    have hkey : (key ∘ fun a => if p a then f a else a) = key := by
      funext a
      show key (if p a then f a else a) = key a
      split
      · exact hf a
      · rfl
    rw [List.map_map, hkey]
    exact t.nodup_keys
  sequence := t.sequence
  key_le := by
    intro a ha
    obtain ⟨b, hb, rfl⟩ := List.mem_map.mp ha
    have := t.key_le b hb
    split
    · rwa [hf]
    · exact this

/-! ### Lookups -/

/-- An update that leaves each row on its side of a filter keeps the keys of the rows filtered. -/
theorem map_key_filter_updateWhere (t : SequencedTable key) (p q : α → Bool) (f : α → α)
    (hf : ∀ a, key (f a) = key a) (hq : ∀ a ∈ t.rows, p a = true → q (f a) = q a) :
    ((t.updateWhere p f hf).rows.filter q).map key = (t.rows.filter q).map key := by
  show ((t.rows.map fun a => if p a then f a else a).filter q).map key = _
  rw [List.filter_map, List.map_map]
  have hfilter : t.rows.filter (q ∘ fun a => if p a then f a else a) = t.rows.filter q := by
    refine List.filter_congr fun a ha => ?_
    show q (if p a then f a else a) = q a
    split
    next hp => exact hq a ha hp
    next => rfl
  have hkey : (key ∘ fun a => if p a then f a else a) = key := by
    funext a
    show key (if p a then f a else a) = key a
    split
    next => exact hf a
    next => rfl
  rw [hfilter, hkey]

theorem find?_updateWhere (t : SequencedTable key) (p : α → Bool) (f : α → α)
    (hf : ∀ a, key (f a) = key a) (k : ℤ) :
    (t.updateWhere p f hf).find? k = (t.find? k).map fun a => if p a then f a else a := by
  have hkey : ∀ a, key (if p a then f a else a) = key a := by
    intro a
    split
    · exact hf a
    · rfl
  have hpred : ((fun a => decide (key a = k)) ∘ fun a => if p a then f a else a)
      = fun a => decide (key a = k) := by
    funext a
    exact congrArg (fun n => decide (n = k)) (hkey a)
  rw [KeyedTable.find?, KeyedTable.find?]
  show ((t.rows.map _).find? _) = _
  rw [List.find?_map, hpred]

/-- A new row does not hide another one. -/
theorem find?_insert (t : SequencedTable key) (row : ℤ → α) (hrow : ∀ n, key (row n) = n) (k : ℤ) :
    (t.insert row hrow).find? k
      = if k = t.sequence + 1 then some (row (t.sequence + 1)) else t.find? k := by
  ext a
  rw [KeyedTable.find?_eq_some_iff]
  show a ∈ t.rows ++ [row (t.sequence + 1)] ∧ key a = k ↔ _
  rw [List.mem_append, List.mem_singleton]
  split
  next hk =>
    constructor
    · rintro ⟨ha | rfl, hak⟩
      · have := t.key_le a ha
        omega
      · rfl
    · rintro ⟨⟩
      exact ⟨Or.inr rfl, by rw [hrow, hk]⟩
  next hk =>
    rw [KeyedTable.find?_eq_some_iff]
    constructor
    · rintro ⟨ha | rfl, hak⟩
      · exact ⟨ha, hak⟩
      · rw [hrow] at hak
        exact absurd hak.symm hk
    · rintro ⟨ha, hak⟩
      exact ⟨Or.inl ha, hak⟩

/-- A bulk insert adds rows made of what is inserted. -/
theorem exists_rows_insertAll (t : SequencedTable key) (row : β → ℤ → α)
    (hrow : ∀ b n, key (row b n) = n) (bs : List β) :
    ∃ new, (t.insertAll row hrow bs).rows = t.rows ++ new ∧
      ∀ a ∈ new, ∃ b ∈ bs, ∃ n, a = row b n := by
  induction bs generalizing t with
  | nil => exact ⟨[], (List.append_nil _).symm, fun a ha => absurd ha List.not_mem_nil⟩
  | cons b bs ih =>
    obtain ⟨new, hrows, hnew⟩ := ih (t.insert (row b) (hrow b))
    refine ⟨row b (t.sequence + 1) :: new, ?_, ?_⟩
    · show ((t.insert (row b) (hrow b)).insertAll row hrow bs).rows = _
      rw [hrows]
      exact List.append_assoc t.rows [row b (t.sequence + 1)] new
    · intro a ha
      rcases List.mem_cons.mp ha with rfl | ha
      · exact ⟨b, List.mem_cons_self, _, rfl⟩
      · obtain ⟨b', hb', n, rfl⟩ := hnew a ha
        exact ⟨b', List.mem_cons_of_mem b hb', n, rfl⟩

/-- The rows of a bulk insert are numbered in order. -/
theorem rows_insertAll (t : SequencedTable key) (row : β → ℤ → α) (hrow : ∀ b n, key (row b n) = n)
    (bs : List β) :
    (t.insertAll row hrow bs).rows =
      t.rows ++ bs.mapIdx fun i b => row b (t.sequence + 1 + i) := by
  induction bs generalizing t with
  | nil => exact (List.append_nil _).symm
  | cons b bs ih =>
    have hrest : (fun (i : ℕ) c => row c ((t.insert (row b) (hrow b)).sequence + 1 + i)) =
        fun (i : ℕ) c => row c (t.sequence + 1 + (i + 1 : ℕ)) := by
      funext i c
      show row c (t.sequence + 1 + 1 + i) = _
      congr 1
      omega
    have hnext := ih (t.insert (row b) (hrow b))
    rw [hrest] at hnext
    show ((t.insert (row b) (hrow b)).insertAll row hrow bs).rows = _
    rw [hnext, List.mapIdx_cons]
    show t.rows ++ [row b (t.sequence + 1)] ++ _ = _
    rw [List.append_assoc, List.singleton_append, Int.natCast_zero, Int.add_zero]

/-! ### Projections that forget the key -/

theorem filterMap_insertAll (t : SequencedTable key) (row : β → ℤ → α)
    (hrow : ∀ b n, key (row b n) = n) (bs : List β) {p : α → Option γ} {p' : β → Option γ}
    (hp : ∀ b n, p (row b n) = p' b) :
    (t.insertAll row hrow bs).rows.filterMap p = t.rows.filterMap p ++ bs.filterMap p' := by
  induction bs generalizing t with
  | nil => rw [List.filterMap_nil, List.append_nil]; rfl
  | cons b bs ih =>
    have hstep : (t.insert (row b) (hrow b)).rows.filterMap p
        = t.rows.filterMap p ++ [b].filterMap p' := by
      show (t.rows ++ [row b (t.sequence + 1)]).filterMap p = _
      rw [List.filterMap_append]
      simp only [List.filterMap_cons, List.filterMap_nil, hp]
    show ((t.insert (row b) (hrow b)).insertAll row hrow bs).rows.filterMap p = _
    rw [ih, hstep, List.append_assoc, ← List.filterMap_append, List.singleton_append]

end SequencedTable
