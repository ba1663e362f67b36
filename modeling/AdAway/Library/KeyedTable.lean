import Mathlib.Data.List.Nodup
import Mathlib.Data.List.Dedup

/-!
# Tables with a unique key

A table whose rows of type `α` carry a unique key `key : α → κ`, with the statements a relational
database runs on it. The uniqueness of the key is a field, so a table that violates it cannot be
built: a bulk insert that would break it is `none`, as the database rolls the statement back.

The rows are a list, in insertion order, but two tables that answer every lookup alike hold the
same rows. Every lemma below therefore describes a statement by what `find?` answers after it.

## Main definitions

* `KeyedTable` — rows with a unique key
* `KeyedTable.find?` — the row with a given key
* `KeyedTable.insertAll?`, `upsert`, `deleteWhere` — plain insert, insert-or-replace, delete
* `KeyedTable.deleteWhere?` — delete, by a condition that may raise an error

## Main results

* `KeyedTable.mem_rows_iff` — a table is determined by its lookups
* `KeyedTable.insertAll?_isSome_iff` — when a bulk insert is accepted
* `KeyedTable.deleteWhere?_isSome_iff`, `foldlM_deleteWhere?_isSome_iff` — when a delete is
* `KeyedTable.find?_upsert`, `find?_deleteWhere`, `find?_of_insertAll?` and their folds
* `KeyedTable.flatMap_filter_fold_eq_iff` — a reader that folds the keys
-/

/-- Rows with a unique key. -/
structure KeyedTable {α κ : Type*} (key : α → κ) where
  /-- The rows, in insertion order. -/
  rows : List α
  /-- No two rows have the same key. -/
  nodup_keys : (rows.map key).Nodup

namespace KeyedTable

variable {α κ β : Type*} {key : α → κ}

/-- The table without rows. -/
def empty : KeyedTable key := ⟨[], List.nodup_nil⟩

instance : EmptyCollection (KeyedTable key) := ⟨empty⟩

/-- `DELETE FROM t WHERE p`. -/
def deleteWhere (t : KeyedTable key) (p : α → Bool) : KeyedTable key :=
  ⟨t.rows.filter fun a => !p a, (List.filter_sublist.map key).nodup t.nodup_keys⟩

/-- `DELETE FROM t WHERE p`, where testing `p` on a row may raise an error: then the statement
deletes nothing. -/
def deleteWhere? (t : KeyedTable key) (p : α → Option Bool) : Option (KeyedTable key) :=
  if t.rows.all fun a => (p a).isSome then some (t.deleteWhere fun a => p a = some true) else none

variable [DecidableEq κ]

/-- The row with key `k`. -/
def find? (t : KeyedTable key) (k : κ) : Option α := t.rows.find? fun a => key a = k

/-- `INSERT INTO t` of several rows: refused as a whole when a key would occur twice. -/
def insertAll? (t : KeyedTable key) (as : List α) : Option (KeyedTable key) :=
  if h : ((t.rows ++ as).map key).Nodup then some ⟨t.rows ++ as, h⟩ else none

/-- `INSERT OR REPLACE INTO t`: a row with the same key is deleted first. -/
def upsert (t : KeyedTable key) (a : α) : KeyedTable key where
  rows := t.rows.filter (fun b => key b ≠ key a) ++ [a]
  nodup_keys := by
    rw [List.map_append, List.nodup_append]
    refine ⟨(List.filter_sublist.map key).nodup t.nodup_keys, List.nodup_singleton _, ?_⟩
    intro k hk k' hk'
    obtain ⟨b, hb, rfl⟩ := List.mem_map.mp hk
    rw [List.map_singleton, List.mem_singleton] at hk'
    simpa [hk'] using (List.mem_filter.mp hb).2

/-! ### Lookups determine the table -/

theorem find?_eq_some_iff {t : KeyedTable key} {k : κ} {a : α} :
    t.find? k = some a ↔ a ∈ t.rows ∧ key a = k := by
  have hkey : ∀ b, t.find? k = some b → key b = k := fun b hb => by
    simpa using List.find?_some hb
  refine ⟨fun h => ⟨List.mem_of_find?_eq_some h, hkey a h⟩, fun ⟨ha, hak⟩ => ?_⟩
  have hsome : (t.find? k).isSome := List.find?_isSome.mpr ⟨a, ha, by simpa using hak⟩
  obtain ⟨b, hb⟩ := Option.isSome_iff_exists.mp hsome
  rw [hb, List.inj_on_of_nodup_map t.nodup_keys (List.mem_of_find?_eq_some hb) ha
    ((hkey b hb).trans hak.symm)]

theorem mem_rows_iff {t : KeyedTable key} {a : α} : a ∈ t.rows ↔ t.find? (key a) = some a := by
  rw [find?_eq_some_iff]
  exact ⟨fun h => ⟨h, rfl⟩, fun h => h.1⟩

theorem key_of_find? {t : KeyedTable key} {k : κ} {a : α} (h : t.find? k = some a) : key a = k :=
  (find?_eq_some_iff.mp h).2

theorem find?_eq_none_iff {t : KeyedTable key} {k : κ} :
    t.find? k = none ↔ ∀ a ∈ t.rows, key a ≠ k := by
  rw [find?, List.find?_eq_none]
  exact forall₂_congr fun a _ => by simp

/-! ### What a lookup answers after one statement -/

@[simp] theorem find?_empty (k : κ) : (∅ : KeyedTable key).find? k = none := rfl

theorem find?_deleteWhere (t : KeyedTable key) (p : α → Bool) (k : κ) :
    (t.deleteWhere p).find? k = (t.find? k).filter fun a => !p a := by
  ext a
  rw [find?_eq_some_iff, Option.filter_eq_some_iff, find?_eq_some_iff]
  simp only [deleteWhere, List.mem_filter]
  tauto

theorem find?_upsert (t : KeyedTable key) (a : α) (k : κ) :
    (t.upsert a).find? k = if key a = k then some a else t.find? k := by
  ext b
  rw [find?_eq_some_iff]
  simp only [upsert, List.mem_append, List.mem_filter, decide_eq_true_eq, List.mem_singleton]
  split
  case isTrue h =>
    subst h
    constructor
    · rintro ⟨⟨-, hb⟩ | rfl, hk⟩
      · exact absurd hk hb
      · rfl
    · rintro ⟨⟩
      exact ⟨Or.inr rfl, rfl⟩
  case isFalse h =>
    rw [find?_eq_some_iff]
    constructor
    · rintro ⟨⟨hb, -⟩ | rfl, hk⟩
      · exact ⟨hb, hk⟩
      · exact absurd hk h
    · rintro ⟨hb, rfl⟩
      exact ⟨Or.inl ⟨hb, fun hc => h hc.symm⟩, rfl⟩

/-- A bulk insert is accepted exactly when the new keys are distinct and none is taken. -/
theorem insertAll?_isSome_iff {t : KeyedTable key} {as : List α} :
    (t.insertAll? as).isSome ↔ (as.map key).Nodup ∧ ∀ a ∈ as, t.find? (key a) = none := by
  unfold insertAll?
  split
  case isTrue h =>
    rw [List.map_append, List.nodup_append] at h
    refine iff_of_true rfl ⟨h.2.1, fun a ha => find?_eq_none_iff.mpr fun b hb => ?_⟩
    exact h.2.2 _ (List.mem_map_of_mem hb) _ (List.mem_map_of_mem ha)
  case isFalse h =>
    refine iff_of_false Bool.false_ne_true fun ⟨hnd, hnone⟩ => h ?_
    rw [List.map_append, List.nodup_append]
    refine ⟨t.nodup_keys, hnd, fun k hk k' hk' => ?_⟩
    obtain ⟨b, hb, rfl⟩ := List.mem_map.mp hk
    obtain ⟨a, ha, rfl⟩ := List.mem_map.mp hk'
    exact find?_eq_none_iff.mp (hnone a ha) b hb

theorem rows_of_insertAll? {t t' : KeyedTable key} {as : List α} (h : t.insertAll? as = some t') :
    t'.rows = t.rows ++ as := by
  unfold insertAll? at h
  split at h
  · exact (Option.some.inj h) ▸ rfl
  · cases h

theorem find?_of_insertAll? {t t' : KeyedTable key} {as : List α} (h : t.insertAll? as = some t')
    (k : κ) : t'.find? k = (t.find? k).or (as.find? fun a => key a = k) := by
  rw [find?, rows_of_insertAll? h, List.find?_append]
  rfl

omit [DecidableEq κ] in
theorem deleteWhere?_eq_some_iff {t t' : KeyedTable key} {p : α → Option Bool} :
    t.deleteWhere? p = some t' ↔
      (∀ a ∈ t.rows, p a ≠ none) ∧ t' = t.deleteWhere fun a => p a = some true := by
  unfold deleteWhere?
  split
  case isTrue h =>
    rw [List.all_eq_true] at h
    rw [Option.some_inj, eq_comm, iff_and_self]
    exact fun _ a ha => Option.isSome_iff_ne_none.mp (h a ha)
  case isFalse h =>
    refine iff_of_false nofun fun hsome => h ?_
    exact List.all_eq_true.mpr fun a ha => Option.isSome_iff_ne_none.mpr (hsome.1 a ha)

omit [DecidableEq κ] in
/-- A delete is carried out exactly when its condition raises an error on no row. -/
theorem deleteWhere?_isSome_iff {t : KeyedTable key} {p : α → Option Bool} :
    (t.deleteWhere? p).isSome ↔ ∀ a ∈ t.rows, p a ≠ none := by
  simp [Option.isSome_iff_exists, deleteWhere?_eq_some_iff]

theorem find?_of_deleteWhere? {t t' : KeyedTable key} {p : α → Option Bool}
    (h : t.deleteWhere? p = some t') (k : κ) :
    t'.find? k = (t.find? k).filter fun a => p a ≠ some true := by
  rw [(deleteWhere?_eq_some_iff.mp h).2, find?_deleteWhere]
  simp only [ne_eq, decide_not]

/-! ### What a lookup answers after a loop of statements -/

/-- The rows a loop of deletes leaves. -/
theorem find?_of_foldlM_deleteWhere? (p : β → α → Option Bool) {bs : List β}
    {t t' : KeyedTable key} (h : bs.foldlM (fun t b => deleteWhere? t (p b)) t = some t') (k : κ) :
    t'.find? k = (t.find? k).filter fun a => bs.all fun b => p b a ≠ some true := by
  induction bs generalizing t with
  | nil =>
    rw [List.foldlM_nil] at h
    obtain rfl := Option.some.inj h
    cases t.find? k <;> rfl
  | cons b bs ih =>
    rw [List.foldlM_cons] at h
    obtain ⟨next, hnext, hrest⟩ := Option.bind_eq_some_iff.mp h
    rw [ih hrest, find?_of_deleteWhere? hnext, Option.filter_filter]
    simp only [List.all_cons]

omit [DecidableEq κ] in
/-- A loop of deletes is carried out exactly when a row on which a condition raises an error has
been deleted before. -/
theorem foldlM_deleteWhere?_isSome_iff (p : β → α → Option Bool) (bs : List β)
    (t : KeyedTable key) :
    (bs.foldlM (fun t b => deleteWhere? t (p b)) t).isSome ↔
      ∀ before b after, bs = before ++ b :: after →
        ∀ a ∈ t.rows, p b a = none → ∃ c ∈ before, p c a = some true := by
  induction bs generalizing t with
  | nil => simp
  | cons b bs ih =>
    rw [List.foldlM_cons]
    cases hnext : t.deleteWhere? (p b) with
    | none =>
      obtain ⟨a, ha, hnone⟩ : ∃ a ∈ t.rows, p b a = none := by
        by_contra hno
        have hsome := deleteWhere?_isSome_iff.mpr fun a ha hnone => hno ⟨a, ha, hnone⟩
        rw [hnext] at hsome
        cases hsome
      refine iff_of_false Bool.false_ne_true fun h => ?_
      obtain ⟨c, hc, -⟩ := h [] b bs rfl a ha hnone
      exact List.not_mem_nil hc
    | some next =>
      obtain ⟨hsome, rfl⟩ := deleteWhere?_eq_some_iff.mp hnext
      show (bs.foldlM (fun t b => deleteWhere? t (p b)) _).isSome ↔ _
      rw [ih]
      have hmem : ∀ a, a ∈ (t.deleteWhere fun a => p b a = some true).rows ↔
          a ∈ t.rows ∧ p b a ≠ some true := fun a => by simp [deleteWhere]
      constructor
      · intro h before c after heq a ha hnone
        rcases List.cons_eq_append_iff.mp heq with ⟨rfl, hcons⟩ | ⟨before, rfl, hbs⟩
        · obtain ⟨rfl, -⟩ := List.cons.inj hcons
          exact absurd hnone (hsome a ha)
        · by_cases hb : p b a = some true
          · exact ⟨b, List.mem_cons_self, hb⟩
          · obtain ⟨d, hd, htrue⟩ := h before c after hbs a ((hmem a).mpr ⟨ha, hb⟩) hnone
            exact ⟨d, List.mem_cons_of_mem b hd, htrue⟩
      · intro h before c after heq a ha hnone
        obtain ⟨hat, hb⟩ := (hmem a).mp ha
        obtain ⟨d, hd, htrue⟩ := h (b :: before) c after (by rw [heq]; rfl) a hat hnone
        rcases List.mem_cons.mp hd with rfl | hd
        · exact absurd htrue hb
        · exact ⟨d, hd, htrue⟩

/-- After a loop of insert-or-replace the last row with a key wins. -/
theorem find?_foldl_upsert (f : β → α) (bs : List β) (t : KeyedTable key) (k : κ) :
    (bs.foldl (fun t b => t.upsert (f b)) t).find? k
      = ((bs.reverse.find? fun b => key (f b) = k).map f).or (t.find? k) := by
  induction bs generalizing t with
  | nil => simp
  | cons b bs ih =>
    rw [List.foldl_cons, ih, find?_upsert, List.reverse_cons, List.find?_append]
    cases bs.reverse.find? fun b => decide (key (f b) = k) with
    | some c => rfl
    | none => by_cases hb : key (f b) = k <;> simp [hb]

/-! ### Reading the rows by a coarser key -/

/-- The rows with key `k`, in an answer of any order. -/
theorem filter_key_eq_toList {t : KeyedTable key} {as : List α} (h : as.Perm t.rows) (k : κ) :
    (as.filter fun a => key a = k) = (t.find? k).toList := by
  cases hfind : t.find? k with
  | none =>
    rw [Option.toList_none, List.filter_eq_nil_iff]
    intro a ha
    simpa using find?_eq_none_iff.mp hfind a (h.mem_iff.mp ha)
  | some a =>
    rw [Option.toList_some, ← List.perm_singleton]
    have hnodup : as.Nodup := h.nodup_iff.mpr (.of_map _ t.nodup_keys)
    refine (List.perm_ext_iff_of_nodup (hnodup.filter _) (List.nodup_singleton a)).mpr fun b => ?_
    rw [List.mem_filter, decide_eq_true_eq, h.mem_iff, ← find?_eq_some_iff, hfind, List.mem_singleton,
      Option.some_inj, eq_comm]

section Fold

variable {κ' : Type*} [DecidableEq κ'] {t : KeyedTable key} {as : List α}

/-- A reader that folds the keys takes what the lookup of `k` gives, and then what the other rows give
whose key folds as `k` does. -/
theorem flatMap_filter_fold_perm (h : as.Perm t.rows) (fold : κ → κ') (k : κ) (f : α → List β) :
    ((as.filter fun a => fold (key a) = fold k).flatMap f).Perm
      ((t.find? k).toList.flatMap f ++
        (as.filter fun a => key a ≠ k ∧ fold (key a) = fold k).flatMap f) := by
  let folded := as.filter fun a => fold (key a) = fold k
  have hexact : (folded.filter fun a => decide (key a = k)) = (t.find? k).toList := by
    rw [← filter_key_eq_toList h, List.filter_filter]
    refine List.filter_congr fun a _ => ?_
    by_cases ha : key a = k
    · simp [ha]
    · simp [ha]
  have hother : (folded.filter fun a => !decide (key a = k)) =
      as.filter fun a => key a ≠ k ∧ fold (key a) = fold k := by
    rw [List.filter_filter]
    simp
  have hsplit := (List.filter_append_perm (fun a => decide (key a = k)) folded).flatMap_right f
  rw [List.flatMap_append, hexact, hother] at hsplit
  exact hsplit.symm

/-- **A reader that folds the keys** takes what the lookup of `k` gives, exactly if no row has another
key that folds as `k` does. Each row gives something. -/
theorem flatMap_filter_fold_eq_iff (h : as.Perm t.rows) (fold : κ → κ') (k : κ) {f : α → List β}
    (hf : ∀ a ∈ t.rows, f a ≠ []) :
    (as.filter fun a => fold (key a) = fold k).flatMap f = (t.find? k).toList.flatMap f ↔
      ∀ a ∈ t.rows, fold (key a) = fold k → key a = k := by
  constructor
  · intro heq a ha hfold
    by_contra hne
    have hlength := (flatMap_filter_fold_perm h fold k f).length_eq
    rw [heq, List.length_append] at hlength
    have hnil := List.eq_nil_of_length_eq_zero (Nat.left_eq_add.mp hlength)
    refine hf a ha (List.flatMap_eq_nil_iff.mp hnil a ?_)
    simp [h.mem_iff, ha, hne, hfold]
  · intro hkeys
    rw [← filter_key_eq_toList h]
    congr 1
    refine List.filter_congr fun a ha => ?_
    rw [decide_eq_decide]
    exact ⟨hkeys a (h.mem_iff.mp ha), fun heq => heq ▸ rfl⟩

end Fold

end KeyedTable
