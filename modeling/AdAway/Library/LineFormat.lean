import Mathlib.Data.List.TakeWhile

/-!
# Records on lines

A text format with one record a line: a line is the words between its separators, up to where a
comment starts, and a line without words is no record. Which characters end a line, start a comment
and separate words is a parameter, so the text is a list over any type.

What can be written so that it reads back is a word: it has none of these characters, and it is not
empty.

## Main definitions

* `LineFormat` — the three classes of characters
* `LineFormat.record`, `LineFormat.records` — what a line and a text read as
* `LineFormat.IsWord` — what can be written

## Main results

* `LineFormat.record_append_cons`, `record_word`, `record_comment` — what is written on a line reads
  back
* `LineFormat.records_unlines` — so do the lines of a text
-/

/-- The characters that structure a text. -/
structure LineFormat (α : Type*) where
  isLineEnd : α → Bool
  isComment : α → Bool
  isSeparator : α → Bool

namespace LineFormat

variable {α : Type*} {F : LineFormat α}

/-- The words of a line. -/
def record (F : LineFormat α) (line : List α) : List (List α) :=
  ((line.takeWhile fun c => !F.isComment c).splitOnP F.isSeparator).filter fun w => !w.isEmpty

/-- The records of a text. -/
def records (F : LineFormat α) (text : List α) : List (List (List α)) :=
  ((text.splitOnP F.isLineEnd).map F.record).filter fun r => !r.isEmpty

/-- Lines, each with its end. -/
def unlines (lineEnd : α) (lines : List (List α)) : List α := lines.flatMap fun l => l ++ [lineEnd]

/-- A word that reads back. -/
structure IsWord (F : LineFormat α) (w : List α) : Prop where
  ne_nil : w ≠ []
  isLineEnd : ∀ c ∈ w, F.isLineEnd c = false
  isComment : ∀ c ∈ w, F.isComment c = false
  isSeparator : ∀ c ∈ w, F.isSeparator c = false

/-! ### Lines -/

@[simp] theorem record_nil : F.record [] = [] := by
  simp [record]

/-- A comment is no record. -/
theorem record_comment {c : α} (hc : F.isComment c = true) (line : List α) :
    F.record (c :: line) = [] := by
  simp [record, hc]

theorem record_word {w : List α} (hw : F.IsWord w) : F.record w = [w] := by
  have htake : w.takeWhile (fun c => !F.isComment c) = w :=
    List.takeWhile_eq_self_iff.mpr fun c hc => by simp [hw.isComment c hc]
  have hne : w.isEmpty = false := List.isEmpty_eq_false_iff.mpr hw.ne_nil
  rw [record, htake, List.splitOnP_eq_singleton hw.isSeparator, List.filter_cons_of_pos (by simp [hne]),
    List.filter_nil]

/-- The first word of a line reads back, and the rest is a line again. -/
theorem record_append_cons {w : List α} (hw : F.IsWord w) {c : α} (hc : F.isSeparator c = true)
    (hc' : F.isComment c = false) (line : List α) :
    F.record (w ++ c :: line) = w :: F.record line := by
  have htake : (w ++ c :: line).takeWhile (fun c => !F.isComment c)
      = w ++ c :: line.takeWhile fun c => !F.isComment c := by
    rw [List.takeWhile_append_of_pos fun c hc => by simp [hw.isComment c hc],
      List.takeWhile_cons_of_pos (by simp [hc'])]
  have hne : w.isEmpty = false := List.isEmpty_eq_false_iff.mpr hw.ne_nil
  rw [record, htake, List.splitOnP_append_cons_of_forall_mem hw.isSeparator c hc,
    List.filter_cons_of_pos (by simp [hne])]
  rfl

/-! ### Texts -/

/-- **The lines of a text read back**, one record after the other. -/
theorem records_unlines {lineEnd : α} (hend : F.isLineEnd lineEnd = true) {lines : List (List α)}
    (h : ∀ l ∈ lines, ∀ c ∈ l, F.isLineEnd c = false) :
    F.records (unlines lineEnd lines) = (lines.map F.record).filter fun r => !r.isEmpty := by
  induction lines with
  | nil => simp [records, unlines]
  | cons l lines ih =>
    rw [List.forall_mem_cons] at h
    have htext : unlines lineEnd (l :: lines) = l ++ lineEnd :: unlines lineEnd lines := by
      rw [unlines, List.flatMap_cons, List.append_assoc]
      rfl
    have hrest := ih h.2
    rw [records] at hrest
    rw [records, htext, List.splitOnP_append_cons_of_forall_mem h.1 lineEnd hend, List.map_cons,
      List.map_cons, List.filter_cons, List.filter_cons, hrest]

end LineFormat
