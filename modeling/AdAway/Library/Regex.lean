import Mathlib.Data.List.TakeWhile
import Mathlib.Data.Nat.Notation

/-!
# Matching by backtracking

A pattern is matched from left to right: each element takes a part of the text and hands the rest to
what follows it, its continuation. A repetition takes all it can first, and gives back one character
at a time until its continuation succeeds. A group records the text its body took.

Giving back can be left out of an argument when the continuation, if it succeeds on a text that
begins inside the repetition, also succeeds one character later. Then the repetition takes all it
can.

Which match comes first matters for the groups only. Whether there is a match does not depend on the
order of the attempts, so it is a question about the pattern alone: which texts it can take, before
which rest.

## Main definitions

* `Regex.Pattern` — the patterns, with repetitions of one kind of character
* `Regex.run` — the matcher, given what follows
* `Regex.fullMatch` — the groups of a match of the whole text
* `Regex.Takes` — the texts a pattern can take
* `Regex.search` — the first match of several patterns anywhere in the text
* `Regex.Blind` — a map of the characters that a pattern does not see

## Main results

* `Regex.runMany_eq_dropWhile` — a repetition that never has to give back
* `Regex.run_plus`, `Regex.run_group_plus` — the same for a repetition that is not empty
* `Regex.isSome_fullMatch_iff` — backtracking finds a match if there is one
* `Regex.Takes.map` — what is taken, seen through a map
* `Regex.isSome_search_iff` — a search finds something if a pattern takes a part of the text
-/

namespace Regex

/-- A pattern. -/
inductive Pattern (α : Type*)
  /-- One character of a kind. -/
  | one (p : α → Bool)
  /-- A greedy repetition of characters of a kind. -/
  | many (p : α → Bool)
  /-- A condition on the rest of the text, which takes nothing. -/
  | look (q : List α → Bool)
  /-- A capturing group. -/
  | group (r : Pattern α)
  /-- One pattern behind another. -/
  | seq (r t : Pattern α)

variable {α β : Type*}

/-- A greedy repetition: the longest one comes first. -/
def runMany (p : α → Bool) (k : List α → Option β) : List α → Option β
  | [] => k []
  | c :: s => if p c then (runMany p k s).or (k (c :: s)) else k (c :: s)

/-- The first match of a pattern, followed by what `k` matches. The groups closed so far are carried
along. -/
def run : Pattern α → (List α → List (List α) → Option β) → List α → List (List α) → Option β
  | .one _, _, [], _ => none
  | .one p, k, c :: s, groups => if p c then k s groups else none
  | .many p, k, s, groups => runMany p (fun rest => k rest groups) s
  | .look q, k, s, groups => if q s then k s groups else none
  | .group r, k, s, groups =>
    run r (fun rest closed => k rest (closed ++ [s.take (s.length - rest.length)])) s groups
  | .seq r t, k, s, groups => run r (fun rest closed => run t k rest closed) s groups

/-- The groups of the first match of the whole text. -/
def fullMatch (r : Pattern α) (s : List α) : Option (List (List α)) :=
  run r (fun rest groups => if rest.isEmpty then some groups else none) s []

/-- A repetition that takes at least one character. -/
def plus (p : α → Bool) : Pattern α := .seq (.one p) (.many p)

/-- The longest repetition leaves a text that is matched, if a shorter one does. -/
theorem isSome_dropWhile {p : α → Bool} {k : List α → Option β}
    (hk : ∀ c t, p c = true → (k (c :: t)).isSome → (k t).isSome) {s : List α}
    (hs : (k s).isSome) : (k (s.dropWhile p)).isSome := by
  induction s with
  | nil => exact hs
  | cons c s ih =>
    rw [List.dropWhile_cons]
    split
    next hc => exact ih (hk c s hc hs)
    next => exact hs

/-- **A repetition that never has to give back** takes all it can. -/
theorem runMany_eq_dropWhile {p : α → Bool} {k : List α → Option β}
    (hk : ∀ c t, p c = true → (k (c :: t)).isSome → (k t).isSome) (s : List α) :
    runMany p k s = k (s.dropWhile p) := by
  induction s with
  | nil => rfl
  | cons c s ih =>
    rw [runMany]
    split
    next hc =>
      rw [ih, List.dropWhile_cons_of_pos hc]
      cases hlongest : k (s.dropWhile p) with
      | some b => rfl
      | none =>
        have hnone : k (c :: s) = none := by
          by_contra hsome
          have hrest := isSome_dropWhile hk (hk c s hc (Option.isSome_iff_ne_none.mpr hsome))
          rw [hlongest] at hrest
          cases hrest
        rw [hnone]
        rfl
    next hc => rw [List.dropWhile_cons_of_neg hc]

theorem run_plus {p : α → Bool} {k : List α → List (List α) → Option β}
    {groups : List (List α)}
    (hk : ∀ c t, p c = true → (k (c :: t) groups).isSome → (k t groups).isSome) (s : List α) :
    run (plus p) k s groups =
      if s.takeWhile p = [] then none else k (s.dropWhile p) groups := by
  cases s with
  | nil => rfl
  | cons c s =>
    rw [plus, run, run]
    split
    next hc =>
      rw [run, runMany_eq_dropWhile hk, List.takeWhile_cons_of_pos hc,
        List.dropWhile_cons_of_pos hc, if_neg (List.cons_ne_nil _ _)]
    next hc => rw [List.takeWhile_cons_of_neg hc, if_pos rfl]

/-- A group around such a repetition records all that it took. Whether the continuation succeeds may
not depend on the groups here, as they change with what is given back. -/
theorem run_group_plus {p : α → Bool} {k : List α → List (List α) → Option β}
    (hk : ∀ c t groups groups', p c = true → (k (c :: t) groups).isSome → (k t groups').isSome)
    (s : List α) (groups : List (List α)) :
    run (.group (plus p)) k s groups =
      if s.takeWhile p = [] then none else k (s.dropWhile p) (groups ++ [s.takeWhile p]) := by
  have htaken : s.take (s.length - (s.dropWhile p).length) = s.takeWhile p := by
    have hlength := congrArg List.length (List.takeWhile_append_dropWhile (p := p) (l := s))
    rw [List.length_append] at hlength
    have hsub : s.length - (s.dropWhile p).length = (s.takeWhile p).length := by omega
    rw [hsub]
    exact (List.prefix_iff_eq_take.mp (List.takeWhile_prefix p)).symm
  rw [run]
  refine (run_plus (k := fun rest closed => k rest (closed ++ [s.take (s.length - rest.length)]))
    (fun c t hc => hk c t _ _ hc) s).trans ?_
  rw [htaken]

/-! ### Whether there is a match -/

/-- The pattern can take a text that stands before the given rest. -/
def Takes : Pattern α → List α → List α → Prop
  | .one p, taken, _ => ∃ c, taken = [c] ∧ p c = true
  | .many p, taken, _ => ∀ c ∈ taken, p c = true
  | .look q, taken, rest => taken = [] ∧ q rest = true
  | .group r, taken, rest => Takes r taken rest
  | .seq r t, taken, rest =>
    ∃ front back, taken = front ++ back ∧ Takes r front (back ++ rest) ∧ Takes t back rest

theorem isSome_runMany_iff {p : α → Bool} {k : List α → Option β} {s : List α} :
    (runMany p k s).isSome = true ↔
      ∃ taken rest, s = taken ++ rest ∧ (∀ c ∈ taken, p c = true) ∧ (k rest).isSome = true := by
  constructor
  · intro h
    induction s with
    | nil => exact ⟨[], [], rfl, nofun, h⟩
    | cons c s ih =>
      rw [runMany] at h
      split at h
      next hc =>
        rw [Option.isSome_or, Bool.or_eq_true] at h
        rcases h with hmore | hstop
        · obtain ⟨taken, rest, rfl, htaken, hrest⟩ := ih hmore
          exact ⟨c :: taken, rest, rfl, List.forall_mem_cons.mpr ⟨hc, htaken⟩, hrest⟩
        · exact ⟨[], c :: s, rfl, nofun, hstop⟩
      next => exact ⟨[], c :: s, rfl, nofun, h⟩
  · rintro ⟨taken, rest, rfl, htaken, hrest⟩
    induction taken with
    | nil =>
      cases rest with
      | nil => exact hrest
      | cons c rest =>
        rw [List.nil_append, runMany]
        split
        next => rw [Option.isSome_or, hrest, Bool.or_true]
        next => exact hrest
    | cons c taken ih =>
      obtain ⟨hc, htaken⟩ := List.forall_mem_cons.mp htaken
      rw [List.cons_append, runMany, if_pos hc, Option.isSome_or, ih htaken, Bool.true_or]

/-- Backtracking succeeds if some choice does. Whether the continuation succeeds may not depend on
the groups. -/
theorem isSome_run_iff {r : Pattern α} {k : List α → List (List α) → Option β}
    (hk : ∀ rest groups groups', (k rest groups).isSome = true → (k rest groups').isSome = true)
    {s : List α} {groups : List (List α)} :
    (run r k s groups).isSome = true ↔
      ∃ taken rest, s = taken ++ rest ∧ Takes r taken rest ∧ (k rest groups).isSome = true := by
  induction r generalizing k s groups with
  | one p =>
    cases s with
    | nil =>
      refine iff_of_false Bool.false_ne_true ?_
      rintro ⟨taken, rest, hs, ⟨c, rfl, -⟩, -⟩
      cases hs
    | cons c s =>
      rw [run]
      constructor
      · intro h
        split at h
        next hc => exact ⟨[c], s, rfl, ⟨c, rfl, hc⟩, h⟩
        next => cases h
      · rintro ⟨taken, rest, hs, ⟨d, rfl, hd⟩, hrest⟩
        cases hs
        rwa [if_pos hd]
  | many p =>
    rw [run]
    exact isSome_runMany_iff
  | look q =>
    rw [run]
    constructor
    · intro h
      split at h
      next hq => exact ⟨[], s, rfl, ⟨rfl, hq⟩, h⟩
      next => cases h
    · rintro ⟨taken, rest, rfl, ⟨rfl, hq⟩, hrest⟩
      rwa [List.nil_append, if_pos hq]
  | group r ih =>
    rw [run, ih fun rest groups groups' => hk rest _ _]
    constructor
    · rintro ⟨taken, rest, hs, htakes, hrest⟩
      exact ⟨taken, rest, hs, htakes, hk rest _ groups hrest⟩
    · rintro ⟨taken, rest, hs, htakes, hrest⟩
      exact ⟨taken, rest, hs, htakes, hk rest groups _ hrest⟩
  | seq r t ihr iht =>
    have hinner : ∀ rest groups groups', (run t k rest groups).isSome = true →
        (run t k rest groups').isSome = true := by
      intro rest groups groups' h
      rw [iht hk] at h ⊢
      obtain ⟨taken, rest', hs, htakes, hrest⟩ := h
      exact ⟨taken, rest', hs, htakes, hk _ _ _ hrest⟩
    rw [run, ihr hinner]
    constructor
    · rintro ⟨front, rest, rfl, hfront, h⟩
      obtain ⟨back, rest, rfl, hback, hrest⟩ := (iht hk).mp h
      exact ⟨front ++ back, rest, (List.append_assoc _ _ _).symm, ⟨front, back, rfl, hfront, hback⟩,
        hrest⟩
    · rintro ⟨taken, rest, rfl, ⟨front, back, rfl, hfront, hback⟩, hrest⟩
      exact ⟨front, back ++ rest, List.append_assoc _ _ _, hfront,
        (iht hk).mpr ⟨back, rest, rfl, hback, hrest⟩⟩

/-- **Backtracking finds a match of the whole text if there is one.** -/
theorem isSome_fullMatch_iff {r : Pattern α} {s : List α} :
    (fullMatch r s).isSome = true ↔ Takes r s [] := by
  rw [fullMatch, isSome_run_iff fun rest groups groups' h => ?_]
  · constructor
    · rintro ⟨taken, rest, rfl, htakes, hrest⟩
      cases rest with
      | nil => rwa [List.append_nil]
      | cons c rest => cases hrest
    · intro htakes
      exact ⟨s, [], (List.append_nil s).symm, htakes, rfl⟩
  · cases rest with
    | nil => rfl
    | cons c rest => cases h

/-- The pattern does not see a map of the characters. -/
def Blind (f : α → α) : Pattern α → Prop
  | .one p => ∀ c, p (f c) = p c
  | .many p => ∀ c, p (f c) = p c
  | .look q => ∀ rest, q (rest.map f) = q rest
  | .group r => Blind f r
  | .seq r t => Blind f r ∧ Blind f t

/-- What is taken, seen through a map. -/
theorem Takes.map {f : α → α} {r : Pattern α} (hr : Blind f r) {taken rest : List α}
    (h : Takes r taken rest) : Takes r (taken.map f) (rest.map f) := by
  induction r generalizing taken rest with
  | one p =>
    obtain ⟨c, rfl, hc⟩ := h
    exact ⟨f c, rfl, by rwa [hr c]⟩
  | many p =>
    intro c hc
    obtain ⟨d, hd, rfl⟩ := List.mem_map.mp hc
    rw [hr d]
    exact h d hd
  | look q =>
    obtain ⟨rfl, hq⟩ := h
    exact ⟨rfl, by rwa [hr rest]⟩
  | group r ih => exact ih hr h
  | seq r t ihr iht =>
    obtain ⟨front, back, rfl, hfront, hback⟩ := h
    refine ⟨front.map f, back.map f, List.map_append, ?_, iht hr.2 hback⟩
    rw [← List.map_append]
    exact ihr hr.1 hfront

/-! ### Searching -/

/-- The groups of the first match of one of the patterns, at the first place where one matches. -/
def search (rs : List (Pattern α)) : List α → Option (List (List α))
  | [] => rs.findSome? fun r => run r (fun _ groups => some groups) [] []
  | c :: s => (rs.findSome? fun r => run r (fun _ groups => some groups) (c :: s) []).or (search rs s)

/-- The search goes on behind a place where nothing matches. -/
theorem search_cons_of_none {rs : List (Pattern α)} {c : α} {s : List α}
    (h : ∀ r ∈ rs, run r (fun _ groups => some groups) (c :: s) [] = none) :
    search rs (c :: s) = search rs s := by
  rw [search, List.findSome?_eq_none_iff.mpr h, Option.none_or]

/-- The search ends at a place where something matches. -/
theorem search_of_some {rs : List (Pattern α)} {s : List α} {groups : List (List α)}
    (h : rs.findSome? (fun r => run r (fun _ groups => some groups) s []) = some groups) :
    search rs s = some groups := by
  cases s with
  | nil => exact h
  | cons c s => rw [search, h, Option.some_or]

/-- **A search finds something** exactly if one of the patterns takes a part of the text. -/
theorem isSome_search_iff {rs : List (Pattern α)} {s : List α} :
    (search rs s).isSome = true ↔
      ∃ r ∈ rs, ∃ front taken rest, s = front ++ taken ++ rest ∧ Takes r taken rest := by
  have hplace : ∀ s : List α,
      (rs.findSome? fun r => run r (fun _ groups => some groups) s []).isSome = true ↔
        ∃ r ∈ rs, ∃ taken rest, s = taken ++ rest ∧ Takes r taken rest := by
    intro s
    rw [List.findSome?_isSome_iff]
    refine exists_congr fun r => and_congr_right fun _ => ?_
    rw [isSome_run_iff fun _ _ _ _ => rfl]
    simp
  induction s with
  | nil =>
    rw [search, hplace]
    refine exists_congr fun r => and_congr_right fun _ => ?_
    constructor
    · rintro ⟨taken, rest, hs, htakes⟩
      exact ⟨[], taken, rest, hs, htakes⟩
    · rintro ⟨front, taken, rest, hs, htakes⟩
      obtain ⟨rfl, rfl, rfl⟩ : front = [] ∧ taken = [] ∧ rest = [] := by simpa using hs.symm
      exact ⟨[], [], rfl, htakes⟩
  | cons c s ih =>
    rw [search, Option.isSome_or, Bool.or_eq_true]
    refine (or_congr (hplace (c :: s)) ih).trans ?_
    constructor
    · rintro (⟨r, hr, taken, rest, hs, htakes⟩ | ⟨r, hr, front, taken, rest, rfl, htakes⟩)
      · exact ⟨r, hr, [], taken, rest, hs, htakes⟩
      · exact ⟨r, hr, c :: front, taken, rest, rfl, htakes⟩
    · rintro ⟨r, hr, front, taken, rest, hs, htakes⟩
      cases front with
      | nil => exact Or.inl ⟨r, hr, taken, rest, hs, htakes⟩
      | cons d front =>
        obtain ⟨rfl, rfl⟩ := List.cons.inj hs
        exact Or.inr ⟨r, hr, front, taken, rest, rfl, htakes⟩

/-- A repetition that has to give back: what follows it does not match where it ends, but does
behind `taken`. -/
theorem runMany_append {p : α → Bool} {k : List α → Option β} {taken s : List α} {b : β}
    (htaken : ∀ c ∈ taken, p c = true) (hs : runMany p k s = some b) :
    runMany p k (taken ++ s) = some b := by
  induction taken with
  | nil => exact hs
  | cons c taken ih =>
    obtain ⟨hc, htaken⟩ := List.forall_mem_cons.mp htaken
    rw [List.cons_append, runMany, if_pos hc, ih htaken, Option.some_or]

end Regex
