import Mathlib.Data.List.Chain
import Mathlib.Data.List.Infix

/-!
# Glob patterns

Patterns made of literal characters, "any one character" and "any sequence of characters", matched
against a whole text. The comparison of characters is a parameter: SQL `LIKE` folds the case of
ASCII letters, other matchers do not.

The matcher recurses on the pattern, so it runs in the kernel.

## Main definitions

* `Glob.Token` — the three kinds of pattern element
* `Glob.Matches` — the language of a pattern
* `Glob.accepts` — does a text match a pattern

## Main results

* `Glob.accepts_iff` — the matcher decides the language
* `Glob.matches_append`, `matches_many_append_many` — patterns in a row, and between two "any
  sequence"
* `Glob.Matches.relax` — a literal may be replaced by "any one character"
* `Glob.accepts_map` — a text may be rewritten by a map the comparison does not see
* `Glob.matches_shortest` — a pattern matches some text
* `Glob.Matches.isChain_fill` — a rule on neighbours passes from a text to its pattern
* `Glob.forall_matches_takeWhile_iff` — which patterns match a text as they match its part in front
  of a character
-/

namespace Glob

/-- One element of a pattern. -/
inductive Token (α : Type*)
  /-- Any sequence of characters, possibly empty. -/
  | many
  /-- Any one character. -/
  | one
  /-- A character standing for itself. -/
  | lit (a : α)
  deriving DecidableEq, Repr

variable {α : Type*}

/-- Does the whole of a text match a pattern, comparing characters by `eqv`? -/
def accepts (eqv : α → α → Bool) : List (Token α) → List α → Bool
  | [], s => s.isEmpty
  | .many :: p, s => s.tails.any fun t => accepts eqv p t
  | .one :: _, [] => false
  | .one :: p, _ :: s => accepts eqv p s
  | .lit _ :: _, [] => false
  | .lit a :: p, c :: s => eqv a c && accepts eqv p s

/-- The language of a pattern. -/
inductive Matches (eqv : α → α → Bool) : List (Token α) → List α → Prop
  | nil : Matches eqv [] []
  | many {p : List (Token α)} {t : List α} (s : List α) (h : Matches eqv p t) :
    Matches eqv (.many :: p) (s ++ t)
  | one {p : List (Token α)} {s : List α} (c : α) (h : Matches eqv p s) :
    Matches eqv (.one :: p) (c :: s)
  | lit {p : List (Token α)} {s : List α} {a c : α} (hc : eqv a c = true) (h : Matches eqv p s) :
    Matches eqv (.lit a :: p) (c :: s)

/-- **The matcher decides the language.** -/
theorem accepts_iff {eqv : α → α → Bool} {p : List (Token α)} {s : List α} :
    accepts eqv p s = true ↔ Matches eqv p s := by
  constructor
  · intro h
    induction p generalizing s with
    | nil =>
      obtain rfl := List.isEmpty_iff.mp h
      exact .nil
    | cons token p ih =>
      cases token with
      | many =>
        rw [accepts, List.any_eq_true] at h
        obtain ⟨t, ht, hmatch⟩ := h
        obtain ⟨before, rfl⟩ := (List.mem_tails _ _).mp ht
        exact .many before (ih hmatch)
      | one =>
        cases s with
        | nil => cases h
        | cons c s => exact .one c (ih h)
      | lit a =>
        cases s with
        | nil => cases h
        | cons c s =>
          rw [accepts, Bool.and_eq_true] at h
          exact .lit h.1 (ih h.2)
  · intro h
    induction h with
    | nil => rfl
    | many s _ ih =>
      rw [accepts, List.any_eq_true]
      exact ⟨_, (List.mem_tails _ _).mpr (List.suffix_append s _), ih⟩
    | one c _ ih => exact ih
    | lit hc _ ih =>
      rw [accepts, hc, ih]
      rfl

/-- Two patterns in a row. -/
theorem matches_append {eqv : α → α → Bool} {p q : List (Token α)} {s : List α} :
    Matches eqv (p ++ q) s ↔ ∃ t u, s = t ++ u ∧ Matches eqv p t ∧ Matches eqv q u := by
  constructor
  · intro h
    induction p generalizing s with
    | nil => exact ⟨[], s, rfl, .nil, h⟩
    | cons token p ih =>
      cases h with
      | many before h =>
        obtain ⟨t, u, rfl, ht, hu⟩ := ih h
        exact ⟨before ++ t, u, (List.append_assoc _ _ _).symm, .many before ht, hu⟩
      | one c h =>
        obtain ⟨t, u, rfl, ht, hu⟩ := ih h
        exact ⟨c :: t, u, rfl, .one c ht, hu⟩
      | lit hc h =>
        obtain ⟨t, u, rfl, ht, hu⟩ := ih h
        exact ⟨_ :: t, u, rfl, .lit hc ht, hu⟩
  · rintro ⟨t, u, rfl, ht, hu⟩
    induction ht with
    | nil => exact hu
    | many before _ ih =>
      rw [List.append_assoc]
      exact .many before ih
    | one c _ ih => exact .one c ih
    | lit hc _ ih => exact .lit hc ih

theorem matches_many {eqv : α → α → Bool} (s : List α) : Matches eqv [.many] s := by
  have h : Matches eqv [.many] (s ++ []) := .many s .nil
  rwa [List.append_nil] at h

/-- A pattern between two "any sequence" matches the texts that contain a match. -/
theorem matches_many_append_many {eqv : α → α → Bool} {p : List (Token α)} {s : List α} :
    Matches eqv (.many :: (p ++ [.many])) s ↔
      ∃ before middle after, s = before ++ (middle ++ after) ∧ Matches eqv p middle := by
  constructor
  · rintro (_ | ⟨before, h⟩)
    obtain ⟨middle, after, rfl, hmiddle, -⟩ := matches_append.mp h
    exact ⟨before, middle, after, rfl, hmiddle⟩
  · rintro ⟨before, middle, after, rfl, hmiddle⟩
    exact .many before (matches_append.mpr ⟨middle, after, rfl, hmiddle, matches_many after⟩)

/-- A literal of the pattern stands for a character of the text. -/
theorem Matches.exists_of_lit_mem {eqv : α → α → Bool} {p : List (Token α)} {s : List α}
    (h : Matches eqv p s) {a : α} (ha : .lit a ∈ p) : ∃ c ∈ s, eqv a c = true := by
  induction h with
  | nil => exact absurd ha List.not_mem_nil
  | many before _ ih =>
    obtain ⟨c, hc, heqv⟩ := ih (by simpa using ha)
    exact ⟨c, List.mem_append_right before hc, heqv⟩
  | one c' _ ih =>
    obtain ⟨c, hc, heqv⟩ := ih (by simpa using ha)
    exact ⟨c, List.mem_cons_of_mem c' hc, heqv⟩
  | lit hc' _ ih =>
    rcases List.mem_cons.mp ha with heq | ha
    · cases heq
      exact ⟨_, List.mem_cons_self, hc'⟩
    · obtain ⟨c, hc, heqv⟩ := ih ha
      exact ⟨c, List.mem_cons_of_mem _ hc, heqv⟩

/-- Reading some literals as "any one character" loses no match. -/
theorem Matches.relax {β : Type*} {eqv : α → α → Bool} {f g : β → Token α} {l : List β} {s : List α}
    (hfg : ∀ b ∈ l, g b = f b ∨ (g b = .one ∧ ∃ a, f b = .lit a)) (h : Matches eqv (l.map f) s) :
    Matches eqv (l.map g) s := by
  induction l generalizing s with
  | nil => exact h
  | cons b l ih =>
    rw [List.forall_mem_cons] at hfg
    rw [List.map_cons] at h ⊢
    rcases hfg.1 with heq | ⟨hone, a, hlit⟩
    · rw [heq]
      generalize f b = token at h
      cases h with
      | many before h => exact .many before (ih hfg.2 h)
      | one c h => exact .one c (ih hfg.2 h)
      | lit hc h => exact .lit hc (ih hfg.2 h)
    · rw [hlit] at h
      rw [hone]
      cases h with
      | lit hc h => exact .one _ (ih hfg.2 h)

/-- Rewriting the text by a map that the comparison does not see changes nothing. -/
theorem accepts_map {eqv : α → α → Bool} {f : α → α} (hf : ∀ a c, eqv a (f c) = eqv a c) :
    ∀ (p : List (Token α)) (s : List α), accepts eqv p (s.map f) = accepts eqv p s := by
  intro p
  induction p with
  | nil => intro s; cases s <;> rfl
  | cons a p ih =>
    intro s
    cases a with
    | many =>
      rw [accepts, accepts, List.map_tails, List.any_map]
      exact congrArg _ (funext fun t => ih t)
    | one =>
      cases s with
      | nil => rfl
      | cons c s => exact ih s
    | lit a =>
      cases s with
      | nil => rfl
      | cons c s => simp only [List.map_cons, accepts, hf, ih]

/-! ### Filling in a pattern -/

/-- The characters of a shortest match, with `f` for "any one character". -/
def Token.shortest (f : α) : Token α → Option α
  | .many => none
  | .one => some f
  | .lit a => some a

/-- **A pattern matches some text.** -/
theorem matches_shortest {eqv : α → α → Bool} (heqv : ∀ a, eqv a a = true) (f : α)
    (p : List (Token α)) : Matches eqv p (p.filterMap (Token.shortest f)) := by
  induction p with
  | nil => exact .nil
  | cons token p ih =>
    cases token with
    | many => exact .many [] ih
    | one => exact .one f ih
    | lit a => exact .lit (heqv a) ih

/-- Each of these characters is `f` or a literal of the pattern. -/
theorem mem_shortest {f a : α} {p : List (Token α)} (h : a ∈ p.filterMap (Token.shortest f)) :
    a = f ∨ .lit a ∈ p := by
  obtain ⟨token, htoken, heq⟩ := List.mem_filterMap.mp h
  cases token with
  | many => cases heq
  | one => exact Or.inl (Option.some.inj heq).symm
  | lit b => exact Or.inr (Option.some.inj heq ▸ htoken)

/-- A pattern element, with a character for the wildcards. -/
def Token.fill (f : α) : Token α → α
  | .lit a => a
  | _ => f

/-- Literals that are neighbours in a pattern are neighbours in each text it matches. So the
pattern, filled in with a character that goes with all others, obeys the rules on neighbours that
the text does, also behind another character. -/
theorem Matches.isChain_fill {eqv : α → α → Bool} {R : α → α → Prop} {f : α}
    (heqv : ∀ a c, eqv a c = true → a = c) (hf : ∀ a, R f a ∧ R a f) {p : List (Token α)}
    {s : List α} (h : Matches eqv p s) {b b' : α} (hb : b' = b ∨ b' = f)
    (hs : List.IsChain R (b :: s)) : List.IsChain R (b' :: p.map (Token.fill f)) := by
  induction h generalizing b b' with
  | nil => exact List.isChain_singleton b'
  | @many _ t before _ ih =>
    rw [List.map_cons, List.isChain_cons_cons]
    rcases List.eq_nil_or_concat before with rfl | ⟨before, c, rfl⟩
    · exact ⟨(hf b').2, ih (Or.inr rfl) hs⟩
    · have hrest : List.IsChain R (c :: t) := by
        rw [List.concat_eq_append, List.append_assoc, ← List.cons_append] at hs
        exact (List.isChain_append.mp hs).2.1
      exact ⟨(hf b').2, ih (Or.inr rfl) hrest⟩
  | one c _ ih =>
    rw [List.map_cons, List.isChain_cons_cons]
    exact ⟨(hf b').2, ih (Or.inr rfl) (List.isChain_cons_cons.mp hs).2⟩
  | lit hc _ ih =>
    obtain rfl := heqv _ _ hc
    rw [List.map_cons, List.isChain_cons_cons]
    obtain ⟨hrel, hrest⟩ := List.isChain_cons_cons.mp hs
    refine ⟨?_, ih (Or.inl rfl) hrest⟩
    rcases hb with rfl | rfl
    · exact hrel
    · exact (hf _).1

/-- A filled-in pattern ends as its matches do, or with a wildcard. -/
theorem Matches.getLast?_fill {eqv : α → α → Bool} {f : α}
    (heqv : ∀ a c, eqv a c = true → a = c) {p : List (Token α)} {s : List α}
    (h : Matches eqv p s) : ∀ a ∈ (p.map (Token.fill f)).getLast?, a = f ∨ a ∈ s.getLast? := by
  rcases List.eq_nil_or_concat p with rfl | ⟨p, token, rfl⟩
  · simp
  · rw [List.concat_eq_append] at h ⊢
    obtain ⟨t, u, rfl, -, hu⟩ := matches_append.mp h
    rw [List.map_append, List.map_singleton, List.getLast?_concat]
    rintro a ⟨rfl⟩
    cases hu with
    | many _ _ => exact Or.inl rfl
    | one _ _ => exact Or.inl rfl
    | lit hc hrest =>
      cases hrest
      obtain rfl := heqv _ _ hc
      exact Or.inr (by simp [Token.fill])

/-! ### Texts that are read in part -/

/-- A pattern of literals, and then of "any sequence" alone, one at least. -/
def IsPrefix : List (Token α) → Prop
  | [] => False
  | .many :: p => ∀ token ∈ p, token = .many
  | .one :: _ => False
  | .lit _ :: p => IsPrefix p

instance decidableIsPrefix [DecidableEq α] : (p : List (Token α)) → Decidable (IsPrefix p)
  | [] => instDecidableFalse
  | .many :: p => inferInstanceAs (Decidable (∀ token ∈ p, token = .many))
  | .one :: _ => instDecidableFalse
  | .lit _ :: p => decidableIsPrefix p

/-- Only "any sequence" matches nothing. -/
theorem matches_nil_iff {eqv : α → α → Bool} {p : List (Token α)} :
    Matches eqv p [] ↔ ∀ token ∈ p, token = .many := by
  induction p with
  | nil => exact iff_of_true .nil (List.forall_mem_nil _)
  | cons token p ih =>
    rw [List.forall_mem_cons, ← ih]
    cases token with
    | many =>
      refine ⟨fun h => ⟨rfl, ?_⟩, fun h => .many [] h.2⟩
      generalize hs : ([] : List α) = s at h
      cases h with
      | many before h =>
        obtain ⟨rfl, rfl⟩ := List.append_eq_nil_iff.mp hs.symm
        exact h
    | one => exact iff_of_false nofun nofun
    | lit a => exact iff_of_false nofun nofun

section Read

variable {eqv : α → α → Bool} {stop : α} [DecidableEq α]

/-- Such a pattern needs nothing behind a character that is none of its literals. -/
theorem IsPrefix.matches_takeWhile_iff {p : List (Token α)} (h : IsPrefix p)
    (hstop : ∀ a, .lit a ∈ p → eqv a stop = false) (s : List α) :
    Matches eqv p (s.takeWhile fun c => c ≠ stop) ↔ Matches eqv p s := by
  induction p generalizing s with
  | nil => cases h
  | cons token p ih =>
    cases token with
    | many =>
      have hall : ∀ t, Matches eqv (.many :: p) t := by
        intro t
        have hmatch : Matches eqv (.many :: p) (t ++ []) := .many t (matches_nil_iff.mpr h)
        rwa [List.append_nil] at hmatch
      exact iff_of_true (hall _) (hall s)
    | one => cases h
    | lit a =>
      have hrest := ih h fun b hb => hstop b (List.mem_cons_of_mem _ hb)
      cases s with
      | nil => rfl
      | cons c s =>
        by_cases hc : c = stop
        · subst hc
          rw [List.takeWhile_cons_of_neg (by simp)]
          refine iff_of_false nofun ?_
          rintro (- | - | - | ⟨hcs, -⟩)
          exact absurd ((hstop a List.mem_cons_self).symm.trans hcs) Bool.false_ne_true
        · rw [List.takeWhile_cons_of_pos (by simpa using hc)]
          constructor
          · rintro (- | - | - | ⟨hcs, hmatch⟩)
            exact .lit hcs ((hrest s).mp hmatch)
          · rintro (- | - | - | ⟨hcs, hmatch⟩)
            exact .lit hcs ((hrest s).mpr hmatch)

/-- **Where reading a part is enough**: a pattern matches each text as it matches the part in front
of a character exactly if it is made of literals, and "any sequence" behind them. -/
theorem forall_matches_takeWhile_iff (heqv : ∀ a, eqv a a = true) {p : List (Token α)}
    (hstop : ∀ a, .lit a ∈ p → eqv a stop = false) :
    (∀ s : List α, Matches eqv p (s.takeWhile fun c => c ≠ stop) ↔ Matches eqv p s) ↔
      IsPrefix p := by
  refine ⟨fun h => ?_, fun h s => h.matches_takeWhile_iff hstop s⟩
  -- the text that is nothing in front of the character, and some match behind it
  have hbehind : ∀ {q : List (Token α)} {t : List α}, Matches eqv q (stop :: t) →
      (∀ s : List α, Matches eqv q (s.takeWhile fun c => c ≠ stop) ↔ Matches eqv q s) →
      ∀ token ∈ q, token = .many := by
    intro q t hmatch hread
    have hnothing := (hread (stop :: t)).mpr hmatch
    rw [List.takeWhile_cons_of_neg (by simp)] at hnothing
    exact matches_nil_iff.mp hnothing
  induction p with
  | nil =>
    have hend := (h [stop]).mp (by rw [List.takeWhile_cons_of_neg (by simp)]; exact .nil)
    cases hend
  | cons token p ih =>
    cases token with
    | many =>
      have hmatch : Matches eqv (.many :: p) ([stop] ++ p.filterMap (Token.shortest stop)) :=
        .many [stop] (matches_shortest heqv stop p)
      exact fun token htoken => hbehind hmatch h token (List.mem_cons_of_mem _ htoken)
    | one =>
      have hmany := hbehind (.one stop (matches_shortest heqv stop p)) h .one List.mem_cons_self
      cases hmany
    | lit a =>
      have ha : a ≠ stop := by
        rintro rfl
        exact absurd ((hstop a List.mem_cons_self).symm.trans (heqv a)) Bool.false_ne_true
      refine ih (fun b hb => hstop b (List.mem_cons_of_mem _ hb)) fun s => ?_
      have hcons : ∀ t : List α, Matches eqv (.lit a :: p) (a :: t) ↔ Matches eqv p t := by
        intro t
        refine ⟨?_, .lit (heqv a)⟩
        rintro (- | - | - | ⟨-, hmatch⟩)
        exact hmatch
      rw [← hcons, ← hcons s, ← h (a :: s), List.takeWhile_cons_of_pos (by simpa using ha)]

end Read

end Glob
