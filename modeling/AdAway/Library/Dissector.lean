import Mathlib.Data.List.Basic

/-!
# Printing captured bytes

A dissector reads bytes of a capture at any offsets, prints text and returns a value. It may test
whether an offset is within the capture; a read that is not is a fault, and so is a loop that does
not end. Both are results here, so that a theorem can rule them out.

What a dissector does is stated in two ways. `Meets` is a rule of pre- and postconditions: there is
no fault, what is printed is of some kind and the value has a property. `Prints` names the text and
the value; it is for captures whose content is known.

## Main definitions

* `Dissector` — the monad, with `print`, `captured` and `byte`
* `Dissector.Meets`, `Dissector.Prints` — what a dissector does on a capture

## Main results

* `Dissector.meets_bind`, `Dissector.meets_byte` — the rules for `Meets`
* `Dissector.Prints.bind` — texts are printed one behind the other
* `Dissector.byte_append` — a byte behind a known front
-/

/-- What must not happen. -/
inductive Dissector.Fault
  /-- A byte is read that was not captured. -/
  | overread
  /-- A loop goes on for longer than its bound. -/
  | endless
  deriving DecidableEq, Repr

/-- Reads bytes `β`, prints characters `γ` and returns a value. -/
def Dissector (β γ α : Type) := List β → Except Dissector.Fault (α × List γ)

namespace Dissector

variable {β γ α δ : Type}

/-- A text is checked character by character. -/
scoped instance (priority := high) decidableForallMem (kind : γ → Prop) [DecidablePred kind]
    (text : List γ) : Decidable (∀ c ∈ text, kind c) := List.decidableBAll kind text

instance : Monad (Dissector β γ) where
  pure a := fun _ => .ok (a, [])
  bind d f := fun capture =>
    match d capture with
    | .error fault => .error fault
    | .ok (a, printed) =>
      match f a capture with
      | .error fault => .error fault
      | .ok (b, more) => .ok (b, printed ++ more)

/-- Prints a text. -/
def print (text : List γ) : Dissector β γ Unit := fun _ => .ok ((), text)

/-- The end of the capture. -/
def snapend : Dissector β γ ℕ := fun capture => .ok (capture.length, [])

/-- Whether the bytes at an offset were captured. -/
def captured (offset count : ℕ) : Dissector β γ Bool :=
  fun capture => .ok (offset + count ≤ capture.length, [])

/-- The byte at an offset. -/
def byte (offset : ℕ) : Dissector β γ β := fun capture =>
  match capture[offset]? with
  | none => .error .overread
  | some b => .ok (b, [])

/-- A loop that has used up its bound. -/
def endless : Dissector β γ α := fun _ => .error .endless

/-! ### Rules of pre- and postconditions -/

/-- There is no fault, all that is printed is of a kind and the value has a property. -/
def Meets (capture : List β) (kind : γ → Prop) (d : Dissector β γ α) (Q : α → Prop) : Prop :=
  ∃ a printed, d capture = .ok (a, printed) ∧ (∀ c ∈ printed, kind c) ∧ Q a

variable {capture : List β} {kind : γ → Prop} {P : α → Prop} {Q : δ → Prop}

theorem meets_pure {a : α} (h : P a) : Meets capture kind (pure a) P := ⟨a, [], rfl, nofun, h⟩

theorem meets_bind {d : Dissector β γ α} {f : α → Dissector β γ δ} (hd : Meets capture kind d P)
    (hf : ∀ a, P a → Meets capture kind (f a) Q) : Meets capture kind (d >>= f) Q := by
  obtain ⟨a, printed, hrun, hprinted, ha⟩ := hd
  obtain ⟨b, more, hrun', hmore, hb⟩ := hf a ha
  refine ⟨b, printed ++ more, ?_, ?_, hb⟩
  · simp only [bind, hrun, hrun']
  · intro c hc
    exact (List.mem_append.mp hc).elim (hprinted c) (hmore c)

theorem Meets.mono {d : Dissector β γ α} {P' : α → Prop} (h : Meets capture kind d P)
    (hP : ∀ a, P a → P' a) : Meets capture kind d P' := by
  obtain ⟨a, printed, hrun, hprinted, ha⟩ := h
  exact ⟨a, printed, hrun, hprinted, hP a ha⟩

theorem meets_print {text : List γ} (h : ∀ c ∈ text, kind c) :
    Meets capture kind (print text) fun _ => True := ⟨(), text, rfl, h, trivial⟩

theorem meets_snapend : Meets capture kind snapend fun n => n = capture.length :=
  ⟨_, [], rfl, nofun, rfl⟩

theorem meets_captured (offset count : ℕ) :
    Meets capture kind (captured offset count) fun b => b = true ↔ offset + count ≤ capture.length :=
  ⟨_, [], rfl, nofun, decide_eq_true_iff⟩

/-- A byte is read where it was captured. -/
theorem meets_byte {offset : ℕ} (h : offset < capture.length) :
    Meets capture kind (byte offset) fun b => capture[offset]? = some b := by
  refine ⟨capture[offset], [], ?_, nofun, List.getElem?_eq_getElem h⟩
  rw [byte, List.getElem?_eq_getElem h]

/-- A test and its two branches. -/
theorem meets_ite {p : Prop} [Decidable p] {d e : Dissector β γ α}
    (hd : p → Meets capture kind d P) (he : ¬ p → Meets capture kind e P) :
    Meets capture kind (if p then d else e) P := by
  split
  next h => exact hd h
  next h => exact he h

/-! ### The text of a known capture -/

/-- The value and the text. -/
def Prints (capture : List β) (d : Dissector β γ α) (a : α) (text : List γ) : Prop :=
  d capture = .ok (a, text)

theorem prints_pure (a : α) : Prints capture (pure a : Dissector β γ α) a [] := rfl

/-- Texts are printed one behind the other. -/
theorem Prints.bind {d : Dissector β γ α} {f : α → Dissector β γ δ} {a : α} {b : δ}
    {text more : List γ} (hd : Prints capture d a text) (hf : Prints capture (f a) b more) :
    Prints capture (d >>= f) b (text ++ more) := by
  rw [Prints] at hd hf ⊢
  simp only [Bind.bind, hd, hf]

/-- What is done first prints nothing. -/
theorem Prints.nil_bind {d : Dissector β γ α} {f : α → Dissector β γ δ} {a : α} {b : δ}
    {more : List γ} (hd : Prints capture d a []) (hf : Prints capture (f a) b more) :
    Prints capture (d >>= f) b more := hd.bind hf

/-- What is done next prints nothing. -/
theorem Prints.bind_nil {d : Dissector β γ α} {f : α → Dissector β γ δ} {a : α} {b : δ}
    {text : List γ} (hd : Prints capture d a text) (hf : Prints capture (f a) b []) :
    Prints capture (d >>= f) b text := by
  have hbind := hd.bind hf
  rwa [List.append_nil] at hbind

theorem prints_print (text : List γ) : Prints capture (print text : Dissector β γ Unit) () text := rfl

theorem prints_snapend : Prints capture (snapend : Dissector β γ ℕ) capture.length [] := rfl

theorem prints_captured {offset count : ℕ} (h : offset + count ≤ capture.length) :
    Prints capture (captured offset count : Dissector β γ Bool) true [] := by
  rw [Prints, captured, decide_eq_true h]

theorem prints_byte {offset : ℕ} {b : β} (h : capture[offset]? = some b) :
    Prints capture (byte offset : Dissector β γ β) b [] := by
  rw [Prints, byte, h]

/-- The byte behind a known front. -/
theorem getElem?_front (front : List β) (b : β) (rest : List β) :
    (front ++ b :: rest)[front.length]? = some b := by
  rw [List.getElem?_append_right (Nat.le_refl _), Nat.sub_self, List.getElem?_cons_zero]

end Dissector
