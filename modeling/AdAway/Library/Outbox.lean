import Mathlib.Data.List.Basic
import Mathlib.Data.List.Nodup

/-!
# A queue that is drained in order

An outbox takes items at its end and gives them away from its head. A drain goes on until the outbox
is empty or one delivery fails; the item that failed has been taken out by then, so it is lost and
the items after it wait on.

The structure records all that was added and all that has left, and carries the law of conservation
as a field: what was added has left or waits, in this order. It is a field so that no operation can
be written that reorders, duplicates or forgets an item.

## Main definitions

* `Outbox`, `Outbox.add`, `Outbox.drain` — the queue and its operations
* `Outbox.delivered`, `Outbox.lost` — what has left

## Main results

* `Outbox.delivered_sublist` — deliveries keep the order in which the items were added
* `Outbox.nodup_delivered` — no item is delivered twice, or delivered and lost, or still waiting
* `Outbox.length_lost_drain` — a drain loses one item at most
-/

/-- A queue, with all that was added to it and all that has left it. -/
@[ext] structure Outbox (α : Type*) where
  waiting : List α
  added : List α
  /-- What has left, and whether it was delivered. -/
  left : List (α × Bool)
  conserved : added = left.map Prod.fst ++ waiting

namespace Outbox

variable {α : Type*}

/-- The outbox nothing was added to. -/
def empty : Outbox α := ⟨[], [], [], rfl⟩

/-- An item is added at the end. -/
def add (b : Outbox α) (a : α) : Outbox α where
  waiting := b.waiting ++ [a]
  added := b.added ++ [a]
  left := b.left
  conserved := by rw [b.conserved, List.append_assoc]

/-- The items taken from the head, and the items left, when the delivery after `fails` others
fails. -/
def takeWhileDelivered : Option ℕ → List α → List (α × Bool) × List α
  | _, [] => ([], [])
  | some 0, a :: as => ([(a, false)], as)
  | some (fails + 1), a :: as =>
    let rest := takeWhileDelivered (some fails) as
    ((a, true) :: rest.1, rest.2)
  | none, a :: as =>
    let rest := takeWhileDelivered none as
    ((a, true) :: rest.1, rest.2)

theorem takeWhileDelivered_conserved (fails : Option ℕ) (as : List α) :
    as = (takeWhileDelivered fails as).1.map Prod.fst ++ (takeWhileDelivered fails as).2 := by
  induction as generalizing fails with
  | nil => cases fails <;> rfl
  | cons a as ih =>
    match fails with
    | none => exact congrArg (a :: ·) (ih none)
    | some 0 => rfl
    | some (fails + 1) => exact congrArg (a :: ·) (ih (some fails))

/-- The items are given away until none waits or a delivery fails. -/
def drain (b : Outbox α) (fails : Option ℕ) : Outbox α where
  waiting := (takeWhileDelivered fails b.waiting).2
  added := b.added
  left := b.left ++ (takeWhileDelivered fails b.waiting).1
  conserved := by
    rw [List.map_append, List.append_assoc, ← takeWhileDelivered_conserved]
    exact b.conserved

/-- The delivery after `fails` others is reached. -/
def fails (b : Outbox α) (fails : Option ℕ) : Bool :=
  fails.any fun n => n < b.waiting.length

@[simp] theorem added_empty : (empty : Outbox α).added = [] := rfl

@[simp] theorem added_add (b : Outbox α) (a : α) : (b.add a).added = b.added ++ [a] := rfl

@[simp] theorem added_drain (b : Outbox α) (fails : Option ℕ) : (b.drain fails).added = b.added := rfl

/-! ### What has left -/

/-- The items delivered, in the order of their deliveries. -/
def delivered (b : Outbox α) : List α := (b.left.filter Prod.snd).map Prod.fst

/-- The items whose delivery failed. -/
def lost (b : Outbox α) : List α := (b.left.filter fun p => !p.2).map Prod.fst

/-- Deliveries keep the order in which the items were added. -/
theorem delivered_sublist (b : Outbox α) : b.delivered.Sublist b.added := by
  rw [b.conserved]
  exact (List.filter_sublist.map Prod.fst).trans (List.sublist_append_left _ _)

theorem perm_left (b : Outbox α) : (b.left.map Prod.fst).Perm (b.delivered ++ b.lost) := by
  rw [delivered, lost, ← List.map_append]
  exact (List.filter_append_perm Prod.snd b.left).symm.map Prod.fst

/-- Each item added is delivered, lost or waits. -/
theorem perm_added (b : Outbox α) : b.added.Perm (b.delivered ++ b.lost ++ b.waiting) := by
  rw [b.conserved]
  exact b.perm_left.append_right _

/-- **No item is delivered twice**, or both delivered and lost, or delivered while it still waits. -/
theorem nodup_delivered {β : Type*} {f : α → β} {b : Outbox α} (h : (b.added.map f).Nodup) :
    ((b.delivered ++ b.lost ++ b.waiting).map f).Nodup :=
  (b.perm_added.map f).nodup_iff.mp h

theorem length_lost_takeWhileDelivered (fails : Option ℕ) (as : List α) :
    (((takeWhileDelivered fails as).1.filter fun p => !p.2).map Prod.fst).length
      = (fails.any fun n => n < as.length).toNat := by
  induction as generalizing fails with
  | nil => cases fails <;> rfl
  | cons a as ih =>
    match fails with
    | none => simpa [takeWhileDelivered] using ih none
    | some 0 => simp [takeWhileDelivered]
    | some (fails + 1) => simpa [takeWhileDelivered] using ih (some fails)

/-- A drain loses one item if the delivery that fails is reached, and none otherwise. -/
theorem length_lost_drain (b : Outbox α) (fails : Option ℕ) :
    (b.drain fails).lost.length = b.lost.length + (b.fails fails).toNat := by
  rw [lost, lost, drain, List.filter_append, List.map_append, List.length_append,
    length_lost_takeWhileDelivered]
  rfl

end Outbox
