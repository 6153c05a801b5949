import Mathlib.Data.List.Nodup
import VirtioMedia.Lib.Trace

/-!
# Queues without duplicates

The items of a queue are different from each other: an item can only be pushed
while it is not in the queue. The item that has been in the queue for longest
is popped first. What was pushed since the queue was last cleared is then what
was popped since, in the same order, followed by what the queue still holds.
-/

namespace Fifo

variable {α : Type*} [DecidableEq α]

/-- What is done to a queue. -/
inductive Op (α : Type*) where
  | push (a : α)
  | pop (a : α)
  | clear
  deriving DecidableEq, Repr

/-- The queue after an operation, oldest item first. -/
def step (q : List α) : Op α → Option (List α)
  | .push a => if a ∈ q then none else some (q ++ [a])
  | .pop a => if q.head? = some a then some q.tail else none
  | .clear => some []

@[simp] theorem step_push {q : List α} {a : α} (h : a ∉ q) : step q (.push a) = some (q ++ [a]) :=
  if_neg h

@[simp] theorem step_pop (a : α) (q : List α) : step (a :: q) (.pop a) = some q :=
  if_pos rfl

@[simp] theorem step_clear (q : List α) : step q .clear = some [] := rfl

/-- What entered and what left the queue since it was last cleared. -/
structure History (α : Type*) where
  entered : List α
  left : List α
  deriving DecidableEq, Repr

def History.add (h : History α) : Op α → History α
  | .push a => { h with entered := h.entered ++ [a] }
  | .pop a => { h with left := h.left ++ [a] }
  | .clear => ⟨[], []⟩

/-- The history of a list of operations. -/
def history (ops : List (Op α)) : History α := ops.foldl History.add ⟨[], []⟩

end Fifo
