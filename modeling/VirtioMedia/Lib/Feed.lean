import Mathlib.Data.List.Induction

/-!
# Queues that are held back

Items are pushed into a queue. While the queue is held back they wait, and as
long as it is open they are delivered at once. Starting it delivers what waits,
stopping it drops what waits. What is delivered is determined by the history
alone: every item that is pushed while the queue is open, and every other one
that no stop overtakes before the next start, in the order in which they came.
-/

/-- What happens to a queue. -/
inductive Feed.Op (α : Type) where
  | push (a : α)
  | start
  | stop
  deriving DecidableEq, Repr

/-- The state of a queue. -/
structure Feed (α : Type) where
  isOpen : Bool
  waiting : List α
  delivered : List α

namespace Feed

variable {α : Type}

/-- The queue at first: held back and empty. -/
def init : Feed α := ⟨false, [], []⟩

def step (f : Feed α) : Op α → Feed α
  | .push a =>
    if f.isOpen then ⟨true, [], f.delivered ++ (f.waiting ++ [a])⟩
    else { f with waiting := f.waiting ++ [a] }
  | .start => ⟨true, [], f.delivered ++ f.waiting⟩
  | .stop => ⟨false, [], f.delivered⟩

/-- The queue after a history. -/
def after (ops : List (Op α)) : Feed α := ops.foldl step init

/-- What waits is delivered: the first thing to come, other than items, is a
start. -/
def startsNext : List (Op α) → Bool
  | [] => false
  | .push _ :: rest => startsNext rest
  | .start :: _ => true
  | .stop :: _ => false

/-- The items that are delivered along a history, from a queue that is open or
held back. -/
def delivers : Bool → List (Op α) → List α
  | _, [] => []
  | isOpen, .push a :: rest =>
    if isOpen || startsNext rest then a :: delivers isOpen rest else delivers isOpen rest
  | _, .start :: rest => delivers true rest
  | _, .stop :: rest => delivers false rest

@[simp] theorem after_nil : after ([] : List (Op α)) = init := rfl

end Feed
