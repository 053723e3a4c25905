/-!
This module contains feeds: sequences of items that may end in a failure.
-/

namespace CallScope

/--
Items in order. A failure, if there is one, comes up after the last of them.
-/
structure Feed (ε α : Type) where
  items : List α
  failure? : Option ε := none

namespace Feed

variable {ε α : Type}

/--
How reading a feed item by item ended: the reader stopped by itself, asked for one item too many, or came to
the failure.
-/
inductive Ending (ε : Type) where
  | closed
  | exhausted
  | failed (failure : ε)
  deriving DecidableEq, Repr

/--
Ask a feed for `count` items, one after the other.
-/
def take (feed : Feed ε α) (count : Nat) : List α × Ending ε :=
  if count ≤ feed.items.length then (feed.items.take count, .closed)
  else
    match feed.failure? with
    | some failure => (feed.items, .failed failure)
    | none => (feed.items, .exhausted)

end Feed

end CallScope
