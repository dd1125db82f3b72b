/-!
One end of a shutdown channel. A channel keeps its latest request only, and counts all; a receiver knows
how many of them it has passed.
-/

namespace Handoff.Shutdown

/-- What a receiver finds without waiting. -/
inductive Reception
  -- A request.
  | ok
  -- No request yet.
  | empty
  -- No request, and nobody is left to send one.
  | closed
  -- Requests that were overwritten before they were received, and how many.
  | lagged (missed : Nat)
deriving DecidableEq, Repr

/-- What a receiver that has passed `position` of `sent` requests finds, and how many it has passed then.
`alive` says whether anyone can still send. -/
def receive (sent : Nat) (alive : Bool) (position : Nat) : Reception × Nat :=
  if sent ≤ position then (if alive then .empty else .closed, position)
  else if sent = position + 1 then (.ok, position + 1)
  else (.lagged (sent - position - 1), sent - 1)

end Handoff.Shutdown
