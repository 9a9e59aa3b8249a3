import ObjectStore.Error

/-!
# Deadlines

A deadline says from which moment on calls to the store are given up, if there is such a moment, and carries a token by which they can be cancelled before. The clock knows the moment and the cancelled tokens, and hands out tokens that were not in use before.
-/

namespace ObjectStore

/-- The time, and what has been cancelled. -/
structure Clock where
  now : Nat
  cancelled : List Nat
  /-- Tokens from this number on are not in use. -/
  nextToken : Nat
  deriving Inhabited

structure Deadline where
  /-- The moment from which calls are given up. -/
  limit : Option Nat
  token : Nat
  deriving DecidableEq, Inhabited

namespace Clock

/-- A new deadline that ends after the given time. -/
def issue (clock : Clock) (duration : Option Nat) : Deadline × Clock :=
  (⟨duration.map (clock.now + ·), clock.nextToken⟩, { clock with nextToken := clock.nextToken + 1 })

/-- The clock after the deadline's token has been cancelled. -/
def cancel (clock : Clock) (deadline : Deadline) : Clock :=
  { clock with cancelled := deadline.token :: clock.cancelled }

end Clock

namespace Deadline

def isCancelled (deadline : Deadline) (clock : Clock) : Bool :=
  clock.cancelled.contains deadline.token

def isExpired (deadline : Deadline) (clock : Clock) : Bool :=
  match deadline.limit with
  | some moment => moment ≤ clock.now
  | none => false

/-- Why calls are given up; a cancellation comes first. -/
def interruption? (deadline : Deadline) (clock : Clock) : Option Interruption :=
  if deadline.isCancelled clock then some .cancelled
  else if deadline.isExpired clock then some .deadlineExceeded
  else none

/-- Whether a statement may still be sent. -/
def check (deadline : Deadline) (clock : Clock) (statement : String) : Except Timeout Unit :=
  match deadline.interruption? clock with
  | some reason => .error ⟨statement, reason⟩
  | none => .ok ()

end Deadline

end ObjectStore
