import BoundSql.Error

/-!
# Transaction modes

The modes of a transaction fall into three groups.  A list of modes has at most one of
each group.
-/

namespace BoundSql

/-- A group of modes that exclude each other. -/
inductive ModeGroup where
  | isolation | access | deferral
deriving DecidableEq

/-- The group of a mode. -/
def TransactionMode.group : TransactionMode → ModeGroup
  | .repeatableRead | .readCommitted | .readUncommitted | .serializable => .isolation
  | .readWrite | .readOnly => .access
  | .deferrable | .notDeferrable => .deferral

/-- Refuses a mode of a group of which there is already one. -/
def refuseConflict (existing : List TransactionMode) (next : TransactionMode) :
    Except Rejection Unit :=
  match existing.find? fun prior => prior.group = next.group with
  | some prior => .error ⟨"mode", .modeConflict next prior⟩
  | none => .ok ()

end BoundSql
