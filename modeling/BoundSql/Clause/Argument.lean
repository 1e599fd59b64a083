import BoundSql.Error
import BoundSql.Value

/-!
# Checked arguments

The checks that the clauses share.  `checkedText` turns text into a value, and refuses
text that no literal can have; `checkedCode` finds the variant that a coded argument
means.  Both name the argument that they refuse.
-/

namespace BoundSql

/-- The value of a text argument, which may not be empty or contain NUL. -/
def checkedText (argument s : String) : Except Rejection Value :=
  if s.isEmpty then .error ⟨argument, .emptyText⟩
  else if s.toList.contains '\x00' then .error ⟨argument, .nulInText⟩
  else .ok (.text s)

/-- The value of a text argument that may be absent. -/
def checkedText? (argument : String) : Option String → Except Rejection (Option Value)
  | none => .ok none
  | some s => (checkedText argument s).map some

/-- The variant that a coded argument means. -/
def checkedCode {T : Type} [Coded T] (argument : String) (arg : CodeArg T) :
    Except Rejection T :=
  match arg.resolve with
  | .ok t => .ok t
  | .error code => .error ⟨argument, .unknownCode (Coded.label T) code⟩

/-- The variant that a coded argument means which may be absent. -/
def checkedCode? {T : Type} [Coded T] (argument : String) :
    Option (CodeArg T) → Except Rejection (Option T)
  | none => .ok none
  | some arg => (checkedCode argument arg).map some

end BoundSql
