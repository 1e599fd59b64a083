import BoundSql.Clause.Argument
import BoundSql.Template

/-!
# Storage parameters

A storage setting gives a storage parameter a value, which is a literal: text, a number
or a truth value.  A list of settings, or of parameters to reset, names no parameter
twice.
-/

namespace BoundSql

/-- The arguments of a storage setting. -/
structure SettingArgs where
  parameter : CodeArg StorageParameter
  value : Value

/-- A storage parameter and its value. -/
structure Setting (α : Type) where
  parameter : StorageParameter
  value : α
deriving DecidableEq

namespace Setting

variable {α β : Type}

/-- Visits the value. -/
def traverse {m : Type → Type} [Monad m] (f : α → m β) (setting : Setting α) :
    m (Setting β) := do
  let value ← f setting.value
  pure ⟨setting.parameter, value⟩

/-- The value. -/
def literals (setting : Setting α) : List α := [setting.value]

/-- The parameter and its value. -/
def template (setting : Setting α) : Template α :=
  Template.spaced
    [Template.word (Coded.keyword setting.parameter), Template.word "=",
      Template.ref setting.value]

/-- The reason to refuse a value of a setting, if there is one. -/
def reason? : Value → Option Reason
  | .text s => if s.isEmpty || s.toList.contains '\x00' then some .settingNotClean else none
  | .json _ => some .settingNotScalar
  | _ => none

/-- The setting that the arguments mean. -/
def check (args : SettingArgs) : Except Rejection (Setting Value) := do
  let parameter ← checkedCode "parameter" args.parameter
  match reason? args.value with
  | some reason => .error ⟨"value", reason⟩
  | none => pure ⟨parameter, args.value⟩

end Setting

/-- Refuses a parameter that is already there. -/
def refuseRepeat (existing : List StorageParameter) (next : StorageParameter) :
    Except Rejection Unit :=
  if existing.contains next then .error ⟨"parameter", .parameterRepeated next⟩ else .ok ()

/-- Refuses the first parameter that is among `existing` or repeats an earlier one. -/
def refuseRepeats (existing : List StorageParameter) :
    List StorageParameter → Except Rejection Unit
  | [] => .ok ()
  | next :: rest => do
    refuseRepeat existing next
    refuseRepeats (existing ++ [next]) rest

/-- The settings that several arguments mean, no parameter twice. -/
def checkSettings (args : List SettingArgs) : Except Rejection (List (Setting Value)) := do
  let settings ← args.mapM Setting.check
  refuseRepeats [] (settings.map Setting.parameter)
  pure settings

/-- The parameters that several arguments mean, none twice. -/
def checkParameters (args : List (CodeArg StorageParameter)) :
    Except Rejection (List StorageParameter) := do
  let parameters ← args.mapM (checkedCode "parameter")
  refuseRepeats [] parameters
  pure parameters

/-- A list of storage settings. -/
inductive SettingList where
  | setList | withList
deriving DecidableEq

namespace SettingList

/-- The name of a list in messages. -/
def function : SettingList → String
  | .setList => "set_storage_parameter"
  | .withList => "with_storage_parameter"

/-- The keyword of a list. -/
def keyword : SettingList → String
  | .setList => "SET"
  | .withList => "WITH"

end SettingList

end BoundSql
