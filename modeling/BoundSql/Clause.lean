import BoundSql.Clause.Action
import BoundSql.Clause.Expression
import BoundSql.Clause.Flag
import BoundSql.Clause.Literal
import BoundSql.Clause.Mode
import BoundSql.Clause.Role
import BoundSql.Clause.Sequence
import BoundSql.Clause.Table

/-!
# Clauses

`Clause` lists the clauses that statements are made of.  For each clause, `Clause.Args` is
the type of the arguments of its setter, and `Clause.Form` the type of what is kept of
them, which holds an `α` in the place of each literal: a value when the arguments have
been checked, a token when the clause is bound.  `Clause.check` checks the arguments
before anything else happens; `Clause.bind` then issues a token for each literal, in
order.  `Clause.template` writes a form, `Clause.listTemplate` several forms of a clause
that may be repeated, and `Clause.literals` lists what stands for the literals.
-/

namespace BoundSql

/-- A clause of a statement. -/
inductive Clause where
  | flag (flag : Flag)
  | cycle
  | cascade
  | transactionAction
  | quantity (quantity : Quantity)
  | limit (limit : Limit)
  | literal (literal : Literal)
  | role (role : RoleClause)
  | setting (list : SettingList)
  | resetting
  | mode
  | table (list : TableList)
  | condition (condition : Condition)
  | addColumn
  | dropColumn
  | renameColumn
  | alterColumn
  | action
deriving DecidableEq

namespace Clause

/-- The name of a clause in messages. -/
def function : Clause → String
  | .flag f => f.function
  | .cycle => "cycle"
  | .cascade => "cascade"
  | .transactionAction => "transaction_action"
  | .quantity q => q.function
  | .limit l => l.function
  | .literal l => l.function
  | .role r => r.function
  | .setting l => l.function
  | .resetting => "reset_storage_parameter"
  | .mode => "transaction_mode"
  | .table l => l.function
  | .condition c => c.function
  | .addColumn => "add_column"
  | .dropColumn => "drop_column"
  | .renameColumn => "rename_column"
  | .alterColumn => "alter_column"
  | .action => "table_action"

/-- The arguments of the setter of a clause. -/
def Args : Clause → Type
  | .flag _ => Bool
  | .cycle => Bool
  | .cascade => CodeArg Cascade
  | .transactionAction => CodeArg TransactionAction
  | .quantity _ => Int64
  | .limit _ => Option Int64
  | .literal _ => String
  | .role _ => RoleArgs
  | .setting _ => SettingArgs
  | .resetting => CodeArg StorageParameter
  | .mode => CodeArg TransactionMode
  | .table _ => TableTarget String
  | .condition _ => ExpressionArg
  | .addColumn => AddColumn String
  | .dropColumn => DropColumnArgs
  | .renameColumn => RenameColumn String
  | .alterColumn => AlterColumnArgs
  | .action => TableActionArgs

/-- What is kept of a clause, with an `α` in the place of each literal. -/
def Form : Clause → Type → Type
  | .flag _, _ => Bool
  | .cycle, _ => Bool
  | .cascade, _ => Cascade
  | .transactionAction, _ => TransactionAction
  | .quantity _, _ => Int64
  | .limit _, _ => Option Int64
  | .literal _, α => α
  | .role _, α => RoleSpec α
  | .setting _, α => Setting α
  | .resetting, _ => StorageParameter
  | .mode, _ => TransactionMode
  | .table _, α => TableTarget α
  | .condition _, α => Expression α
  | .addColumn, α => AddColumn α
  | .dropColumn, α => DropColumn α
  | .renameColumn, α => RenameColumn α
  | .alterColumn, α => AlterColumn α
  | .action, α => TableAction α

variable {α β : Type}

/-! ### Literals -/

/-- What stands for the literals of a form, in the order in which they are written. -/
def literals : (clause : Clause) → clause.Form α → List α
  | .literal _, a => [a]
  | .role _, spec => RoleSpec.literals spec
  | .setting _, one => Setting.literals one
  | .table _, target => TableTarget.literals target
  | .condition _, expression => Expression.literals expression
  | .addColumn, add => AddColumn.literals add
  | .dropColumn, drop => DropColumn.literals drop
  | .renameColumn, rename => RenameColumn.literals rename
  | .alterColumn, alter => AlterColumn.literals alter
  | .action, act => TableAction.literals act
  | .flag _, _ | .cycle, _ | .cascade, _ | .transactionAction, _ | .quantity _, _
  | .limit _, _ | .resetting, _ | .mode, _ => []

/-- Visits the literals of a form in order, replacing each. -/
def traverse {m : Type → Type} [Monad m] (f : α → m β) :
    (clause : Clause) → clause.Form α → m (clause.Form β)
  | .literal _, a => f a
  | .role _, spec => RoleSpec.traverse f spec
  | .setting _, one => Setting.traverse f one
  | .table _, target => TableTarget.traverse f target
  | .condition _, expression => Expression.traverse f expression
  | .addColumn, add => AddColumn.traverse f add
  | .dropColumn, drop => DropColumn.traverse f drop
  | .renameColumn, rename => RenameColumn.traverse f rename
  | .alterColumn, alter => AlterColumn.traverse f alter
  | .action, act => TableAction.traverse f act
  | .flag _, isOn => pure (f := m) (α := Bool) isOn
  | .cycle, isOn => pure (f := m) (α := Bool) isOn
  | .cascade, rule => pure (f := m) (α := Cascade) rule
  | .transactionAction, word => pure (f := m) (α := TransactionAction) word
  | .quantity _, n => pure (f := m) (α := Int64) n
  | .limit _, n => pure (f := m) (α := Option Int64) n
  | .resetting, parameter => pure (f := m) (α := StorageParameter) parameter
  | .mode, chosen => pure (f := m) (α := TransactionMode) chosen

/-! ### Writing -/

/-- The template of a form.  A flag that is switched off writes nothing. -/
def template : (clause : Clause) → clause.Form α → Option (Template α)
  | .flag f, isOn => f.template isOn
  | .cycle, isOn => some (cycleTemplate isOn)
  | .cascade, rule => some (Template.word (Coded.keyword (T := Cascade) rule))
  | .transactionAction, word =>
    some (Template.word (Coded.keyword (T := TransactionAction) word))
  | .quantity q, n => some (q.template n)
  | .limit l, n => some (l.template n)
  | .literal l, a => some (l.template a)
  | .role r, spec => some (r.template spec)
  | .setting _, one => some (Setting.template one)
  | .resetting, parameter =>
    some (Template.word (Coded.keyword (T := StorageParameter) parameter))
  | .mode, chosen =>
    some (Template.word (Coded.keyword (T := TransactionMode) chosen))
  | .table _, target => some (TableTarget.template target)
  | .condition c, expression => some (c.template expression)
  | .addColumn, add => some (AddColumn.template add)
  | .dropColumn, drop => some (DropColumn.template drop)
  | .renameColumn, rename => some (RenameColumn.template rename)
  | .alterColumn, alter => some (AlterColumn.template alter)
  | .action, act => some (TableAction.template act)

/-- What is written around the forms of a repeated clause. -/
def around : Clause → Template α → Template α
  | .role .ownedBy, forms => Template.spaced [Template.word "OWNED BY", forms]
  | .role .toRole, forms => Template.spaced [Template.word "TO", forms]
  | .setting l, forms => Template.spaced [Template.word l.keyword, Template.enclosed forms]
  | .resetting, forms => Template.spaced [Template.word "RESET", Template.enclosed forms]
  | .table l, forms => Template.spaced [Template.word l.keyword, forms]
  | _, forms => forms

/-- The template of several forms of a clause, if any of them writes something. -/
def listTemplate (clause : Clause) (forms : List (clause.Form α)) : Option (Template α) :=
  match forms.filterMap clause.template with
  | [] => none
  | templates => some (clause.around (Template.listed templates))

/-! ### Checking and binding -/

/-- The result of checking arguments, in which an error names the clause. -/
def refusing {F : Type} (function : String) (checked : Except Rejection F) :
    Except Error F :=
  checked.mapError (.invalidArgument function)

/-- The form that the arguments mean, with a value for each literal. -/
def check : (clause : Clause) → clause.Args → Except Error (clause.Form Value)
  | .flag _, isOn => .ok isOn
  | .cycle, isOn => .ok isOn
  | .cascade, arg =>
    refusing Clause.cascade.function (checkedCode (T := Cascade) "cascade" arg)
  | .transactionAction, arg =>
    refusing Clause.transactionAction.function
      (checkedCode (T := TransactionAction) "action" arg)
  | .quantity q, n => refusing q.function (q.check n)
  | .limit _, n => .ok n
  | .literal l, s => refusing l.function (checkedText l.argument s)
  | .role r, args => refusing r.function (RoleSpec.check r.allowed args)
  | .setting l, args => refusing l.function (Setting.check args)
  | .resetting, arg =>
    refusing Clause.resetting.function
      (checkedCode (T := StorageParameter) "parameter" arg)
  | .mode, arg =>
    refusing Clause.mode.function (checkedCode (T := TransactionMode) "mode" arg)
  | .table l, args => refusing l.function (TableTarget.check args)
  | .condition c, arg => Expression.check c.function arg
  | .addColumn, args => refusing Clause.addColumn.function (AddColumn.check args)
  | .dropColumn, args => refusing Clause.dropColumn.function (DropColumn.check args)
  | .renameColumn, args => refusing Clause.renameColumn.function (RenameColumn.check args)
  | .alterColumn, args => refusing Clause.alterColumn.function (AlterColumn.check args)
  | .action, args => refusing (TableActionArgs.function args) (TableAction.check args)

/-- Refuses a form that does not go with the forms before it in a repeated clause. -/
def refuseAfter : (clause : Clause) → List (clause.Form α) → clause.Form α →
    Except Rejection Unit
  | .setting _, forms, next =>
    refuseRepeat (List.map (Setting.parameter (α := α)) forms) (Setting.parameter next)
  | .resetting, forms, next => refuseRepeat forms next
  | .mode, forms, next => refuseConflict forms next
  | _, _, _ => .ok ()

/-- The form that the arguments mean, with a token of the registry for each literal.  A
query has to fit into the registry before its tokens are looked at. -/
def bind : (clause : Clause) → clause.Args → Allocating (clause.Form Token)
  | .condition _, .query q => do
    let absorbed ← Registry.absorb q
    pure (.query absorbed)
  | clause, args => do
    let form ← Stateful.lift (Traced.ofExcept (clause.check args))
    clause.traverse Registry.allocate form

end Clause

end BoundSql
