import BoundSql.Proofs.Transition

/-!
# What a registry remembers

A `History` lists all the arguments that a statement has accepted since it was last reset,
in force or not.  The registry holds their literals in the same order, one after another:
nothing that is cleared or replaced takes its values along, and nothing that is refused
leaves any behind.
-/

namespace BoundSql

variable {grammar : Grammar}

/-- Arguments for a field. -/
structure Assignment (grammar : Grammar) where
  field : grammar.Field
  args : (grammar.clause field).Args

/-- The literals of an assignment, a query contributing all of its values. -/
def Assignment.literals (assignment : Assignment grammar) : List Value :=
  (grammar.clause assignment.field).supplied Query.values assignment.args

/-- The arguments that have been accepted, in order. -/
abbrev History (grammar : Grammar) : Type := List (Assignment grammar)

namespace History

/-- The literals of all that has been accepted. -/
def literals (history : History grammar) : List Value := history.flatMap Assignment.literals

/-- The history after a call with the given result. -/
def after (history : History grammar) :
    Call grammar → Except Error (Reply grammar) → History grammar
  | .set field (some args), .ok _ => history ++ [⟨field, args⟩]
  | .reset, _ => []
  | _, _ => history

/-- The history after calls on a statement. -/
def along (history : History grammar) (statement : Statement grammar) :
    List (Call grammar) → History grammar
  | [] => history
  | call :: calls =>
    let (changed, reply) := statement.step call
    (history.after call reply.result).along changed calls

end History

namespace Statement

variable {statement changed : Statement grammar} {history : History grammar}

/-- The registry of a statement holds the literals of a history. -/
def Keeps (statement : Statement grammar) (history : History grammar) : Prop :=
  statement.registry.entries.toList = history.literals.map some

theorem keeps_new (config : Config) :
  (Statement.new grammar config).Keeps []
  := rfl

/-- A transition keeps the literals of what has been accepted. -/
theorem Keeps.of_transition (h : statement.Keeps history) {call : Call grammar}
    {result : Except Error (Reply grammar)}
    (htransition : Transition statement call result changed) :
  changed.Keeps (history.after call result)
  := by
  cases htransition with
  | bound field args checked form registry fragment hbound hitems =>
    have hliterals : (History.literals [⟨field, args⟩] : List Value)
        = (grammar.clause field).literals checked := by
      rw [Clause.literals_of_check _ hbound.check_eq]
      apply List.flatMap_singleton
    show registry.entries.toList = _
    rw [hbound.changed_eq, Registry.toList_entries_append, h, ← hliterals, ← List.map_append]
    apply congrArg
    apply List.flatMap_append.symm
  | cleared field fragment hitems => exact h
  | refused field args e =>
    cases args with
    | none => exact h
    | some args => exact h
  | reset => rfl
  | asked call result hquestion =>
    cases call with
    | set | reset => contradiction
    | _ => exact h

/-- A run keeps the literals of what has been accepted. -/
theorem Keeps.run (h : statement.Keeps history) (calls : List (Call grammar)) :
  (statement.run calls).1.Keeps (history.along statement calls)
  := by
  induction calls generalizing statement history with
  | nil => exact h
  | cons call calls ih =>
    apply ih
    apply h.of_transition (transition_step statement call)

/-- All values of such a registry are bound. -/
theorem Keeps.boundValues_eq (h : statement.Keeps history) :
  statement.registry.boundValues = .ok history.literals
  := Registry.boundValues_eq_ok.mpr h

end Statement

end BoundSql
