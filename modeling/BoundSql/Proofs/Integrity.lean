import BoundSql.Proofs.Acceptance
import BoundSql.Proofs.Building
import BoundSql.Proofs.Retrieval

/-!
# Statements stay intact

No calls bring a statement into a state that it cannot read itself.  All tokens that its fields
hold are known to its registry, and all tokens of the registry have values.  So the getters
never fail, the statement is written unless its fields do not form a statement, and it is built
whenever it is written (`statements_stay_intact`).
-/

namespace BoundSql

namespace Statement

variable {grammar : Grammar} {statement : Statement grammar}

/-- A statement whose registry knows the tokens of all fields is written as its layout says. -/
theorem template_eq (h : ∀ field, statement.get field = pure (statement.fragment field)) :
  statement.template.result = statement.layout.map fun fields =>
    Template.spaced (Template.word grammar.command
      :: fields.filterMap fun field => (statement.fragment field).template)
  := by
  have hget : (grammar.fields.forM fun field => discard (statement.get field)) = pure () := by
    apply Traced.forM_eq_pure
    intro field _
    rw [h field]
    rfl
  rw [template, hget, pure_bind]
  cases statement.layout with
  | error e => rfl
  | ok fields => rfl

theorem sql_eq (statement : Statement grammar) :
  statement.sql.result = statement.template.result.map (Template.text Token.name)
  := by
  rw [sql, Traced.result_bind]
  cases statement.template.result with
  | error e => rfl
  | ok template => rfl

/-- A statement whose tokens all have values is built whenever it is written. -/
theorem build_eq {values : List Value} (h : statement.registry.boundValues = .ok values) :
  statement.build.result = statement.sql.result.map fun sql =>
    ⟨sql, values, statement.registry.config.sigil, statement.registry.config.firstId⟩
  := by
  rw [build, Traced.result_bind, h]
  cases statement.sql.result with
  | error e => rfl
  | ok text => rfl

end Statement

/-- Statements stay intact.  After any calls on a statement, every getter gives what its field
holds.  The statement is written, or it is refused because its fields do not form a statement,
and for no other reason.  Every token of its registry has a value, and building it gives the
text that is written, with these values and the sigil and the first number of the
configuration, or the same refusal. -/
theorem statements_stay_intact (grammar : Grammar) (config : Config)
    (calls : List (Call grammar)) :
  let final := ((Statement.new grammar config).run calls).1
  (∀ field, final.get field = pure (final.fragment field))
    ∧ ((∃ sql, final.sql.result = .ok sql)
      ∨ ∃ omission, final.sql.result = .error (.incomplete grammar.command omission))
    ∧ ∃ values, final.registry.boundValues = .ok values
      ∧ values.length = final.registry.size
      ∧ final.build.result = final.sql.result.map fun sql =>
        ⟨sql, values, config.sigil, config.firstId⟩
  := by
  intro final
  have hget : ∀ field, final.get field = pure (final.fragment field) :=
    fun field => ((Statement.agrees_isKept config calls).get_eq field).1
  have hvalues := ((Statement.keeps_new config).run calls).boundValues_eq
  have hconfig : final.registry.config = config := Statement.config_run _ calls
  use hget
  constructor
  · rw [Statement.sql_eq, Statement.template_eq hget, Statement.layout]
    cases grammar.layout final.isPresent with
    | error omission =>
      right
      use omission
      rfl
    | ok fields =>
      left
      exact ⟨_, rfl⟩
  · refine ⟨_, hvalues, ?_, ?_⟩
    · exact (Registry.size_eq_length hvalues).symm
    · rw [Statement.build_eq hvalues, hconfig]

end BoundSql
