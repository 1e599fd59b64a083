import BoundSql.Grammar

/-!
# Statements

A `Statement` of a grammar has a registry and a fragment for each field.  Its fields are
set one by one, in any order; `Statement.build` then writes the fields in the order of the
grammar and collects the values of all tokens.  `Call` and `Reply` are the calls on a
statement and what they answer, as data, and `Statement.step` performs one.
-/

namespace BoundSql

/-- A statement that is being put together. -/
structure Statement (grammar : Grammar) where
  registry : Registry
  fragment : (field : grammar.Field) → Fragment (grammar.clause field) (grammar.arity field)

namespace Statement

variable {grammar : Grammar}

/-- The statement in which nothing is set.  Its registry is the only one that it ever
uses, so its number does not matter. -/
def new (grammar : Grammar) (config : Config := {}) : Statement grammar where
  registry := Registry.new config 0
  fragment field := Fragment.empty (grammar.clause field) (grammar.arity field)

/-- Exchanges the fragment of one field. -/
def put (statement : Statement grammar) (field : grammar.Field)
    (fragment : Fragment (grammar.clause field) (grammar.arity field)) :
    Statement grammar :=
  { statement with
    fragment := fun other =>
      if h : field = other then h ▸ fragment else statement.fragment other }

/-- Binds arguments to the clause of a field, or clears the field if there are none.  A
refusal leaves what the field holds. -/
def set (field : grammar.Field) (args : Option (grammar.clause field).Args) :
    Stateful (Statement grammar) Unit := fun statement =>
  match (statement.fragment field).set args statement.registry with
  | (registry, ⟨events, .ok fragment⟩) =>
    ({ statement with registry := registry }.put field fragment, ⟨events, .ok ()⟩)
  | (registry, ⟨events, .error e⟩) =>
    ({ statement with registry := registry }, ⟨events, .error e⟩)

/-- What a field holds, if the registry knows all its tokens. -/
def get (statement : Statement grammar) (field : grammar.Field) :
    Traced (Fragment (grammar.clause field) (grammar.arity field)) :=
  (statement.fragment field).get statement.registry

/-- Decides whether a field writes something. -/
def isPresent (statement : Statement grammar) (field : grammar.Field) : Bool :=
  (statement.fragment field).template.isSome

/-- The fields in the order in which they are written. -/
def layout (statement : Statement grammar) : Except Error (List grammar.Field) :=
  (grammar.layout statement.isPresent).mapError (.incomplete grammar.command)

/-- The statement with a slot for each token, if its registry knows all tokens and the
fields that are set form a statement. -/
def template (statement : Statement grammar) : Traced (Template Token) := do
  grammar.fields.forM fun field => discard (statement.get field)
  let fields ← Traced.ofExcept statement.layout
  let parts := fields.filterMap fun field => (statement.fragment field).template
  pure (Template.spaced (Template.word grammar.command :: parts))

/-- The text of the statement. -/
def sql (statement : Statement grammar) : Traced String := do
  let template ← statement.template
  pure (template.text Token.name)

/-- The text of the statement and the values of its tokens. -/
def build (statement : Statement grammar) : Traced Query := do
  let sql ← statement.sql
  let values ← Traced.ofExcept statement.registry.boundValues
  Traced.note (.built grammar.command values.length sql)
  pure ⟨sql, values, statement.registry.config.sigil, statement.registry.config.firstId⟩

/-- Clears all fields and drops all tokens. -/
def reset : Stateful (Statement grammar) Unit := fun statement =>
  let (registry, done) := Registry.reset statement.registry
  (⟨registry, fun field => Fragment.empty (grammar.clause field) (grammar.arity field)⟩,
    done)

end Statement

/-! ### Calls -/

/-- A call on a statement. -/
inductive Call (grammar : Grammar) where
  | set (field : grammar.Field) (args : Option (grammar.clause field).Args)
  | get (field : grammar.Field)
  | sql
  | build
  | values
  | nextId
  | reset

/-- What a call on a statement answers. -/
inductive Reply (grammar : Grammar) where
  | done
  | held (field : grammar.Field)
      (fragment : Fragment (grammar.clause field) (grammar.arity field))
  | text (sql : String)
  | query (query : Query)
  | values (values : List Value)
  | id (n : Nat)

namespace Statement

variable {grammar : Grammar}

/-- Answers a question about a statement. -/
def ask {α : Type} (question : Statement grammar → Traced α) : Stateful (Statement grammar) α :=
  fun statement => (statement, question statement)

/-- Performs a call. -/
def perform : Call grammar → Stateful (Statement grammar) (Reply grammar)
  | .set field args => do
    set field args
    pure .done
  | .get field => do
    let fragment ← ask fun statement => statement.get field
    pure (.held field fragment)
  | .sql => do
    let sql ← ask sql
    pure (.text sql)
  | .build => do
    let query ← ask build
    pure (.query query)
  | .values => do
    let values ← ask fun statement => Traced.ofExcept statement.registry.boundValues
    pure (.values values)
  | .nextId => do
    let id ← ask fun statement => Traced.ofExcept statement.registry.nextId
    pure (.id id)
  | .reset => do
    reset
    pure .done

/-- Performs a call: the statement after it, and the answer. -/
def step (statement : Statement grammar) (call : Call grammar) :
    Statement grammar × Traced (Reply grammar) := perform call statement

/-- Performs calls one after another. -/
def run (statement : Statement grammar) :
    List (Call grammar) → Statement grammar × List (Traced (Reply grammar))
  | [] => (statement, [])
  | call :: calls =>
    let (changed, reply) := statement.step call
    let (final, replies) := changed.run calls
    (final, reply :: replies)

end Statement

end BoundSql
