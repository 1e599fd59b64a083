import BoundSql.Error
import BoundSql.Token.Scan
import BoundSql.Value

/-!
# Queries

A `Query` is finished SQL text together with the values of its tokens, the sigil that
marks the tokens and the number of the first value.  `Query.references` takes the text
apart into its tokens, each by the position of the value that it names, and the other
characters, provided that the sigil is one that can be searched for; `Query.validate` asks in addition that every value is named.  `Absorbed` is
a query that has become part of another text: its text refers to positions in a list
that holds whatever now stands for its values.
-/

namespace BoundSql

/-- SQL text and the values of its tokens. -/
structure Query where
  sql : String
  values : List Value
  /-- The text before the number of each token. -/
  sigil : String := "$"
  /-- The number of the first value. -/
  firstId : UInt32 := 1

namespace Query

/-- Gives a query a further value. -/
def bind (query : Query) (value : Value) : Query :=
  { query with values := query.values ++ [value] }

/-- The text of the token that names the value at a position. -/
def referenceName (query : Query) (position : Nat) : String :=
  tokenName query.sigil (query.firstId.toNat + position)

/-- The position of the value that a number names, if there is such a value. -/
def position? (query : Query) (id : Nat) : Option Nat :=
  if query.firstId.toNat ≤ id ∧ id < query.firstId.toNat + query.values.length then
    some (id - query.firstId.toNat)
  else none

/-- The position of the value that a token in the text names. -/
def resolve (query : Query) (numeral : Numeral) : Except AllocationFault Nat :=
  match query.position? numeral.value with
  | some position => .ok position
  | none =>
    .error (.danglingReference (tokenName query.sigil numeral.value) query.values.length)

/-- The text of a query with the position of its value for each token.  With an empty sigil
the search for the tokens has no end, and there is nothing that comes of it. -/
def references (query : Query) : Except AllocationFault (Template Nat) :=
  match scan? query.sigil query.sql with
  | none => .error .endlessSearch
  | some template => template.traverse query.resolve

/-- The first position whose value no token names. -/
def unused? (query : Query) (references : Template Nat) : Option Nat :=
  (List.range query.values.length).find? fun position =>
    !references.slots.contains position

/-- Refuses a query with a token that names no value or a value that no token names. -/
def validate (query : Query) : Except AllocationFault Unit := do
  let references ← query.references
  match query.unused? references with
  | some position => .error (.unusedValue (query.referenceName position))
  | none => .ok ()

end Query

/-- A query inside another text: its text, each token by a position, and what stands for
the values at these positions. -/
structure Absorbed (α : Type) where
  body : Template Nat
  entries : List α

namespace Absorbed

variable {α β : Type}

/-- The slot for a position, if there is an entry at it. -/
def slotAt (entries : List α) (position : Nat) : Template α :=
  match entries[position]? with
  | some a => Template.ref a
  | none => []

/-- The text with the entry that is meant for each token. -/
def template (absorbed : Absorbed α) : Template α :=
  absorbed.body.expand (slotAt absorbed.entries)

/-- Visits the entries in order, replacing each. -/
def traverse {m : Type → Type} [Monad m] (f : α → m β) (absorbed : Absorbed α) :
    m (Absorbed β) := do
  let entries ← absorbed.entries.mapM f
  pure ⟨absorbed.body, entries⟩

end Absorbed

/-- The text of a query with a value for each token. -/
def Query.meaning (query : Query) : Except AllocationFault (Template Value) := do
  let body ← query.references
  pure (Absorbed.template ⟨body, query.values⟩)

end BoundSql
