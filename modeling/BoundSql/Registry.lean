import BoundSql.Config
import BoundSql.Query
import BoundSql.Stateful

/-!
# Registries

A `Registry` issues the tokens of one statement and keeps their values.  Tokens are
numbered in the order in which they are issued, from the first number of the
configuration on; the values stand in the same order, and a token may be issued before
its value is known.  A registry knows a token when it has issued it in its present
lifetime, which ends with a reset.  A computation of type `Allocating α` issues tokens of
a registry one after another; when it fails in the middle, `Registry.atomic` releases
those that it has already issued, back to the mark of the registry before it.
-/

namespace BoundSql

/-- The tokens of one statement and their values. -/
structure Registry where
  config : Config
  lifetime : Lifetime
  /-- The values by the order of the tokens, absent for a token without a value. -/
  entries : Array (Option Value)

/-- A computation that may issue tokens of a registry. -/
abbrev Allocating (α : Type) := Stateful Registry α

namespace Registry

/-- The registry that has issued no token, as the registry number `origin`. -/
def new (config : Config) (origin : Nat) : Registry := ⟨config, ⟨origin, 0⟩, #[]⟩

/-- The number of tokens. -/
def size (registry : Registry) : Nat := registry.entries.size

/-- The number of the first token. -/
def firstId (registry : Registry) : Nat := registry.config.firstId.toNat

/-- The largest number of tokens. -/
def capacity (registry : Registry) : Nat := registry.config.capacity.toNat

/-- Decides whether no token has been issued. -/
def isEmpty (registry : Registry) : Bool := registry.entries.isEmpty

/-! ### Issuing tokens -/

/-- The number of the next token. -/
def nextId (registry : Registry) : Except Error Nat :=
  let id := registry.firstId + registry.size
  if isTokenId id then .ok id else .error (.allocation .idsExhausted)

/-- The token with a number, in the present lifetime. -/
def tokenOf (registry : Registry) (id : Nat) : Token :=
  ⟨id, registry.config.sigil, registry.lifetime⟩

/-- The next token, if there is room for it. -/
def nextToken (registry : Registry) : Except Error Token :=
  if registry.capacity ≤ registry.size then
    .error (.allocation (.full registry.capacity))
  else registry.nextId.map registry.tokenOf

/-- The registry with a further token, for the value of `entry`. -/
def extend (registry : Registry) (entry : Option Value) : Registry :=
  { registry with entries := registry.entries.push entry }

/-- What is reported when a token is issued. -/
def issuedEvent (token : Token) : Event := .issued token.id token.sigil

/-- Issues the next token, for the value of `entry`. -/
def issue (entry : Option Value) : Allocating Token := fun registry =>
  match registry.nextToken with
  | .error e => (registry, Traced.fail e)
  | .ok token => (registry.extend entry, ⟨[issuedEvent token], .ok token⟩)

/-- Issues the next token for a value. -/
def allocate (value : Value) : Allocating Token := issue (some value)

/-- Issues the next token, to be bound to a value later. -/
def reserve : Allocating Token := issue none

/-- The place in the order of the tokens that the next one will have. -/
def mark (registry : Registry) : Nat := registry.size

/-- Releases the tokens from a mark on. -/
def rollback (registry : Registry) (mark : Nat) : Registry :=
  { registry with entries := registry.entries.take mark }

/-- Releases the tokens that a computation has issued if it fails. -/
def atomic {α : Type} (x : Allocating α) : Allocating α := fun registry =>
  let mark := registry.mark
  match x registry with
  | (changed, ⟨events, .error e⟩) => (changed.rollback mark, ⟨events, .error e⟩)
  | done => done

/-- Issues tokens for `count` values that are all the same, one after another until one
cannot be issued.  The result is the last token, and `events` are the events so far, the
latest first. -/
def fillFrom (value : Value) : Nat → Registry → Option Token → List Event →
    Registry × Traced (Option Token)
  | 0, registry, last, events => (registry, ⟨events.reverse, .ok last⟩)
  | count + 1, registry, _, events =>
    match registry.nextToken with
    | .error e => (registry, ⟨events.reverse, .error e⟩)
    | .ok token =>
      fillFrom value count (registry.extend (some value)) (some token)
        (issuedEvent token :: events)

/-- Issues tokens for `count` values that are all the same. -/
def fill (value : Value) (count : Nat) : Allocating (Option Token) := fun registry =>
  fillFrom value count registry none []

/-! ### Known tokens -/

/-- The position of the value of a token that the registry knows. -/
def position? (registry : Registry) (token : Token) : Option (Fin registry.entries.size) :=
  if h : token.lifetime = registry.lifetime ∧ token.sigil = registry.config.sigil
      ∧ registry.firstId ≤ token.id
      ∧ token.id - registry.firstId < registry.entries.size then
    some ⟨token.id - registry.firstId, h.2.2.2⟩
  else none

/-- Decides whether the registry knows a token. -/
def contains (registry : Registry) (token : Token) : Bool :=
  (registry.position? token).isSome

/-- The position of the value of a token, which the registry has to know. -/
def position (registry : Registry) (token : Token) :
    Except Error (Fin registry.entries.size) :=
  match registry.position? token with
  | some i => .ok i
  | none => .error (.allocation (.foreign token.name))

/-- The value of a token, if it has been bound to one. -/
def value? (registry : Registry) (token : Token) : Except Error (Option Value) := do
  let i ← registry.position token
  pure registry.entries[i]

/-- Decides whether a token has been bound to a value. -/
def hasValue (registry : Registry) (token : Token) : Except Error Bool := do
  let i ← registry.position token
  pure registry.entries[i].isSome

/-- The text of a token that the registry knows. -/
def render (registry : Registry) (token : Token) : Except Error String := do
  let _ ← registry.position token
  pure token.name

/-- Binds a token to a value.  A token is bound at most once. -/
def bind (token : Token) (value : Value) : Stateful Registry Unit := fun registry =>
  match registry.position token with
  | .error e => (registry, Traced.fail e)
  | .ok i =>
    match registry.entries[i] with
    | some _ => (registry, Traced.fail (.allocation (.alreadyBound token.name)))
    | none => ({ registry with entries := registry.entries.set i (some value) }, pure ())

/-- The values in the order of `entries`, the first of which belongs to the token number
`id`; every token has to be bound. -/
def valuesFrom (sigil : String) : Nat → List (Option Value) → Except Error (List Value)
  | _, [] => .ok []
  | id, none :: _ => .error (.allocation (.unbound (tokenName sigil id)))
  | id, some value :: entries => do
    let values ← valuesFrom sigil (id + 1) entries
    pure (value :: values)

/-- The values in the order of the tokens; every token has to be bound. -/
def boundValues (registry : Registry) : Except Error (List Value) :=
  valuesFrom registry.config.sigil registry.firstId registry.entries.toList

/-! ### Lifetimes -/

/-- Drops all tokens and begins a new lifetime. -/
def reset : Stateful Registry Unit := fun registry =>
  ({ registry with lifetime := registry.lifetime.next, entries := #[] },
    Traced.note (.released registry.size))

/-- The registry with the same values, as the registry number `origin`.  It knows none of
the tokens that the other one has issued. -/
def copy (registry : Registry) (origin : Nat) : Registry :=
  { registry with lifetime := ⟨origin, 0⟩ }

/-! ### Absorbing a query -/

/-- Refuses a query with more values than there is room for. -/
def makeRoom (query : Query) : Allocating Unit := fun registry =>
  if registry.capacity < registry.size + query.values.length then
    (registry, Traced.fail (.allocation
      (.queryTooLarge query.values.length (registry.capacity - registry.size))))
  else (registry, pure ())

/-- Takes in a query: each of its values gets a token of the registry, in order, and its
text refers to these.  The query has to fit before any token is issued. -/
def absorb (query : Query) : Allocating (Absorbed Token) := do
  makeRoom query
  let body ← Stateful.lift (Traced.ofExcept (query.references.mapError .allocation))
  let absorbed ← atomic (Absorbed.traverse allocate ⟨body, query.values⟩)
  Stateful.lift (Traced.note (.absorbed absorbed.entries.length))
  pure absorbed

end Registry

end BoundSql
