import BoundSql.Fragment

/-!
# Workbenches

A `Workbench` has named slots for registries, tokens and fragments, which may be combined
freely: a fragment may be set with one registry and read with another, and a token of one
registry may be shown to another.  `Command` and `Answer` are the commands on a workbench
and what they answer, as data, and `Workbench.step` performs one.
-/

namespace BoundSql

/-- Named places, each of which may hold an `α`. -/
abbrev Slots (α : Type) := String → Option α

namespace Slots

variable {α : Type}

/-- Puts something into a slot, in the place of what was there. -/
def put (slots : Slots α) (name : String) (a : α) : Slots α := fun other =>
  if other = name then some a else slots other

/-- Puts something into a slot if one is given. -/
def putIn? (slots : Slots α) (name : Option String) (a : α) : Slots α :=
  match name with
  | none => slots
  | some name => slots.put name a

/-- Puts things into slots, in order, as long as there are both. -/
def putAll (slots : Slots α) : List String → List α → Slots α
  | name :: names, a :: rest => putAll (slots.put name a) names rest
  | _, _ => slots

end Slots

/-- A fragment of any clause. -/
structure HeldFragment where
  clause : Clause
  arity : Arity
  fragment : Fragment clause arity

/-- Sets a fragment, if the arguments are those of its clause. -/
def HeldFragment.set? (held : HeldFragment) (clause : Clause) (args : Option clause.Args) :
    Option (Allocating (Fragment held.clause held.arity)) :=
  if h : held.clause = clause then some (held.fragment.set (h ▸ args)) else none

/-- Named slots for registries, tokens and fragments. -/
structure Workbench where
  registries : Slots Registry
  tokens : Slots Token
  fragments : Slots HeldFragment
  /-- The number of the next registry. -/
  nextOrigin : Nat

/-- A command on a workbench. -/
inductive Command where
  | new (r : String) (config : Config)
  | copy (r target : String)
  | allocate (r : String) (value : Value) (p : Option String)
  | reserve (r : String) (p : Option String)
  | fill (r : String) (value : Value) (count : Nat)
  | bind (r p : String) (value : Value)
  | contains (r p : String)
  | hasValue (r p : String)
  | value (r p : String)
  | render (r p : String)
  | token (p : String)
  | same (p q : String)
  | boundValues (r : String)
  | nextId (r : String)
  | isEmpty (r : String)
  | reset (r : String)
  | absorb (r : String) (query : Query) (ps : List String)
  | fragment (f : String) (clause : Clause) (arity : Arity)
  | set (f r : String) (clause : Clause) (args : Option clause.Args)
  | get (f r : String)
  | build (f r : String)
  | renderFragment (f : String)
  | inspect (f : String)
  | clear (f : String)

/-- What a command answers. -/
inductive Answer where
  | done
  | registry (sigil : String) (firstId : Nat)
  | flag (b : Bool)
  | id (n : Nat)
  | text (s : Option String)
  | value (value : Option Value)
  | values (values : List Value)
  | token (token : Token)
  | absorbed (absorbed : Absorbed Token)
  | held (held : HeldFragment)
  | state (held : HeldFragment)

/-- The registry that uses a command, where there is one. -/
def Command.registry? : Command → Option String
  | .new r _ | .copy r _ | .allocate r _ _ | .reserve r _ | .fill r _ _ | .bind r _ _
  | .contains r _ | .hasValue r _ | .value r _ | .render r _ | .boundValues r | .nextId r
  | .isEmpty r | .reset r | .absorb r _ _ | .set _ r _ _ | .get _ r | .build _ r => some r
  | .token _ | .same _ _ | .fragment _ _ _ | .renderFragment _ | .inspect _ | .clear _ =>
    none

namespace Workbench

/-- The workbench whose slots are all empty. -/
def empty : Workbench := ⟨fun _ => none, fun _ => none, fun _ => none, 0⟩

/-- Puts a registry into a slot. -/
def putRegistry (bench : Workbench) (r : String) (registry : Registry) : Workbench :=
  { bench with registries := bench.registries.put r registry }

/-- Puts a fragment into a slot. -/
def putFragment (bench : Workbench) (f : String) (held : HeldFragment) : Workbench :=
  { bench with fragments := bench.fragments.put f held }

/-- Changes the registry in a slot, and then the rest of the workbench unless that fails. -/
def onRegistry {α : Type} (bench : Workbench) (r : String) (x : Stateful Registry α)
    (finish : Workbench → α → Workbench × Answer) : Option (Workbench × Traced Answer) := do
  let registry ← bench.registries r
  match x registry with
  | (changed, ⟨events, .ok a⟩) =>
    let (final, answer) := finish (bench.putRegistry r changed) a
    pure (final, ⟨events, .ok answer⟩)
  | (changed, ⟨events, .error e⟩) =>
    pure (bench.putRegistry r changed, ⟨events, .error e⟩)

/-- Answers a question about a registry. -/
def askRegistry (bench : Workbench) (r : String) (question : Registry → Traced Answer) :
    Option (Workbench × Traced Answer) := do
  let registry ← bench.registries r
  pure (bench, question registry)

/-- Answers a question about a registry and a token. -/
def ask (bench : Workbench) (r p : String)
    (question : Registry → Token → Except Error Answer) :
    Option (Workbench × Traced Answer) := do
  let token ← bench.tokens p
  bench.askRegistry r fun registry => Traced.ofExcept (question registry token)

/-- Issues a token of a registry and puts it into a slot. -/
def issue (bench : Workbench) (r : String) (p : Option String)
    (request : Allocating Token) : Option (Workbench × Traced Answer) :=
  bench.onRegistry r request fun changed token =>
    ({ changed with tokens := changed.tokens.putIn? p token }, .text (some token.name))

/-- Sets a fragment with a registry.  The arguments have to be those of its clause. -/
def setFragment (bench : Workbench) (f r : String) (clause : Clause)
    (args : Option clause.Args) : Option (Workbench × Traced Answer) := do
  let held ← bench.fragments f
  let request ← held.set? clause args
  bench.onRegistry r request fun changed fragment =>
    (changed.putFragment f ⟨held.clause, held.arity, fragment⟩, .done)

/-- Performs a command: the workbench after it, and the answer.  There is no result when a
slot that the command names is empty. -/
def perform (bench : Workbench) : Command → Option (Workbench × Traced Answer)
  | .new r config =>
    let registry := Registry.new config bench.nextOrigin
    let changed := { bench with nextOrigin := bench.nextOrigin + 1 }
    some (changed.putRegistry r registry,
      pure (.registry config.sigil registry.firstId))
  | .copy r target => do
    let registry ← bench.registries r
    let changed := { bench with nextOrigin := bench.nextOrigin + 1 }
    pure (changed.putRegistry target (registry.copy bench.nextOrigin), pure .done)
  | .allocate r value p => bench.issue r p (Registry.allocate value)
  | .reserve r p => bench.issue r p Registry.reserve
  | .fill r value count =>
    bench.onRegistry r (Registry.fill value count) fun changed last =>
      (changed, .text (last.map Token.name))
  | .bind r p value => do
    let token ← bench.tokens p
    bench.onRegistry r (Registry.bind token value) fun changed _ => (changed, .done)
  | .contains r p => bench.ask r p fun registry token => pure (.flag (registry.contains token))
  | .hasValue r p => bench.ask r p fun registry token =>
    (registry.hasValue token).map .flag
  | .value r p => bench.ask r p fun registry token => (registry.value? token).map .value
  | .render r p => bench.ask r p fun registry token =>
    (registry.render token).map fun name => .text (some name)
  | .token p => do
    let token ← bench.tokens p
    pure (bench, pure (.token token))
  | .same p q => do
    let first ← bench.tokens p
    let second ← bench.tokens q
    pure (bench, pure (.flag (first = second)))
  | .boundValues r => bench.askRegistry r fun registry =>
    Traced.ofExcept (registry.boundValues.map .values)
  | .nextId r => bench.askRegistry r fun registry => Traced.ofExcept (registry.nextId.map .id)
  | .isEmpty r => bench.askRegistry r fun registry => pure (.flag registry.isEmpty)
  | .reset r => bench.onRegistry r Registry.reset fun changed _ => (changed, .done)
  | .absorb r query ps =>
    bench.onRegistry r (Registry.absorb query) fun changed absorbed =>
      ({ changed with tokens := changed.tokens.putAll ps absorbed.entries },
        .absorbed absorbed)
  | .fragment f clause arity =>
    some (bench.putFragment f ⟨clause, arity, Fragment.empty clause arity⟩, pure .done)
  | .set f r clause args => bench.setFragment f r clause args
  | .get f r => do
    let held ← bench.fragments f
    bench.askRegistry r fun registry => do
      let _ ← held.fragment.get registry
      pure (.held held)
  | .build f r => do
    let held ← bench.fragments f
    bench.askRegistry r fun registry => do
      let template ← held.fragment.build registry
      pure (.text (template.map (Template.text Token.name)))
  | .renderFragment f => do
    let held ← bench.fragments f
    pure (bench, pure (.text held.fragment.render))
  | .inspect f => do
    let held ← bench.fragments f
    pure (bench, pure (.state held))
  | .clear f => do
    let held ← bench.fragments f
    match held.fragment.clear with
    | ⟨events, .ok fragment⟩ =>
      pure (bench.putFragment f ⟨held.clause, held.arity, fragment⟩, ⟨events, .ok .done⟩)
    | ⟨events, .error e⟩ => pure (bench, ⟨events, .error e⟩)

/-- Performs a command: the workbench after it, and the answer if all slots that the
command names hold something. -/
def step (bench : Workbench) (command : Command) : Workbench × Option (Traced Answer) :=
  match bench.perform command with
  | some (changed, answer) => (changed, some answer)
  | none => (bench, none)

/-- Performs commands one after another. -/
def run (bench : Workbench) : List Command → Workbench × List (Option (Traced Answer))
  | [] => (bench, [])
  | command :: commands =>
    let (changed, answer) := bench.step command
    let (final, answers) := changed.run commands
    (final, answer :: answers)

end Workbench

end BoundSql
