import BoundSql.Clause

/-!
# Fragments

A `Fragment` is what is kept for one clause: at most one form, or a list of forms for a
clause that may be repeated.  `Fragment.set` binds arguments to a form and keeps it, or
clears the fragment when there are no arguments; a failing `set` releases the tokens that
it has issued and gives no fragment.  `Fragment.get` gives the forms to whoever can
show a registry that knows all their tokens.
-/

namespace BoundSql

/-- How many forms of a clause are kept. -/
inductive Arity where
  | one | many
deriving DecidableEq

/-- At most one `F`, or a list of them. -/
def Arity.Content : Arity → Type → Type
  | .one, F => Option F
  | .many, F => List F

/-- What is kept for a clause. -/
structure Fragment (clause : Clause) (arity : Arity) where
  content : arity.Content (clause.Form Token)

namespace Fragment

variable {clause : Clause}

/-- The fragment in which nothing is kept. -/
def empty (clause : Clause) : (arity : Arity) → Fragment clause arity
  | .one => ⟨(none : Option (clause.Form Token))⟩
  | .many => ⟨([] : List (clause.Form Token))⟩

/-- The forms that are kept, in order. -/
def items : {arity : Arity} → Fragment clause arity → List (clause.Form Token)
  | .one, ⟨content⟩ => Option.toList content
  | .many, ⟨content⟩ => content

/-- Decides whether any form is kept. -/
def isSet {arity : Arity} (fragment : Fragment clause arity) : Bool :=
  !fragment.items.isEmpty

/-- The tokens of the forms that are kept, in the order in which they are written. -/
def tokens {arity : Arity} (fragment : Fragment clause arity) : List Token :=
  fragment.items.flatMap clause.literals

/-! ### Changing a fragment -/

/-- What is reported when a fragment is cleared. -/
def clearedEvent : {arity : Arity} → Fragment clause arity → Event
  | .one, _ => .cleared clause.function none
  | .many, fragment => .cleared clause.function (some fragment.items.length)

/-- Forgets all forms.  Their tokens stay with their registry. -/
def clear {arity : Arity} (fragment : Fragment clause arity) :
    Traced (Fragment clause arity) :=
  if fragment.isSet then do
    Traced.note fragment.clearedEvent
    pure (empty clause arity)
  else pure fragment

/-- Binds arguments to a form and keeps it: in the place of the form that was kept, or
behind the others if it goes with them. -/
def add : {arity : Arity} → Fragment clause arity → clause.Args →
    Allocating (Fragment clause arity)
  | .one, _, args => do
    let form ← clause.bind args
    pure ⟨some form⟩
  | .many, fragment, args => do
    let form ← clause.bind args
    Stateful.lift (Traced.ofExcept
      (Clause.refusing clause.function (clause.refuseAfter fragment.items form)))
    pure ⟨fragment.items ++ [form]⟩

/-- Binds and keeps arguments, or clears the fragment if there are none.  A refusal is
reported. -/
def set {arity : Arity} (fragment : Fragment clause arity) :
    Option clause.Args → Allocating (Fragment clause arity)
  | none => Stateful.lift fragment.clear
  | some args =>
    (Registry.atomic (fragment.add args)).noteError (.rejected clause.function)

/-! ### Reading a fragment -/

/-- Refuses a form with a token that the registry does not know. -/
def verify (clause : Clause) (registry : Registry) (form : clause.Form Token) :
    Traced Unit :=
  match (clause.literals form).find? fun token => !registry.contains token with
  | none => pure ()
  | some token => do
    Traced.note (.stale clause.function token.name)
    Traced.fail (.staleToken clause.function)

/-- The fragment, if the registry knows all its tokens. -/
def get {arity : Arity} (fragment : Fragment clause arity) (registry : Registry) :
    Traced (Fragment clause arity) := do
  fragment.items.forM (verify clause registry)
  pure fragment

/-- The template of what is kept, if it writes something. -/
def template : {arity : Arity} → Fragment clause arity → Option (Template Token)
  | .one, ⟨content⟩ => Option.bind content clause.template
  | .many, fragment => clause.listTemplate fragment.items

/-- The text of what is kept, if it writes something. -/
def render {arity : Arity} (fragment : Fragment clause arity) : Option String :=
  fragment.template.map (Template.text Token.name)

/-- The template of what is kept, if the registry knows all its tokens. -/
def build {arity : Arity} (fragment : Fragment clause arity) (registry : Registry) :
    Traced (Option (Template Token)) := do
  let fragment ← fragment.get registry
  pure fragment.template

end Fragment

end BoundSql
