import BoundSql.Fragment

/-!
# Grammars of statements

A `Grammar` describes one kind of statement: its command, its fields with the clause of
each, and which fields may stand together and in which order.  The last of these is
`Grammar.layout`, which gets the set of the fields that write something and gives the
order in which they are written, or says why they do not form a statement.  Most kinds
of statements have several forms, of which exactly one is written; `chooseForm` finds it.
-/

namespace BoundSql

/-- A kind of statement. -/
structure Grammar where
  /-- The fields of a statement. -/
  Field : Type
  decEq : DecidableEq Field
  /-- All fields, in the order in which they are looked at. -/
  fields : List Field
  mem_fields : ∀ field, field ∈ fields
  /-- The name of a field. -/
  label : Field → String
  /-- The clause that a field holds. -/
  clause : Field → Clause
  /-- How many forms of its clause a field holds. -/
  arity : Field → Arity
  /-- The words with which the statement begins. -/
  command : String
  /-- The fields in the order in which they are written, given those that write
  something. -/
  layout : (Field → Bool) → Except Omission (List Field)

namespace Grammar

instance (grammar : Grammar) : DecidableEq grammar.Field := grammar.decEq

/-- The field with a name. -/
def field? (grammar : Grammar) (label : String) : Option grammar.Field :=
  grammar.fields.find? fun field => grammar.label field = label

end Grammar

/-- One of the forms of a statement: what it is called in messages, and the fields that
it is made of. -/
structure StatementForm (Field : Type) where
  name : String
  fields : List Field

namespace StatementForm

variable {Field : Type}

/-- Decides whether any field of a form is present. -/
def isPresent (present : Field → Bool) (form : StatementForm Field) : Bool :=
  form.fields.any present

end StatementForm

variable {Field : Type}

/-- The present fields of the only form that is present. -/
def chooseForm (present : Field → Bool) (forms : List (StatementForm Field)) :
    Except Omission (List Field) :=
  match forms.filter (StatementForm.isPresent present) with
  | [] => .error (.noForm (forms.map StatementForm.name))
  | [form] => .ok (form.fields.filter present)
  | several => .error (.severalForms (several.map StatementForm.name))

/-- Asks for a field, which messages call `clause`. -/
def require (present : Field → Bool) (clause : String) (field : Field) :
    Except Omission Unit :=
  if present field then .ok () else .error (.missing clause)

/-- Refuses a clause that is present in a context in which it has no meaning. -/
def refuse (clause context : String) (isPresent : Bool) : Except Omission Unit :=
  if isPresent then .error (.notAccepted clause context) else .ok ()

end BoundSql
