import BoundSql.Clause.Argument
import BoundSql.Template

/-!
# Roles

A role is meant by its name, which is a literal, or by a keyword.  Each role clause
allows some of the keywords, and a name belongs to a named role only.
-/

namespace BoundSql

/-- The arguments that say which role is meant. -/
structure RoleArgs where
  kind : CodeArg RoleKind
  name : Option String

/-- A role: its kind, and its name if it is a named one. -/
structure RoleSpec (α : Type) where
  kind : RoleKind
  name : Option α
deriving DecidableEq

namespace RoleSpec

variable {α β : Type}

/-- Visits the name. -/
def traverse {m : Type → Type} [Monad m] (f : α → m β) (role : RoleSpec α) :
    m (RoleSpec β) := do
  let name ← role.name.mapM f
  pure ⟨role.kind, name⟩

/-- The name, if there is one. -/
def literals (role : RoleSpec α) : List α := role.name.toList

/-- The name, or the keyword of the kind. -/
def template (role : RoleSpec α) : Template α :=
  match role.name with
  | some name => Template.ref name
  | none => Template.word (Coded.keyword role.kind)

/-- The name that belongs to a role of the given kind. -/
def checkName (kind : RoleKind) : Option String → Except Rejection (Option Value)
  | none => if kind = .name then .error ⟨"name", .nameMissing⟩ else .ok none
  | some name =>
    if kind = .name then (checkedText "name" name).map some
    else .error ⟨"name", .nameSuperfluous kind⟩

/-- The role that the arguments mean, if its kind is an allowed one. -/
def check (allowed : List RoleKind) (args : RoleArgs) : Except Rejection (RoleSpec Value) := do
  let kind ← checkedCode "role" args.kind
  if allowed.contains kind then
    let name ← checkName kind args.name
    pure ⟨kind, name⟩
  else .error ⟨"role", .roleNotAllowed kind⟩

end RoleSpec

/-- A clause about roles. -/
inductive RoleClause where
  | ownerTo | ownedBy | toRole
deriving DecidableEq

namespace RoleClause

/-- The name of a clause in messages. -/
def function : RoleClause → String
  | .ownerTo => "owner_to"
  | .ownedBy => "owned_by"
  | .toRole => "to_role"

/-- The kinds of roles that a clause allows. -/
def allowed : RoleClause → List RoleKind
  | .ownerTo | .ownedBy => [.name, .currentUser, .sessionUser, .currentRole]
  | .toRole => [.name, .everyone, .currentUser, .sessionUser, .currentRole]

/-- One role, with its keyword where a clause has one for each role. -/
def template {α : Type} (clause : RoleClause) (role : RoleSpec α) : Template α :=
  match clause with
  | .ownerTo => Template.spaced [Template.word "OWNER TO", role.template]
  | .ownedBy | .toRole => role.template

end RoleClause

end BoundSql
