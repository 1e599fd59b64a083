import BoundSql.Proofs.Transition

/-!
# What a statement remembers

A `Journal` notes for each field the arguments that have been accepted and are still in
force.  A statement agrees with a journal when the forms that its fields hold are related to
the arguments in the journal.  A relation that binding arguments establishes, and that lasts
while the registry grows, is kept by every call (`Statement.Agrees.run`).  So it is for
`Clause.IsHeld`: every form is the checked form of its arguments, with tokens by which the
registry knows the values.
-/

namespace BoundSql

open Stateful

/-! ### Journals -/

/-- The arguments that are in force for each field. -/
abbrev Journal (grammar : Grammar) : Type :=
  (field : grammar.Field) → List (grammar.clause field).Args

namespace Journal

variable {grammar : Grammar}

/-- The journal in which nothing is in force. -/
def empty : Journal grammar := fun _ => []

/-- Exchanges what is in force for one field. -/
def put (journal : Journal grammar) (field : grammar.Field)
    (inForce : List (grammar.clause field).Args) : Journal grammar :=
  fun other => if h : field = other then h ▸ inForce else journal other

/-- The journal after a call with the given result.  Accepted arguments are kept in the way
of the field, clearing a field and a reset drop what was in force, and all other calls
leave the journal. -/
def after (journal : Journal grammar) :
    Call grammar → Except Error (Reply grammar) → Journal grammar
  | .set field (some args), .ok _ =>
    journal.put field ((grammar.arity field).keep (journal field) args)
  | .set field none, .ok _ => journal.put field []
  | .reset, _ => empty
  | _, _ => journal

/-- The journal after calls on a statement. -/
def along (journal : Journal grammar) (statement : Statement grammar) :
    List (Call grammar) → Journal grammar
  | [] => journal
  | call :: calls =>
    let (changed, reply) := statement.step call
    (journal.after call reply.result).along changed calls

@[simp]
theorem put_self (journal : Journal grammar) (field : grammar.Field)
    (inForce : List (grammar.clause field).Args) :
  journal.put field inForce field = inForce
  := by
  simp [put]

@[simp]
theorem put_of_ne (journal : Journal grammar) {field other : grammar.Field}
    (inForce : List (grammar.clause field).Args) (h : field ≠ other) :
  journal.put field inForce other = journal other
  := by
  simp [put, h]

end Journal

/-! ### Agreement of forms and arguments -/

namespace Clause

/-- A relation between the forms of clauses, whose tokens are those of a registry, and
arguments. -/
abbrev Relation : Type :=
  (clause : Clause) → Registry → clause.Form Token → clause.Args → Prop

/-- The relation lasts while the registry grows. -/
def Relation.Lasts (R : Relation) : Prop :=
  ∀ clause registry form args, R clause registry form args →
    ∀ entries, R clause (registry.append entries) form args

/-- Binding the arguments establishes the relation. -/
def Relation.IsMade (R : Relation) (clause : Clause) (args : clause.Args) : Prop :=
  ∀ registry checked form changed, clause.IsBound args registry checked form changed →
    R clause changed form args

/-- A form holds the arguments: it is their checked form, with tokens by which the registry
knows the values in the places of these. -/
structure IsHeld (clause : Clause) (registry : Registry) (form : clause.Form Token)
    (args : clause.Args) : Prop where
  exists_checked : ∃ checked, clause.check args = .ok checked
    ∧ clause.traversal.shape form = clause.traversal.shape checked
    ∧ (clause.literals form).map registry.lookup = (clause.literals checked).map some
  isReadable : clause.IsReadable (fun token => Numeral.ofId token.id) form

variable {clause : Clause} {registry : Registry} {form : clause.Form Token}
  {args : clause.Args}

theorem IsBound.isHeld {changed : Registry} {checked : clause.Form Value}
    (h : clause.IsBound args registry checked form changed)
    (hsigil : clause.UsesSigil "$" args) :
  clause.IsHeld changed form args
  := by
  constructor
  · use checked, h.check_eq, h.shape_eq
    rw [h.literals_eq, h.changed_eq]
    apply Registry.map_lookup_nextTokens
  · apply h.isReadable hsigil

/-- A form still holds its arguments when the registry has grown. -/
theorem IsHeld.append (h : clause.IsHeld registry form args) (entries : List (Option Value)) :
  clause.IsHeld (registry.append entries) form args
  := by
  obtain ⟨checked, hcheck, hshape, hlookup⟩ := h.exists_checked
  constructor
  · use checked, hcheck, hshape, (registry.remembers_append entries).map_lookup hlookup
  · apply h.isReadable

/-- The registry knows what a form writes as the literals that its arguments supply. -/
theorem IsHeld.map_lookup_written (h : clause.IsHeld registry form args) :
  (clause.written form).map registry.lookup = (clause.supplied Query.spoken args).map some
  := by
  obtain ⟨checked, hcheck, hshape, hlookup⟩ := h.exists_checked
  have hmap : clause.traversal.map registry.lookup form = clause.traversal.map some checked :=
    clause.traversal_isLawful.map_eq_map hshape hlookup
  rw [← written_map, hmap, written_map, written_of_check clause hcheck]

end Clause

/-! ### Agreement of statements and journals -/

namespace Statement

variable {grammar : Grammar} {statement : Statement grammar} {journal : Journal grammar}

/-- The forms of each field are related to the arguments that are in force. -/
def Agrees (R : Clause.Relation) (statement : Statement grammar) (journal : Journal grammar) :
    Prop :=
  ∀ field, List.Forall₂ (R (grammar.clause field) statement.registry)
    (statement.fragment field).items (journal field)

/-- The forms of each field hold the arguments that are in force. -/
structure Records (statement : Statement grammar) (journal : Journal grammar) : Prop where
  forall₂_isHeld (field : grammar.Field) :
    List.Forall₂ ((grammar.clause field).IsHeld statement.registry)
      (statement.fragment field).items (journal field)

@[simp]
theorem registry_put (field : grammar.Field)
    (fragment : Fragment (grammar.clause field) (grammar.arity field)) :
  (statement.put field fragment).registry = statement.registry
  := rfl

@[simp]
theorem fragment_put_self (field : grammar.Field)
    (fragment : Fragment (grammar.clause field) (grammar.arity field)) :
  (statement.put field fragment).fragment field = fragment
  := by
  simp [put]

@[simp]
theorem fragment_put_of_ne {field other : grammar.Field}
    (fragment : Fragment (grammar.clause field) (grammar.arity field)) (h : field ≠ other) :
  (statement.put field fragment).fragment other = statement.fragment other
  := by
  simp [put, h]

variable {R : Clause.Relation}

theorem agrees_empty (R : Clause.Relation) (registry : Registry) :
  (⟨registry, fun field => Fragment.empty (grammar.clause field) (grammar.arity field)⟩ :
    Statement grammar).Agrees R Journal.empty
  := by
  intro field
  rw [Fragment.items_empty]
  apply List.Forall₂.nil

/-- What the relation says of every form holds for the forms of a field. -/
theorem Agrees.forall_items (h : statement.Agrees R journal) (field : grammar.Field)
    {P : (grammar.clause field).Form Token → Prop}
    (hR : ∀ form args, R (grammar.clause field) statement.registry form args → P form) :
  ∀ form ∈ (statement.fragment field).items, P form
  := by
  have hfield := (h field).imp fun form args hrelated =>
    And.intro (hR form args hrelated) hrelated
  exact ((List.forall₂_and_left _ _).mp hfield).1

/-- Growing keeps the agreement. -/
theorem Agrees.append (h : statement.Agrees R journal) (hlasts : R.Lasts)
    (entries : List (Option Value)) :
  Agrees R { statement with registry := statement.registry.append entries } journal
  := by
  intro field
  apply (h field).imp
  exact fun form args hrelated => hlasts _ _ form args hrelated entries

/-- Exchanging a field together with what is in force for it keeps the agreement. -/
theorem Agrees.put (h : statement.Agrees R journal) {field : grammar.Field}
    {fragment : Fragment (grammar.clause field) (grammar.arity field)}
    {inForce : List (grammar.clause field).Args}
    (hfield : List.Forall₂ (R (grammar.clause field) statement.registry)
      fragment.items inForce) :
  (statement.put field fragment).Agrees R (journal.put field inForce)
  := by
  intro other
  by_cases hother : field = other
  · subst hother
    rw [fragment_put_self, Journal.put_self]
    apply hfield
  · rw [fragment_put_of_ne fragment hother, Journal.put_of_ne journal inForce hother]
    apply h other

theorem forall₂_keep {α β : Type} {r : α → β → Prop} (arity : Arity) {as : List α}
    {bs : List β} (h : List.Forall₂ r as bs) {a : α} {b : β} (hab : r a b) :
  List.Forall₂ r (arity.keep as a) (arity.keep bs b)
  := by
  cases arity with
  | one => exact List.Forall₂.cons hab List.Forall₂.nil
  | many => exact List.rel_append h (List.Forall₂.cons hab List.Forall₂.nil)

/-- A transition keeps the agreement. -/
theorem Agrees.of_transition (h : statement.Agrees R journal) (hlasts : R.Lasts)
    {call : Call grammar} {result : Except Error (Reply grammar)}
    {changed : Statement grammar} (htransition : Transition statement call result changed)
    (hmade : ∀ field args, call = .set field (some args) →
      R.IsMade (grammar.clause field) args) :
  changed.Agrees R (journal.after call result)
  := by
  cases htransition with
  | bound field args checked form registry fragment hbound hitems =>
    have hgrown := h.append hlasts ((grammar.clause field).literals checked |>.map some)
    rw [← hbound.changed_eq] at hgrown
    apply hgrown.put
    rw [hitems]
    apply forall₂_keep _ (hgrown field)
    apply hmade field args rfl _ checked form registry hbound
  | cleared field fragment hitems =>
    apply h.put
    rw [hitems]
    apply List.Forall₂.nil
  | refused field args e =>
    cases args with
    | none => exact h
    | some args => exact h
  | reset => exact agrees_empty R _
  | asked call result hquestion =>
    cases call with
    | set | reset => contradiction
    | _ => exact h

/-- A run keeps the agreement. -/
theorem Agrees.run (h : statement.Agrees R journal) (hlasts : R.Lasts)
    {calls : List (Call grammar)}
    (hmade : ∀ field args, .set field (some args) ∈ calls →
      R.IsMade (grammar.clause field) args) :
  (statement.run calls).1.Agrees R (journal.along statement calls)
  := by
  induction calls generalizing statement journal with
  | nil => exact h
  | cons call calls ih =>
    apply ih
    · apply h.of_transition hlasts (transition_step statement call)
      rintro field args rfl
      apply hmade field args List.mem_cons_self
    · intro field args hmem
      apply hmade field args (List.mem_cons_of_mem call hmem)

theorem records_empty (registry : Registry) :
  (⟨registry, fun field => Fragment.empty (grammar.clause field) (grammar.arity field)⟩ :
    Statement grammar).Records Journal.empty
  := ⟨agrees_empty Clause.IsHeld registry⟩

/-- A run keeps what is recorded. -/
theorem Records.run (h : statement.Records journal) {calls : List (Call grammar)}
    (hsigil : ∀ call ∈ calls, call.UsesSigil "$") :
  (statement.run calls).1.Records (journal.along statement calls)
  := by
  constructor
  apply Agrees.run (R := Clause.IsHeld) h.forall₂_isHeld
  · exact fun clause registry form args hheld entries => hheld.append entries
  · intro field args hmem registry checked form changed hbound
    apply hbound.isHeld (hsigil _ hmem)

end Statement

end BoundSql
