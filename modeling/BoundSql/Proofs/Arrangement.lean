import BoundSql.Proofs.Integrity

/-!
# The arrangement of a statement

The text of a statement is its command, followed by what its fields write, with blanks between
them.  The fields stand in the order of one of the shapes of the statement; no field of the
shape is written twice, and every field outside the shape has nothing to write
(`sql_is_what_is_set`).
-/

namespace BoundSql

/-! ### What writes nothing -/

namespace Clause

variable {α : Type}

/-- A form is that of a flag which is switched off. -/
def IsSwitchedOff : (clause : Clause) → clause.Form α → Prop
  | .flag _, isOn => isOn = false
  | _, _ => False

theorem template_eq_none_iff (clause : Clause) (form : clause.Form α) :
  clause.template form = none ↔ clause.IsSwitchedOff form
  := by
  cases clause with
  | flag f =>
    cases form with
    | false => exact iff_of_true rfl rfl
    | true => exact iff_of_false nofun nofun
  | _ => simp [template, IsSwitchedOff]

theorem listTemplate_eq_none_iff (clause : Clause) (forms : List (clause.Form α)) :
  clause.listTemplate forms = none ↔ ∀ form ∈ forms, clause.IsSwitchedOff form
  := by
  simp only [← template_eq_none_iff, ← List.filterMap_eq_nil_iff]
  rw [listTemplate]
  split
  next h => exact iff_of_true rfl h
  next h => exact iff_of_false (Option.some_ne_none _) h

end Clause

namespace Fragment

variable {clause : Clause} {arity : Arity}

/-- A fragment writes nothing when all that it keeps is a flag which is switched off. -/
theorem template_eq_none_iff (fragment : Fragment clause arity) :
  fragment.template = none ↔ ∀ form ∈ fragment.items, clause.IsSwitchedOff form
  := by
  obtain ⟨content⟩ := fragment
  cases arity with
  | one =>
    cases content with
    | none =>
      use fun _ form hform => absurd hform List.not_mem_nil
      exact fun _ => rfl
    | some form =>
      have hitems : (⟨some form⟩ : Fragment clause .one).items = [form] := rfl
      rw [hitems, List.forall_mem_singleton]
      apply clause.template_eq_none_iff
  | many => exact clause.listTemplate_eq_none_iff content

theorem render_eq_none_iff (fragment : Fragment clause arity) :
  fragment.render = none ↔ ∀ form ∈ fragment.items, clause.IsSwitchedOff form
  := by
  rw [render, Option.map_eq_none_iff, template_eq_none_iff]

end Fragment

/-! ### What is written -/

namespace Statement

variable {grammar : Grammar} {statement : Statement grammar}

theorem isPresent_eq_false_iff {field : grammar.Field} :
  statement.isPresent field = false ↔ (statement.fragment field).render = none
  := by
  rw [isPresent, Option.isSome_eq_false_iff, Option.isNone_iff_eq_none, Fragment.render,
    Option.map_eq_none_iff]

theorem isPresent_eq_true_iff {field : grammar.Field} :
  statement.isPresent field = true ↔ (statement.fragment field).render.isSome = true
  := by
  rw [isPresent, Fragment.render, Option.isSome_map]

/-- The text of a statement: its command and the texts of the fields of its layout. -/
theorem of_sql_eq_ok {sql : String} (h : statement.sql.result = .ok sql) :
  ∃ fields, statement.layout = .ok fields
    ∧ sql = " ".intercalate
      (grammar.command :: fields.filterMap fun field => (statement.fragment field).render)
  := by
  rw [sql_eq] at h
  obtain ⟨template, htemplate, rfl⟩ := Except.map_eq_ok.mp h
  obtain ⟨-, fields, hlayout, rfl⟩ := of_template_eq_ok htemplate
  use fields, hlayout
  rw [Template.spaced, Template.text_joined, List.map_cons, Template.text_word,
    List.map_filterMap]
  rfl

end Statement

/-- The text of a statement is what is set.  After any calls that leave a statement which can be
written, its text is the command and the texts of the fields of one of the shapes of its kind, in
the order of the shape and with blanks between them.  No field stands twice in the shape, and the
fields that the shape requires do write something.  A field writes nothing only when all that it
holds is a flag which is switched off, and so it is with all fields outside the shape. -/
theorem sql_is_what_is_set (kind : StatementKind) (config : Config)
    (calls : List (Call kind.grammar)) {sql : String}
    (h : ((Statement.new kind.grammar config).run calls).1.sql.result = .ok sql) :
  let final := ((Statement.new kind.grammar config).run calls).1
  ∃ shape ∈ kind.shapes, shape.fields.Nodup
    ∧ (∀ field ∈ shape.required, (final.fragment field).render.isSome = true)
    ∧ (∀ field, (final.fragment field).render = none
      ↔ ∀ form ∈ (final.fragment field).items, (kind.grammar.clause field).IsSwitchedOff form)
    ∧ (∀ field, field ∉ shape.fields →
      ∀ form ∈ (final.fragment field).items, (kind.grammar.clause field).IsSwitchedOff form)
    ∧ sql = " ".intercalate (kind.grammar.command
      :: shape.fields.filterMap fun field => (final.fragment field).render)
  := by
  intro final
  obtain ⟨fields, hlayout, hsql⟩ := Statement.of_sql_eq_ok h
  obtain ⟨shape, hshape, rfl, hrequired, hcover⟩ :=
    kind.follows_layout (Except.mapError_eq_ok.mp hlayout)
  refine ⟨shape, hshape, kind.nodup_of_mem_shapes shape hshape, ?_, ?_, ?_, ?_⟩
  · intro field hfield
    apply Statement.isPresent_eq_true_iff.mp (hrequired field hfield)
  · intro field
    apply Fragment.render_eq_none_iff
  · intro field hfield
    rw [← Fragment.render_eq_none_iff, ← Statement.isPresent_eq_false_iff, ← Bool.not_eq_true]
    intro hpresent
    apply hfield (hcover field hpresent)
  · rw [hsql, List.filterMap_filter]
    congr 2
    apply List.filterMap_congr
    intro field _
    split_ifs with hpresent
    · rfl
    · rw [Bool.not_eq_true, Statement.isPresent_eq_false_iff] at hpresent
      exact hpresent.symm

/-- Calls that set the options of a sequence in an order of their own, and a flag to no effect. -/
def shuffledSequence : List (Call StatementKind.alterSequence.grammar) :=
  [.set .cycle (some false), .set .cache (some (3 : Int64)), .set .ifExists (some false),
    .set .restart (some none), .set .name (some "s")]

theorem sql_is_what_is_set_of_shuffledSequence :
  ((Statement.new StatementKind.alterSequence.grammar {}).run
      shuffledSequence).1.sql.result = .ok "ALTER SEQUENCE $1 RESTART CACHE 3 NO CYCLE"
    ∧ ∃ shape ∈ AlterSequence.shapes, shape.fields.Nodup
      ∧ "ALTER SEQUENCE $1 RESTART CACHE 3 NO CYCLE"
        = " ".intercalate ("ALTER SEQUENCE" :: shape.fields.filterMap fun field =>
          (((Statement.new StatementKind.alterSequence.grammar {}).run
            shuffledSequence).1.fragment field).render)
  := by
  have hsql : ((Statement.new StatementKind.alterSequence.grammar {}).run
      shuffledSequence).1.sql.result
        = .ok "ALTER SEQUENCE $1 RESTART CACHE 3 NO CYCLE" := by cbv
  obtain ⟨shape, hshape, hnodup, -, -, -, htext⟩ :=
    sql_is_what_is_set .alterSequence {} shuffledSequence hsql
  use hsql, shape, hshape, hnodup, htext

end BoundSql
