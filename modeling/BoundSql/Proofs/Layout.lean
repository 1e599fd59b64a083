import BoundSql.Proofs.Outcome
import BoundSql.StatementKind

/-!
# Layouts

When the fields that write something form a statement, the layout of its grammar follows one
of the shapes of the kind of statement: it lists exactly these fields, each once and in the
order of the shape.
-/

namespace BoundSql

variable {Field : Type}

theorem refuse_eq_ok {clause context : String} {isPresent : Bool} {u : Unit} :
  refuse clause context isPresent = .ok u ↔ isPresent = false
  := by
  cases isPresent with
  | false => exact iff_of_true rfl rfl
  | true => exact iff_of_false nofun nofun

theorem not_isPresent_of_refuse {clause context : String} {isPresent : Bool} {u : Unit}
    (h : refuse clause context isPresent = .ok u) :
  ¬ isPresent = true
  := Bool.eq_false_iff.mp (refuse_eq_ok.mp h)

theorem require_eq_ok {present : Field → Bool} {clause : String} {field : Field} {u : Unit} :
  require present clause field = .ok u ↔ present field = true
  := by
  rw [require]
  split_ifs with hpresent
  · exact iff_of_true rfl hpresent
  · exact iff_of_false nofun hpresent

/-- The chosen form is the only one of which a field is present. -/
theorem of_chooseForm {present : Field → Bool} {forms : List (StatementForm Field)}
    {fields : List Field} (h : chooseForm present forms = .ok fields) :
  ∃ form ∈ forms, form.isPresent present = true ∧ fields = form.fields.filter present
    ∧ ∀ other ∈ forms, other.isPresent present = true → other = form
  := by
  rw [chooseForm] at h
  split at h
  next => contradiction
  next form hfilter =>
    have hmem : form ∈ forms.filter (StatementForm.isPresent present) := by
      rw [hfilter]
      apply List.mem_singleton_self
    obtain ⟨hform, hpresent⟩ := List.mem_filter.mp hmem
    use form, hform, hpresent, (Except.ok.inj h).symm
    intro other hother hpresent
    apply List.mem_singleton.mp
    rw [← hfilter]
    exact List.mem_filter.mpr ⟨hother, hpresent⟩
  next => contradiction

/-- A form is chosen when there is one that is present and no other. -/
theorem exists_chooseForm_iff {present : Field → Bool} {forms : List (StatementForm Field)} :
  (∃ fields, chooseForm present forms = .ok fields)
    ↔ forms.countP (StatementForm.isPresent present) = 1
  := by
  rw [List.countP_eq_length_filter, List.length_eq_one_iff, chooseForm]
  split
  next hnone => simp [hnone]
  next form hone => simp [hone]
  next several _ hseveral =>
    apply iff_of_false nofun
    rintro ⟨form, hform⟩
    exact hseveral form hform

/-! ### Shapes -/

/-- A shape of a statement: the fields that may stand together, in the order in which they are
written, and those among them that have to be there. -/
structure Shape (Field : Type) where
  fields : List Field
  required : List Field
deriving DecidableEq

/-- The fields are those of one of the shapes that are present, in the order of the shape.  The
fields that the shape requires are among them, and no field outside the shape is present. -/
def Follows (present : Field → Bool) (shapes : List (Shape Field)) (fields : List Field) :
    Prop :=
  ∃ shape ∈ shapes, fields = shape.fields.filter present
    ∧ (∀ field ∈ shape.required, present field = true)
    ∧ ∀ field, present field = true → field ∈ shape.fields

/-- Fields in front of the chosen form follow a shape with it, when every present field is
among them or in one of the forms.  A shape may require fields that are known to be present,
and the only field of a form. -/
theorem follows_append_chooseForm (known : List Field) {present : Field → Bool}
    {front : List Field} {forms : List (StatementForm Field)} {shapes : List (Shape Field)}
    {fields : List Field} (h : chooseForm present forms = .ok fields)
    (hknown : ∀ field ∈ known, present field = true)
    (hshapes : ∀ form ∈ forms, ∃ shape ∈ shapes, shape.fields = front ++ form.fields
      ∧ ∀ field ∈ shape.required, field ∈ known ∨ form.fields = [field])
    (hcover : ∀ field, present field = true →
      field ∈ front ++ forms.flatMap StatementForm.fields) :
  Follows present shapes (front.filter present ++ fields)
  := by
  obtain ⟨form, hform, hchosen, rfl, honly⟩ := of_chooseForm h
  obtain ⟨shape, hshape, hfields, hrequired⟩ := hshapes form hform
  use shape, hshape
  rw [hfields, ← List.filter_append]
  use rfl
  constructor
  · intro field hfield
    rcases hrequired field hfield with hmem | hsingle
    · apply hknown field hmem
    · rw [StatementForm.isPresent, hsingle, List.any_cons, List.any_nil, Bool.or_false] at hchosen
      exact hchosen
  · intro field hpresent
    rcases List.mem_append.mp (hcover field hpresent) with hfront | hforms
    · apply List.mem_append_left _ hfront
    · obtain ⟨other, hother, hfield⟩ := List.mem_flatMap.mp hforms
      have hother : other = form := by
        apply honly other hother
        exact List.any_eq_true.mpr ⟨field, hfield, hpresent⟩
      rw [hother] at hfield
      apply List.mem_append_right _ hfield

/-- The shapes of `ALTER TABLE`. -/
def AlterTable.shapes : List (Shape AlterTable.Field) :=
  [⟨[.ifExists, .only, .name, .wildcard, .actions], [.name, .actions]⟩,
    ⟨[.ifExists, .only, .name, .wildcard, .renameColumn], [.name, .renameColumn]⟩,
    ⟨[.ifExists, .only, .name, .wildcard, .renameTo], [.name, .renameTo]⟩,
    ⟨[.ifExists, .only, .name, .wildcard, .schema], [.name, .schema]⟩,
    ⟨[.ifExists, .only, .name, .wildcard, .tablespace], [.name, .tablespace]⟩,
    ⟨[.allInTablespace, .name, .ownedBy, .tablespace, .noWait],
      [.allInTablespace, .name, .tablespace]⟩]

/-- The shapes of `ALTER INDEX`. -/
def AlterIndex.shapes : List (Shape AlterIndex.Field) :=
  [⟨[.ifExists, .name, .renameTo], [.name, .renameTo]⟩,
    ⟨[.ifExists, .name, .tablespace], [.name, .tablespace]⟩,
    ⟨[.ifExists, .name, .dependsOnExtension], [.name, .dependsOnExtension]⟩,
    ⟨[.ifExists, .name, .storageParameters], [.name, .storageParameters]⟩,
    ⟨[.ifExists, .name, .resetParameters], [.name, .resetParameters]⟩]

/-- The shapes of `ALTER SEQUENCE`. -/
def AlterSequence.shapes : List (Shape AlterSequence.Field) :=
  [⟨[.ifExists, .name, .ownerTo], [.name, .ownerTo]⟩,
    ⟨[.ifExists, .name, .renameTo], [.name, .renameTo]⟩,
    ⟨[.ifExists, .name, .schema], [.name, .schema]⟩,
    ⟨[.ifExists, .name, .dataType, .incrementBy, .minValue, .maxValue, .startWith, .restart,
      .cache, .cycle], [.name]⟩]

/-- The shapes of `ALTER POLICY`. -/
def AlterPolicy.shapes : List (Shape AlterPolicy.Field) :=
  [⟨[.name, .onTable, .renameTo], [.name, .onTable, .renameTo]⟩,
    ⟨[.name, .onTable, .toRoles, .using, .withCheck], [.name, .onTable]⟩]

/-- The shapes of `ALTER PUBLICATION`. -/
def AlterPublication.shapes : List (Shape AlterPublication.Field) :=
  [⟨[.name, .addTables], [.name, .addTables]⟩, ⟨[.name, .setTables], [.name, .setTables]⟩,
    ⟨[.name, .dropTables], [.name, .dropTables]⟩, ⟨[.name, .renameTo], [.name, .renameTo]⟩,
    ⟨[.name, .ownerTo], [.name, .ownerTo]⟩]

/-- The shapes of a kind of statement. -/
def StatementKind.shapes : (kind : StatementKind) → List (Shape kind.grammar.Field)
  | .alterTable => AlterTable.shapes
  | .alterIndex => AlterIndex.shapes
  | .alterSequence => AlterSequence.shapes
  | .alterPolicy => AlterPolicy.shapes
  | .alterPublication => AlterPublication.shapes
  | .beginTransaction => [⟨[.action, .modes], []⟩]

/-- No shape has a field twice. -/
theorem StatementKind.nodup_of_mem_shapes (kind : StatementKind) :
  ∀ shape ∈ kind.shapes, shape.fields.Nodup
  := by
  cases kind <;> decide

theorem AlterTable.follows_layoutOne {present : AlterTable.Field → Bool}
    {fields : List AlterTable.Field} (hname : present .name = true)
    (hall : present .allInTablespace = false) (h : layoutOne present = .ok fields) :
  Follows present shapes fields
  := by
  obtain ⟨_, hownedBy, h⟩ := Except.bind_eq_ok.mp h
  obtain ⟨_, hnoWait, h⟩ := Except.bind_eq_ok.mp h
  obtain ⟨_, -, h⟩ := Except.bind_eq_ok.mp h
  obtain ⟨form, hform, h⟩ := Except.bind_eq_ok.mp h
  obtain rfl := Except.ok.inj h
  apply follows_append_chooseForm [.name] hform (List.forall_mem_singleton.mpr hname) (by decide)
  intro field hpresent
  cases field with
  | allInTablespace => exact absurd hpresent (Bool.eq_false_iff.mp hall)
  | ownedBy => exact absurd hpresent (not_isPresent_of_refuse hownedBy)
  | noWait => exact absurd hpresent (not_isPresent_of_refuse hnoWait)
  | ifExists | only | name | wildcard | actions | renameColumn | renameTo | schema | tablespace =>
    decide

theorem AlterTable.follows_layoutAll {present : AlterTable.Field → Bool}
    {fields : List AlterTable.Field} (hname : present .name = true)
    (hall : present .allInTablespace = true) (h : layoutAll present = .ok fields) :
  Follows present shapes fields
  := by
  obtain ⟨_, hifExists, h⟩ := Except.bind_eq_ok.mp h
  obtain ⟨_, honly, h⟩ := Except.bind_eq_ok.mp h
  obtain ⟨_, hwildcard, h⟩ := Except.bind_eq_ok.mp h
  obtain ⟨_, hactions, h⟩ := Except.bind_eq_ok.mp h
  obtain ⟨_, hrenameColumn, h⟩ := Except.bind_eq_ok.mp h
  obtain ⟨_, hrenameTo, h⟩ := Except.bind_eq_ok.mp h
  obtain ⟨_, hschema, h⟩ := Except.bind_eq_ok.mp h
  obtain ⟨_, htablespace, h⟩ := Except.bind_eq_ok.mp h
  obtain rfl := Except.ok.inj h
  use ⟨[.allInTablespace, .name, .ownedBy, .tablespace, .noWait],
    [.allInTablespace, .name, .tablespace]⟩, by decide, rfl
  constructor
  · simp only [List.forall_mem_cons]
    use hall, hname, require_eq_ok.mp htablespace
    simp
  · intro field hpresent
    cases field with
    | ifExists => exact absurd hpresent (not_isPresent_of_refuse hifExists)
    | only => exact absurd hpresent (not_isPresent_of_refuse honly)
    | wildcard => exact absurd hpresent (not_isPresent_of_refuse hwildcard)
    | actions => exact absurd hpresent (not_isPresent_of_refuse hactions)
    | renameColumn => exact absurd hpresent (not_isPresent_of_refuse hrenameColumn)
    | renameTo => exact absurd hpresent (not_isPresent_of_refuse hrenameTo)
    | schema => exact absurd hpresent (not_isPresent_of_refuse hschema)
    | allInTablespace | name | ownedBy | tablespace | noWait => decide

theorem BeginTransaction.mem_fields (field : BeginTransaction.Field) :
  field ∈ [BeginTransaction.Field.action, .modes]
  := by
  cases field <;> decide

/-- A layout follows one of the shapes of its kind. -/
theorem StatementKind.follows_layout (kind : StatementKind)
    {present : kind.grammar.Field → Bool} {fields : List kind.grammar.Field}
    (h : kind.grammar.layout present = .ok fields) :
  Follows present kind.shapes fields
  := by
  cases kind with
  | alterTable =>
    obtain ⟨_, hname, h⟩ := Except.bind_eq_ok.mp h
    split_ifs at h with hall
    · apply AlterTable.follows_layoutAll (require_eq_ok.mp hname) hall h
    · apply AlterTable.follows_layoutOne (require_eq_ok.mp hname) (by simpa using hall) h
  | alterIndex =>
    obtain ⟨_, hname, h⟩ := Except.bind_eq_ok.mp h
    obtain ⟨_, -, h⟩ := Except.bind_eq_ok.mp h
    obtain ⟨form, hform, h⟩ := Except.bind_eq_ok.mp h
    obtain rfl := Except.ok.inj h
    show Follows present AlterIndex.shapes _
    apply follows_append_chooseForm [.name] hform _ (by decide)
    · intro field _
      cases field <;> decide
    · rw [List.forall_mem_singleton]
      apply require_eq_ok.mp hname
  | alterSequence =>
    obtain ⟨_, hname, h⟩ := Except.bind_eq_ok.mp h
    obtain ⟨form, hform, h⟩ := Except.bind_eq_ok.mp h
    obtain rfl := Except.ok.inj h
    show Follows present AlterSequence.shapes _
    apply follows_append_chooseForm [.name] hform _ (by decide)
    · intro field _
      cases field <;> decide
    · rw [List.forall_mem_singleton]
      apply require_eq_ok.mp hname
  | alterPolicy =>
    obtain ⟨_, hname, h⟩ := Except.bind_eq_ok.mp h
    obtain ⟨_, honTable, h⟩ := Except.bind_eq_ok.mp h
    obtain ⟨form, hform, h⟩ := Except.bind_eq_ok.mp h
    obtain rfl := Except.ok.inj h
    show Follows present AlterPolicy.shapes _
    apply follows_append_chooseForm [.name, .onTable] hform _ (by decide)
    · intro field _
      cases field <;> decide
    · rw [List.forall_mem_cons, List.forall_mem_singleton]
      use require_eq_ok.mp hname, require_eq_ok.mp honTable
  | alterPublication =>
    obtain ⟨_, hname, h⟩ := Except.bind_eq_ok.mp h
    obtain ⟨form, hform, h⟩ := Except.bind_eq_ok.mp h
    obtain rfl := Except.ok.inj h
    show Follows present AlterPublication.shapes _
    apply follows_append_chooseForm [.name] hform _ (by decide)
    · intro field _
      cases field <;> decide
    · rw [List.forall_mem_singleton]
      apply require_eq_ok.mp hname
  | beginTransaction =>
    obtain rfl := Except.ok.inj h
    use ⟨[.action, .modes], []⟩, List.mem_singleton_self _, rfl
    use fun field hfield => absurd hfield List.not_mem_nil
    exact fun field _ => BeginTransaction.mem_fields field

/-! ### The fields of a layout -/

/-- The fields are those that are present, each once. -/
def Lists (present : Field → Bool) (fields : List Field) : Prop :=
  fields.Nodup ∧ ∀ field, field ∈ fields ↔ present field = true

theorem Follows.lists {present : Field → Bool} {shapes : List (Shape Field)}
    {fields : List Field} (h : Follows present shapes fields)
    (hnodup : ∀ shape ∈ shapes, shape.fields.Nodup) :
  Lists present fields
  := by
  obtain ⟨shape, hshape, rfl, -, hcover⟩ := h
  use (hnodup shape hshape).filter _
  intro field
  rw [List.mem_filter, and_iff_right_iff_imp]
  apply hcover

/-- A layout lists the fields that write something. -/
theorem StatementKind.lists_layout (kind : StatementKind)
    {present : kind.grammar.Field → Bool} {fields : List kind.grammar.Field}
    (h : kind.grammar.layout present = .ok fields) :
  Lists present fields
  := (kind.follows_layout h).lists kind.nodup_of_mem_shapes

end BoundSql
