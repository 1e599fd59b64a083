import BoundSql.Proofs.Form
import BoundSql.Proofs.Legibility

/-!
# What clauses write

The template of a clause has a slot for each literal, in order; only a query says itself
where its values stand.  Between the slots there are keywords, numbers, blanks, commas and
brackets.  `Clause.isLegibleWith_template_iff` says for which sigils a clause is read back:
for all that a valid configuration can have, unless a negative number is written behind the
sigil `-`, or a literal stands behind a bracket and the sigil consists of brackets.  So a
clause is read back when it is written with the sigil `$`.
-/

namespace BoundSql

open Template

variable {α : Type}

/-- The slots of those parts that write something. -/
theorem Template.flatMap_slots_filterMap {β : Type} (template : β → Option (Template α))
    (bs : List β) :
  (bs.filterMap template).flatMap slots = bs.flatMap fun b => ((template b).map slots).getD []
  := by
  induction bs with
  | nil => rfl
  | cons b bs ih =>
    rw [List.flatMap_cons, ← ih]
    cases h : template b with
    | none => simp [h]
    | some t => simp [h]

/-! ### Legibility with the sigil `$` -/

/-- A template is read back with the sigil `$` when its slots are written as numerals. -/
def Template.IsLegible (numeral : α → Numeral) (t : Template α) : Prop :=
  Scan.Legible '$' [] (t.mapSlots numeral)

/-- A legible template can stand in brackets. -/
theorem Template.IsLegible.enclosed {numeral : α → Numeral} {part : Template α}
    (h : part.IsLegible numeral) :
  (Template.enclosed part).IsLegible numeral
  := by
  rw [IsLegible, mapSlots_enclosed]
  apply Scan.Legible.between (Scan.separates_singleton (by decide) rfl rfl)
    (Scan.separates_singleton (by decide) rfl rfl) h

/-! ### Words without digits -/

theorem Cascade.noDigit_keyword (rule : Cascade) :
  ∀ c ∈ (Coded.keyword rule).toList, c.isDigit = false
  := by
  cases rule <;> decide

theorem TransactionAction.noDigit_keyword (word : TransactionAction) :
  ∀ c ∈ (Coded.keyword word).toList, c.isDigit = false
  := by
  cases word <;> decide

theorem TransactionMode.noDigit_keyword (mode : TransactionMode) :
  ∀ c ∈ (Coded.keyword mode).toList, c.isDigit = false
  := by
  cases mode <;> decide

theorem StorageParameter.noDigit_keyword (parameter : StorageParameter) :
  ∀ c ∈ (Coded.keyword parameter).toList, c.isDigit = false
  := by
  cases parameter <;> decide

theorem StorageMode.noDigit_keyword (mode : StorageMode) :
  ∀ c ∈ (Coded.keyword mode).toList, c.isDigit = false
  := by
  cases mode <;> decide

theorem ColumnChange.noDigit_keyword (change : ColumnChange) :
  ∀ c ∈ (Coded.keyword change).toList, c.isDigit = false
  := by
  cases change <;> decide

theorem RoleKind.noDigit_keyword (kind : RoleKind) :
  ∀ c ∈ (Coded.keyword kind).toList, c.isDigit = false
  := by
  cases kind <;> decide

/-! ### Clauses with literals -/

variable {s : Char} {sigil : List Char} {numeral : α → Numeral}

theorem Literal.slots_template (literal : Literal) (a : α) :
  (literal.template a).slots = [a]
  := by
  cases literal <;> rfl

theorem Literal.isLegibleWith_template (hmark : Scan.IsMark s sigil) (literal : Literal) {a : α}
    (h : (numeral a).IsProper) :
  (literal.template a).IsLegibleWith s sigil numeral
  := by
  rw [template]
  split
  next => exact IsLegibleWith.ref h
  next keyword hkeyword =>
    have hword : ∀ c ∈ keyword.toList, c.isDigit = false := by
      cases literal <;> cases hkeyword <;> decide
    rw [isLegibleWith_spaced_iff hmark]
    simp only [List.forall_mem_cons]
    use IsLegibleWith.word hword, IsLegibleWith.ref h
    simp

theorem RoleSpec.slots_template (role : RoleSpec α) :
  role.template.slots = role.literals
  := by
  obtain ⟨kind, _ | name⟩ := role
  · simp [template, literals]
  · simp [template, literals]

theorem RoleSpec.isLegibleWith_template {role : RoleSpec α}
    (h : ∀ a ∈ role.literals, (numeral a).IsProper) :
  role.template.IsLegibleWith s sigil numeral
  := by
  obtain ⟨kind, _ | name⟩ := role
  · apply IsLegibleWith.word (RoleKind.noDigit_keyword kind)
  · apply IsLegibleWith.ref (h name (List.mem_singleton_self name))

theorem RoleClause.slots_template (clause : RoleClause) (role : RoleSpec α) :
  (clause.template role).slots = role.literals
  := by
  cases clause <;> simp [template, RoleSpec.slots_template]

theorem RoleClause.isLegibleWith_template (hmark : Scan.IsMark s sigil) (clause : RoleClause)
    {role : RoleSpec α} (h : ∀ a ∈ role.literals, (numeral a).IsProper) :
  (clause.template role).IsLegibleWith s sigil numeral
  := by
  cases clause with
  | ownerTo =>
    rw [template, isLegibleWith_spaced_iff hmark]
    simp only [List.forall_mem_cons]
    use IsLegibleWith.word (by decide), RoleSpec.isLegibleWith_template h
    simp
  | ownedBy | toRole => exact RoleSpec.isLegibleWith_template h

theorem Setting.slots_template (setting : Setting α) :
  setting.template.slots = setting.literals
  := by
  simp [template, literals]

theorem Setting.isLegibleWith_template (hmark : Scan.IsMark s sigil) {setting : Setting α}
    (h : ∀ a ∈ setting.literals, (numeral a).IsProper) :
  setting.template.IsLegibleWith s sigil numeral
  := by
  rw [template, isLegibleWith_spaced_iff hmark]
  simp only [List.forall_mem_cons]
  use IsLegibleWith.word (StorageParameter.noDigit_keyword _), IsLegibleWith.word (by decide),
    IsLegibleWith.ref (h _ (List.mem_singleton_self _))
  simp

theorem Setting.beginsWithWord_template (setting : Setting α) :
  setting.template.BeginsWithWord
  := beginsWithWord_spaced (beginsWithWord_word (StorageParameter.noDigit_keyword _)) _

theorem TableTarget.slots_template (table : TableTarget α) :
  table.template.slots = table.literals
  := by
  rw [template]
  split_ifs <;> simp [literals]

theorem TableTarget.isLegibleWith_template (hmark : Scan.IsMark s sigil) {table : TableTarget α}
    (h : ∀ a ∈ table.literals, (numeral a).IsProper) :
  table.template.IsLegibleWith s sigil numeral
  := by
  have hname : (Template.ref table.name).IsLegibleWith s sigil numeral :=
    IsLegibleWith.ref (h table.name (List.mem_singleton_self _))
  rw [template]
  split_ifs
  · rw [isLegibleWith_spaced_iff hmark]
    simp only [List.forall_mem_cons]
    use IsLegibleWith.word (by decide), hname
    simp
  · rw [isLegibleWith_spaced_iff hmark]
    simp only [List.forall_mem_cons]
    use hname, IsLegibleWith.word (by decide)
    simp
  · apply hname

theorem AddColumn.slots_template (add : AddColumn α) :
  add.template.slots = add.literals
  := by
  cases h : add.collation <;> simp [template, literals, h, List.flatMap_map]

theorem AddColumn.isLegibleWith_template (hmark : Scan.IsMark s sigil) {add : AddColumn α}
    (h : ∀ a ∈ add.literals, (numeral a).IsProper) :
  add.template.IsLegibleWith s sigil numeral
  := by
  simp only [literals, List.forall_mem_cons, List.forall_mem_append] at h
  obtain ⟨hcolumn, hdataType, hcollation, hconstraints⟩ := h
  rw [template, isLegibleWith_spaced_iff hmark]
  simp only [List.forall_mem_append, List.forall_mem_cons]
  constructor
  · use ⟨IsLegibleWith.word (by decide), IsLegibleWith.ref hcolumn,
      IsLegibleWith.ref hdataType, by simp⟩
    intro part hpart
    obtain ⟨collation, hmem, hpart⟩ := List.mem_flatMap.mp hpart
    simp only [List.mem_cons, List.not_mem_nil, or_false] at hpart
    obtain rfl | rfl := hpart
    · apply IsLegibleWith.word (by decide)
    · apply IsLegibleWith.ref (hcollation collation hmem)
  · intro part hpart
    obtain ⟨constraint, hmem, rfl⟩ := List.mem_map.mp hpart
    apply IsLegibleWith.ref (hconstraints constraint hmem)

theorem DropColumn.slots_template (drop : DropColumn α) :
  drop.template.slots = drop.literals
  := by
  cases hexists : drop.ifExists <;> cases hcascade : drop.cascade <;>
    simp [template, literals, hexists, hcascade]

theorem DropColumn.isLegibleWith_template (hmark : Scan.IsMark s sigil) {drop : DropColumn α}
    (h : ∀ a ∈ drop.literals, (numeral a).IsProper) :
  drop.template.IsLegibleWith s sigil numeral
  := by
  rw [template, isLegibleWith_spaced_iff hmark]
  simp only [List.forall_mem_append, List.forall_mem_cons]
  constructor
  · use ⟨⟨IsLegibleWith.word (by decide), by simp⟩, ?_⟩
    · use IsLegibleWith.ref (h _ (List.mem_singleton_self _))
      simp
    · intro part hpart
      split_ifs at hpart
      · obtain rfl := List.mem_singleton.mp hpart
        apply IsLegibleWith.word (by decide)
      · contradiction
  · intro part hpart
    obtain ⟨rule, -, rfl⟩ := List.mem_map.mp hpart
    apply IsLegibleWith.word (Cascade.noDigit_keyword rule)

theorem RenameColumn.slots_template (rename : RenameColumn α) :
  rename.template.slots = rename.literals
  := by
  simp [template, literals]

theorem RenameColumn.isLegibleWith_template (hmark : Scan.IsMark s sigil)
    {rename : RenameColumn α} (h : ∀ a ∈ rename.literals, (numeral a).IsProper) :
  rename.template.IsLegibleWith s sigil numeral
  := by
  simp only [literals, List.forall_mem_cons] at h
  rw [template, isLegibleWith_spaced_iff hmark]
  simp only [List.forall_mem_cons]
  use IsLegibleWith.word (by decide), IsLegibleWith.ref h.1, IsLegibleWith.word (by decide),
    IsLegibleWith.ref h.2.1
  simp

/-- The numbers that a change of a column writes out. -/
def ColumnAction.numbers : ColumnAction α → List Int
  | .setStatistics target => [target.toInt]
  | _ => []

theorem ColumnAction.slots_details (action : ColumnAction α) :
  action.details.flatMap slots = action.literals
  := by
  cases action with
  | setDataType dataType collation => cases collation <;> simp [details, literals]
  | _ => simp [details, literals]

theorem ColumnAction.isLegibleWith_details_iff (hmark : Scan.IsMark s sigil)
    {action : ColumnAction α} (h : ∀ a ∈ action.literals, (numeral a).IsProper) :
  (∀ part ∈ action.details, part.IsLegibleWith s sigil numeral)
    ↔ ∀ n ∈ action.numbers, ¬ Scan.IsReadAsToken (s :: sigil) n
  := by
  cases action with
  | dropNotNull | dropDefault | setNotNull => simp [details, numbers]
  | setDataType dataType collation =>
    refine iff_of_true ?_ (by simp [numbers])
    simp only [literals, List.forall_mem_cons] at h
    simp only [details, List.forall_mem_cons]
    use IsLegibleWith.ref h.1
    intro part hpart
    obtain ⟨name, hmem, hpart⟩ := List.mem_flatMap.mp hpart
    simp only [List.mem_cons, List.not_mem_nil, or_false] at hpart
    obtain rfl | rfl := hpart
    · apply IsLegibleWith.word (by decide)
    · apply IsLegibleWith.ref (h.2 name hmem)
  | setDefault default =>
    refine iff_of_true ?_ (by simp [numbers])
    simp only [details, List.forall_mem_cons]
    use IsLegibleWith.ref (h _ (List.mem_singleton_self _))
    simp
  | setStatistics target =>
    simp only [details, numbers, List.forall_mem_singleton]
    apply isLegibleWith_number_iff hmark
  | setStorage mode =>
    refine iff_of_true ?_ (by simp [numbers])
    simp only [details, List.forall_mem_cons]
    use IsLegibleWith.word (StorageMode.noDigit_keyword mode)
    simp

theorem AlterColumn.slots_template (alter : AlterColumn α) :
  alter.template.slots = alter.literals
  := by
  simp [template, literals, ColumnAction.slots_details]

theorem AlterColumn.isLegibleWith_template_iff (hmark : Scan.IsMark s sigil)
    {alter : AlterColumn α} (h : ∀ a ∈ alter.literals, (numeral a).IsProper) :
  alter.template.IsLegibleWith s sigil numeral
    ↔ ∀ n ∈ alter.action.numbers, ¬ Scan.IsReadAsToken (s :: sigil) n
  := by
  simp only [literals, List.forall_mem_cons] at h
  have hhead : ∀ part ∈ [word "ALTER COLUMN", Template.ref alter.column,
      word (Coded.keyword alter.action.change)], part.IsLegibleWith s sigil numeral := by
    simp only [List.forall_mem_cons]
    use IsLegibleWith.word (by decide), IsLegibleWith.ref h.1,
      IsLegibleWith.word (ColumnChange.noDigit_keyword _)
    simp
  rw [template, isLegibleWith_spaced_iff hmark, List.forall_mem_append,
    ← ColumnAction.isLegibleWith_details_iff hmark h.2]
  apply and_iff_right hhead

theorem TableAction.slots_template (act : TableAction α) :
  act.template.slots = act.literals
  := by
  cases act with
  | addColumn add => exact AddColumn.slots_template add
  | alterColumn alter => exact AlterColumn.slots_template alter
  | dropColumn drop => exact DropColumn.slots_template drop
  | setStorage settings =>
    simp [template, literals, List.flatMap_map, Setting.slots_template]
  | resetStorage parameters => simp [template, literals, List.flatMap_map]

/-- A keyword with a list in brackets, of parts that begin with words. -/
theorem Template.isLegibleWith_keyword_listed_iff (hmark : Scan.IsMark s sigil)
    {keyword : String} (hkeyword : ∀ c ∈ keyword.toList, c.isDigit = false)
    {parts : List (Template α)} (hwords : ∀ part ∈ parts, part.BeginsWithWord) :
  (spaced [word keyword, enclosed (listed parts)]).IsLegibleWith s sigil numeral
    ↔ ∀ part ∈ parts, part.IsLegibleWith s sigil numeral
  := by
  rw [isLegibleWith_spaced_iff hmark, ← isLegibleWith_enclosed_listed_iff hmark hwords,
    List.forall_mem_cons, List.forall_mem_singleton]
  apply and_iff_right (IsLegibleWith.word hkeyword)

/-- The numbers that an action on a table writes out. -/
def TableAction.numbers : TableAction α → List Int
  | .alterColumn alter => alter.action.numbers
  | _ => []

theorem TableAction.isLegibleWith_template_iff (hmark : Scan.IsMark s sigil)
    {act : TableAction α} (h : ∀ a ∈ act.literals, (numeral a).IsProper) :
  act.template.IsLegibleWith s sigil numeral
    ↔ ∀ n ∈ act.numbers, ¬ Scan.IsReadAsToken (s :: sigil) n
  := by
  cases act with
  | addColumn add =>
    exact iff_of_true (AddColumn.isLegibleWith_template hmark h) (by simp [numbers])
  | alterColumn alter => exact AlterColumn.isLegibleWith_template_iff hmark h
  | dropColumn drop =>
    exact iff_of_true (DropColumn.isLegibleWith_template hmark h) (by simp [numbers])
  | setStorage settings =>
    refine iff_of_true ?_ (by simp [numbers])
    rw [template, isLegibleWith_keyword_listed_iff hmark (by decide)]
    · intro part hpart
      obtain ⟨setting, hmem, rfl⟩ := List.mem_map.mp hpart
      apply Setting.isLegibleWith_template hmark
      exact fun a ha => h a (List.mem_flatMap.mpr ⟨setting, hmem, ha⟩)
    · intro part hpart
      obtain ⟨setting, -, rfl⟩ := List.mem_map.mp hpart
      apply Setting.beginsWithWord_template
  | resetStorage parameters =>
    refine iff_of_true ?_ (by simp [numbers])
    rw [template, isLegibleWith_keyword_listed_iff hmark (by decide)]
    · intro part hpart
      obtain ⟨parameter, -, rfl⟩ := List.mem_map.mp hpart
      apply IsLegibleWith.word (StorageParameter.noDigit_keyword parameter)
    · intro part hpart
      obtain ⟨parameter, -, rfl⟩ := List.mem_map.mp hpart
      apply beginsWithWord_word (StorageParameter.noDigit_keyword parameter)

theorem Absorbed.template_map {β : Type} (f : α → β) (body : Template Nat)
    (entries : List α) :
  Absorbed.template ⟨body, entries.map f⟩ = (Absorbed.template ⟨body, entries⟩).mapSlots f
  := by
  show body.expand (slotAt (entries.map f)) = (body.expand (slotAt entries)).mapSlots f
  induction body with
  | nil => rfl
  | cons symbol body ih =>
    cases symbol with
    | char c => exact congrArg (Symbol.char c :: ·) ih
    | slot position =>
      have hslot : slotAt (entries.map f) position = (slotAt entries position).mapSlots f := by
        rw [slotAt, slotAt, List.getElem?_map]
        cases entries[position]? with
        | none => rfl
        | some a => rfl
      show slotAt (entries.map f) position ++ Template.expand (slotAt (entries.map f)) body
        = (slotAt entries position ++ Template.expand (slotAt entries) body).mapSlots f
      rw [mapSlots_append, hslot, ih]

theorem Expression.template_map {β : Type} (f : α → β) (expression : Expression α) :
  (Expression.traversal.map f expression).template = expression.template.mapSlots f
  := by
  cases expression with
  | literal a => rfl
  | query absorbed =>
    rw [Expression.map_query]
    apply Absorbed.template_map

theorem Condition.slots_template (condition : Condition) (expression : Expression α) :
  (condition.template expression).slots = expression.template.slots
  := by
  simp [template]

theorem Condition.isLegibleWith_template_iff (hmark : Scan.IsMark s sigil)
    (condition : Condition) (expression : Expression α) :
  (condition.template expression).IsLegibleWith s sigil numeral
    ↔ (enclosed expression.template).IsLegibleWith s sigil numeral
  := by
  have hkeyword : ∀ c ∈ condition.keyword.toList, c.isDigit = false := by
    cases condition <;> decide
  rw [template, isLegibleWith_spaced_iff hmark, List.forall_mem_cons, List.forall_mem_singleton]
  apply and_iff_right (IsLegibleWith.word hkeyword)

/-! ### Clauses without literals -/

theorem Flag.isLegibleWith_template (flag : Flag) (isOn : Bool) :
  ∀ t ∈ flag.template isOn, t.IsLegibleWith s sigil numeral
  := by
  cases isOn with
  | false => simp [template]
  | true =>
    rintro _ ⟨⟩
    apply IsLegibleWith.word
    cases flag <;> decide

/-- A keyword with a number. -/
theorem Template.isLegibleWith_keyword_number_iff (hmark : Scan.IsMark s sigil)
    {keyword : String} (h : ∀ c ∈ keyword.toList, c.isDigit = false) (n : Int) :
  (spaced [word keyword, word (toString n)]).IsLegibleWith s sigil numeral
    ↔ ¬ Scan.IsReadAsToken (s :: sigil) n
  := by
  rw [isLegibleWith_spaced_iff hmark, List.forall_mem_cons, List.forall_mem_singleton,
    isLegibleWith_number_iff hmark]
  apply and_iff_right (IsLegibleWith.word h)

theorem Quantity.isLegibleWith_template_iff (hmark : Scan.IsMark s sigil) (quantity : Quantity)
    (n : Int64) :
  (quantity.template n).IsLegibleWith s sigil numeral
    ↔ ¬ Scan.IsReadAsToken (s :: sigil) n.toInt
  := by
  apply isLegibleWith_keyword_number_iff hmark
  cases quantity <;> decide

theorem Limit.slots_template (limit : Limit) (n : Option Int64) :
  (limit.template (α := α) n).slots = []
  := by
  cases n <;> simp [template]

theorem Limit.isLegibleWith_template_iff (hmark : Scan.IsMark s sigil) (limit : Limit)
    (n : Option Int64) :
  (limit.template n).IsLegibleWith s sigil numeral
    ↔ ∀ m ∈ n.toList, ¬ Scan.IsReadAsToken (s :: sigil) m.toInt
  := by
  cases n with
  | none =>
    refine iff_of_true ?_ (by simp)
    apply IsLegibleWith.word
    cases limit <;> decide
  | some m =>
    rw [Option.toList_some, List.forall_mem_singleton]
    apply isLegibleWith_keyword_number_iff hmark
    cases limit <;> decide

/-! ### All clauses -/

namespace Clause

/-- What stands in the slots of a form.  A query says itself where its entries stand; the
other forms write each literal once. -/
def written : (clause : Clause) → clause.Form α → List α
  | .condition _, expression => (Expression.template expression).slots
  | clause, form => clause.literals form

/-- Exchanging the literals of a form exchanges what it writes. -/
theorem written_map {β : Type} (clause : Clause) (f : α → β) (form : clause.Form α) :
  clause.written (clause.traversal.map f form) = (clause.written form).map f
  := by
  cases clause with
  | condition c =>
    have hslots := congrArg slots (Expression.template_map f form)
    rw [slots_mapSlots] at hslots
    apply hslots
  | _ => exact (traversal_isLawful _).literals_map f form

theorem slots_template (clause : Clause) (form : clause.Form α) :
  ((clause.template form).map slots).getD [] = clause.written form
  := by
  cases clause with
  | flag f => cases form <;> simp [template, written, literals, Flag.template]
  | cycle => simp [template, written, literals, cycleTemplate]
  | cascade | transactionAction | resetting | mode => simp [template, written, literals]
  | quantity q => simp [template, written, literals, Quantity.template]
  | limit l => exact Limit.slots_template l form
  | literal l => exact Literal.slots_template l form
  | role r => exact RoleClause.slots_template r form
  | setting l => exact Setting.slots_template form
  | table l => exact TableTarget.slots_template form
  | condition c => exact Condition.slots_template c form
  | addColumn => exact AddColumn.slots_template form
  | dropColumn => exact DropColumn.slots_template form
  | renameColumn => exact RenameColumn.slots_template form
  | alterColumn => exact AlterColumn.slots_template form
  | action => exact TableAction.slots_template form

/-- The numbers that a form writes out. -/
def numbers : (clause : Clause) → clause.Form α → List Int
  | .quantity _, n => [Int64.toInt n]
  | .limit _, n => (Option.toList n).map Int64.toInt
  | .alterColumn, alter => ColumnAction.numbers (AlterColumn.action alter)
  | .action, act => TableAction.numbers act
  | _, _ => []

/-- A form that holds no query. -/
def HoldsNoQuery : (clause : Clause) → clause.Form α → Prop
  | .condition _, .query _ => False
  | _, _ => True

/-- A form without a query writes its literals. -/
theorem written_eq_literals {clause : Clause} {form : clause.Form α}
    (h : clause.HoldsNoQuery form) :
  clause.written form = clause.literals form
  := by
  cases clause with
  | condition c =>
    cases form with
    | literal a => rfl
    | query absorbed => contradiction
  | _ => rfl

/-- A form is ambiguous with a sigil when one of its numbers is read as a token, or when the
literal of a condition stands behind a bracket that takes the place of one of the sigil. -/
def IsAmbiguous (sigil : List Char) : (clause : Clause) → clause.Form α → Prop
  | .condition _, _ => Scan.IsBrackets sigil
  | clause, form => ∃ n ∈ clause.numbers form, Scan.IsReadAsToken sigil n

/-- A form without a query is read back when it is not ambiguous. -/
theorem isLegibleWith_template_iff (hmark : Scan.IsMark s sigil) (clause : Clause)
    {form : clause.Form α} (h : ∀ a ∈ clause.literals form, (numeral a).IsProper)
    (hquery : clause.HoldsNoQuery form) :
  (∀ t ∈ clause.template form, t.IsLegibleWith s sigil numeral)
    ↔ ¬ clause.IsAmbiguous (s :: sigil) form
  := by
  have hplain : ¬ ∃ n ∈ ([] : List Int), Scan.IsReadAsToken (s :: sigil) n := by simp
  have hnumbers : ∀ ns : List Int, (¬ ∃ n ∈ ns, Scan.IsReadAsToken (s :: sigil) n)
      ↔ ∀ n ∈ ns, ¬ Scan.IsReadAsToken (s :: sigil) n := by simp
  have hsome : ∀ t : Template α, (∀ u ∈ some t, u.IsLegibleWith s sigil numeral)
      ↔ t.IsLegibleWith s sigil numeral := by simp
  cases clause with
  | flag f => exact iff_of_true (Flag.isLegibleWith_template f form) hplain
  | cycle =>
    refine iff_of_true ?_ hplain
    rintro _ ⟨⟩
    apply IsLegibleWith.word
    cases form <;> decide
  | cascade =>
    refine iff_of_true ?_ hplain
    rintro _ ⟨⟩
    apply IsLegibleWith.word (Cascade.noDigit_keyword _)
  | transactionAction =>
    refine iff_of_true ?_ hplain
    rintro _ ⟨⟩
    apply IsLegibleWith.word (TransactionAction.noDigit_keyword _)
  | quantity q =>
    apply (hsome _).trans
    apply (Quantity.isLegibleWith_template_iff hmark q form).trans
    apply Iff.trans _ (hnumbers [Int64.toInt form]).symm
    simp
  | limit l =>
    apply (hsome _).trans
    apply (Limit.isLegibleWith_template_iff hmark l form).trans
    apply Iff.trans _ (hnumbers ((Option.toList form).map Int64.toInt)).symm
    simp
  | literal l =>
    refine iff_of_true ?_ hplain
    rintro _ ⟨⟩
    apply Literal.isLegibleWith_template hmark
    apply h form (List.mem_singleton_self form)
  | role r =>
    refine iff_of_true ?_ hplain
    rintro _ ⟨⟩
    apply RoleClause.isLegibleWith_template hmark r h
  | setting l =>
    refine iff_of_true ?_ hplain
    rintro _ ⟨⟩
    apply Setting.isLegibleWith_template hmark h
  | resetting =>
    refine iff_of_true ?_ hplain
    rintro _ ⟨⟩
    apply IsLegibleWith.word (StorageParameter.noDigit_keyword _)
  | mode =>
    refine iff_of_true ?_ hplain
    rintro _ ⟨⟩
    apply IsLegibleWith.word (TransactionMode.noDigit_keyword _)
  | table l =>
    refine iff_of_true ?_ hplain
    rintro _ ⟨⟩
    apply TableTarget.isLegibleWith_template hmark h
  | condition c =>
    cases form with
    | literal a =>
      apply (hsome _).trans
      apply (Condition.isLegibleWith_template_iff hmark c _).trans
      rw [isLegibleWith_enclosed_iff]
      apply Scan.legible_opened_ref_iff (h a (List.mem_singleton_self a))
    | query absorbed => contradiction
  | addColumn =>
    refine iff_of_true ?_ hplain
    rintro _ ⟨⟩
    apply AddColumn.isLegibleWith_template hmark h
  | dropColumn =>
    refine iff_of_true ?_ hplain
    rintro _ ⟨⟩
    apply DropColumn.isLegibleWith_template hmark h
  | renameColumn =>
    refine iff_of_true ?_ hplain
    rintro _ ⟨⟩
    apply RenameColumn.isLegibleWith_template hmark h
  | alterColumn =>
    apply (hsome _).trans
    exact (AlterColumn.isLegibleWith_template_iff hmark h).trans (hnumbers _).symm
  | action =>
    apply (hsome _).trans
    exact (TableAction.isLegibleWith_template_iff hmark h).trans (hnumbers _).symm

/-! ### Repeated clauses -/

theorem slots_around (clause : Clause) (t : Template α) :
  (clause.around t).slots = t.slots
  := by
  cases clause with
  | role r => cases r <;> simp [around]
  | setting l => simp [around]
  | resetting => simp [around]
  | table l => simp [around]
  | _ => simp [around]

theorem slots_listTemplate (clause : Clause) (forms : List (clause.Form α)) :
  ((clause.listTemplate forms).map slots).getD [] = forms.flatMap clause.written
  := by
  have hwritten : (forms.filterMap clause.template).flatMap slots
      = forms.flatMap clause.written := by
    rw [flatMap_slots_filterMap]
    simp only [slots_template]
  rw [← hwritten, listTemplate]
  split
  next h => simp [h]
  next => simp [slots_around]

/-- Several templates of a clause are read back together when each of them is. -/
theorem isLegibleWith_around_iff (hmark : Scan.IsMark s sigil) (clause : Clause)
    (forms : List (clause.Form α)) :
  (clause.around (listed (forms.filterMap clause.template))).IsLegibleWith s sigil numeral
    ↔ ∀ t ∈ forms.filterMap clause.template, t.IsLegibleWith s sigil numeral
  := by
  have hspaced : ∀ {keyword : String} {parts : List (Template α)},
      (∀ c ∈ keyword.toList, c.isDigit = false) →
      ((spaced [word keyword, listed parts]).IsLegibleWith s sigil numeral
        ↔ ∀ part ∈ parts, part.IsLegibleWith s sigil numeral) := by
    intro keyword parts hkeyword
    rw [isLegibleWith_spaced_iff hmark, List.forall_mem_cons, List.forall_mem_singleton,
      isLegibleWith_listed_iff hmark]
    apply and_iff_right (IsLegibleWith.word hkeyword)
  cases clause with
  | role r =>
    cases r with
    | ownerTo => exact isLegibleWith_listed_iff hmark
    | ownedBy | toRole => exact hspaced (by decide)
  | setting l =>
    apply isLegibleWith_keyword_listed_iff hmark
    · cases l <;> decide
    · intro part hpart
      obtain ⟨setting, -, hwrites⟩ := List.mem_filterMap.mp hpart
      obtain rfl := Option.some.inj hwrites
      apply Setting.beginsWithWord_template
  | resetting =>
    apply isLegibleWith_keyword_listed_iff hmark (by decide)
    intro part hpart
    obtain ⟨parameter, -, hwrites⟩ := List.mem_filterMap.mp hpart
    obtain rfl := Option.some.inj hwrites
    apply beginsWithWord_word (StorageParameter.noDigit_keyword parameter)
  | table l => exact hspaced (by cases l <;> decide)
  | _ => exact isLegibleWith_listed_iff hmark

/-- What several forms write together is read back when it is for each form. -/
theorem isLegibleWith_listTemplate_iff (hmark : Scan.IsMark s sigil) (clause : Clause)
    (forms : List (clause.Form α)) :
  (∀ t ∈ clause.listTemplate forms, t.IsLegibleWith s sigil numeral)
    ↔ ∀ form ∈ forms, ∀ t ∈ clause.template form, t.IsLegibleWith s sigil numeral
  := by
  have hparts : (∀ form ∈ forms, ∀ t ∈ clause.template form, t.IsLegibleWith s sigil numeral)
      ↔ ∀ t ∈ forms.filterMap clause.template, t.IsLegibleWith s sigil numeral := by
    rw [List.forall_mem_filterMap]
    rfl
  rw [hparts, ← isLegibleWith_around_iff hmark, listTemplate]
  split
  next h =>
    rw [isLegibleWith_around_iff hmark, h]
    simp
  next => simp

/-! ### The sigil `$` -/

theorem isMark_dollar :
  Scan.IsMark '$' []
  := ⟨by decide, rfl⟩

/-- No form is ambiguous with the sigil `$`. -/
theorem not_isAmbiguous_dollar (clause : Clause) (form : clause.Form α) :
  ¬ clause.IsAmbiguous ['$'] form
  := by
  have hnumbers : ∀ ns : List Int, ¬ ∃ n ∈ ns, Scan.IsReadAsToken ['$'] n := by
    rintro ns ⟨n, -, hsigil, -⟩
    contradiction
  cases clause with
  | condition c => exact fun hbrackets => absurd hbrackets.1 (by decide)
  | _ => exact hnumbers _

/-- A form is read back when all its slots are written as numerals with the number of a
token; a query has to be legible as a whole. -/
def IsReadable (numeral : α → Numeral) : (clause : Clause) → clause.Form α → Prop
  | .condition _, expression => (Expression.template expression).IsLegible numeral
  | clause, form => ∀ a ∈ clause.literals form, (numeral a).IsProper

/-- What a readable form writes is legible. -/
theorem isLegible_template (clause : Clause) {form : clause.Form α}
    (h : clause.IsReadable numeral form) :
  ∀ t ∈ clause.template form, t.IsLegible numeral
  := by
  cases clause with
  | condition c =>
    rintro _ ⟨⟩
    apply (Condition.isLegibleWith_template_iff isMark_dollar c _).mpr
    apply IsLegible.enclosed h
  | _ =>
    apply (isLegibleWith_template_iff isMark_dollar _ h trivial).mpr
    apply not_isAmbiguous_dollar

end Clause

end BoundSql
