import BoundSql.Proofs.Acceptance
import BoundSql.Proofs.Ambiguity
import BoundSql.Proofs.Exclusion

/-!
# What arguments contribute

The values of a statement are contributed by the arguments that it has accepted, one after
another.  `Clause.Contributes` says what can come from which arguments: a query contributes its
values as they are, storage settings contribute the scalars that they set parameters to, and all
other arguments contribute clean texts.  There is no other way into the registry of a statement,
whatever has been cleared, replaced or refused on the way (`only_clean_values_are_bound`).
-/

namespace BoundSql

/-! ### Clean texts -/

/-- The value of a text argument: a text that is not empty and does not contain NUL. -/
def Value.IsCleanText (value : Value) : Prop := ∃ s, value = .text s ∧ IsClean s

theorem isCleanText_of_checkedText {argument s : String} {value : Value}
    (h : checkedText argument s = .ok value) :
  value.IsCleanText
  := by
  obtain ⟨hs, rfl⟩ := checkedText_eq_ok.mp h
  use s

theorem isCleanText_of_checkedText? {argument : String} {s : Option String}
    {value : Option Value} (h : checkedText? argument s = .ok value) :
  ∀ v ∈ value.toList, v.IsCleanText
  := by
  cases s with
  | none =>
    obtain rfl := Except.ok.inj h
    simp
  | some s =>
    obtain ⟨v, hv, rfl⟩ := Except.map_eq_ok.mp h
    rw [Option.toList_some, List.forall_mem_singleton]
    apply isCleanText_of_checkedText hv

theorem isCleanText_of_mapM_checkedText {argument : String} {texts : List String}
    {values : List Value} (h : texts.mapM (checkedText argument) = .ok values) :
  ∀ value ∈ values, value.IsCleanText
  := by
  have hall := Except.forall₂_of_mapM h
  clear h
  induction hall with
  | nil => simp
  | cons hv _ ih =>
    rw [List.forall_mem_cons]
    use isCleanText_of_checkedText hv

/-! ### Forms of clean texts -/

theorem RoleSpec.isCleanText_of_check {allowed : List RoleKind} {args : RoleArgs}
    {role : RoleSpec Value} (h : RoleSpec.check allowed args = .ok role) :
  ∀ value ∈ role.literals, value.IsCleanText
  := by
  obtain ⟨kind, -, hrest⟩ := Except.bind_eq_ok.mp h
  split_ifs at hrest
  obtain ⟨name, hname, hpure⟩ := Except.bind_eq_ok.mp hrest
  obtain rfl := Except.ok.inj hpure
  show ∀ value ∈ name.toList, value.IsCleanText
  cases hargs : args.name with
  | none =>
    rw [hargs, checkName] at hname
    split_ifs at hname
    obtain rfl := Except.ok.inj hname
    simp
  | some s =>
    rw [hargs, checkName] at hname
    split_ifs at hname
    exact isCleanText_of_checkedText? (s := some s) hname

theorem TableTarget.isCleanText_of_check {args : TableTarget String}
    {table : TableTarget Value} (h : TableTarget.check args = .ok table) :
  ∀ value ∈ table.literals, value.IsCleanText
  := by
  obtain ⟨_, -, hrest⟩ := Except.bind_eq_ok.mp h
  obtain ⟨name, hname, hpure⟩ := Except.bind_eq_ok.mp hrest
  obtain rfl := Except.ok.inj hpure
  rw [literals, List.forall_mem_singleton]
  apply isCleanText_of_checkedText hname

theorem AddColumn.isCleanText_of_check {args : AddColumn String} {add : AddColumn Value}
    (h : AddColumn.check args = .ok add) :
  ∀ value ∈ add.literals, value.IsCleanText
  := by
  obtain ⟨column, hcolumn, hrest⟩ := Except.bind_eq_ok.mp h
  obtain ⟨dataType, hdataType, hrest⟩ := Except.bind_eq_ok.mp hrest
  obtain ⟨collation, hcollation, hrest⟩ := Except.bind_eq_ok.mp hrest
  obtain ⟨constraints, hconstraints, hpure⟩ := Except.bind_eq_ok.mp hrest
  obtain rfl := Except.ok.inj hpure
  rw [literals, List.forall_mem_cons, List.forall_mem_cons, List.forall_mem_append]
  use isCleanText_of_checkedText hcolumn, isCleanText_of_checkedText hdataType,
    isCleanText_of_checkedText? hcollation, isCleanText_of_mapM_checkedText hconstraints

theorem DropColumn.isCleanText_of_check {args : DropColumnArgs} {drop : DropColumn Value}
    (h : DropColumn.check args = .ok drop) :
  ∀ value ∈ drop.literals, value.IsCleanText
  := by
  obtain ⟨column, hcolumn, hrest⟩ := Except.bind_eq_ok.mp h
  obtain ⟨rule, -, hpure⟩ := Except.bind_eq_ok.mp hrest
  obtain rfl := Except.ok.inj hpure
  rw [literals, List.forall_mem_singleton]
  apply isCleanText_of_checkedText hcolumn

theorem RenameColumn.isCleanText_of_check {args : RenameColumn String}
    {rename : RenameColumn Value} (h : RenameColumn.check args = .ok rename) :
  ∀ value ∈ rename.literals, value.IsCleanText
  := by
  obtain ⟨column, hcolumn, hrest⟩ := Except.bind_eq_ok.mp h
  obtain ⟨newName, hnewName, hpure⟩ := Except.bind_eq_ok.mp hrest
  obtain rfl := Except.ok.inj hpure
  rw [literals, List.forall_mem_cons, List.forall_mem_singleton]
  exact ⟨isCleanText_of_checkedText hcolumn, isCleanText_of_checkedText hnewName⟩

theorem ColumnAction.isCleanText_of_checkTextValue {change : ColumnChange}
    {value : Option ColumnValue} {text : Value} (h : checkTextValue change value = .ok text) :
  text.IsCleanText
  := by
  match value with
  | some (.text s) => exact isCleanText_of_checkedText h
  | some (.int n) => cases h
  | none => cases h

theorem ColumnAction.isCleanText_of_check {change : ColumnChange} {value : Option ColumnValue}
    {collation : Option String} {action : ColumnAction Value}
    (h : ColumnAction.check change value collation = .ok action) :
  ∀ value ∈ action.literals, value.IsCleanText
  := by
  obtain ⟨_, -, hrest⟩ := Except.bind_eq_ok.mp h
  cases change with
  | setDataType =>
    obtain ⟨name, hname, hrest⟩ := Except.bind_eq_ok.mp hrest
    obtain ⟨dataType, hdataType, hpure⟩ := Except.bind_eq_ok.mp hrest
    obtain rfl := Except.ok.inj hpure
    rw [literals, List.forall_mem_cons]
    use isCleanText_of_checkTextValue hdataType, isCleanText_of_checkedText? hname
  | setDefault =>
    obtain ⟨default, hdefault, hpure⟩ := Except.bind_eq_ok.mp hrest
    obtain rfl := Except.ok.inj hpure
    rw [literals, List.forall_mem_singleton]
    apply isCleanText_of_checkTextValue hdefault
  | dropNotNull | dropDefault | setNotNull =>
    obtain ⟨_, -, hpure⟩ := Except.bind_eq_ok.mp hrest
    obtain rfl := Except.ok.inj hpure
    simp [literals]
  | setStatistics | setStorage =>
    -- What comes with these changes is an integer, which is written into the statement.
    obtain ⟨_, -, hrest⟩ := Except.bind_eq_ok.mp hrest
    obtain ⟨_, -, hpure⟩ := Except.bind_eq_ok.mp hrest
    obtain rfl := Except.ok.inj hpure
    simp [literals]

theorem AlterColumn.isCleanText_of_check {args : AlterColumnArgs} {alter : AlterColumn Value}
    (h : AlterColumn.check args = .ok alter) :
  ∀ value ∈ alter.literals, value.IsCleanText
  := by
  obtain ⟨change, -, hrest⟩ := Except.bind_eq_ok.mp h
  obtain ⟨column, hcolumn, hrest⟩ := Except.bind_eq_ok.mp hrest
  obtain ⟨action, haction, hpure⟩ := Except.bind_eq_ok.mp hrest
  obtain rfl := Except.ok.inj hpure
  rw [literals, List.forall_mem_cons]
  use isCleanText_of_checkedText hcolumn, ColumnAction.isCleanText_of_check haction

/-! ### Settings -/

theorem isSettable_of_checkSettings {args : List SettingArgs} {settings : List (Setting Value)}
    (h : checkSettings args = .ok settings) :
  ∀ setting ∈ args, setting.value.IsSettable
  := by
  obtain ⟨checked, hchecked, -⟩ := Except.bind_eq_ok.mp h
  have hall := Except.forall₂_of_mapM hchecked
  clear h hchecked
  induction hall with
  | nil => simp
  | cons hsetting _ ih =>
    rw [List.forall_mem_cons]
    use (Setting.check_eq_ok.mp hsetting).2.1

/-! ### Contributions of a clause -/

namespace Clause

/-- The storage settings among the arguments of a clause. -/
def settings : (clause : Clause) → clause.Args → List SettingArgs
  | .setting _, args => [args]
  | .action, .setStorage args => args
  | _, _ => []

/-- The values that the arguments of a clause may contribute to a statement. -/
def Contributes : (clause : Clause) → clause.Args → List Value → Prop
  | .condition _, .query q, values => values = q.values
  | .setting _, args, values =>
    values = [SettingArgs.value args] ∧ (SettingArgs.value args).IsSettable
  | .action, .setStorage args, values =>
    values = args.map SettingArgs.value ∧ ∀ setting ∈ args, setting.value.IsSettable
  | _, _, values => ∀ value ∈ values, value.IsCleanText

/-- Arguments that pass their check contribute what they supply. -/
theorem contributes_of_check (clause : Clause) {args : clause.Args}
    {checked : clause.Form Value} (h : clause.check args = .ok checked) :
  clause.Contributes args (clause.supplied Query.values args)
  := by
  have hliterals := clause.literals_of_check h
  cases clause with
  | flag | cycle | cascade | transactionAction | quantity | limit | resetting | mode =>
    exact List.forall_mem_nil _
  | literal l =>
    rw [← hliterals]
    exact List.forall_mem_singleton.mpr (isCleanText_of_checkedText (refusing_eq_ok.mp h))
  | role r =>
    rw [← hliterals]
    exact RoleSpec.isCleanText_of_check (refusing_eq_ok.mp h)
  | setting l => exact ⟨rfl, (Setting.check_eq_ok.mp (refusing_eq_ok.mp h)).2.1⟩
  | table l =>
    rw [← hliterals]
    exact TableTarget.isCleanText_of_check (refusing_eq_ok.mp h)
  | condition c =>
    cases args with
    | text s => exact List.forall_mem_singleton.mpr ⟨s, rfl, (Expression.check_text_eq_ok.mp h).1⟩
    | query q => exact rfl
  | addColumn =>
    rw [← hliterals]
    exact AddColumn.isCleanText_of_check (refusing_eq_ok.mp h)
  | dropColumn =>
    rw [← hliterals]
    exact DropColumn.isCleanText_of_check (refusing_eq_ok.mp h)
  | renameColumn =>
    rw [← hliterals]
    exact RenameColumn.isCleanText_of_check (refusing_eq_ok.mp h)
  | alterColumn =>
    rw [← hliterals]
    exact AlterColumn.isCleanText_of_check (refusing_eq_ok.mp h)
  | action =>
    have hact := refusing_eq_ok.mp h
    match args with
    | .addColumn args =>
      obtain ⟨add, hadd, rfl⟩ := Except.map_eq_ok.mp hact
      rw [← hliterals]
      exact AddColumn.isCleanText_of_check hadd
    | .alterColumn args =>
      obtain ⟨alter, halter, rfl⟩ := Except.map_eq_ok.mp hact
      rw [← hliterals]
      exact AlterColumn.isCleanText_of_check halter
    | .dropColumn args =>
      obtain ⟨drop, hdrop, rfl⟩ := Except.map_eq_ok.mp hact
      rw [← hliterals]
      exact DropColumn.isCleanText_of_check hdrop
    | .setStorage [] => cases hact
    | .setStorage (first :: args) =>
      obtain ⟨settings, hsettings, -⟩ := Except.map_eq_ok.mp hact
      exact ⟨rfl, isSettable_of_checkSettings hsettings⟩
    | .resetStorage parameters => exact List.forall_mem_nil _

variable {clause : Clause} {args : clause.Args} {values : List Value}

/-- Arguments without a query contribute clean texts, and the values of storage settings. -/
theorem Contributes.isCleanText_or (h : clause.Contributes args values)
    (hquery : clause.HasNoQuery args) :
  ∀ value ∈ values, value.IsCleanText
    ∨ value.IsSettable ∧ ∃ setting ∈ clause.settings args, setting.value = value
  := by
  cases clause with
  | condition c =>
    cases args with
    | text s => exact fun value hvalue => Or.inl (h value hvalue)
    | query q => contradiction
  | setting l =>
    obtain ⟨rfl, hsettable⟩ := h
    rw [List.forall_mem_singleton]
    exact Or.inr ⟨hsettable, args, List.mem_singleton_self args, rfl⟩
  | action =>
    match args with
    | .setStorage settings =>
      obtain ⟨rfl, hsettable⟩ := h
      intro value hvalue
      obtain ⟨setting, hsetting, rfl⟩ := List.mem_map.mp hvalue
      exact Or.inr ⟨hsettable setting hsetting, setting, hsetting, rfl⟩
    | .addColumn _ | .alterColumn _ | .dropColumn _ | .resetStorage _ =>
      exact fun value hvalue => Or.inl (h value hvalue)
  | _ => exact fun value hvalue => Or.inl (h value hvalue)

end Clause

/-! ### Contributions to a statement -/

variable {grammar : Grammar}

/-- The arguments contribute their literals. -/
def Assignment.IsContribution (assignment : Assignment grammar) : Prop :=
  (grammar.clause assignment.field).Contributes assignment.args assignment.literals

namespace History

variable {history : History grammar}

/-- After a call, what is remembered has been remembered before, or is a contribution of the
call. -/
theorem isContribution_of_transition (h : ∀ assignment ∈ history, assignment.IsContribution)
    {statement changed : Statement grammar} {call : Call grammar}
    {result : Except Error (Reply grammar)}
    (htransition : Statement.Transition statement call result changed) :
  ∀ assignment ∈ history.after call result, assignment.IsContribution
  := by
  cases htransition with
  | bound field args checked form registry fragment hbound hitems =>
    show ∀ assignment ∈ history ++ [⟨field, args⟩], assignment.IsContribution
    rw [List.forall_mem_append, List.forall_mem_singleton]
    use h, Clause.contributes_of_check _ hbound.check_eq
  | cleared field fragment hitems => exact h
  | refused field args e =>
    cases args with
    | none => exact h
    | some args => exact h
  | reset => exact List.forall_mem_nil _
  | asked call result hquestion =>
    cases call with
    | set | reset => contradiction
    | _ => exact h

/-- After a run, all that is remembered is a contribution. -/
theorem isContribution_run (h : ∀ assignment ∈ history, assignment.IsContribution)
    (statement : Statement grammar) (calls : List (Call grammar)) :
  ∀ assignment ∈ history.along statement calls, assignment.IsContribution
  := by
  induction calls generalizing statement history with
  | nil => exact h
  | cons call calls ih =>
    apply ih
    apply isContribution_of_transition h (Statement.transition_step statement call)

/-- What is remembered after a call is what has been remembered before, or what the call has
assigned. -/
theorem mem_after {call : Call grammar} {result : Except Error (Reply grammar)}
    {assignment : Assignment grammar} (h : assignment ∈ history.after call result) :
  assignment ∈ history ∨ call = .set assignment.field (some assignment.args)
  := by
  cases call with
  | set field args =>
    cases args with
    | none => exact Or.inl h
    | some args =>
      cases result with
      | error e => exact Or.inl h
      | ok reply =>
        obtain hold | hnew := List.mem_append.mp h
        · exact Or.inl hold
        · obtain rfl := List.mem_singleton.mp hnew
          exact Or.inr rfl
  | reset => contradiction
  | _ => exact Or.inl h

/-- What is remembered after a run is what has been remembered before, or what a call has
assigned. -/
theorem mem_along {statement : Statement grammar} {calls : List (Call grammar)}
    {assignment : Assignment grammar} (h : assignment ∈ history.along statement calls) :
  assignment ∈ history ∨ .set assignment.field (some assignment.args) ∈ calls
  := by
  induction calls generalizing statement history with
  | nil => exact Or.inl h
  | cons call calls ih =>
    obtain hbefore | hbehind := ih h
    · obtain hold | rfl := mem_after hbefore
      · exact Or.inl hold
      · exact Or.inr List.mem_cons_self
    · exact Or.inr (List.mem_cons_of_mem call hbehind)

end History

/-- Only clean values are bound.  After any calls on a statement, its values are those that the
arguments accepted since the last reset have contributed, in order, in force or not: a query its
values as they are, storage settings the scalars that they set parameters to, and all other
arguments clean texts.  If no call passes a query, every value is a clean text, or a scalar that
a storage setting sets a parameter to. -/
theorem only_clean_values_are_bound (kind : StatementKind) (config : Config)
    (calls : List (Call kind.grammar)) :
  let start := Statement.new kind.grammar config
  let history := History.along [] start calls
  ∃ values, (start.run calls).1.registry.boundValues = .ok values
    ∧ values = history.flatMap Assignment.literals
    ∧ (∀ assignment ∈ history, assignment.IsContribution)
    ∧ ((∀ call ∈ calls, call.HasNoQuery) → ∀ value ∈ values, value.IsCleanText
      ∨ value.IsSettable ∧ ∃ assignment ∈ history,
        ∃ setting ∈ (kind.grammar.clause assignment.field).settings assignment.args,
          setting.value = value)
  := by
  intro start history
  have hcontribution : ∀ assignment ∈ history, assignment.IsContribution :=
    History.isContribution_run (List.forall_mem_nil _) start calls
  use history.literals, ((Statement.keeps_new config).run calls).boundValues_eq, rfl,
    hcontribution
  intro hcalls value hvalue
  obtain ⟨assignment, hassignment, hliteral⟩ := List.mem_flatMap.mp hvalue
  have hquery : (kind.grammar.clause assignment.field).HasNoQuery assignment.args := by
    obtain hnone | hcall := History.mem_along hassignment
    · contradiction
    · exact hcalls _ hcall
  apply (Clause.Contributes.isCleanText_or (hcontribution assignment hassignment) hquery value
    hliteral).imp_right
  rintro ⟨hsettable, setting, hsetting, hsets⟩
  exact ⟨hsettable, assignment, hassignment, setting, hsetting, hsets⟩

/-- Calls of which two are refused, for a document and for a text with NUL, and of which one
clears what another has set. -/
def refilledIndex : List (Call StatementKind.alterIndex.grammar) :=
  [.set .name (some "i"), .set .storageParameters (some ⟨.variant .fillFactor, .int 70⟩),
    .set .storageParameters (some ⟨.variant .fastUpdate, .json .null⟩),
    .set .storageParameters none, .set .renameTo (some "j\x00"), .set .renameTo (some "j")]

theorem only_clean_values_are_bound_of_refilledIndex :
  (∀ call ∈ refilledIndex, call.HasNoQuery)
    ∧ ((Statement.new StatementKind.alterIndex.grammar {}).run refilledIndex).1.registry.boundValues
      = .ok [.text "i", .int 70, .text "j"]
    ∧ ∃ assignment
        ∈ History.along [] (Statement.new StatementKind.alterIndex.grammar {}) refilledIndex,
      ∃ setting ∈ (StatementKind.alterIndex.grammar.clause assignment.field).settings
        assignment.args, setting.value = .int 70
  := by
  have hcalls : ∀ call ∈ refilledIndex, call.HasNoQuery := by
    simp only [refilledIndex, List.forall_mem_cons]
    exact ⟨trivial, trivial, trivial, trivial, trivial, trivial, List.forall_mem_nil _⟩
  have haccepted :
      (History.along [] (Statement.new StatementKind.alterIndex.grammar {}) refilledIndex).flatMap
        Assignment.literals
      = [.text "i", .int 70, .text "j"] := by cbv
  obtain ⟨values, hvalues, hliterals, -, hclean⟩ :=
    only_clean_values_are_bound .alterIndex {} refilledIndex
  obtain rfl := hliterals.trans haccepted
  refine ⟨hcalls, hvalues, ?_⟩
  obtain ⟨s, hs, -⟩ | ⟨-, hsetting⟩ := hclean hcalls (.int 70) (by simp)
  · cases hs
  · exact hsetting

end BoundSql
