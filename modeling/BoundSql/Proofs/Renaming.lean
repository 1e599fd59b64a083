import BoundSql.Fragment
import BoundSql.Proofs.Writing

/-!
# Renaming what is written

Exchanging the literals of a form exchanges what stands in the slots of its template, and
nothing else: the words, the blanks and the brackets do not depend on the literals
(`Clause.template_map`).  Neither does whether a form goes with those before it
(`Clause.refuseAfter_map`).
-/

namespace BoundSql

open Template

variable {α β : Type}

/-! ### Clauses with literals -/

theorem Literal.template_map (literal : Literal) (f : α → β) (a : α) :
  literal.template (f a) = (literal.template a).mapSlots f
  := by
  cases literal <;> simp [template, keyword?]

theorem RoleSpec.template_map (f : α → β) (role : RoleSpec α) :
  (RoleSpec.traversal.map f role).template = role.template.mapSlots f
  := by
  obtain ⟨kind, _ | name⟩ := role
  · exact (mapSlots_word f _).symm
  · exact (mapSlots_ref f name).symm

theorem RoleClause.template_map (clause : RoleClause) (f : α → β) (role : RoleSpec α) :
  clause.template (RoleSpec.traversal.map f role) = (clause.template role).mapSlots f
  := by
  cases clause <;> simp [template, RoleSpec.template_map]

theorem Setting.template_map (f : α → β) (setting : Setting α) :
  (Setting.traversal.map f setting).template = setting.template.mapSlots f
  := by
  have hmap : Setting.traversal.map f setting = ⟨setting.parameter, f setting.value⟩ := rfl
  simp [template, hmap]

theorem TableTarget.template_map (f : α → β) (table : TableTarget α) :
  (TableTarget.traversal.map f table).template = table.template.mapSlots f
  := by
  have hmap : TableTarget.traversal.map f table = ⟨f table.name, table.only, table.descendants⟩ :=
    rfl
  rw [hmap, template, template]
  split_ifs <;> simp

theorem AddColumn.template_map (f : α → β) (add : AddColumn α) :
  (AddColumn.traversal.map f add).template = add.template.mapSlots f
  := by
  obtain ⟨column, dataType, collation, constraints⟩ := add
  have hconstraints : Id.run (constraints.mapM fun a => pure (f a)) = constraints.map f :=
    List.idRun_mapM
  have hmap : AddColumn.traversal.map f ⟨column, dataType, collation, constraints⟩
      = ⟨f column, f dataType, collation.map f, constraints.map f⟩ := by
    rw [← hconstraints]
    cases collation <;> rfl
  rw [hmap]
  cases collation <;> simp [template, Function.comp_def]

theorem DropColumn.template_map (f : α → β) (drop : DropColumn α) :
  (DropColumn.traversal.map f drop).template = drop.template.mapSlots f
  := by
  have hmap : DropColumn.traversal.map f drop = ⟨f drop.column, drop.ifExists, drop.cascade⟩ := rfl
  rw [hmap]
  cases h : drop.ifExists <;> simp [template, h, Function.comp_def]

theorem RenameColumn.template_map (f : α → β) (rename : RenameColumn α) :
  (RenameColumn.traversal.map f rename).template = rename.template.mapSlots f
  := by
  have hmap : RenameColumn.traversal.map f rename = ⟨f rename.column, f rename.newName⟩ := rfl
  simp [template, hmap]

theorem ColumnAction.change_map (f : α → β) (action : ColumnAction α) :
  (ColumnAction.traversal.map f action).change = action.change
  := by
  cases action <;> rfl

theorem ColumnAction.details_map (f : α → β) (action : ColumnAction α) :
  (ColumnAction.traversal.map f action).details = action.details.map (mapSlots f)
  := by
  cases action with
  | dropNotNull | dropDefault | setNotNull => rfl
  | setDataType dataType collation =>
    have hmap : ColumnAction.traversal.map f (.setDataType dataType collation)
        = .setDataType (f dataType) (collation.map f) := by
      cases collation <;> rfl
    rw [hmap]
    cases collation <;> simp [details]
  | setDefault default => exact congrArg (fun t => [t]) (mapSlots_ref f default).symm
  | setStatistics target => exact congrArg (fun t => [t]) (mapSlots_word f _).symm
  | setStorage mode => exact congrArg (fun t => [t]) (mapSlots_word f _).symm

theorem AlterColumn.template_map (f : α → β) (alter : AlterColumn α) :
  (AlterColumn.traversal.map f alter).template = alter.template.mapSlots f
  := by
  have hmap : AlterColumn.traversal.map f alter
      = ⟨f alter.column, ColumnAction.traversal.map f alter.action⟩ := rfl
  simp [template, hmap, ColumnAction.details_map, ColumnAction.change_map]

theorem TableAction.template_map (f : α → β) (act : TableAction α) :
  (TableAction.traversal.map f act).template = act.template.mapSlots f
  := by
  cases act with
  | addColumn add => exact AddColumn.template_map f add
  | alterColumn alter => exact AlterColumn.template_map f alter
  | dropColumn drop => exact DropColumn.template_map f drop
  | setStorage settings =>
    have hmap : TableAction.traversal.map f (.setStorage settings)
        = .setStorage (settings.map (Setting.traversal.map f)) := by
      rw [← Traversal.list_map]
      rfl
    simp [hmap, template, Setting.template_map, Function.comp_def]
  | resetStorage parameters =>
    have hmap : TableAction.traversal.map f (.resetStorage parameters)
        = .resetStorage parameters := rfl
    simp [hmap, template, Function.comp_def]

theorem Condition.template_map (condition : Condition) (f : α → β) (expression : Expression α) :
  condition.template (Expression.traversal.map f expression)
    = (condition.template expression).mapSlots f
  := by
  simp [template, Expression.template_map]

/-! ### Clauses without literals -/

theorem Flag.template_map (flag : Flag) (f : α → β) (isOn : Bool) :
  flag.template isOn = (flag.template isOn).map (mapSlots f)
  := by
  cases isOn <;> simp [template]

theorem Quantity.template_map (quantity : Quantity) (f : α → β) (n : Int64) :
  quantity.template n = (quantity.template n).mapSlots f
  := by
  simp [template]

theorem Limit.template_map (limit : Limit) (f : α → β) (n : Option Int64) :
  limit.template n = (limit.template n).mapSlots f
  := by
  cases n <;> simp [template]

/-! ### All clauses -/

namespace Clause

/-- Exchanging the literals of a form exchanges the slots of its template. -/
theorem template_map (clause : Clause) (f : α → β) (form : clause.Form α) :
  clause.template (clause.traversal.map f form) = (clause.template form).map (mapSlots f)
  := by
  cases clause with
  | flag flag => exact Flag.template_map flag f form
  | cycle | cascade | transactionAction | resetting | mode =>
    exact congrArg some (mapSlots_word f _).symm
  | quantity q => exact congrArg some (Quantity.template_map q f form)
  | limit l => exact congrArg some (Limit.template_map l f form)
  | literal l => exact congrArg some (Literal.template_map l f form)
  | role r => exact congrArg some (RoleClause.template_map r f form)
  | setting l => exact congrArg some (Setting.template_map f form)
  | table l => exact congrArg some (TableTarget.template_map f form)
  | condition c => exact congrArg some (Condition.template_map c f form)
  | addColumn => exact congrArg some (AddColumn.template_map f form)
  | dropColumn => exact congrArg some (DropColumn.template_map f form)
  | renameColumn => exact congrArg some (RenameColumn.template_map f form)
  | alterColumn => exact congrArg some (AlterColumn.template_map f form)
  | action => exact congrArg some (TableAction.template_map f form)

theorem around_map (clause : Clause) (f : α → β) (t : Template α) :
  clause.around (t.mapSlots f) = (clause.around t).mapSlots f
  := by
  cases clause with
  | role r => cases r <;> simp [around]
  | setting l => simp [around]
  | resetting => simp [around]
  | table l => simp [around]
  | _ => rfl

theorem listTemplate_map (clause : Clause) (f : α → β) (forms : List (clause.Form α)) :
  clause.listTemplate (forms.map (clause.traversal.map f))
    = (clause.listTemplate forms).map (mapSlots f)
  := by
  have htemplates : (forms.map (clause.traversal.map f)).filterMap clause.template
      = (forms.filterMap clause.template).map (mapSlots f) := by
    rw [List.filterMap_map, List.map_filterMap]
    apply List.filterMap_congr
    intro form _
    exact clause.template_map f form
  rw [listTemplate, listTemplate, htemplates]
  cases forms.filterMap clause.template with
  | nil => rfl
  | cons template templates =>
    show some (clause.around (listed ((template :: templates).map (mapSlots f)))) = _
    rw [listed, ← mapSlots_joined, around_map]
    rfl

/-- Whether a form goes with those before it does not depend on the literals. -/
theorem refuseAfter_map (clause : Clause) (f : α → β) (forms : List (clause.Form α))
    (next : clause.Form α) :
  clause.refuseAfter (forms.map (clause.traversal.map f)) (clause.traversal.map f next)
    = clause.refuseAfter forms next
  := by
  cases clause with
  | setting l =>
    have hparameters : List.map Setting.parameter (List.map (Setting.traversal.map f) forms)
        = List.map Setting.parameter (show List (Setting α) from forms) := List.map_map
    exact congrArg (refuseRepeat · (Setting.parameter (show Setting α from next))) hparameters
  | resetting => exact congrArg (refuseRepeat · next) (List.map_id' forms)
  | mode => exact congrArg (refuseConflict · next) (List.map_id' forms)
  | _ => rfl

end Clause

/-! ### Fragments -/

/-- Fragments with the same forms but for the literals write the same. -/
theorem Fragment.map_template_eq {clause : Clause} {arity : Arity} {f g : Token → β}
    {fragment fragment' : Fragment clause arity}
    (h : fragment.items.map (clause.traversal.map f)
      = fragment'.items.map (clause.traversal.map g)) :
  fragment.template.map (mapSlots f) = fragment'.template.map (mapSlots g)
  := by
  cases arity with
  | one =>
    have hwrite : ∀ (f : Token → β) (fragment : Fragment clause .one),
        fragment.template.map (mapSlots f)
          = (fragment.items.map (clause.traversal.map f)).head?.bind clause.template := by
      rintro f ⟨_ | form⟩
      · rfl
      · exact (clause.template_map f form).symm
    rw [hwrite, hwrite, h]
  | many =>
    have hwrite : ∀ (f : Token → β) (fragment : Fragment clause .many),
        fragment.template.map (mapSlots f)
          = clause.listTemplate (fragment.items.map (clause.traversal.map f)) :=
      fun f fragment => (clause.listTemplate_map f fragment.items).symm
    rw [hwrite, hwrite, h]

end BoundSql
