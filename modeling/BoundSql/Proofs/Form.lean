import BoundSql.Clause
import BoundSql.Proofs.Traversal
import Mathlib.Tactic.Use

/-!
# Forms of clauses

Visiting the literals of a form is a lawful traversal for each clause.
-/

namespace BoundSql

/-! ### Single, optional and repeated literals -/

/-- A literal by itself. -/
def literalTraversal : Traversal fun α => α where
  traverse f a := f a
  literals a := [a]

theorem literalTraversal_isLawful :
  literalTraversal.IsLawful where
  ext _ h := (List.cons.inj h).1
  traverse_bind f a k := by
    simp only [literalTraversal, List.mapM_cons, List.mapM_nil, bind_assoc, pure_bind]

/-- A form without literals. -/
def constTraversal (A : Type) : Traversal fun _ => A where
  traverse _ a := pure a
  literals _ := []

theorem constTraversal_isLawful (A : Type) :
  (constTraversal A).IsLawful where
  ext hshape _ := hshape
  traverse_bind f a k := by
    simp only [constTraversal, List.mapM_nil, pure_bind]
    rfl

/-- The literal that may be absent. -/
def optionTraversal : Traversal Option where
  traverse f x := x.mapM f
  literals := Option.toList

theorem optionTraversal_isLawful :
  optionTraversal.IsLawful where
  ext {α x y} _ h := by
    cases x with
    | none =>
      cases y with
      | none => rfl
      | some b => cases h
    | some a =>
      cases y with
      | none => cases h
      | some b => cases h; rfl
  traverse_bind f x k := by
    cases x with
    | none =>
      simp only [optionTraversal, Option.mapM_none, Option.toList_none, List.mapM_nil,
        pure_bind]
      rfl
    | some a =>
      simp only [optionTraversal, Option.mapM_some, Option.toList_some, List.mapM_cons,
        List.mapM_nil, map_eq_pure_bind, bind_assoc, pure_bind]
      rfl

/-- The literals of a list of forms. -/
def Traversal.list {F : Type → Type} (T : Traversal F) : Traversal fun α => List (F α) where
  traverse f xs := xs.mapM (T.traverse f)
  literals xs := xs.flatMap T.literals

namespace Traversal

variable {F : Type → Type} {T : Traversal F} {α β : Type}

theorem list_map (f : α → β) (xs : List (F α)) :
  T.list.map f xs = xs.map (T.map f)
  := List.idRun_mapM

theorem IsLawful.list (h : T.IsLawful) :
  T.list.IsLawful where
  ext {α xs ys} hshape hliterals := by
    rw [shape, shape, list_map, list_map] at hshape
    induction xs generalizing ys with
    | nil =>
      cases ys with
      | nil => rfl
      | cons y ys => cases hshape
    | cons x xs ih =>
      cases ys with
      | nil => cases hshape
      | cons y ys =>
        obtain ⟨hx, hxs⟩ := List.cons.inj hshape
        obtain ⟨hlx, hlxs⟩ := List.append_inj hliterals (h.length_literals_eq hx)
        rw [h.ext hx hlx, ih hxs hlxs]
  traverse_bind {m _ _ α β γ} f xs k := by
    simp only [shape, list_map]
    induction xs generalizing k with
    | nil =>
      simp only [Traversal.list, List.mapM_nil, List.flatMap_nil, pure_bind]
      rfl
    | cons x xs ih =>
      simp only [Traversal.list, List.mapM_cons, List.flatMap_cons, List.mapM_append,
        bind_assoc, pure_bind, List.map_cons] at ih ⊢
      apply Eq.trans _ (h.traverse_bind f x fun shape bs =>
        (xs.flatMap T.literals).mapM f >>= fun cs => k (shape :: xs.map T.shape) (bs ++ cs))
      apply bind_congr
      intro y
      apply ih fun shapes cs => k (T.shape y :: shapes) (T.literals y ++ cs)

end Traversal

/-- The literals of a list of literals. -/
theorem literals_list_literalTraversal {α : Type} (xs : List α) :
  literalTraversal.list.literals xs = xs
  := List.flatMap_singleton' xs

/-! ### Records -/

/-- Visiting the name of a role. -/
def RoleSpec.traversal : Traversal RoleSpec := ⟨RoleSpec.traverse, RoleSpec.literals⟩

theorem RoleSpec.traversal_isLawful :
  RoleSpec.traversal.IsLawful where
  ext {α x y} hshape hliterals := by
    obtain ⟨kind, name⟩ := x
    obtain ⟨kind', name'⟩ := y
    have hname : name = name' :=
      optionTraversal_isLawful.ext (congrArg RoleSpec.name hshape) hliterals
    have hkind : kind = kind' := congrArg RoleSpec.kind hshape
    rw [RoleSpec.mk.injEq]
    use hkind, hname
  traverse_bind f role k := by
    simp only [traversal, traverse, bind_assoc, pure_bind]
    apply optionTraversal_isLawful.traverse_bind f role.name fun shape bs =>
      k ⟨role.kind, shape⟩ bs

/-- Visiting the value of a storage setting. -/
def Setting.traversal : Traversal Setting := ⟨Setting.traverse, Setting.literals⟩

theorem Setting.traversal_isLawful :
  Setting.traversal.IsLawful where
  ext {α x y} hshape hliterals := by
    obtain ⟨parameter, value⟩ := x
    obtain ⟨parameter', value'⟩ := y
    have hparameter : parameter = parameter' := congrArg Setting.parameter hshape
    rw [Setting.mk.injEq]
    use hparameter, (List.cons.inj hliterals).1
  traverse_bind f one k := by
    simp only [traversal, traverse, literals, List.mapM_cons, List.mapM_nil, bind_assoc,
      pure_bind]
    rfl

/-- Visiting the name of a table. -/
def TableTarget.traversal : Traversal TableTarget :=
  ⟨TableTarget.traverse, TableTarget.literals⟩

theorem TableTarget.traversal_isLawful :
  TableTarget.traversal.IsLawful where
  ext {α x y} hshape hliterals := by
    obtain ⟨name, only, descendants⟩ := x
    obtain ⟨name', only', descendants'⟩ := y
    have honly : only = only' := congrArg TableTarget.only hshape
    have hdescendants : descendants = descendants' := congrArg TableTarget.descendants hshape
    rw [TableTarget.mk.injEq]
    use (List.cons.inj hliterals).1, honly, hdescendants
  traverse_bind f table k := by
    simp only [traversal, traverse, literals, List.mapM_cons, List.mapM_nil, bind_assoc,
      pure_bind]
    rfl

/-- Visiting the literals of a new column. -/
def AddColumn.traversal : Traversal AddColumn := ⟨AddColumn.traverse, AddColumn.literals⟩

theorem AddColumn.traversal_isLawful :
  AddColumn.traversal.IsLawful where
  ext {α x y} hshape hliterals := by
    obtain ⟨column, dataType, collation, constraints⟩ := x
    obtain ⟨column', dataType', collation', constraints'⟩ := y
    have hcollation : optionTraversal.shape collation = optionTraversal.shape collation' :=
      congrArg AddColumn.collation hshape
    obtain ⟨hcolumn, hrest⟩ := List.cons.inj hliterals
    obtain ⟨hdataType, hrest⟩ := List.cons.inj hrest
    obtain ⟨hlcollation, hlconstraints⟩ := List.append_inj hrest
      (optionTraversal_isLawful.length_literals_eq hcollation)
    rw [AddColumn.mk.injEq]
    use hcolumn, hdataType, optionTraversal_isLawful.ext hcollation hlcollation,
      hlconstraints
  traverse_bind f add k := by
    simp only [traversal, traverse, literals, List.mapM_cons, List.mapM_append, bind_assoc,
      pure_bind]
    apply bind_congr
    intro column
    apply bind_congr
    intro dataType
    apply Eq.trans _ (optionTraversal_isLawful.traverse_bind f add.collation
      fun shape bs => add.constraints.mapM f >>= fun cs =>
        k ⟨(), (), shape, literalTraversal.list.shape add.constraints⟩
          (column :: dataType :: (bs ++ cs)))
    apply bind_congr
    intro collation
    have hconstraints := literalTraversal_isLawful.list.traverse_bind f add.constraints
      fun shape cs => k ⟨(), (), optionTraversal.shape collation, shape⟩
        (column :: dataType :: (collation.toList ++ cs))
    simp only [literals_list_literalTraversal] at hconstraints
    apply hconstraints

/-- Visiting the name of a column to drop. -/
def DropColumn.traversal : Traversal DropColumn := ⟨DropColumn.traverse, DropColumn.literals⟩

theorem DropColumn.traversal_isLawful :
  DropColumn.traversal.IsLawful where
  ext {α x y} hshape hliterals := by
    obtain ⟨column, ifExists, cascade⟩ := x
    obtain ⟨column', ifExists', cascade'⟩ := y
    have hifExists : ifExists = ifExists' := congrArg DropColumn.ifExists hshape
    have hcascade : cascade = cascade' := congrArg DropColumn.cascade hshape
    rw [DropColumn.mk.injEq]
    use (List.cons.inj hliterals).1, hifExists, hcascade
  traverse_bind f drop k := by
    simp only [traversal, traverse, literals, List.mapM_cons, List.mapM_nil, bind_assoc,
      pure_bind]
    rfl

/-- Visiting the names of a column to rename. -/
def RenameColumn.traversal : Traversal RenameColumn :=
  ⟨RenameColumn.traverse, RenameColumn.literals⟩

theorem RenameColumn.traversal_isLawful :
  RenameColumn.traversal.IsLawful where
  ext {α x y} _ hliterals := by
    obtain ⟨column, newName⟩ := x
    obtain ⟨column', newName'⟩ := y
    obtain ⟨hcolumn, hnewName⟩ := List.cons.inj hliterals
    rw [RenameColumn.mk.injEq]
    use hcolumn, (List.cons.inj hnewName).1
  traverse_bind f rename k := by
    simp only [traversal, traverse, literals, List.mapM_cons, List.mapM_nil, bind_assoc,
      pure_bind]
    rfl

/-! ### Alternatives -/

/-- Visiting the literals of a change of a column. -/
def ColumnAction.traversal : Traversal ColumnAction :=
  ⟨ColumnAction.traverse, ColumnAction.literals⟩

theorem ColumnAction.traversal_isLawful :
  ColumnAction.traversal.IsLawful where
  ext {α x y} hshape hliterals := by
    cases x with
    | dropNotNull | dropDefault | setNotNull =>
      cases y with
      | dropNotNull | dropDefault | setNotNull => first | rfl | cases hshape
      | _ => cases hshape
    | setDataType dataType collation =>
      cases y with
      | setDataType dataType' collation' =>
        obtain ⟨hdataType, hcollation⟩ := List.cons.inj hliterals
        obtain ⟨-, hshape⟩ := ColumnAction.setDataType.inj hshape
        rw [hdataType, optionTraversal_isLawful.ext hshape hcollation]
      | _ => cases hshape
    | setDefault default =>
      cases y with
      | setDefault default' => rw [(List.cons.inj hliterals).1]
      | _ => cases hshape
    | setStatistics target =>
      cases y with
      | setStatistics target' => cases hshape; rfl
      | _ => cases hshape
    | setStorage mode =>
      cases y with
      | setStorage mode' => cases hshape; rfl
      | _ => cases hshape
  traverse_bind f action k := by
    cases action with
    | setDataType dataType collation =>
      simp only [traversal, traverse, literals, List.mapM_cons, bind_assoc, pure_bind]
      apply bind_congr
      intro dataType'
      apply optionTraversal_isLawful.traverse_bind f collation fun shape bs =>
        k (.setDataType () shape) (dataType' :: bs)
    | _ =>
      simp only [traversal, traverse, literals, List.mapM_cons, List.mapM_nil, bind_assoc,
        pure_bind]
      rfl

/-- Visiting the literals of a column to alter. -/
def AlterColumn.traversal : Traversal AlterColumn :=
  ⟨AlterColumn.traverse, AlterColumn.literals⟩

theorem AlterColumn.traversal_isLawful :
  AlterColumn.traversal.IsLawful where
  ext {α x y} hshape hliterals := by
    obtain ⟨column, action⟩ := x
    obtain ⟨column', action'⟩ := y
    obtain ⟨hcolumn, hliterals⟩ := List.cons.inj hliterals
    have haction : action = action' :=
      ColumnAction.traversal_isLawful.ext (congrArg AlterColumn.action hshape) hliterals
    rw [AlterColumn.mk.injEq]
    use hcolumn, haction
  traverse_bind f alter k := by
    simp only [traversal, traverse, literals, List.mapM_cons, bind_assoc, pure_bind]
    apply bind_congr
    intro column
    apply ColumnAction.traversal_isLawful.traverse_bind f alter.action fun shape bs =>
      k ⟨(), shape⟩ (column :: bs)

/-- Visiting the literals of an action on a table. -/
def TableAction.traversal : Traversal TableAction :=
  ⟨TableAction.traverse, TableAction.literals⟩

theorem TableAction.traversal_isLawful :
  TableAction.traversal.IsLawful where
  ext {α x y} hshape hliterals := by
    cases x with
    | addColumn add =>
      cases y with
      | addColumn add' =>
        rw [AddColumn.traversal_isLawful.ext (TableAction.addColumn.inj hshape) hliterals]
      | _ => cases hshape
    | alterColumn alter =>
      cases y with
      | alterColumn alter' =>
        rw [AlterColumn.traversal_isLawful.ext (TableAction.alterColumn.inj hshape) hliterals]
      | _ => cases hshape
    | dropColumn drop =>
      cases y with
      | dropColumn drop' =>
        rw [DropColumn.traversal_isLawful.ext (TableAction.dropColumn.inj hshape) hliterals]
      | _ => cases hshape
    | setStorage settings =>
      cases y with
      | setStorage settings' =>
        rw [Setting.traversal_isLawful.list.ext (TableAction.setStorage.inj hshape) hliterals]
      | _ => cases hshape
    | resetStorage parameters =>
      cases y with
      | resetStorage parameters' => rw [TableAction.resetStorage.inj hshape]
      | _ => cases hshape
  traverse_bind f act k := by
    cases act with
    | addColumn add =>
      simp only [traversal, traverse, literals, bind_assoc, pure_bind]
      apply AddColumn.traversal_isLawful.traverse_bind f add fun shape => k (.addColumn shape)
    | alterColumn alter =>
      simp only [traversal, traverse, literals, bind_assoc, pure_bind]
      apply AlterColumn.traversal_isLawful.traverse_bind f alter fun shape =>
        k (.alterColumn shape)
    | dropColumn drop =>
      simp only [traversal, traverse, literals, bind_assoc, pure_bind]
      apply DropColumn.traversal_isLawful.traverse_bind f drop fun shape =>
        k (.dropColumn shape)
    | setStorage settings =>
      simp only [traversal, traverse, literals, bind_assoc, pure_bind]
      apply Setting.traversal_isLawful.list.traverse_bind f settings fun shape =>
        k (.setStorage shape)
    | resetStorage parameters =>
      simp only [traversal, traverse, literals, List.mapM_nil, pure_bind]
      rfl

/-- Visiting the literal of a condition, or the entries of its query. -/
def Expression.traversal : Traversal Expression :=
  ⟨Expression.traverse, Expression.literals⟩

theorem Expression.traversal_isLawful :
  Expression.traversal.IsLawful where
  ext {α x y} hshape hliterals := by
    cases x with
    | literal a =>
      cases y with
      | literal b => rw [(List.cons.inj hliterals).1]
      | query absorbed => cases hshape
    | query absorbed =>
      cases y with
      | literal b => cases hshape
      | query absorbed' =>
        obtain ⟨body, entries⟩ := absorbed
        obtain ⟨body', entries'⟩ := absorbed'
        have hbody : body = body' := congrArg Absorbed.body (Expression.query.inj hshape)
        have hentries : entries = entries' := hliterals
        rw [hbody, hentries]
  traverse_bind f expression k := by
    cases expression with
    | literal a =>
      simp only [traversal, traverse, literals, List.mapM_cons, List.mapM_nil, bind_assoc,
        pure_bind]
      rfl
    | query absorbed =>
      simp only [traversal, traverse, literals, Absorbed.traverse, bind_assoc, pure_bind]
      have hentries := literalTraversal_isLawful.list.traverse_bind f absorbed.entries
        fun shape bs => k (.query ⟨absorbed.body, shape⟩) bs
      simp only [literals_list_literalTraversal] at hentries
      apply hentries

theorem Expression.map_query {α β : Type} (f : α → β) (absorbed : Absorbed α) :
  Expression.traversal.map f (.query absorbed)
    = .query ⟨absorbed.body, absorbed.entries.map f⟩
  := by
  have hentries : Id.run (absorbed.entries.mapM fun a => pure (f a))
      = absorbed.entries.map f := List.idRun_mapM
  rw [← hentries]
  rfl

theorem Expression.shape_query {α β : Type} {body : Template Nat} {entries : List α}
    {entries' : List β} (h : entries.length = entries'.length) :
  Expression.traversal.shape (.query ⟨body, entries⟩)
    = Expression.traversal.shape (.query ⟨body, entries'⟩)
  := by
  rw [Traversal.shape, Traversal.shape, Expression.map_query, Expression.map_query,
    List.map_const', List.map_const', h]

theorem Expression.body_eq_of_shape_eq {α β : Type} {absorbed : Absorbed α}
    {absorbed' : Absorbed β}
    (h : Expression.traversal.shape (.query absorbed)
      = Expression.traversal.shape (.query absorbed')) :
  absorbed.body = absorbed'.body
  := by
  rw [Traversal.shape, Traversal.shape, Expression.map_query, Expression.map_query] at h
  apply congrArg Absorbed.body (Expression.query.inj h)

/-! ### Clauses -/

namespace Clause

/-- Visiting the literals of a form of a clause. -/
def traversal (clause : Clause) : Traversal clause.Form :=
  ⟨fun f => clause.traverse f, clause.literals⟩

theorem traversal_isLawful (clause : Clause) :
  clause.traversal.IsLawful
  := by
  cases clause with
  | literal => exact literalTraversal_isLawful
  | role => exact RoleSpec.traversal_isLawful
  | setting => exact Setting.traversal_isLawful
  | table => exact TableTarget.traversal_isLawful
  | condition => exact Expression.traversal_isLawful
  | addColumn => exact AddColumn.traversal_isLawful
  | dropColumn => exact DropColumn.traversal_isLawful
  | renameColumn => exact RenameColumn.traversal_isLawful
  | alterColumn => exact AlterColumn.traversal_isLawful
  | action => exact TableAction.traversal_isLawful
  | flag | cycle => exact constTraversal_isLawful Bool
  | cascade => exact constTraversal_isLawful Cascade
  | transactionAction => exact constTraversal_isLawful TransactionAction
  | quantity => exact constTraversal_isLawful Int64
  | limit => exact constTraversal_isLawful (Option Int64)
  | resetting => exact constTraversal_isLawful StorageParameter
  | mode => exact constTraversal_isLawful TransactionMode

end Clause

end BoundSql
