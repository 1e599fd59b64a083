import BoundSql.Proofs.Codes
import BoundSql.Proofs.Renaming

/-!
# Decoding clauses

A form of a clause can be told from what it writes, and from what stands behind it, if it is
canonical: a flag is switched on, a role has a name when it is a named one, a table is not both
alone and with its descendants, and a condition is no query (`Clause.decodes_write`).  Each form
begins with one of the leads of its clause (`Clause.leads_write`).
-/

namespace BoundSql

open Template

variable {α : Type}

/-! ### Keywords -/

theorem begins_spaced_word (keyword : String) (parts : List (Template α)) (t : Template α) :
  Begins (word keyword) (spaced (word keyword :: parts) ++ t)
  := by
  rw [spaced_cons, List.append_assoc]
  apply begins_word

theorem leads_spaced_word {F : Type} {P : F → Prop} (keyword : String)
    (parts : F → List (Template α)) :
  Leads (fun x => spaced (word keyword :: parts x)) P [word keyword]
  := fun x t _ => ⟨_, List.mem_singleton_self _, begins_spaced_word keyword (parts x) t⟩

namespace Coded

variable {T : Type} [Coded T]

/-- The keywords of variants. -/
def keywords (variants : List T) : List (Template Unit) := variants.map fun x => word (keyword x)

/-- Decides whether no keyword of a variant is a prefix of the keyword of another one. -/
def arePrefixFree [DecidableEq T] (variants : List T) : Bool :=
  variants.all fun x => variants.all fun y =>
    !(keyword x).toList.isPrefixOf (keyword y).toList || decide (x = y)

/-- The variants are all of which `P` holds, and their keywords are prefix free. -/
structure IsCode [DecidableEq T] (P : T → Prop) (variants : List T) : Prop where
  mem : ∀ x, P x → x ∈ variants
  arePrefixFree : arePrefixFree variants = true

variable [DecidableEq T] {P : T → Prop} {variants : List T}

theorem IsCode.decodes_keyword (h : IsCode P variants) :
  Decodes (α := α) (fun x : T => word (keyword x)) P []
  := by
  apply decodes_words
  intro x y hx hy hprefix
  have hprefixFree :=
    List.all_eq_true.mp (List.all_eq_true.mp h.arePrefixFree x (h.mem x hx)) y (h.mem y hy)
  rw [Bool.or_eq_true, Bool.not_eq_true', decide_eq_true_eq] at hprefixFree
  apply hprefixFree.resolve_left
  rw [Bool.not_eq_false, List.isPrefixOf_iff_prefix]
  exact (List.prefix_map_iff_of_injective fun c d hcd => Symbol.char.inj hcd).mp hprefix

theorem IsCode.leads_keyword (h : IsCode P variants) :
  Leads (α := α) (fun x : T => word (keyword x)) P (keywords variants)
  := fun x t hx => ⟨word (keyword x), List.mem_map_of_mem (h.mem x hx), begins_word _ t⟩

end Coded

theorem Cascade.isCode :
  Coded.IsCode (fun _ : Cascade => True) Coded.all
  := ⟨by rintro (_ | _) - <;> decide, by decide⟩

theorem ColumnChange.isCode :
  Coded.IsCode (fun _ : ColumnChange => True) Coded.all
  := ⟨by rintro (_ | _) - <;> decide, by decide⟩

theorem StorageMode.isCode :
  Coded.IsCode (fun _ : StorageMode => True) Coded.all
  := ⟨by rintro (_ | _) - <;> decide, by decide⟩

theorem StorageParameter.isCode :
  Coded.IsCode (fun _ : StorageParameter => True) Coded.all
  := ⟨by rintro (_ | _) - <;> decide, by cbv⟩

theorem TransactionAction.isCode :
  Coded.IsCode (fun _ : TransactionAction => True) Coded.all
  := ⟨by rintro (_ | _) - <;> decide, by decide⟩

theorem TransactionMode.isCode :
  Coded.IsCode (fun _ : TransactionMode => True) Coded.all
  := ⟨by rintro (_ | _) - <;> decide, by cbv⟩

/-- The kinds of roles with a keyword of their own. -/
def RoleKind.unnamed : List RoleKind :=
  [.all, .currentUser, .everyone, .sessionUser, .currentRole]

theorem RoleKind.isCode :
  Coded.IsCode (· ≠ RoleKind.name) RoleKind.unnamed
  := by
  constructor
  · intro kind hkind
    cases kind with
    | name => contradiction
    | _ => decide
  · decide

/-! ### Clauses with literals -/

theorem Literal.decodes_template (literal : Literal) :
  Decodes (α := α) literal.template (fun _ => True) []
  := by
  cases literal with
  | name => exact decodes_ref
  | renameTo => exact decodes_ref.spaced_word "RENAME TO"
  | setSchema => exact decodes_ref.spaced_word "SET SCHEMA"
  | setTablespace => exact decodes_ref.spaced_word "SET TABLESPACE"
  | asDataType => exact decodes_ref.spaced_word "AS"
  | onTable => exact decodes_ref.spaced_word "ON"
  | dependsOnExtension => exact decodes_ref.spaced_word "DEPENDS ON EXTENSION"

/-- A role has a name exactly when it is a named one. -/
def RoleSpec.IsCanonical (role : RoleSpec α) : Prop := role.kind = .name ↔ role.name.isSome = true

theorem RoleKind.clash_keyword {kind : RoleKind} (h : kind ≠ .name) :
  Clash (word (Coded.keyword kind)) (Template.ref ())
  := by
  cases kind with
  | name => contradiction
  | _ => decide

theorem RoleSpec.decodes_template :
  Decodes (α := α) RoleSpec.template RoleSpec.IsCanonical []
  := by
  rintro ⟨kind, name⟩ ⟨kind', name'⟩ hcanonical hcanonical' t u ht hu heq
  have hmixed : ∀ (k : RoleKind) (a : α) (v w : Template α), k ≠ .name →
      word (Coded.keyword k) ++ v ≠ Template.ref a ++ w := by
    intro k a v w hk hvw
    apply (RoleKind.clash_keyword hk).not_begins (begins_word _ v)
    rw [hvw]
    apply begins_ref
  cases name with
  | none =>
    have hkind : kind ≠ .name := by simpa [IsCanonical] using hcanonical
    cases name' with
    | none =>
      have hkind' : kind' ≠ .name := by simpa [IsCanonical] using hcanonical'
      obtain ⟨rfl, htu⟩ := RoleKind.isCode.decodes_keyword.cancel hkind hkind' heq
      exact ⟨rfl, htu⟩
    | some a => exact absurd heq (hmixed kind a t u hkind)
  | some a =>
    have hkind : kind = .name := by simpa [IsCanonical] using hcanonical
    cases name' with
    | none =>
      have hkind' : kind' ≠ .name := by simpa [IsCanonical] using hcanonical'
      exact absurd heq.symm (hmixed kind' a u t hkind')
    | some b =>
      have hkind' : kind' = .name := by simpa [IsCanonical] using hcanonical'
      obtain ⟨rfl, htu⟩ := decodes_ref.cancel trivial trivial heq
      rw [hkind, hkind']
      exact ⟨rfl, htu⟩

/-- A role begins with its name or with a keyword. -/
def RoleSpec.leads : List (Template Unit) := Template.ref () :: Coded.keywords RoleKind.unnamed

theorem RoleSpec.leads_template :
  Leads (α := α) RoleSpec.template RoleSpec.IsCanonical RoleSpec.leads
  := by
  rintro ⟨kind, name⟩ t hcanonical
  cases name with
  | none =>
    have hkind : kind ≠ .name := by simpa [IsCanonical] using hcanonical
    obtain ⟨lead, hlead, hbegins⟩ := RoleKind.isCode.leads_keyword kind t hkind
    exact ⟨lead, List.mem_cons_of_mem _ hlead, hbegins⟩
  | some a => exact ⟨Template.ref (), List.mem_cons_self, begins_ref a t⟩

theorem RoleClause.decodes_template (clause : RoleClause) :
  Decodes (α := α) clause.template RoleSpec.IsCanonical []
  := by
  cases clause with
  | ownerTo => exact RoleSpec.decodes_template.spaced_word "OWNER TO"
  | ownedBy | toRole => exact RoleSpec.decodes_template

theorem Setting.decodes_template :
  Decodes (α := α) Setting.template (fun _ => True) []
  := by
  rintro ⟨parameter, a⟩ ⟨parameter', b⟩ _ _ t u ht hu heq
  simp only [template, spaced, joined, List.append_assoc] at heq
  obtain ⟨rfl, hrest⟩ := StorageParameter.isCode.decodes_keyword.cancel trivial trivial heq
  simp only [List.append_cancel_left_eq] at hrest
  obtain ⟨rfl, htu⟩ := decodes_ref.cancel trivial trivial hrest
  exact ⟨rfl, htu⟩

/-- A keyword that may be left out. -/
theorem decodes_switch (keyword : String) :
  Decodes (α := α) (fun isOn : Bool => if isOn then word " " ++ word keyword else [])
    (fun _ => True) [word " " ++ word keyword]
  := by
  have hbegins : ∀ t : Template α, Begins (word " " ++ word keyword)
      (word " " ++ word keyword ++ t) := by
    intro t
    rw [List.append_assoc]
    exact begins_behind_iff.mpr (begins_word keyword t)
  rintro (_ | _) (_ | _) - - t u ht hu heq
  · exact ⟨rfl, heq⟩
  · obtain rfl : t = word " " ++ word keyword ++ u := heq
    exact absurd (hbegins u) (ht _ List.mem_cons_self)
  · obtain rfl : word " " ++ word keyword ++ t = u := heq
    exact absurd (hbegins t) (hu _ List.mem_cons_self)
  · exact ⟨rfl, List.append_cancel_left heq⟩

namespace TableTarget

/-- A table is not both alone and with its descendants. -/
def IsCanonical (table : TableTarget α) : Prop :=
  ¬ (table.only = true ∧ table.descendants = true)

/-- What may go on behind a table. -/
def continuations : List (Template Unit) := [word " " ++ word "*"]

/-- A table begins with its name or with a keyword. -/
def leads : List (Template Unit) := [word "ONLY", Template.ref ()]

theorem template_append_of_not_only (a : α) (descendants : Bool) (t : Template α) :
  (⟨a, false, descendants⟩ : TableTarget α).template ++ t
    = Template.ref a ++ ((if descendants then word " " ++ word "*" else []) ++ t)
  := by
  cases descendants <;> rfl

theorem leads_template :
  Leads (α := α) template IsCanonical leads
  := by
  rintro ⟨a, only, descendants⟩ t -
  cases only with
  | true => exact ⟨word "ONLY", List.mem_cons_self, begins_spaced_word _ _ t⟩
  | false =>
    use Template.ref (), List.mem_cons_of_mem _ List.mem_cons_self
    rw [template_append_of_not_only]
    apply begins_ref

theorem decodes_template :
  Decodes (α := α) template IsCanonical continuations
  := by
  rintro ⟨a, only, descendants⟩ ⟨b, only', descendants'⟩ hcanonical hcanonical' t u ht hu heq
  have hmixed : ∀ (c d : α) (v w : Template α) (isWide : Bool),
      spaced [word "ONLY", Template.ref c] ++ v
        ≠ (⟨d, false, isWide⟩ : TableTarget α).template ++ w := by
    intro c d v w isWide hvw
    have hclash : Clash (word "ONLY") (Template.ref ()) := by decide
    apply hclash.not_begins (begins_spaced_word "ONLY" [Template.ref c] v)
    rw [hvw, template_append_of_not_only]
    apply begins_ref
  cases only with
  | true =>
    obtain rfl : descendants = false := by simpa [IsCanonical] using hcanonical
    cases only' with
    | true =>
      obtain rfl : descendants' = false := by simpa [IsCanonical] using hcanonical'
      obtain ⟨rfl, htu⟩ :=
        (decodes_ref.spaced_word "ONLY").cancel trivial trivial heq
      exact ⟨rfl, htu⟩
    | false => exact absurd heq (hmixed a b t u descendants')
  | false =>
    cases only' with
    | true =>
      obtain rfl : descendants' = false := by simpa [IsCanonical] using hcanonical'
      exact absurd heq.symm (hmixed b a u t descendants)
    | false =>
      rw [template_append_of_not_only, template_append_of_not_only] at heq
      obtain ⟨rfl, hstar⟩ := decodes_ref.cancel trivial trivial heq
      obtain ⟨rfl, htu⟩ :=
        decodes_switch "*" descendants descendants' trivial trivial t u ht hu hstar
      exact ⟨rfl, htu⟩

end TableTarget

/-! ### Columns -/

theorem leads_ref :
  Leads (α := α) Template.ref (fun _ => True) [Template.ref ()]
  := fun a t _ => ⟨_, List.mem_singleton_self _, begins_ref a t⟩

/-- Literals, each behind a blank. -/
theorem decodes_refs :
  Decodes (α := α) (behindEach " " Template.ref) (∀ a ∈ ·, True) [word " " ++ Template.ref ()]
  := decodes_ref.behindEach " " leads_ref fun _ _ => List.forall_mem_nil _

/-- An optional collation. -/
def collated (collation : Option α) : Template α :=
  behindEach " " (fun a => spaced [word "COLLATE", Template.ref a]) collation.toList

theorem decodes_collated :
  Decodes (α := α) collated (fun _ => True) [word " " ++ word "COLLATE"]
  := (decodes_ref.spaced_word "COLLATE").optional
    (leads_spaced_word "COLLATE" fun a : α => [Template.ref a])

/-- An optional rule for dependent objects. -/
theorem Cascade.decodes_optional :
  Decodes (α := α) (fun rule => behindEach " " (fun rule : Cascade => word (Coded.keyword rule))
    (Option.toList rule)) (fun _ => True) [word " " ++ word "CASCADE", word " " ++ word "RESTRICT"]
  := isCode.decodes_keyword.optional isCode.leads_keyword

namespace AddColumn

/-- What may go on behind a new column. -/
def continuations : List (Template Unit) :=
  [word " " ++ word "COLLATE", word " " ++ Template.ref ()]

theorem template_append (add : AddColumn α) (t : Template α) :
  add.template ++ t = word "ADD COLUMN" ++ (word " " ++ (Template.ref add.column ++ (word " "
    ++ (Template.ref add.dataType ++ (collated add.collation
      ++ (behindEach " " Template.ref add.constraints ++ t))))))
  := by
  have hcollation : behindEach " " id (add.collation.toList.flatMap
      fun collation => [word "COLLATE", Template.ref collation]) = collated add.collation := by
    cases add.collation <;> rfl
  have hconstraints : behindEach " " id (add.constraints.map Template.ref)
      = behindEach " " Template.ref add.constraints := List.flatMap_map ..
  simp only [template, List.cons_append, List.nil_append, List.append_assoc, spaced_cons,
    behindEach_cons_append, behindEach_append, hcollation, hconstraints, id]

theorem decodes_template :
  Decodes (α := α) template (fun _ => True) continuations
  := by
  rintro ⟨c, d, l, cs⟩ ⟨c', d', l', cs'⟩ _ _ t u ht hu heq
  have hstops : ∀ (as : List α) (v : Template α), Stops continuations v →
      Stops [word " " ++ word "COLLATE"] (behindEach " " Template.ref as ++ v) := by
    intro as v hv
    cases as with
    | nil => exact hv.mono (by decide)
    | cons a as =>
      rw [behindEach_cons_append, Stops, List.forall_mem_singleton]
      have hclash : Clash (word " " ++ Template.ref ()) (word " " ++ word "COLLATE") := by decide
      apply hclash.not_begins
      exact begins_behind_iff.mpr (begins_ref a _)
  simp only [template_append, List.append_cancel_left_eq] at heq
  obtain ⟨rfl, htype⟩ := decodes_ref.cancel trivial trivial heq
  simp only [List.append_cancel_left_eq] at htype
  obtain ⟨rfl, hcollated⟩ := decodes_ref.cancel trivial trivial htype
  obtain ⟨rfl, hconstraints⟩ := decodes_collated l l' trivial trivial _ _ (hstops cs t ht)
    (hstops cs' u hu) hcollated
  obtain ⟨rfl, htu⟩ := decodes_refs cs cs' (fun _ _ => trivial) (fun _ _ => trivial) t u
    (ht.mono (by decide)) (hu.mono (by decide)) hconstraints
  exact ⟨rfl, htu⟩

end AddColumn

namespace DropColumn

/-- What may go on behind a column to drop. -/
def continuations : List (Template Unit) :=
  [word " " ++ word "CASCADE", word " " ++ word "RESTRICT"]

theorem template_append (drop : DropColumn α) (t : Template α) :
  drop.template ++ t = word "DROP COLUMN"
    ++ ((if drop.ifExists then word " " ++ word "IF EXISTS" else [])
      ++ (word " " ++ (Template.ref drop.column
        ++ (behindEach " " (fun rule : Cascade => word (Coded.keyword rule)) drop.cascade.toList
          ++ t))))
  := by
  have hcascade : behindEach " " id (drop.cascade.toList.map
      fun rule => (word (Coded.keyword rule) : Template α))
        = behindEach " " (fun rule : Cascade => word (Coded.keyword rule)) drop.cascade.toList :=
    List.flatMap_map ..
  have hifExists : behindEach " " id
      (if drop.ifExists then [word "IF EXISTS"] else [] : List (Template α))
        = if drop.ifExists then word " " ++ word "IF EXISTS" else [] := by
    cases drop.ifExists <;> rfl
  simp only [template, List.cons_append, List.nil_append, List.append_assoc, spaced_cons,
    behindEach_cons_append, behindEach_append, hcascade, hifExists, id]

theorem decodes_template :
  Decodes (α := α) template (fun _ => True) continuations
  := by
  rintro ⟨c, e, r⟩ ⟨c', e', r'⟩ _ _ t u ht hu heq
  have hstops : ∀ (a : α) (v : Template α),
      Stops [word " " ++ word "IF EXISTS"] (word " " ++ (Template.ref a ++ v)) := by
    intro a v
    have hclash : Clash (word " " ++ Template.ref ()) (word " " ++ word "IF EXISTS") := by decide
    rw [Stops, List.forall_mem_singleton]
    apply hclash.not_begins
    exact begins_behind_iff.mpr (begins_ref a v)
  simp only [template_append, List.append_cancel_left_eq] at heq
  obtain ⟨rfl, hcolumn⟩ := decodes_switch "IF EXISTS" e e' trivial trivial _ _ (hstops c _)
    (hstops c' _) heq
  rw [List.append_cancel_left_eq] at hcolumn
  obtain ⟨rfl, hcascade⟩ := decodes_ref.cancel trivial trivial hcolumn
  obtain ⟨rfl, htu⟩ := Cascade.decodes_optional r r' trivial trivial t u ht hu hcascade
  exact ⟨rfl, htu⟩

end DropColumn

theorem RenameColumn.decodes_template :
  Decodes (α := α) RenameColumn.template (fun _ => True) []
  := by
  rintro ⟨a, b⟩ ⟨a', b'⟩ _ _ t u ht hu heq
  simp only [template, spaced, joined, List.append_assoc, List.append_cancel_left_eq] at heq
  obtain ⟨rfl, hnewName⟩ := decodes_ref.cancel trivial trivial heq
  simp only [List.append_cancel_left_eq] at hnewName
  obtain ⟨rfl, htu⟩ := decodes_ref.cancel trivial trivial hnewName
  exact ⟨rfl, htu⟩

/-! ### Numbers -/

theorem decodes_int64 :
  Decodes (α := α) (fun n : Int64 => word (toString n.toInt)) (fun _ => True) digitPatterns
  := decodes_number.comap fun _ _ => Int64.toInt.inj

theorem Quantity.decodes_template (quantity : Quantity) :
  Decodes (α := α) quantity.template (fun _ => True) digitPatterns
  := decodes_int64.spaced_word quantity.keyword

/-- What may go on behind a limit. -/
def Limit.continuations : List (Template Unit) := (word " " ++ word "WITH") :: digitPatterns

theorem Limit.decodes_template (limit : Limit) :
  Decodes (α := α) limit.template (fun _ => True) Limit.continuations
  := by
  have hmixed : ∀ (n : Int64) (v w : Template α), Stops Limit.continuations v →
      limit.template none ++ v ≠ limit.template (some n) ++ w := by
    intro n v w hv hvw
    have hsome : Begins (word limit.keyword) (limit.template (some n) ++ w) :=
      begins_spaced_word limit.keyword [word (toString n.toInt)] w
    have hkeyword : Begins (word limit.keyword) (word limit.default ++ v) := hvw ▸ hsome
    cases limit with
    | minValue =>
      have hclash : Clash (word "NO MINVALUE") (word "MINVALUE") := by decide
      exact hclash.not_begins (begins_word _ v) hkeyword
    | maxValue =>
      have hclash : Clash (word "NO MAXVALUE") (word "MAXVALUE") := by decide
      exact hclash.not_begins (begins_word _ v) hkeyword
    | restart =>
      have hsplit : (word "RESTART WITH" : Template Unit)
          = word "RESTART" ++ (word " " ++ word "WITH") := by decide
      apply hv (word " " ++ word "WITH") List.mem_cons_self
      apply begins_behind_iff.mp (hsplit ▸ hkeyword)
  intro x y _ _ t u ht hu heq
  cases x with
  | none =>
    cases y with
    | none => exact ⟨rfl, List.append_cancel_left heq⟩
    | some n => exact absurd heq (hmixed n t u ht)
  | some m =>
    cases y with
    | none => exact absurd heq.symm (hmixed m u t hu)
    | some n =>
      obtain ⟨rfl, htu⟩ := decodes_int64.spaced_word limit.keyword m n trivial trivial t u
        (ht.mono (List.subset_cons_self _ _)) (hu.mono (List.subset_cons_self _ _)) heq
      exact ⟨rfl, htu⟩

/-! ### Changes of columns -/

/-- What may go on behind a column to alter. -/
def AlterColumn.continuations : List (Template Unit) :=
  (word " " ++ word "COLLATE") :: digitPatterns

/-- What is written behind the keyword of a change determines the rest of it. -/
theorem ColumnAction.decodes_details {x y : ColumnAction α} (hchange : x.change = y.change)
    {t u : Template α} (ht : Stops AlterColumn.continuations t)
    (hu : Stops AlterColumn.continuations u)
    (heq : behindEach " " id x.details ++ t = behindEach " " id y.details ++ u) :
  x = y ∧ t = u
  := by
  cases x with
  | dropNotNull =>
    cases y with
    | dropNotNull => exact ⟨rfl, heq⟩
    | _ => cases hchange
  | dropDefault =>
    cases y with
    | dropDefault => exact ⟨rfl, heq⟩
    | _ => cases hchange
  | setNotNull =>
    cases y with
    | setNotNull => exact ⟨rfl, heq⟩
    | _ => cases hchange
  | setDataType a l =>
    cases y with
    | setDataType b l' =>
      have hdetails : ∀ (c : α) (k : Option α) (v : Template α),
          behindEach " " id (ColumnAction.setDataType c k).details ++ v
            = word " " ++ (Template.ref c ++ (collated k ++ v)) := by
        intro c k v
        cases k <;> rfl
      rw [hdetails, hdetails, List.append_cancel_left_eq] at heq
      obtain ⟨rfl, hcollated⟩ := decodes_ref.cancel trivial trivial heq
      obtain ⟨rfl, htu⟩ := decodes_collated l l' trivial trivial t u (ht.mono (by decide))
        (hu.mono (by decide)) hcollated
      exact ⟨rfl, htu⟩
    | _ => cases hchange
  | setDefault a =>
    cases y with
    | setDefault b =>
      simp only [details, behindEach_cons_append, id, List.append_cancel_left_eq] at heq
      obtain ⟨rfl, htu⟩ := decodes_ref.cancel trivial trivial heq
      exact ⟨rfl, htu⟩
    | _ => cases hchange
  | setStatistics m =>
    cases y with
    | setStatistics n =>
      simp only [details, behindEach_cons_append, id, List.append_cancel_left_eq] at heq
      obtain ⟨rfl, htu⟩ := decodes_int64 m n trivial trivial t u (ht.mono (by decide))
        (hu.mono (by decide)) heq
      exact ⟨rfl, htu⟩
    | _ => cases hchange
  | setStorage m =>
    cases y with
    | setStorage n =>
      simp only [details, behindEach_cons_append, id, List.append_cancel_left_eq] at heq
      obtain ⟨rfl, htu⟩ := StorageMode.isCode.decodes_keyword.cancel trivial trivial heq
      exact ⟨rfl, htu⟩
    | _ => cases hchange

theorem AlterColumn.decodes_template :
  Decodes (α := α) template (fun _ => True) continuations
  := by
  have hbehind : ∀ (alter : AlterColumn α) (v : Template α), alter.template ++ v
      = word "ALTER COLUMN" ++ (word " " ++ (Template.ref alter.column ++ (word " "
        ++ (word (Coded.keyword alter.action.change)
          ++ (behindEach " " id alter.action.details ++ v))))) := by
    intro alter v
    simp only [template, List.cons_append, List.nil_append, List.append_assoc, spaced_cons,
      behindEach_cons_append, id]
  rintro ⟨a, x⟩ ⟨b, y⟩ _ _ t u ht hu heq
  simp only [hbehind, List.append_cancel_left_eq] at heq
  obtain ⟨rfl, haction⟩ := decodes_ref.cancel trivial trivial heq
  rw [List.append_cancel_left_eq] at haction
  obtain ⟨hchange, hdetails⟩ := ColumnChange.isCode.decodes_keyword.cancel trivial trivial haction
  obtain ⟨rfl, htu⟩ := ColumnAction.decodes_details hchange ht hu hdetails
  exact ⟨rfl, htu⟩

/-! ### Actions on tables -/

theorem Setting.leads_template :
  Leads (α := α) template (fun _ => True) (Coded.keywords (Coded.all (T := StorageParameter)))
  := by
  intro setting t h
  use word (Coded.keyword setting.parameter)
  use List.mem_map_of_mem (StorageParameter.isCode.mem setting.parameter h)
  apply begins_spaced_word

theorem StorageParameter.clash_of_mem_keywords :
  ∀ lead ∈ Coded.keywords (Coded.all (T := StorageParameter)) ++ [], Clash (word ")") lead
  := by
  decide

theorem Setting.decodes_enclosed :
  Decodes (α := α) (fun settings : List (Setting α) => enclosed (listed (settings.map template)))
    (∀ setting ∈ ·, True) []
  := decodes_template.enclosed leads_template (List.forall_mem_nil _)
    StorageParameter.clash_of_mem_keywords

theorem StorageParameter.decodes_enclosed :
  Decodes (α := α) (fun parameters : List StorageParameter =>
    enclosed (listed (parameters.map fun parameter => word (Coded.keyword parameter))))
    (∀ parameter ∈ ·, True) []
  := isCode.decodes_keyword.enclosed isCode.leads_keyword (List.forall_mem_nil _)
    clash_of_mem_keywords

theorem begins_enclosed (keyword : String) (part t : Template α) :
  Begins (word keyword ++ (word " " ++ word "(")) (spaced [word keyword, enclosed part] ++ t)
  := by
  simp only [spaced, joined, enclosed, List.append_assoc]
  apply begins_behind_iff.mpr
  apply begins_behind_iff.mpr
  apply begins_word

namespace TableAction

/-- What may go on behind an action. -/
def continuations : List (Template Unit) :=
  AddColumn.continuations ++ AlterColumn.continuations ++ DropColumn.continuations

/-- The text with which an action begins. -/
def lead : TableAction α → String
  | .addColumn _ => "ADD COLUMN"
  | .alterColumn _ => "ALTER COLUMN"
  | .dropColumn _ => "DROP COLUMN"
  | .setStorage _ => "SET ("
  | .resetStorage _ => "RESET ("

/-- The texts with which actions begin. -/
def leads : List String := ["ADD COLUMN", "ALTER COLUMN", "DROP COLUMN", "SET (", "RESET ("]

theorem lead_mem_leads (act : TableAction α) :
  act.lead ∈ leads
  := by
  cases act <;> simp [lead, leads]

theorem begins_lead (act : TableAction α) (t : Template α) :
  Begins (word act.lead) (act.template ++ t)
  := by
  cases act with
  | addColumn add => exact begins_spaced_word "ADD COLUMN" _ t
  | alterColumn alter => exact begins_spaced_word "ALTER COLUMN" _ t
  | dropColumn drop =>
    rw [template, DropColumn.template, List.append_assoc]
    apply begins_spaced_word "DROP COLUMN"
  | setStorage settings =>
    have hsplit : (word "SET (" : Template Unit) = word "SET" ++ (word " " ++ word "(") := by decide
    rw [lead, hsplit]
    apply begins_enclosed
  | resetStorage parameters =>
    have hsplit : (word "RESET (" : Template Unit) = word "RESET" ++ (word " " ++ word "(") := by
      decide
    rw [lead, hsplit]
    apply begins_enclosed

/-- Actions that begin alike are of the same sort. -/
theorem lead_eq {x y : TableAction α} {t u : Template α} (h : x.template ++ t = y.template ++ u) :
  x.lead = y.lead
  := by
  have hfree : ∀ p ∈ leads, ∀ q ∈ leads, (word p : Template Unit) <+: word q → p = q := by
    decide
  have hx := begins_lead x t
  rw [h] at hx
  rcases List.prefix_or_prefix_of_prefix hx (begins_lead y u) with hxy | hyx
  · apply hfree _ x.lead_mem_leads _ y.lead_mem_leads hxy
  · exact (hfree _ y.lead_mem_leads _ x.lead_mem_leads hyx).symm

theorem decodes_template :
  Decodes (α := α) template (fun _ => True) continuations
  := by
  intro x y _ _ t u ht hu heq
  -- The leads rule out all pairs of actions of different sorts.
  have hlead := lead_eq heq
  cases x with
  | addColumn add =>
    cases y with
    | addColumn other =>
      obtain ⟨rfl, htu⟩ := AddColumn.decodes_template add other trivial trivial t u
        (ht.mono (by decide)) (hu.mono (by decide)) heq
      exact ⟨rfl, htu⟩
    | _ => exact absurd hlead (by simp [lead])
  | alterColumn alter =>
    cases y with
    | alterColumn other =>
      obtain ⟨rfl, htu⟩ := AlterColumn.decodes_template alter other trivial trivial t u
        (ht.mono (by decide)) (hu.mono (by decide)) heq
      exact ⟨rfl, htu⟩
    | _ => exact absurd hlead (by simp [lead])
  | dropColumn drop =>
    cases y with
    | dropColumn other =>
      obtain ⟨rfl, htu⟩ := DropColumn.decodes_template drop other trivial trivial t u
        (ht.mono (by decide)) (hu.mono (by decide)) heq
      exact ⟨rfl, htu⟩
    | _ => exact absurd hlead (by simp [lead])
  | setStorage settings =>
    cases y with
    | setStorage others =>
      obtain ⟨rfl, htu⟩ := (Setting.decodes_enclosed.spaced_word "SET").cancel
        (fun _ _ => trivial) (fun _ _ => trivial) heq
      exact ⟨rfl, htu⟩
    | _ => exact absurd hlead (by simp [lead])
  | resetStorage parameters =>
    cases y with
    | resetStorage others =>
      obtain ⟨rfl, htu⟩ := (StorageParameter.decodes_enclosed.spaced_word "RESET").cancel
        (fun _ _ => trivial) (fun _ _ => trivial) heq
      exact ⟨rfl, htu⟩
    | _ => exact absurd hlead (by simp [lead])

end TableAction

/-! ### Conditions -/

theorem Condition.decodes_template (condition : Condition) :
  Decodes (α := α) condition.template
    (fun expression => Clause.HoldsNoQuery (.condition condition) expression) []
  := by
  intro x y hx hy t u ht hu heq
  cases x with
  | literal a =>
    cases y with
    | literal b =>
      simp only [template, spaced, joined, enclosed, Expression.template, List.append_assoc,
        List.append_cancel_left_eq] at heq
      obtain ⟨rfl, hclose⟩ := decodes_ref.cancel trivial trivial heq
      exact ⟨rfl, List.append_cancel_left hclose⟩
    | query absorbed => exact absurd hy id
  | query absorbed => exact absurd hx id

/-! ### All clauses -/

namespace Clause

/-- What a form writes, which may be nothing. -/
def write (clause : Clause) (form : clause.Form α) : Template α := (clause.template form).getD []

/-- The form writes something, has passed the checks of its clause and holds no query. -/
def IsCanonical : (clause : Clause) → clause.Form α → Prop
  | .flag _, isOn => Eq (α := Bool) isOn true
  | .role _, spec => RoleSpec.IsCanonical spec
  | .table _, target => TableTarget.IsCanonical target
  | .condition c, expression => HoldsNoQuery (.condition c) expression
  | _, _ => True

/-- What may go on behind a form. -/
def continuations : Clause → List (Template Unit)
  | .quantity _ => digitPatterns
  | .limit _ => Limit.continuations
  | .table _ => TableTarget.continuations
  | .addColumn => AddColumn.continuations
  | .dropColumn => DropColumn.continuations
  | .alterColumn => AlterColumn.continuations
  | .action => TableAction.continuations
  | _ => []

/-- Canonical forms can be told from what they write. -/
theorem decodes_write (clause : Clause) :
  Decodes (α := α) clause.write clause.IsCanonical clause.continuations
  := by
  cases clause with
  | flag f =>
    rintro _ _ rfl rfl t u _ _ heq
    exact ⟨rfl, List.append_cancel_left heq⟩
  | cycle =>
    apply decodes_words
    rintro (_ | _) (_ | _) - - hprefix
    · rfl
    · exact absurd hprefix (by decide)
    · exact absurd hprefix (by decide)
    · rfl
  | cascade => exact Cascade.isCode.decodes_keyword
  | transactionAction => exact TransactionAction.isCode.decodes_keyword
  | quantity q => exact q.decodes_template
  | limit l => exact l.decodes_template
  | literal l => exact l.decodes_template
  | role r => exact r.decodes_template
  | setting l => exact Setting.decodes_template
  | resetting => exact StorageParameter.isCode.decodes_keyword
  | mode => exact TransactionMode.isCode.decodes_keyword
  | table l => exact TableTarget.decodes_template
  | condition c => exact c.decodes_template
  | addColumn => exact AddColumn.decodes_template
  | dropColumn => exact DropColumn.decodes_template
  | renameColumn => exact RenameColumn.decodes_template
  | alterColumn => exact AlterColumn.decodes_template
  | action => exact TableAction.decodes_template

/-- The patterns of which a form begins with one. -/
def leads : Clause → List (Template Unit)
  | .flag f => [word f.keyword]
  | .cycle => [word "CYCLE", word "NO CYCLE"]
  | .cascade => Coded.keywords (Coded.all (T := Cascade))
  | .transactionAction => Coded.keywords (Coded.all (T := TransactionAction))
  | .quantity q => [word q.keyword]
  | .limit l => [word l.keyword, word l.default]
  | .literal l => [(l.keyword?.map word).getD (Template.ref ())]
  | .role .ownerTo => [word "OWNER TO"]
  | .role .ownedBy | .role .toRole => RoleSpec.leads
  | .setting _ | .resetting => Coded.keywords (Coded.all (T := StorageParameter))
  | .mode => Coded.keywords (Coded.all (T := TransactionMode))
  | .table _ => TableTarget.leads
  | .condition c => [word c.keyword]
  | .addColumn => [word "ADD COLUMN"]
  | .dropColumn => [word "DROP COLUMN"]
  | .renameColumn => [word "RENAME COLUMN"]
  | .alterColumn => [word "ALTER COLUMN"]
  | .action => TableAction.leads.map word

theorem leads_write (clause : Clause) :
  Leads (α := α) clause.write clause.IsCanonical clause.leads
  := by
  cases clause with
  | flag f =>
    rintro _ t rfl
    exact ⟨_, List.mem_singleton_self _, begins_word f.keyword t⟩
  | cycle =>
    rintro (_ | _) t -
    · exact ⟨word "NO CYCLE", by decide, begins_word _ t⟩
    · exact ⟨word "CYCLE", by decide, begins_word _ t⟩
  | cascade => exact Cascade.isCode.leads_keyword
  | transactionAction => exact TransactionAction.isCode.leads_keyword
  | quantity q => exact leads_spaced_word q.keyword fun n => [word (toString (Int64.toInt n))]
  | limit l =>
    rintro (_ | n) t -
    · exact ⟨word l.default, List.mem_cons_of_mem _ List.mem_cons_self, begins_word _ t⟩
    · exact ⟨word l.keyword, List.mem_cons_self, begins_spaced_word _ _ t⟩
  | literal l =>
    cases l with
    | name => exact leads_ref
    | _ => exact leads_spaced_word _ fun a => [Template.ref a]
  | role r =>
    cases r with
    | ownerTo => exact leads_spaced_word "OWNER TO" fun role => [RoleSpec.template role]
    | ownedBy | toRole => exact RoleSpec.leads_template
  | setting l => exact Setting.leads_template
  | resetting => exact StorageParameter.isCode.leads_keyword
  | mode => exact TransactionMode.isCode.leads_keyword
  | table l => exact TableTarget.leads_template
  | condition c =>
    exact leads_spaced_word c.keyword fun expression => [enclosed (Expression.template expression)]
  | addColumn =>
    intro add t _
    use word "ADD COLUMN", List.mem_singleton_self _
    apply TableAction.begins_lead (.addColumn add)
  | dropColumn =>
    intro drop t _
    use word "DROP COLUMN", List.mem_singleton_self _
    apply TableAction.begins_lead (.dropColumn drop)
  | renameColumn =>
    intro rename t _
    use word "RENAME COLUMN", List.mem_singleton_self _
    apply begins_spaced_word
  | alterColumn =>
    intro alter t _
    use word "ALTER COLUMN", List.mem_singleton_self _
    apply TableAction.begins_lead (.alterColumn alter)
  | action =>
    intro act t _
    use word (TableAction.lead act), List.mem_map_of_mem (TableAction.lead_mem_leads act)
    apply TableAction.begins_lead

end Clause

end BoundSql
