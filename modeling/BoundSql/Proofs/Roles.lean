import BoundSql.Proofs.Argument
import BoundSql.Proofs.Building
import BoundSql.Proofs.Unambiguity
import BoundSql.StatementKind

/-!
# Roles in statements

A role that is meant by its name has no keyword, so that what is written for a role depends on
its kind and its name going together.  They do for every role that a statement holds: what is
written for it is its operand, which is never empty, and each role clause is its keyword followed
by the operands of its roles.  The setters of these clauses refuse exactly the arguments that
would break this, and names for which there is no room (`roles_are_well_formed`).
-/

namespace BoundSql

open Stateful

/-! ### What a role clause takes -/

namespace RoleClause

variable {clause : RoleClause} {kind : RoleKind} {args : RoleArgs} {argument : String}

/-- No clause takes all roles at once, and only `TO` takes everyone. -/
def Takes (clause : RoleClause) (kind : RoleKind) : Prop :=
  kind ≠ .all ∧ (kind = .everyone → clause = .toRole)

theorem contains_allowed_iff :
  clause.allowed.contains kind = true ↔ clause.Takes kind
  := by
  rw [Takes]
  cases clause <;> cases kind <;> decide

/-- A clause about one role, or about several. -/
def arity : RoleClause → Arity
  | .ownerTo => .one
  | .ownedBy | .toRole => .many

/-- The keyword in front of the operands. -/
def keyword : RoleClause → String
  | .ownerTo => "OWNER TO"
  | .ownedBy => "OWNED BY"
  | .toRole => "TO"

end RoleClause

/-- A named role takes a clean name, and no other one takes a name. -/
def RoleKind.TakesName : RoleKind → Option String → Prop
  | .name, given => ∃ s, given = some s ∧ IsClean s
  | _, given => given = none

/-- The first argument for a role that a clause does not take. -/
inductive RoleArgs.Offends (clause : RoleClause) (args : RoleArgs) : String → Prop where
  | role (h : ∀ kind, args.kind.Means kind → ¬ clause.Takes kind) : Offends clause args "role"
  | name {kind : RoleKind} (hmeans : args.kind.Means kind) (hkind : clause.Takes kind)
    (h : ¬ kind.TakesName args.name) : Offends clause args "name"

namespace RoleSpec

variable {clause : RoleClause} {kind : RoleKind} {args : RoleArgs} {argument : String}

theorem refuses_checkName {name : Option String} :
  Refuses (checkName kind name) argument ↔ argument = "name" ∧ ¬ kind.TakesName name
  := by
  by_cases hkind : kind = .name
  · subst hkind
    cases name with
    | none => simp [checkName, refuses_error, RoleKind.TakesName]
    | some s => simp [checkName, refuses_map, refuses_checkedText, RoleKind.TakesName]
  · have htakes : kind.TakesName name ↔ name = none := by
      cases kind with
      | name => contradiction
      | _ => rfl
    cases name with
    | none => simp [checkName, hkind, not_refuses_ok, htakes]
    | some s => simp [checkName, hkind, refuses_error, htakes]

/-- The check refuses the first argument that the clause does not take. -/
theorem refuses_check :
  Refuses (check clause.allowed args) argument ↔ args.Offends clause argument
  := by
  have hrest : ∀ kind, Refuses (if clause.allowed.contains kind then do
      let name ← checkName kind args.name
      pure (⟨kind, name⟩ : RoleSpec Value)
    else .error ⟨"role", .roleNotAllowed kind⟩) argument
      ↔ (argument = "role" ∧ ¬ clause.Takes kind)
        ∨ (clause.Takes kind ∧ argument = "name" ∧ ¬ kind.TakesName args.name) := by
    intro kind
    by_cases htakes : clause.Takes kind
    · rw [if_pos (RoleClause.contains_allowed_iff.mpr htakes), refuses_bind_pure,
        refuses_checkName]
      simp [htakes]
    · rw [if_neg (mt RoleClause.contains_allowed_iff.mp htakes), refuses_error]
      simp [htakes]
  rw [check, refuses_bind, refuses_checkedCode]
  simp only [checkedCode_eq_ok, hrest]
  constructor
  · rintro (⟨rfl, hnone⟩ | ⟨kind, hmeans, ⟨rfl, hkind⟩ | ⟨hkind, rfl, hname⟩⟩)
    · exact .role fun kind hmeans => absurd hmeans (hnone kind)
    · apply RoleArgs.Offends.role
      intro other hother
      rwa [← hmeans.unique hother]
    · exact .name hmeans hkind hname
  · rintro (h | ⟨hmeans, hkind, hname⟩)
    · by_cases hmeans : ∃ kind, args.kind.Means kind
      · obtain ⟨kind, hmeans⟩ := hmeans
        exact .inr ⟨kind, hmeans, .inl ⟨rfl, h kind hmeans⟩⟩
      · exact .inl ⟨rfl, not_exists.mp hmeans⟩
    · exact .inr ⟨_, hmeans, .inr ⟨hkind, rfl, hname⟩⟩

theorem takes_of_check {role : RoleSpec Value} (h : check clause.allowed args = .ok role) :
  clause.Takes role.kind
  := by
  obtain ⟨kind, -, hrest⟩ := Except.bind_eq_ok.mp h
  split_ifs at hrest with hallowed
  obtain ⟨name, -, hpure⟩ := Except.bind_eq_ok.mp hrest
  obtain rfl := Except.ok.inj hpure
  exact RoleClause.contains_allowed_iff.mp hallowed

/-! ### What is written for a role -/

/-- What is written for a role: its token or its keyword. -/
def operand (role : RoleSpec Token) : String := role.template.text Token.name

/-- A role that is well formed in a clause of a statement with the given sigil.  Its kind is one
that the clause takes, it has a name exactly if it is a named one, and its operand is not empty.
There are no commas in the operand but for those in the sigil. -/
structure IsWellFormed (clause : RoleClause) (sigil : String) (role : RoleSpec Token) : Prop where
  takes : clause.Takes role.kind
  isCanonical : role.kind = .name ↔ role.name.isSome = true
  operand_ne : role.operand ≠ ""
  not_mem_operand : ',' ∉ sigil.toList → ',' ∉ role.operand.toList

end RoleSpec

theorem Token.toList_name_ne (token : Token) :
  token.name.toList ≠ []
  := by
  rw [name, toList_tokenName]
  exact List.append_ne_nil_of_right_ne_nil _ Nat.toDigits_ne_nil

theorem Token.not_mem_toList_name {token : Token} {c : Char} (hdigit : c.isDigit = false)
    (hsigil : c ∉ token.sigil.toList) :
  c ∉ token.name.toList
  := by
  rw [name, toList_tokenName, List.mem_append, not_or]
  use hsigil
  intro hmem
  rw [isDigit_of_mem_toDigits _ c hmem] at hdigit
  contradiction

namespace RoleSpec

variable {clause : RoleClause} {registry : Registry} {role : RoleSpec Token} {args : RoleArgs}

/-- The operand of a role that is meant by its name is its token. -/
theorem operand_of_name {token : Token} (h : role.name = some token) :
  role.operand.toList = token.name.toList
  := by
  rw [operand, template, h]
  simp

theorem operand_of_keyword (h : role.name = none) :
  role.operand = Coded.keyword role.kind
  := by
  rw [operand, template, h, Template.text_word]

/-- Every kind of role but the named one has a keyword. -/
theorem keyword_of_ne_name {kind : RoleKind} (h : kind ≠ .name) :
  Coded.keyword kind ≠ "" ∧ ',' ∉ (Coded.keyword kind).toList
  := by
  cases kind with
  | name => contradiction
  | _ => decide

/-- The roles that a fragment holds are well formed. -/
theorem isWellFormed_of_isKept (h : (Clause.role clause).IsKept registry role args) :
  role.IsWellFormed clause registry.config.sigil
  := by
  obtain ⟨checked, hcheck, hshape, -⟩ := h.exists_checked
  have hchecked : check clause.allowed args = .ok checked := Clause.refusing_eq_ok.mp hcheck
  have hkind : role.kind = checked.kind := congrArg RoleSpec.kind hshape
  have hcanonical : role.IsCanonical := h.isCanonical trivial rfl
  have htakes : clause.Takes role.kind := by
    rw [hkind]
    exact takes_of_check hchecked
  cases hrole : role.name with
  | none =>
    have hname : role.kind ≠ .name := by
      intro hname
      have hsome := hcanonical.mp hname
      rw [hrole] at hsome
      contradiction
    have hkeyword := keyword_of_ne_name hname
    rw [← operand_of_keyword hrole] at hkeyword
    exact ⟨htakes, hcanonical, hkeyword.1, fun _ => hkeyword.2⟩
  | some token =>
    have htoken : token ∈ (Clause.role clause).literals role := by
      show token ∈ role.name.toList
      simp [hrole]
    obtain ⟨k, -, rfl⟩ := Registry.contains_iff.mp (h.contains token htoken)
    have hoperand := operand_of_name hrole
    refine ⟨htakes, hcanonical, ?_, ?_⟩
    · intro hempty
      rw [hempty] at hoperand
      exact Token.toList_name_ne _ hoperand.symm
    · intro hsigil
      rw [hoperand]
      exact Token.not_mem_toList_name rfl hsigil

end RoleSpec

/-- Roles are written as a keyword and their operands, with commas between them. -/
theorem RoleSpec.text_listed (keyword : String) (roles : List (RoleSpec Token)) :
  (Template.spaced [Template.word keyword,
      Template.listed (roles.filterMap fun role => some role.template)]).text Token.name
    = keyword ++ " " ++ ", ".intercalate (roles.map operand)
  := by
  rw [List.filterMap_eq_map', Template.spaced, Template.text_joined, List.map_cons,
    List.map_singleton, Template.text_word, String.intercalate_cons_cons,
    String.intercalate_singleton, Template.listed, Template.text_joined, List.map_map]
  rfl

/-- A role clause is written as its keyword and the operands of its roles, or not at all. -/
theorem Fragment.render_role {r : RoleClause} (fragment : Fragment (.role r) r.arity) :
  (fragment.items = [] ∧ fragment.render = none)
    ∨ (fragment.items ≠ [] ∧ fragment.render
      = some (r.keyword ++ " " ++ ", ".intercalate (fragment.items.map RoleSpec.operand)))
  := by
  obtain ⟨content⟩ := fragment
  cases r with
  | ownerTo =>
    cases content with
    | none => exact .inl ⟨rfl, rfl⟩
    | some role =>
      exact .inr ⟨List.cons_ne_nil _ _, congrArg some (RoleSpec.text_listed "OWNER TO" [role])⟩
  | ownedBy =>
    cases content with
    | nil => exact .inl ⟨rfl, rfl⟩
    | cons role roles =>
      exact .inr ⟨List.cons_ne_nil _ _,
        congrArg some (RoleSpec.text_listed "OWNED BY" (role :: roles))⟩
  | toRole =>
    cases content with
    | nil => exact .inl ⟨rfl, rfl⟩
    | cons role roles =>
      exact .inr ⟨List.cons_ne_nil _ _, congrArg some (RoleSpec.text_listed "TO" (role :: roles))⟩

/-! ### Setting a role -/

theorem Clause.check_role (r : RoleClause) (args : RoleArgs) :
  (Clause.role r).check args = refusing r.function (RoleSpec.check r.allowed args)
  := rfl

namespace Fragment

variable {r : RoleClause} {arity : Arity} {fragment : Fragment (.role r) arity} {args : RoleArgs}
  {registry : Registry}

theorem accept_role (form : (Clause.role r).Form Token) :
  fragment.accept form = .ok ()
  := by
  cases arity with
  | one => rfl
  | many => rfl

theorem fails_set_of_offends {argument : String} (h : args.Offends r argument) :
  ∃ reason, Fails (fragment.set (some args)) registry
    (.invalidArgument r.function ⟨argument, reason⟩) registry
  := by
  obtain ⟨reason, hbind⟩ := Clause.exists_fails_bind_of_refuses (Clause.check_role r args)
    (RoleSpec.refuses_check.mpr h) registry
  exact ⟨reason, (fails_set_iff_of_accept accept_role).mpr ⟨rfl, registry, hbind⟩⟩

/-- Where no argument offends, setting a role fails only because the registry cannot serve it. -/
theorem of_fails_set_role (hnone : ∀ argument, ¬ args.Offends r argument) {e : Error}
    {after : Registry} (h : Fails (fragment.set (some args)) registry e after) :
  after = registry ∧ ∃ fault, e = .allocation fault
  := by
  obtain ⟨rfl, between, hbind⟩ := (fails_set_iff_of_accept accept_role).mp h
  use rfl
  obtain ⟨herror, -⟩ | hfault := Clause.of_fails_bind hbind
  · obtain ⟨⟨argument, reason⟩, hcheck, rfl⟩ := Clause.refusing_eq_error.mp herror
    exact absurd (RoleSpec.refuses_check.mp ⟨reason, hcheck⟩) (hnone argument)
  · exact hfault

/-- Setting a role fails exactly if an argument offends or there is no room for the name. -/
theorem exists_fails_set_role_iff (hfits : registry.Fits) :
  (∃ e after, Fails (fragment.set (some args)) registry e after)
    ↔ (∃ argument, args.Offends r argument) ∨ (args.name ≠ none ∧ ¬ registry.HasRoom 1)
  := by
  have hroom : registry.HasRoom ((Clause.role r).supplied Query.values args).length
      ↔ (args.name = none ∨ registry.HasRoom 1) := by
    show registry.HasRoom (args.name.toList.map Value.text).length ↔ _
    cases args.name with
    | none => exact iff_of_true ⟨hfits.size_le, hfits.le_size⟩ (Or.inl rfl)
    | some s => simp
  have hbinds : (∃ form changed, Succeeds ((Clause.role r).bind args) registry form changed)
      ↔ (∀ argument, ¬ args.Offends r argument) ∧ (args.name = none ∨ registry.HasRoom 1) := by
    apply (Clause.exists_succeeds_bind_iff_of_fits (Clause.check_role r args) hfits).trans
    exact and_congr (forall_congr' fun argument => not_congr RoleSpec.refuses_check) hroom
  have hfails : (∃ e after, Fails (fragment.set (some args)) registry e after)
      ↔ ∃ e after, Fails ((Clause.role r).bind args) registry e after := by
    constructor
    · rintro ⟨e, after, h⟩
      exact ⟨e, ((fails_set_iff_of_accept accept_role).mp h).2⟩
    · rintro ⟨e, after, h⟩
      exact ⟨e, registry, (fails_set_iff_of_accept accept_role).mpr ⟨rfl, after, h⟩⟩
  rw [hfails, exists_fails_iff, hbinds, not_and_or, not_forall, not_or]
  simp only [not_not, ne_eq]

end Fragment

/-! ### Statements -/

theorem StatementKind.arity_of_clause_eq {kind : StatementKind} {field : kind.grammar.Field}
    {r : RoleClause} (h : kind.grammar.clause field = .role r) :
  kind.grammar.arity field = r.arity
  := by
  cases kind <;> cases field <;> cases h <;> rfl

/-- Every form that a fragment holds keeps some arguments. -/
def HeldFragment.IsKept (held : HeldFragment) (registry : Registry) : Prop :=
  ∀ form ∈ held.fragment.items, ∃ args, held.clause.IsKept registry form args

theorem Statement.isKept_run {grammar : Grammar} (config : Config) (calls : List (Call grammar))
    (field : grammar.Field) :
  let final := ((Statement.new grammar config).run calls).1
  HeldFragment.IsKept ⟨_, _, final.fragment field⟩ final.registry
  := by
  intro final
  exact (Statement.agrees_isKept config calls).forall_items field fun form args h => ⟨args, h⟩

/-- Roles are well formed.  Whatever calls are made on a statement, each role that it holds has a
name exactly if it is a named one, is of a kind that its clause takes, and has an operand that is
not empty and has no commas of its own.  A role clause is written as its keyword and the operands
of its roles with commas between them, and not at all if there are none.  Setting a role fails
exactly if its kind or its name offends, the kind before the name, or there is no room for the
name; and it leaves the registry. -/
theorem roles_are_well_formed (kind : StatementKind) (config : Config)
    (calls : List (Call kind.grammar)) (field : kind.grammar.Field) :
  let final := ((Statement.new kind.grammar config).run calls).1
  ∀ (r : RoleClause) (arity : Arity) (fragment : Fragment (.role r) arity),
    (⟨_, _, final.fragment field⟩ : HeldFragment) = ⟨.role r, arity, fragment⟩ →
    (∀ role ∈ fragment.items, RoleSpec.IsWellFormed r config.sigil role)
      ∧ ((fragment.items = [] ∧ fragment.render = none)
        ∨ (fragment.items ≠ [] ∧ fragment.render
          = some (r.keyword ++ " " ++ ", ".intercalate (fragment.items.map RoleSpec.operand))))
      ∧ ∀ args : RoleArgs,
        ((∃ e after, Fails (fragment.set (some args)) final.registry e after)
          ↔ (∃ argument, args.Offends r argument)
            ∨ (args.name ≠ none ∧ ¬ final.registry.HasRoom 1))
        ∧ (∀ argument, args.Offends r argument →
          ∃ reason, Fails (fragment.set (some args)) final.registry
            (.invalidArgument r.function ⟨argument, reason⟩) final.registry)
        ∧ ((∀ argument, ¬ args.Offends r argument) →
          ∀ e after, Fails (fragment.set (some args)) final.registry e after →
            after = final.registry ∧ ∃ fault, e = .allocation fault)
  := by
  intro final r arity fragment hfragment
  have hkept : HeldFragment.IsKept ⟨_, _, final.fragment field⟩ final.registry :=
    Statement.isKept_run config calls field
  have hconfig : final.registry.config = config := Statement.config_run _ calls
  have hfits : final.registry.Fits := (Statement.isReachable_run (.new config 0) calls).fits
  have harity : arity = r.arity := by
    have hclause : kind.grammar.clause field = .role r := congrArg HeldFragment.clause hfragment
    rw [← StatementKind.arity_of_clause_eq hclause]
    exact (congrArg HeldFragment.arity hfragment).symm
  rw [hfragment] at hkept
  constructor
  · intro role hrole
    obtain ⟨args, h⟩ := hkept role hrole
    rw [← hconfig]
    exact RoleSpec.isWellFormed_of_isKept h
  constructor
  · subst harity
    exact fragment.render_role
  · intro args
    use Fragment.exists_fails_set_role_iff hfits
    constructor
    · exact fun argument => Fragment.fails_set_of_offends
    · exact fun hnone e after => Fragment.of_fails_set_role hnone

/-- Calls that set the roles of a policy, the last of which is refused. -/
def policyRoles : List (Call StatementKind.alterPolicy.grammar) :=
  [.set .toRoles (some ⟨.variant .name, some "r"⟩), .set .toRoles (some ⟨.code 4, none⟩),
    .set .toRoles (some ⟨.variant .all, none⟩)]

theorem roles_are_well_formed_of_policyRoles :
  let final := ((Statement.new StatementKind.alterPolicy.grammar {}).run policyRoles).1
  ∃ fragment : Fragment (.role .toRole) .many,
    (⟨_, _, final.fragment .toRoles⟩ : HeldFragment) = ⟨.role .toRole, .many, fragment⟩
      ∧ fragment.render = some "TO $1, PUBLIC"
      ∧ (∀ role ∈ fragment.items, RoleSpec.IsWellFormed .toRole "$" role)
      ∧ ∃ reason, Fails (fragment.set (some (⟨.variant .name, none⟩ : RoleArgs))) final.registry
        (.invalidArgument "to_role" ⟨"name", reason⟩) final.registry
  := by
  intro final
  obtain ⟨hroles, -, hset⟩ := roles_are_well_formed .alterPolicy {} policyRoles .toRoles
    .toRole .many (final.fragment .toRoles) rfl
  use final.fragment .toRoles, rfl
  constructor
  · show (((Statement.new StatementKind.alterPolicy.grammar {}).run policyRoles).1.fragment
      .toRoles).render = _
    simp only [policyRoles]
    cbv
  · use hroles
    apply (hset ⟨.variant .name, none⟩).2.1
    apply RoleArgs.Offends.name (.variant RoleKind.name)
    · exact ⟨by decide, by decide⟩
    · simp [RoleKind.TakesName]

end BoundSql
