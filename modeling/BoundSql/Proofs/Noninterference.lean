import BoundSql.Proofs.Acceptance
import BoundSql.Proofs.Alike
import BoundSql.Proofs.Building

/-!
# Literals do not interfere

Two statements are alike when they hold the same forms and their registries differ at most
in the values.  Alike calls on alike statements have the same outcome and lead to alike
statements, so that two runs with alike calls cannot be told apart by anything but the
values themselves (`literals_do_not_interfere`).
-/

namespace BoundSql

open Stateful

/-! ### Alike registries -/

namespace Registry

/-- Registries that have issued the same tokens and know values for the same of them. -/
structure Alike (registry registry' : Registry) : Prop where
  config_eq : registry.config = registry'.config
  lifetime_eq : registry.lifetime = registry'.lifetime
  isSome_eq : registry.entries.toList.map Option.isSome
    = registry'.entries.toList.map Option.isSome

variable {registry registry' : Registry}

theorem Alike.size_eq (h : registry.Alike registry') :
  registry.size = registry'.size
  := by
  have hlength := congrArg List.length h.isSome_eq
  simpa [size] using hlength

theorem Alike.capacity_eq (h : registry.Alike registry') :
  registry.capacity = registry'.capacity
  := by
  rw [capacity, capacity, h.config_eq]

theorem Alike.firstId_eq (h : registry.Alike registry') :
  registry.firstId = registry'.firstId
  := by
  rw [firstId, firstId, h.config_eq]

theorem Alike.tokenOf_eq (h : registry.Alike registry') :
  registry.tokenOf = registry'.tokenOf
  := by
  funext id
  rw [tokenOf, tokenOf, h.config_eq, h.lifetime_eq]

theorem Alike.nextId_eq (h : registry.Alike registry') :
  registry.nextId = registry'.nextId
  := by
  rw [nextId, nextId, h.firstId_eq, h.size_eq]

theorem Alike.nextToken_eq (h : registry.Alike registry') :
  registry.nextToken = registry'.nextToken
  := by
  rw [nextToken, nextToken, h.capacity_eq, h.size_eq, h.nextId_eq, h.tokenOf_eq]

theorem Alike.contains_eq (h : registry.Alike registry') (token : Token) :
  registry.contains token = registry'.contains token
  := by
  rw [Bool.eq_iff_iff, contains_iff, contains_iff, h.size_eq, h.tokenOf_eq, h.firstId_eq]

theorem Alike.extend (h : registry.Alike registry') {entry entry' : Option Value}
    (hentry : entry.isSome = entry'.isSome) :
  (registry.extend entry).Alike (registry'.extend entry')
  := by
  constructor
  · apply h.config_eq
  · apply h.lifetime_eq
  · simp [Registry.extend, h.isSome_eq, hentry]

theorem Alike.rollback (h : registry.Alike registry') (mark : Nat) :
  (registry.rollback mark).Alike (registry'.rollback mark)
  := by
  constructor
  · apply h.config_eq
  · apply h.lifetime_eq
  · simp [Registry.rollback, List.map_take, h.isSome_eq]

theorem Alike.reset (h : registry.Alike registry') :
  (Registry.reset registry).1.Alike (Registry.reset registry').1
    ∧ (Registry.reset registry).2 = (Registry.reset registry').2
  := by
  constructor
  · constructor
    · apply h.config_eq
    · apply congrArg Lifetime.next h.lifetime_eq
    · rfl
  · rw [Registry.reset, Registry.reset, h.size_eq]

variable {α : Type}

/-- Computations that lead from alike registries to alike registries with the same
result. -/
abbrev AgreeOn (x y : Allocating α) : Prop := Agree Alike Eq x y

theorem agreeOn_issue {entry entry' : Option Value} (h : entry.isSome = entry'.isSome) :
  AgreeOn (issue entry) (issue entry')
  := by
  intro registry registry' halike
  rw [issue, issue, halike.nextToken_eq]
  cases registry'.nextToken with
  | error e => exact ⟨halike, Traced.Agree.of_eq rfl⟩
  | ok token => exact ⟨halike.extend h, Traced.Agree.of_eq rfl⟩

theorem agreeOn_allocate (value value' : Value) :
  AgreeOn (allocate value) (allocate value')
  := agreeOn_issue rfl

theorem agreeOn_atomic {x y : Allocating α} (h : AgreeOn x y) :
  AgreeOn (atomic x) (atomic y)
  := agree_atomic (fun _ _ => Alike.size_eq) (fun _ _ mark halike => halike.rollback mark) h

theorem agreeOn_makeRoom {q q' : Query} (h : q.Alike q') :
  AgreeOn (makeRoom q) (makeRoom q')
  := by
  intro registry registry' halike
  rw [makeRoom, makeRoom, halike.capacity_eq, halike.size_eq, h.length_eq]
  split_ifs
  · exact ⟨halike, Traced.Agree.of_eq rfl⟩
  · exact ⟨halike, Traced.Agree.of_eq rfl⟩

theorem agreeOn_absorb {q q' : Query} (h : q.Alike q') :
  AgreeOn (absorb q) (absorb q')
  := by
  apply (agreeOn_makeRoom h).bind
  rintro _ _ rfl
  rw [h.references_eq]
  apply (Agree.lift (Traced.Agree.of_eq rfl)).bind
  rintro body _ rfl
  have hvisit : AgreeOn (Absorbed.traverse allocate ⟨body, q.values⟩)
      (Absorbed.traverse allocate ⟨body, q'.values⟩) := by
    have hvalues : List.Forall₂ (fun _ _ => True) q.values q'.values :=
      List.forall₂_iff_get.mpr ⟨h.length_eq, fun _ _ _ => trivial⟩
    apply (Agree.mapM hvalues fun value value' _ => agreeOn_allocate value value').bind
    intro entries entries' hentries
    obtain rfl : entries = entries' := List.forall₂_eq_eq_eq ▸ hentries
    apply Agree.pure rfl
  apply (agreeOn_atomic hvisit).bind
  rintro absorbed _ rfl
  apply (Agree.lift (Traced.Agree.of_eq rfl)).bind
  rintro _ _ rfl
  apply Agree.pure rfl

end Registry

/-! ### Bound values -/

namespace Registry

variable {registry registry' : Registry}

/-- Lists of entries with values in the same places give equally many values, or lack the
same one. -/
theorem agree_valuesFrom (sigil : String) (id : Nat) {entries entries' : List (Option Value)}
    (h : entries.map Option.isSome = entries'.map Option.isSome) :
  Except.Agree (fun values values' => values.length = values'.length)
    (valuesFrom sigil id entries) (valuesFrom sigil id entries')
  := by
  induction entries generalizing id entries' with
  | nil =>
    obtain rfl := List.map_eq_nil_iff.mp h.symm
    exact Except.Agree.ok rfl
  | cons entry entries ih =>
    cases entries' with
    | nil => contradiction
    | cons entry' entries' =>
      obtain ⟨hentry, hentries⟩ := List.cons.inj h
      cases entry with
      | none =>
        obtain rfl := Option.isSome_eq_false_iff.mp hentry.symm |> Option.isNone_iff_eq_none.mp
        apply Except.Agree.error _
      | some value =>
        obtain ⟨value', rfl⟩ := Option.isSome_iff_exists.mp hentry.symm
        apply (ih (id + 1) hentries).bind
        intro values values' hlength
        apply Except.Agree.ok
        rw [List.length_cons, List.length_cons, hlength]

theorem Alike.agree_boundValues (h : registry.Alike registry') :
  Except.Agree (fun values values' => values.length = values'.length)
    registry.boundValues registry'.boundValues
  := by
  rw [boundValues, boundValues, h.config_eq, h.firstId_eq]
  apply agree_valuesFrom _ _ h.isSome_eq

end Registry

/-! ### Alike arguments -/

open Registry (AgreeOn)

theorem Clause.agreeOn_bind (clause : Clause) {args args' : clause.Args}
    (h : clause.Alike args args') :
  AgreeOn (clause.bind args) (clause.bind args')
  := by
  have hchecked : AgreeOn
      (do
        let form ← Stateful.lift (Traced.ofExcept (clause.check args))
        clause.traverse Registry.allocate form)
      (do
        let form ← Stateful.lift (Traced.ofExcept (clause.check args'))
        clause.traverse Registry.allocate form) := by
    apply (Agree.lift (Traced.Agree.ofExcept (clause.agree_check h))).bind
    intro form form' hshape
    have hvisit := clause.traversal_isLawful.agree_traverse
      (Traversal.Related.of_shape_eq clause.traversal_isLawful hshape)
      fun value value' _ => Registry.agreeOn_allocate value value'
    apply hvisit.imp
    exact fun _ _ => Traversal.Related.eq clause.traversal_isLawful
  cases clause with
  | condition c =>
    cases h with
    | text h => exact hchecked
    | query h =>
      apply (Registry.agreeOn_absorb h).bind
      rintro absorbed _ rfl
      apply Agree.pure rfl
  | _ => exact hchecked

namespace Fragment

variable {clause : Clause} {arity : Arity}

theorem agreeOn_add (fragment : Fragment clause arity) {args args' : clause.Args}
    (h : clause.Alike args args') :
  AgreeOn (fragment.add args) (fragment.add args')
  := by
  cases arity with
  | one =>
    apply (clause.agreeOn_bind h).bind
    rintro form _ rfl
    apply Agree.pure rfl
  | many =>
    apply (clause.agreeOn_bind h).bind
    rintro form _ rfl
    apply (Agree.lift (Traced.Agree.of_eq rfl)).bind
    rintro _ _ rfl
    apply Agree.pure rfl

theorem agreeOn_set (fragment : Fragment clause arity) {args args' : clause.Args}
    (h : clause.Alike args args') :
  AgreeOn (fragment.set (some args)) (fragment.set (some args'))
  := (Registry.agreeOn_atomic (fragment.agreeOn_add h)).noteError _

theorem agreeOn_set_none (fragment : Fragment clause arity) :
  AgreeOn (fragment.set none) (fragment.set none)
  := Agree.lift (Traced.Agree.of_eq rfl)

theorem get_eq_of_alike (fragment : Fragment clause arity) {registry registry' : Registry}
    (h : registry.Alike registry') :
  fragment.get registry = fragment.get registry'
  := by
  have hcontains : registry.contains = registry'.contains := funext h.contains_eq
  have hverify : verify clause registry = verify clause registry' := by
    funext form
    rw [verify, verify, hcontains]
  rw [get, get, hverify]

end Fragment

/-! ### Alike calls -/

variable {grammar : Grammar}

/-- The same call with alike arguments. -/
inductive Call.Alike : Call grammar → Call grammar → Prop where
  | set (field : grammar.Field) {args args' : (grammar.clause field).Args}
      (h : (grammar.clause field).Alike args args') :
    Alike (.set field (some args)) (.set field (some args'))
  | clear (field : grammar.Field) : Alike (.set field none) (.set field none)
  | reset : Alike .reset .reset
  | ask (call : Call grammar) (h : call.IsQuestion) : Alike call call

/-- The same answer, except for the values. -/
inductive Reply.Alike : Reply grammar → Reply grammar → Prop where
  | same (reply : Reply grammar) : Alike reply reply
  | query {q q' : Query} (h : q.Alike q') : Alike (.query q) (.query q')
  | values {values values' : List Value} (h : values.length = values'.length) :
    Alike (.values values) (.values values')

namespace Statement

/-- Statements that hold the same forms, with alike registries. -/
structure Alike (statement statement' : Statement grammar) : Prop where
  registry : statement.registry.Alike statement'.registry
  fragment_eq : statement.fragment = statement'.fragment

variable {statement statement' : Statement grammar}

theorem Alike.get_eq (h : statement.Alike statement') (field : grammar.Field) :
  statement.get field = statement'.get field
  := by
  rw [get, get, h.fragment_eq]
  apply Fragment.get_eq_of_alike _ h.registry

theorem Alike.template_eq (h : statement.Alike statement') :
  statement.template = statement'.template
  := by
  have hget : (fun field => discard (statement.get field))
      = fun field => discard (statement'.get field) := by
    funext field
    rw [h.get_eq]
  have hlayout : statement.layout = statement'.layout := by
    have hpresent : statement.isPresent = statement'.isPresent := by
      funext field
      rw [isPresent, isPresent, h.fragment_eq]
    rw [layout, layout, hpresent]
  rw [Statement.template, Statement.template, hget, hlayout, h.fragment_eq]

theorem Alike.sql_eq (h : statement.Alike statement') :
  statement.sql = statement'.sql
  := by
  rw [sql, sql, h.template_eq]

theorem Alike.agree_build (h : statement.Alike statement') :
  Traced.Agree Query.Alike statement.build statement'.build
  := by
  rw [build, build, h.sql_eq, h.registry.config_eq]
  apply (Traced.Agree.of_eq rfl).bind
  rintro sql _ rfl
  apply (Traced.Agree.ofExcept h.registry.agree_boundValues).bind
  intro values values' hlength
  rw [hlength]
  apply (Traced.Agree.of_eq rfl).bind
  rintro _ _ rfl
  constructor
  · rfl
  · exact Except.Agree.ok ⟨rfl, rfl, rfl, hlength⟩

theorem Alike.put (h : statement.Alike statement') {registry registry' : Registry}
    (hregistry : registry.Alike registry') (field : grammar.Field)
    (fragment : Fragment (grammar.clause field) (grammar.arity field)) :
  Alike ({ statement with registry := registry }.put field fragment)
    ({ statement' with registry := registry' }.put field fragment)
  := by
  constructor
  · apply hregistry
  · simp only [Statement.put, h.fragment_eq]

/-! ### Alike steps -/

/-- Computations that lead from alike statements to alike statements with related
results. -/
abbrev AgreeOn {α : Type} (r : α → α → Prop) (x y : Stateful (Statement grammar) α) : Prop :=
  Agree Alike r x y

theorem agreeOn_set (field : grammar.Field) {args args' : Option (grammar.clause field).Args}
    (h : ∀ fragment : Fragment (grammar.clause field) (grammar.arity field),
      Registry.AgreeOn (fragment.set args) (fragment.set args')) :
  AgreeOn Eq (set field args) (set field args')
  := by
  intro statement statement' halike
  have hfragment := congrFun halike.fragment_eq field
  obtain ⟨registry, registry', events, hchanged, ⟨e, hx, hy⟩ | ⟨fragment, _, rfl, hx, hy⟩⟩ :=
    (h (statement.fragment field)).run halike.registry
  · rw [hfragment] at hy
    simp only [set, hx, hy]
    use ⟨hchanged, halike.fragment_eq⟩
    apply Traced.Agree.of_eq rfl
  · rw [hfragment] at hy
    simp only [set, hx, hy]
    use halike.put hchanged field fragment
    apply Traced.Agree.of_eq rfl

theorem agreeOn_reset :
  AgreeOn Eq (reset : Stateful (Statement grammar) Unit) reset
  := by
  intro statement statement' halike
  obtain ⟨hregistry, hdone⟩ := halike.registry.reset
  constructor
  · exact ⟨hregistry, rfl⟩
  · apply Traced.Agree.of_eq hdone

theorem agreeOn_ask {α : Type} {r : α → α → Prop} {question : Statement grammar → Traced α}
    (h : ∀ statement statement' : Statement grammar, statement.Alike statement' →
      Traced.Agree r (question statement) (question statement')) :
  AgreeOn r (ask question) (ask question)
  := fun statement statement' halike => ⟨halike, h statement statement' halike⟩

/-- Alike calls on alike statements have the same outcome and keep the statements alike. -/
theorem agreeOn_perform {call call' : Call grammar} (h : call.Alike call') :
  AgreeOn Reply.Alike (perform call) (perform call')
  := by
  cases h with
  | set field hargs =>
    apply (agreeOn_set field fun fragment => fragment.agreeOn_set hargs).bind
    rintro _ _ rfl
    apply Agree.pure (Reply.Alike.same _)
  | clear field =>
    apply (agreeOn_set field fun fragment => fragment.agreeOn_set_none).bind
    rintro _ _ rfl
    apply Agree.pure (Reply.Alike.same _)
  | reset =>
    apply agreeOn_reset.bind
    rintro _ _ rfl
    apply Agree.pure (Reply.Alike.same _)
  | ask call hquestion =>
    cases call with
    | set | reset => contradiction
    | get field =>
      apply (agreeOn_ask fun _ _ halike => Traced.Agree.of_eq (halike.get_eq field)).bind
      rintro fragment _ rfl
      apply Agree.pure (Reply.Alike.same _)
    | sql =>
      apply (agreeOn_ask fun _ _ halike => Traced.Agree.of_eq halike.sql_eq).bind
      rintro sql _ rfl
      apply Agree.pure (Reply.Alike.same _)
    | build =>
      apply (agreeOn_ask fun _ _ halike => halike.agree_build).bind
      intro q q' hquery
      apply Agree.pure (Reply.Alike.query hquery)
    | values =>
      apply (agreeOn_ask fun _ _ halike =>
        Traced.Agree.ofExcept halike.registry.agree_boundValues).bind
      intro values values' hlength
      apply Agree.pure (Reply.Alike.values hlength)
    | nextId =>
      apply (agreeOn_ask fun _ _ halike => Traced.Agree.of_eq
        (congrArg Traced.ofExcept halike.registry.nextId_eq)).bind
      rintro id _ rfl
      apply Agree.pure (Reply.Alike.same _)

/-- Runs of alike calls have the same outcomes and keep the statements alike. -/
theorem Alike.run (h : statement.Alike statement') {calls calls' : List (Call grammar)}
    (hcalls : List.Forall₂ Call.Alike calls calls') :
  (statement.run calls).1.Alike (statement'.run calls').1
    ∧ List.Forall₂ (Traced.Agree Reply.Alike) (statement.run calls).2 (statement'.run calls').2
  := by
  induction hcalls generalizing statement statement' with
  | nil => exact ⟨h, List.Forall₂.nil⟩
  | cons hcall _ ih =>
    obtain ⟨hchanged, hreply⟩ := agreeOn_perform hcall _ _ h
    obtain ⟨hfinal, hreplies⟩ := ih hchanged
    exact ⟨hfinal, List.Forall₂.cons hreply hreplies⟩

end Statement

/-! ### Alike histories -/

/-- Alike arguments for the same field. -/
inductive Assignment.Alike : Assignment grammar → Assignment grammar → Prop where
  | mk (field : grammar.Field) {args args' : (grammar.clause field).Args}
      (h : (grammar.clause field).Alike args args') :
    Alike ⟨field, args⟩ ⟨field, args'⟩

theorem Assignment.Alike.length_literals_eq {assignment assignment' : Assignment grammar}
    (h : assignment.Alike assignment') :
  assignment.literals.length = assignment'.literals.length
  := by
  cases h with
  | mk field h => exact (grammar.clause field).length_supplied_eq h

theorem History.alike_after {history history' : History grammar} {call call' : Call grammar}
    {result result' : Except Error (Reply grammar)}
    (h : List.Forall₂ Assignment.Alike history history') (hcall : call.Alike call')
    (hresult : Except.Agree Reply.Alike result result') :
  List.Forall₂ Assignment.Alike (history.after call result) (history'.after call' result')
  := by
  cases hcall with
  | set field hargs =>
    cases hresult with
    | error e => exact h
    | ok _ => exact List.rel_append h (List.Forall₂.cons (Assignment.Alike.mk field hargs)
        List.Forall₂.nil)
  | clear field => exact h
  | reset => exact List.Forall₂.nil
  | ask call hquestion =>
    cases call with
    | set | reset => contradiction
    | _ => exact h

/-- Runs of alike calls have alike histories. -/
theorem History.alike_along {history history' : History grammar}
    {statement statement' : Statement grammar} {calls calls' : List (Call grammar)}
    (h : List.Forall₂ Assignment.Alike history history') (halike : statement.Alike statement')
    (hcalls : List.Forall₂ Call.Alike calls calls') :
  List.Forall₂ Assignment.Alike (history.along statement calls)
    (history'.along statement' calls')
  := by
  induction hcalls generalizing history history' statement statement' with
  | nil => exact h
  | cons hcall _ ih =>
    obtain ⟨hchanged, hreply⟩ := Statement.agreeOn_perform hcall _ _ halike
    apply ih _ hchanged
    apply alike_after h hcall hreply.result_agree

/-! ### Noninterference -/

theorem Statement.alike_new (config : Config) :
  (Statement.new grammar config).Alike (Statement.new grammar config)
  := ⟨⟨rfl, rfl, rfl⟩, rfl⟩

/-- Literals do not interfere.  Two runs of calls that differ only in literals have the same
outcomes, and at their end every field, the text of the statement and the number of the next
token are the same.  What the statements hold or build differs in the values only: these are
the literals that have been accepted in either run, and each assignment contributes equally
many in both.  A run that is cut short is a run, so that all this holds after every call. -/
theorem literals_do_not_interfere (config : Config) {calls calls' : List (Call grammar)}
    (hcalls : List.Forall₂ Call.Alike calls calls') :
  let start := Statement.new grammar config
  let final := (start.run calls).1
  let final' := (start.run calls').1
  let accepted := History.along [] start calls
  let accepted' := History.along [] start calls'
  List.Forall₂ (Traced.Agree Reply.Alike) (start.run calls).2 (start.run calls').2
    ∧ (∀ field, final.get field = final'.get field)
    ∧ final.sql = final'.sql
    ∧ final.registry.nextId = final'.registry.nextId
    ∧ final.registry.size = final'.registry.size
    ∧ Traced.Agree Query.Alike final.build final'.build
    ∧ final.registry.boundValues = .ok accepted.literals
    ∧ final'.registry.boundValues = .ok accepted'.literals
    ∧ (∀ q, final.build.result = .ok q → q.values = accepted.literals)
    ∧ (∀ q, final'.build.result = .ok q → q.values = accepted'.literals)
    ∧ List.Forall₂ (fun assignment assignment' => assignment.Alike assignment'
        ∧ assignment.literals.length = assignment'.literals.length) accepted accepted'
  := by
  intro start final final' accepted accepted'
  obtain ⟨hfinal, hreplies⟩ := (Statement.alike_new config).run hcalls
  have hvalues : final.registry.boundValues = .ok accepted.literals :=
    ((Statement.keeps_new config).run calls).boundValues_eq
  have hvalues' : final'.registry.boundValues = .ok accepted'.literals :=
    ((Statement.keeps_new config).run calls').boundValues_eq
  have hbuild : ∀ (statement : Statement grammar) (values : List Value),
      statement.registry.boundValues = .ok values →
      ∀ q, statement.build.result = .ok q → q.values = values := by
    intro statement values hbound q hq
    obtain ⟨_, -, -, hqvalues, -⟩ := Statement.of_build_eq_ok hq
    rw [hbound] at hqvalues
    exact (Except.ok.inj hqvalues).symm
  have haccepted := History.alike_along List.Forall₂.nil (Statement.alike_new config) hcalls
  use hreplies, hfinal.get_eq, hfinal.sql_eq, hfinal.registry.nextId_eq,
    hfinal.registry.size_eq, hfinal.agree_build, hvalues, hvalues', hbuild final _ hvalues,
    hbuild final' _ hvalues'
  apply haccepted.imp
  intro assignment assignment' halike
  use halike, halike.length_literals_eq

/-- The calls of `swappedPolicy` with other literals. -/
def hostilePolicy : List (Call StatementKind.alterPolicy.grammar) :=
  [.set .name (some "q; --"), .set .onTable (some "$9"),
    .set .using (some (.query ⟨"a = $2 OR b < $1", [.text "' OR TRUE", .bool true], "$", 1⟩))]

theorem literals_do_not_interfere_in_hostilePolicy :
  let start := Statement.new StatementKind.alterPolicy.grammar {}
  List.Forall₂ Call.Alike swappedPolicy hostilePolicy
    ∧ (start.run swappedPolicy).1.sql = (start.run hostilePolicy).1.sql
    ∧ (start.run swappedPolicy).1.registry.boundValues
      = .ok [.text "p", .text "t", .int 4, .int 5]
    ∧ (start.run hostilePolicy).1.registry.boundValues
      = .ok [.text "q; --", .text "$9", .text "' OR TRUE", .bool true]
  := by
  intro start
  have hcalls : List.Forall₂ Call.Alike swappedPolicy hostilePolicy := by
    apply List.Forall₂.cons
    · apply Call.Alike.set
      exact Or.inr (by decide)
    apply List.Forall₂.cons
    · apply Call.Alike.set
      exact Or.inr (by decide)
    apply List.Forall₂.cons
    · apply Call.Alike.set
      exact ExpressionArg.Alike.query ⟨rfl, rfl, rfl, rfl⟩
    · apply List.Forall₂.nil
  obtain ⟨-, -, hsql, -, -, -, hvalues, hvalues', -⟩ := literals_do_not_interfere {} hcalls
  have haccepted : (History.along [] start swappedPolicy).literals
      = [.text "p", .text "t", .int 4, .int 5] := by cbv
  have haccepted' : (History.along [] start hostilePolicy).literals
      = [.text "q; --", .text "$9", .text "' OR TRUE", .bool true] := by cbv
  rw [haccepted] at hvalues
  rw [haccepted'] at hvalues'
  use hcalls, hsql, hvalues, hvalues'

end BoundSql
