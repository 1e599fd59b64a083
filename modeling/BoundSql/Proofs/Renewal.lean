import BoundSql.Proofs.Agreement
import BoundSql.Proofs.Building
import BoundSql.Proofs.Renaming
import BoundSql.Proofs.Retrieval

/-!
# Reset as good as new

Two tokens are twins when they are written alike and each belongs to a given lifetime.
Registries are twins when they hold the same entries in these lifetimes, and statements
when their fields hold forms that differ in twin tokens only.  Twin statements answer every
call alike and stay twins, a further reset included.  A statement that has just been reset is
the twin of a new one, so that no later calls tell the two apart
(`reset_is_as_good_as_new`).
-/

namespace BoundSql

open Stateful

/-! ### Twin tokens and registries -/

/-- The tokens are written alike. -/
structure Token.Matches (token token' : Token) : Prop where
  id_eq : token.id = token'.id
  sigil_eq : token.sigil = token'.sigil

/-- The tokens are written alike, and each is of its lifetime. -/
structure Token.Twin (lifetime lifetime' : Lifetime) (token token' : Token) : Prop
    extends token.Matches token' where
  lifetime_eq : token.lifetime = lifetime
  lifetime_eq' : token'.lifetime = lifetime'

theorem Token.Matches.name_eq {token token' : Token} (h : token.Matches token') :
  token.name = token'.name
  := by
  rw [name, name, h.id_eq, h.sigil_eq]

variable {lifetime lifetime' : Lifetime}

/-- The texts are the same, and twin tokens stand for the values. -/
structure Absorbed.Twin (lifetime lifetime' : Lifetime) (absorbed absorbed' : Absorbed Token) :
    Prop where
  body_eq : absorbed.body = absorbed'.body
  entries : List.Forall₂ (Token.Twin lifetime lifetime') absorbed.entries absorbed'.entries

namespace Registry

/-- The registries hold the same entries, and each is in its lifetime. -/
structure Twin (lifetime lifetime' : Lifetime) (registry registry' : Registry) : Prop where
  config_eq : registry.config = registry'.config
  entries_eq : registry.entries = registry'.entries
  lifetime_eq : registry.lifetime = lifetime
  lifetime_eq' : registry'.lifetime = lifetime'

variable {registry registry' : Registry}

theorem Twin.size_eq (h : registry.Twin lifetime lifetime' registry') :
  registry.size = registry'.size
  := by
  rw [size, size, h.entries_eq]

theorem Twin.capacity_eq (h : registry.Twin lifetime lifetime' registry') :
  registry.capacity = registry'.capacity
  := by
  rw [capacity, capacity, h.config_eq]

theorem Twin.firstId_eq (h : registry.Twin lifetime lifetime' registry') :
  registry.firstId = registry'.firstId
  := by
  rw [firstId, firstId, h.config_eq]

theorem Twin.nextId_eq (h : registry.Twin lifetime lifetime' registry') :
  registry.nextId = registry'.nextId
  := by
  rw [nextId, nextId, h.firstId_eq, h.size_eq]

theorem Twin.boundValues_eq (h : registry.Twin lifetime lifetime' registry') :
  registry.boundValues = registry'.boundValues
  := by
  rw [boundValues, boundValues, h.config_eq, h.firstId_eq, h.entries_eq]

theorem Twin.tokenOf (h : registry.Twin lifetime lifetime' registry') (id : Nat) :
  (registry.tokenOf id).Twin lifetime lifetime' (registry'.tokenOf id)
  := ⟨⟨rfl, congrArg Config.sigil h.config_eq⟩, h.lifetime_eq, h.lifetime_eq'⟩

theorem Twin.agree_nextToken (h : registry.Twin lifetime lifetime' registry') :
  Except.Agree (Token.Twin lifetime lifetime') registry.nextToken registry'.nextToken
  := by
  rw [nextToken, nextToken, h.capacity_eq, h.size_eq, h.nextId_eq]
  split_ifs
  · apply Except.Agree.error
  · apply (Except.Agree.of_eq rfl).map
    rintro id _ rfl
    apply h.tokenOf id

/-- Twin registries know twin tokens. -/
theorem Twin.contains_eq (h : registry.Twin lifetime lifetime' registry') {token token' : Token}
    (htoken : token.Twin lifetime lifetime' token') :
  registry.contains token = registry'.contains token'
  := by
  have hsame : ∀ id, token = registry.tokenOf id ↔ token' = registry'.tokenOf id := by
    intro id
    obtain ⟨number, sigil, began⟩ := token
    obtain ⟨number', sigil', began'⟩ := token'
    obtain ⟨⟨rfl, rfl⟩, rfl, rfl⟩ := htoken
    simp only [Registry.tokenOf, Token.mk.injEq, h.config_eq, h.lifetime_eq, h.lifetime_eq']
  rw [Bool.eq_iff_iff, contains_iff, contains_iff, h.size_eq, h.firstId_eq]
  simp only [hsame]

/-- Twin registries find twins among the tokens that they do not know. -/
theorem Twin.find?_unknown (h : registry.Twin lifetime lifetime' registry')
    {tokens tokens' : List Token}
    (htokens : List.Forall₂ (Token.Twin lifetime lifetime') tokens tokens') :
  Option.Rel (Token.Twin lifetime lifetime')
    (tokens.find? fun token => !registry.contains token)
    (tokens'.find? fun token => !registry'.contains token)
  := by
  induction htokens with
  | nil => exact Option.Rel.none
  | cons htoken _ ih =>
    rw [List.find?_cons, List.find?_cons, h.contains_eq htoken]
    split
    · exact Option.Rel.some htoken
    · exact ih

theorem Twin.extend (h : registry.Twin lifetime lifetime' registry') (entry : Option Value) :
  (registry.extend entry).Twin lifetime lifetime' (registry'.extend entry)
  := by
  use h.config_eq, congrArg (·.push entry) h.entries_eq, h.lifetime_eq
  apply h.lifetime_eq'

theorem Twin.rollback (h : registry.Twin lifetime lifetime' registry') (mark : Nat) :
  (registry.rollback mark).Twin lifetime lifetime' (registry'.rollback mark)
  := by
  use h.config_eq, congrArg (·.take mark) h.entries_eq, h.lifetime_eq
  apply h.lifetime_eq'

variable {α β : Type} {r : α → β → Prop}

/-- Computations that lead from twin registries to twin registries, with results that
agree. -/
abbrev TwinOn (lifetime lifetime' : Lifetime) (r : α → β → Prop) (x : Allocating α)
    (y : Allocating β) : Prop :=
  Agree (Twin lifetime lifetime') r x y

theorem twinOn_issue (entry : Option Value) :
  TwinOn lifetime lifetime' (Token.Twin lifetime lifetime') (issue entry) (issue entry)
  := by
  intro registry registry' h
  have hnext := h.agree_nextToken
  rw [issue, issue]
  generalize registry.nextToken = next at hnext
  generalize registry'.nextToken = next' at hnext
  cases hnext with
  | error e =>
    use h
    constructor
    · rfl
    · apply Except.Agree.error e
  | ok htoken =>
    use h.extend entry
    constructor
    · show [Event.issued _ _] = [Event.issued _ _]
      rw [htoken.id_eq, htoken.sigil_eq]
    · apply Except.Agree.ok htoken

theorem twinOn_allocate {value value' : Value} (h : value = value') :
  TwinOn lifetime lifetime' (Token.Twin lifetime lifetime') (allocate value) (allocate value')
  := by
  rw [h]
  apply twinOn_issue

theorem twinOn_atomic {x : Allocating α} {y : Allocating β}
    (h : TwinOn lifetime lifetime' r x y) :
  TwinOn lifetime lifetime' r (atomic x) (atomic y)
  := agree_atomic (fun _ _ => Twin.size_eq) (fun _ _ mark htwin => htwin.rollback mark) h

theorem twinOn_makeRoom (query : Query) :
  TwinOn lifetime lifetime' Eq (makeRoom query) (makeRoom query)
  := by
  intro registry registry' h
  rw [makeRoom, makeRoom, h.capacity_eq, h.size_eq]
  split_ifs
  · exact ⟨h, Traced.Agree.of_eq rfl⟩
  · exact ⟨h, Traced.Agree.of_eq rfl⟩

theorem twinOn_absorb (query : Query) :
  TwinOn lifetime lifetime' (Absorbed.Twin lifetime lifetime') (absorb query) (absorb query)
  := by
  apply (twinOn_makeRoom query).bind
  rintro _ _ rfl
  apply (Agree.lift (Traced.Agree.of_eq rfl)).bind
  rintro body _ rfl
  have hvisit : TwinOn lifetime lifetime' (Absorbed.Twin lifetime lifetime')
      (Absorbed.traverse allocate ⟨body, query.values⟩)
      (Absorbed.traverse allocate ⟨body, query.values⟩) := by
    have hvalues : List.Forall₂ Eq query.values query.values := List.forall₂_refl _
    apply (Agree.mapM hvalues fun _ _ => twinOn_allocate).bind
    intro entries entries' hentries
    apply Agree.pure
    exact ⟨rfl, hentries⟩
  apply (twinOn_atomic hvisit).bind
  intro absorbed absorbed' htwin
  rw [htwin.entries.length_eq]
  apply (Agree.lift (Traced.Agree.of_eq rfl)).bind
  rintro _ _ rfl
  apply Agree.pure htwin

/-- Twin registries that are reset are twins in their next lifetimes. -/
theorem Twin.reset (h : registry.Twin lifetime lifetime' registry') :
  (Registry.reset registry).1.Twin lifetime.next lifetime'.next (Registry.reset registry').1
    ∧ (Registry.reset registry).2 = (Registry.reset registry').2
  := by
  constructor
  · use h.config_eq, rfl, congrArg Lifetime.next h.lifetime_eq
    apply congrArg Lifetime.next h.lifetime_eq'
  · rw [Registry.reset, Registry.reset, h.size_eq]

end Registry

/-! ### Twin fragments -/

open Registry (TwinOn)

/-- Binding the same arguments gives forms that differ in twin tokens. -/
theorem Clause.twinOn_bind (clause : Clause) (args : clause.Args) :
  TwinOn lifetime lifetime' (clause.traversal.Related (Token.Twin lifetime lifetime'))
    (clause.bind args) (clause.bind args)
  := by
  have hchecked : TwinOn lifetime lifetime'
      (clause.traversal.Related (Token.Twin lifetime lifetime'))
      (do
        let form ← Stateful.lift (Traced.ofExcept (clause.check args))
        clause.traverse Registry.allocate form)
      (do
        let form ← Stateful.lift (Traced.ofExcept (clause.check args))
        clause.traverse Registry.allocate form) := by
    apply (Agree.lift (Traced.Agree.of_eq rfl)).bind
    rintro form _ rfl
    have hsame : clause.traversal.Related Eq form form := ⟨rfl, List.forall₂_refl _⟩
    exact clause.traversal_isLawful.agree_traverse hsame
      fun _ _ => Registry.twinOn_allocate
  cases clause with
  | condition c =>
    cases args with
    | text s => exact hchecked
    | query q =>
      apply (Registry.twinOn_absorb q).bind
      rintro ⟨body, entries⟩ ⟨_, entries'⟩ ⟨rfl, hentries⟩
      apply Agree.pure
      exact ⟨Expression.shape_query hentries.length_eq, hentries⟩
  | _ => exact hchecked

namespace Fragment

variable {clause : Clause} {arity : Arity} {fragment fragment' : Fragment clause arity}

/-- The fragments hold forms that differ in twin tokens only. -/
abbrev Twin (lifetime lifetime' : Lifetime) (fragment fragment' : Fragment clause arity) : Prop :=
  List.Forall₂ (clause.traversal.Related (Token.Twin lifetime lifetime'))
    fragment.items fragment'.items

theorem twin_empty (clause : Clause) (arity : Arity) :
  (empty clause arity).Twin lifetime lifetime' (empty clause arity)
  := by
  rw [Twin, items_empty]
  apply List.Forall₂.nil

/-- Twins are the same when their tokens are replaced by their names. -/
theorem Twin.map_items_eq (h : fragment.Twin lifetime lifetime' fragment') :
  fragment.items.map (clause.traversal.map Token.name)
    = fragment'.items.map (clause.traversal.map Token.name)
  := by
  rw [← List.forall₂_eq_eq_eq, List.forall₂_map_left_iff, List.forall₂_map_right_iff]
  apply List.Forall₂.imp _ h
  intro form form' hform
  apply hform.map_eq_map clause.traversal_isLawful
  exact fun token token' htoken => htoken.name_eq

theorem twinOn_add (h : fragment.Twin lifetime lifetime' fragment') (args : clause.Args) :
  TwinOn lifetime lifetime' (Twin lifetime lifetime') (fragment.add args) (fragment'.add args)
  := by
  cases arity with
  | one =>
    apply (clause.twinOn_bind args).bind
    intro form form' hform
    apply Agree.pure
    exact List.Forall₂.cons hform List.Forall₂.nil
  | many =>
    apply (clause.twinOn_bind args).bind
    intro form form' hform
    have hrefuse : clause.refuseAfter fragment.items form
        = clause.refuseAfter fragment'.items form' := by
      rw [← clause.refuseAfter_map Token.name, ← clause.refuseAfter_map Token.name fragment'.items,
        h.map_items_eq, hform.map_eq_map clause.traversal_isLawful fun _ _ htoken => htoken.name_eq]
    rw [hrefuse]
    apply (Agree.lift (Traced.Agree.of_eq rfl)).bind
    rintro _ _ rfl
    apply Agree.pure
    exact List.rel_append h (List.Forall₂.cons hform List.Forall₂.nil)

theorem agree_clear (h : fragment.Twin lifetime lifetime' fragment') :
  Traced.Agree (Twin lifetime lifetime') fragment.clear fragment'.clear
  := by
  have hset : fragment.isSet = fragment'.isSet := by
    rw [isSet, isSet, Bool.eq_iff_iff, Bool.not_eq_true', Bool.not_eq_true',
      List.isEmpty_eq_false_iff, List.isEmpty_eq_false_iff, ← List.length_pos_iff,
      ← List.length_pos_iff, h.length_eq]
  have hevent : fragment.clearedEvent = fragment'.clearedEvent := by
    cases arity with
    | one => rfl
    | many => rw [clearedEvent, clearedEvent, h.length_eq]
  rw [clear, clear, hset, hevent]
  split_ifs
  · apply (Traced.Agree.of_eq rfl).bind
    rintro _ _ rfl
    exact ⟨rfl, Except.Agree.ok (twin_empty clause arity)⟩
  · exact ⟨rfl, Except.Agree.ok h⟩

theorem twinOn_set (h : fragment.Twin lifetime lifetime' fragment')
    (args : Option clause.Args) :
  TwinOn lifetime lifetime' (Twin lifetime lifetime') (fragment.set args) (fragment'.set args)
  := by
  cases args with
  | none => exact Agree.lift (agree_clear h)
  | some args => exact (Registry.twinOn_atomic (twinOn_add h args)).noteError _

variable {registry registry' : Registry}

/-- Twin registries refuse twin forms alike. -/
theorem verify_eq (hregistry : registry.Twin lifetime lifetime' registry')
    {form form' : clause.Form Token}
    (h : clause.traversal.Related (Token.Twin lifetime lifetime') form form') :
  verify clause registry form = verify clause registry' form'
  := by
  have hliterals : List.Forall₂ (Token.Twin lifetime lifetime') (clause.literals form)
      (clause.literals form') := h.forall₂_literals
  have hfound := hregistry.find?_unknown hliterals
  rw [verify, verify]
  generalize (clause.literals form).find? _ = found at hfound
  generalize (clause.literals form').find? _ = found' at hfound
  cases hfound with
  | none => rfl
  | some htoken =>
    dsimp only
    rw [htoken.name_eq]

theorem agree_get (hregistry : registry.Twin lifetime lifetime' registry')
    (h : fragment.Twin lifetime lifetime' fragment') :
  Traced.Agree (Twin lifetime lifetime') (fragment.get registry) (fragment'.get registry')
  := by
  have hverify : fragment.items.forM (verify clause registry)
      = fragment'.items.forM (verify clause registry') := by
    rw [Twin] at h
    generalize fragment.items = forms at h
    generalize fragment'.items = forms' at h
    induction h with
    | nil => rfl
    | cons hform _ ih =>
      show (verify clause registry _ >>= fun _ => _) = (verify clause registry' _ >>= fun _ => _)
      rw [verify_eq hregistry hform]
      exact congrArg _ (funext fun _ => ih)
  rw [get, get, hverify]
  apply (Traced.Agree.of_eq rfl).bind
  rintro _ _ rfl
  exact ⟨rfl, Except.Agree.ok h⟩

end Fragment

/-! ### Twin statements -/

/-- What is written does not depend on how the slots are renamed before they are named. -/
theorem Template.text_mapSlots {α β : Type} (name : β → String) (f : α → β) (t : Template α) :
  (t.mapSlots f).text name = t.text fun a => name (f a)
  := congrArg String.ofList (chars_mapSlots _ f t)

variable {grammar : Grammar}

namespace Statement

/-- The statements hold the same entries, and forms that differ in twin tokens only. -/
structure Twin (statement statement' : Statement grammar) : Prop where
  registry : statement.registry.Twin statement.registry.lifetime statement'.registry.lifetime
    statement'.registry
  fragment : ∀ field, (statement.fragment field).Twin statement.registry.lifetime
    statement'.registry.lifetime (statement'.fragment field)

variable {statement statement' : Statement grammar}

theorem Twin.agree_get (h : statement.Twin statement') (field : grammar.Field) :
  Traced.Agree (Fragment.Twin statement.registry.lifetime statement'.registry.lifetime)
    (statement.get field) (statement'.get field)
  := Fragment.agree_get h.registry (h.fragment field)

theorem Twin.map_template_eq (h : statement.Twin statement') (field : grammar.Field) :
  (statement.fragment field).template.map (Template.mapSlots Token.name)
    = (statement'.fragment field).template.map (Template.mapSlots Token.name)
  := Fragment.map_template_eq (h.fragment field).map_items_eq

theorem Twin.layout_eq (h : statement.Twin statement') :
  statement.layout = statement'.layout
  := by
  have hpresent : statement.isPresent = statement'.isPresent := by
    funext field
    have hsome := congrArg Option.isSome (h.map_template_eq field)
    rwa [Option.isSome_map, Option.isSome_map] at hsome
  rw [layout, layout, hpresent]

/-- Twins have the same template when tokens are replaced by their names. -/
theorem Twin.agree_template (h : statement.Twin statement') :
  Traced.Agree (fun template template' =>
      template.mapSlots Token.name = template'.mapSlots Token.name)
    statement.template statement'.template
  := by
  have hget : (fun field => discard (statement.get field))
      = fun field => discard (statement'.get field) := by
    funext field
    apply Traced.Agree.eq
    apply (h.agree_get field).bind
    exact fun _ _ _ => Traced.Agree.of_eq rfl
  rw [template, template, hget, h.layout_eq]
  apply (Traced.Agree.of_eq rfl).bind
  rintro _ _ rfl
  apply (Traced.Agree.of_eq rfl).bind
  rintro fields _ rfl
  use rfl
  apply Except.Agree.ok
  rw [Template.mapSlots_spaced, Template.mapSlots_spaced, List.map_cons, List.map_cons,
    Template.mapSlots_word, List.map_filterMap, List.map_filterMap]
  simp only [h.map_template_eq]

theorem Twin.sql_eq (h : statement.Twin statement') :
  statement.sql = statement'.sql
  := by
  apply Traced.Agree.eq
  apply h.agree_template.bind
  intro template template' hnames
  use rfl
  apply Except.Agree.ok
  have htext := congrArg (Template.text id) hnames
  rwa [Template.text_mapSlots, Template.text_mapSlots] at htext

theorem Twin.build_eq (h : statement.Twin statement') :
  statement.build = statement'.build
  := by
  rw [build, build, h.sql_eq, h.registry.boundValues_eq, h.registry.config_eq]

/-! ### Twin steps -/

/-- Twins whose registries change within their lifetimes. -/
theorem Twin.changed (h : statement.Twin statement') {registry registry' : Registry}
    (hregistry : registry.Twin statement.registry.lifetime statement'.registry.lifetime registry') :
  Twin { statement with registry := registry } { statement' with registry := registry' }
  := by
  constructor
  · show registry.Twin registry.lifetime registry'.lifetime registry'
    rw [hregistry.lifetime_eq, hregistry.lifetime_eq']
    apply hregistry
  · intro field
    show Fragment.Twin registry.lifetime registry'.lifetime _ _
    rw [hregistry.lifetime_eq, hregistry.lifetime_eq']
    apply h.fragment field

theorem Twin.put (h : statement.Twin statement') {field : grammar.Field}
    {fragment fragment' : Fragment (grammar.clause field) (grammar.arity field)}
    (hfragment : fragment.Twin statement.registry.lifetime statement'.registry.lifetime
      fragment') :
  (statement.put field fragment).Twin (statement'.put field fragment')
  := by
  constructor
  · apply h.registry
  · intro other
    by_cases hother : field = other
    · subst hother
      rw [fragment_put_self, fragment_put_self]
      apply hfragment
    · rw [fragment_put_of_ne fragment hother, fragment_put_of_ne fragment' hother]
      apply h.fragment other

/-- Computations that lead from twins to twins, with results that agree. -/
abbrev TwinOn {α : Type} (r : α → α → Prop) (x y : Stateful (Statement grammar) α) : Prop :=
  Agree Twin r x y

theorem twinOn_set (field : grammar.Field) (args : Option (grammar.clause field).Args) :
  TwinOn Eq (set field args) (set field args)
  := by
  intro statement statement' h
  obtain ⟨registry, registry', events, hchanged, hresult⟩ :=
    (Fragment.twinOn_set (h.fragment field) args).run h.registry
  obtain ⟨e, hx, hy⟩ | ⟨fragment, fragment', hfragment, hx, hy⟩ := hresult
  · simp only [set, hx, hy]
    use h.changed hchanged
    apply Traced.Agree.of_eq rfl
  · simp only [set, hx, hy]
    rw [← hchanged.lifetime_eq, ← hchanged.lifetime_eq'] at hfragment
    use (h.changed hchanged).put hfragment
    apply Traced.Agree.of_eq rfl

/-- Twins that are reset stay twins, each in its next lifetime. -/
theorem twinOn_reset :
  TwinOn Eq (reset : Stateful (Statement grammar) Unit) reset
  := by
  intro statement statement' h
  obtain ⟨hregistry, hdone⟩ := h.registry.reset
  constructor
  · exact ⟨hregistry, fun _ => Fragment.twin_empty _ _⟩
  · apply Traced.Agree.of_eq hdone

theorem twinOn_ask {α : Type} {r : α → α → Prop} {question : Statement grammar → Traced α}
    (h : ∀ statement statement' : Statement grammar, statement.Twin statement' →
      Traced.Agree r (question statement) (question statement')) :
  TwinOn r (ask question) (ask question)
  := fun statement statement' htwin => ⟨htwin, h statement statement' htwin⟩

end Statement

/-- The same answer; forms that are given differ at most in the lifetimes of their tokens. -/
inductive Reply.Matches : Reply grammar → Reply grammar → Prop where
  | same (reply : Reply grammar) : Matches reply reply
  | held (field : grammar.Field)
      {fragment fragment' : Fragment (grammar.clause field) (grammar.arity field)}
      (h : List.Forall₂ ((grammar.clause field).traversal.Related Token.Matches)
        fragment.items fragment'.items) :
    Matches (.held field fragment) (.held field fragment')

namespace Statement

variable {statement statement' : Statement grammar}

/-- Twins answer every call alike and stay twins. -/
theorem twinOn_perform (call : Call grammar) :
  TwinOn Reply.Matches (perform call) (perform call)
  := by
  cases call with
  | set field args =>
    apply (twinOn_set field args).bind
    rintro _ _ rfl
    apply Agree.pure (Reply.Matches.same _)
  | reset =>
    apply twinOn_reset.bind
    rintro _ _ rfl
    apply Agree.pure (Reply.Matches.same _)
  | get field =>
    have hget : TwinOn (fun fragment fragment' => List.Forall₂
        ((grammar.clause field).traversal.Related Token.Matches) fragment.items fragment'.items)
        (ask fun statement => statement.get field) (ask fun statement => statement.get field) := by
      apply twinOn_ask
      intro statement statement' h
      apply (h.agree_get field).imp
      intro fragment fragment' htwin
      apply htwin.imp
      intro form form' hform
      exact ⟨hform.shape_eq, hform.forall₂_literals.imp fun _ _ htoken => htoken.toMatches⟩
    apply hget.bind
    intro fragment fragment' hmatches
    apply Agree.pure (Reply.Matches.held field hmatches)
  | sql =>
    apply (twinOn_ask fun _ _ h => Traced.Agree.of_eq h.sql_eq).bind
    rintro sql _ rfl
    apply Agree.pure (Reply.Matches.same _)
  | build =>
    apply (twinOn_ask fun _ _ h => Traced.Agree.of_eq h.build_eq).bind
    rintro query _ rfl
    apply Agree.pure (Reply.Matches.same _)
  | values =>
    apply (twinOn_ask fun _ _ h => Traced.Agree.of_eq
      (congrArg Traced.ofExcept h.registry.boundValues_eq)).bind
    rintro values _ rfl
    apply Agree.pure (Reply.Matches.same _)
  | nextId =>
    apply (twinOn_ask fun _ _ h => Traced.Agree.of_eq
      (congrArg Traced.ofExcept h.registry.nextId_eq)).bind
    rintro id _ rfl
    apply Agree.pure (Reply.Matches.same _)

/-- No run tells twins apart. -/
theorem Twin.run (h : statement.Twin statement') (calls : List (Call grammar)) :
  (statement.run calls).1.Twin (statement'.run calls).1
    ∧ List.Forall₂ (Traced.Agree Reply.Matches) (statement.run calls).2 (statement'.run calls).2
  := by
  induction calls generalizing statement statement' with
  | nil => exact ⟨h, List.Forall₂.nil⟩
  | cons call calls ih =>
    obtain ⟨hchanged, hreply⟩ := twinOn_perform call _ _ h
    obtain ⟨hfinal, hreplies⟩ := ih hchanged
    exact ⟨hfinal, List.Forall₂.cons hreply hreplies⟩

/-- A statement that has been reset is the twin of a new one. -/
theorem twin_reset (statement : Statement grammar) :
  (statement.step .reset).1.Twin (Statement.new grammar statement.registry.config)
  := ⟨⟨rfl, rfl, rfl, rfl⟩, fun _ => Fragment.twin_empty _ _⟩

/-! ### Epochs -/

theorem epoch_le_of_transition {call : Call grammar} {result : Except Error (Reply grammar)}
    {changed : Statement grammar} (h : Transition statement call result changed) :
  statement.registry.lifetime.epoch ≤ changed.registry.lifetime.epoch
  := by
  cases h with
  | bound field args checked form registry fragment hbound hitems =>
    rw [registry_put]
    show _ ≤ registry.lifetime.epoch
    rw [hbound.changed_eq, Registry.lifetime_append]
  | reset => exact Nat.le_succ _
  | _ => exact Nat.le_refl _

/-- The epochs of a registry do not come back. -/
theorem epoch_le_run (statement : Statement grammar) (calls : List (Call grammar)) :
  statement.registry.lifetime.epoch ≤ (statement.run calls).1.registry.lifetime.epoch
  := by
  induction calls generalizing statement with
  | nil => exact Nat.le_refl _
  | cons call calls ih =>
    apply (epoch_le_of_transition (transition_step statement call)).trans
    apply ih

end Statement

/-- A reset is as good as new.  After any calls a statement can be reset, and from then on no calls
tell it from a new one with the same configuration: they are answered alike one by one, with the
same errors, texts, queries and values, and with forms whose tokens are written alike.  Its
registry knows none of the tokens that it knew, or that a field held, at any time before the
reset, and refuses them. -/
theorem reset_is_as_good_as_new (grammar : Grammar) (config : Config)
    (calls later : List (Call grammar)) :
  let start := Statement.new grammar config
  let reset := (start.run calls).1.step .reset
  let final := (reset.1.run later).1
  reset.2.result = .ok .done
    ∧ List.Forall₂ (Traced.Agree Reply.Matches) (reset.1.run later).2 (start.run later).2
    ∧ final.registry.config = config
    ∧ ∀ before, before <+: calls →
      let earlier := (start.run before).1
      ∀ token, (earlier.registry.contains token = true
          ∨ ∃ field, token ∈ (earlier.fragment field).tokens) →
        final.registry.contains token = false
          ∧ final.registry.value? token = .error (.allocation (.foreign token.name))
  := by
  intro start reset final
  have hconfig : (start.run calls).1.registry.config = config := Statement.config_run _ calls
  have htwin : reset.1.Twin start := by
    have hreset := Statement.twin_reset (start.run calls).1
    rwa [hconfig] at hreset
  use rfl, (htwin.run later).2
  constructor
  · rw [Statement.config_run]
    exact hconfig
  rintro before ⟨rest, rfl⟩ earlier token htoken
  have hearlier : token.lifetime = earlier.registry.lifetime := by
    apply Registry.lifetime_eq_of_contains
    obtain hknown | ⟨field, hheld⟩ := htoken
    · exact hknown
    · obtain ⟨form, hform, hliteral⟩ := List.mem_flatMap.mp hheld
      exact (Statement.agrees_isKept config before).forall_items field
        (fun form args hkept => hkept.contains) form hform token hliteral
  have hepoch : earlier.registry.lifetime.epoch < final.registry.lifetime.epoch := calc
    earlier.registry.lifetime.epoch
      ≤ (start.run (before ++ rest)).1.registry.lifetime.epoch := by
        rw [(Statement.isRun_run grammar).fst_append]
        apply Statement.epoch_le_run
    _ < reset.1.registry.lifetime.epoch := Nat.lt_succ_self _
    _ ≤ final.registry.lifetime.epoch := reset.1.epoch_le_run later
  have hunknown : final.registry.contains token = false := by
    rw [← Bool.not_eq_true]
    intro hknown
    rw [← hearlier, Registry.lifetime_eq_of_contains hknown] at hepoch
    exact Nat.lt_irrefl _ hepoch
  use hunknown
  apply (Registry.refuses_of_not_contains hunknown).2.1

/-- A statement that has been reset writes the same tokens again. -/
example :
  let calls : List (Call StatementKind.alterPolicy.grammar) :=
    [.set .onTable (some "t"), .set .name (some "p"), .set .renameTo (some "q")]
  let used := ((Statement.new StatementKind.alterPolicy.grammar {}).run calls).1
  ((used.step .reset).1.run calls).1.build.result.toOption.map Query.sql
    = some "ALTER POLICY $2 ON $1 RENAME TO $3"
  := by cbv

end BoundSql
