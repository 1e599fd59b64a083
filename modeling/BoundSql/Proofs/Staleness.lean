import BoundSql.Proofs.Building
import BoundSql.Proofs.Chronicle
import BoundSql.Proofs.Retrieval

/-!
# Stale fragments

Every era of a `Chronicle` has a lifetime of its own, so that a registry refuses a fragment
exactly if this holds literals of another era (`stale_fragments_are_detected`).
-/

namespace BoundSql

open Stateful

/-! ### Arguments without literals -/

/-- The arguments have no literals: they are a flag, a code or a number, a role that is meant by
a keyword, or a query without values. -/
def Clause.HasNoLiterals : (clause : Clause) → clause.Args → Prop
  | .flag _, _ | .cycle, _ | .cascade, _ | .transactionAction, _ | .quantity _, _
  | .limit _, _ | .resetting, _ | .mode, _ | .action, .resetStorage _ => True
  | .role _, args => RoleArgs.name args = none
  | .condition _, .query query => query.values = []
  | .action, .setStorage args => args = []
  | .literal _, _ | .setting _, _ | .table _, _ | .condition _, .text _ | .addColumn, _
  | .dropColumn, _ | .renameColumn, _ | .alterColumn, _ | .action, .addColumn _
  | .action, .alterColumn _ | .action, .dropColumn _ => False

theorem Clause.supplied_eq_nil_iff (clause : Clause) (args : clause.Args) :
  clause.supplied Query.values args = [] ↔ clause.HasNoLiterals args
  := by
  cases clause with
  | role r => exact List.map_eq_nil_iff.trans Option.toList_eq_nil_iff
  | condition c =>
    cases args with
    | text s => exact iff_of_false (List.cons_ne_nil _ _) id
    | query q => exact Iff.rfl
  | action =>
    cases args with
    | setStorage args => exact List.map_eq_nil_iff
    | resetStorage parameters => exact iff_of_true rfl trivial
    | _ => exact iff_of_false (List.cons_ne_nil _ _) id
  | literal | setting | table | addColumn | dropColumn | renameColumn | alterColumn =>
    exact iff_of_false (List.cons_ne_nil _ _) id
  | _ => exact iff_of_true rfl trivial

/-! ### Eras and lifetimes -/

/-- A form has as many tokens as the holding has literals, all from the lifetime of its era. -/
structure Holding.IsFrom (lifetimes : List Lifetime) (clause : Clause) (form : clause.Form Token)
    (holding : Holding) : Prop where
  length_eq : (clause.literals form).length = holding.literals.length
  lifetime_eq : ∀ token ∈ clause.literals form, lifetimes[holding.era]? = some token.lifetime

/-- Later eras do not matter for a form. -/
theorem Holding.IsFrom.append {lifetimes : List Lifetime} {clause : Clause}
    {form : clause.Form Token} {holding : Holding}
    (h : holding.IsFrom lifetimes clause form) (more : List Lifetime) :
  holding.IsFrom (lifetimes ++ more) clause form
  := by
  constructor
  · exact h.length_eq
  · intro token htoken
    have hera := h.lifetime_eq token htoken
    obtain ⟨hlt, -⟩ := List.getElem?_eq_some_iff.mp hera
    rw [List.getElem?_append_left hlt, hera]

namespace Workbench

variable {bench changed : Workbench} {chronicle next : Chronicle} {ledger : Ledger}
  {lifetimes : List Lifetime} {registry : Registry} {r f : String}

/-- A workbench agrees with a chronicle when each era has a lifetime of its own, which is that of
the registry that has begun with it, and the forms of the fragments are from the eras of
what they hold. -/
structure Dates (bench : Workbench) (chronicle : Chronicle) (lifetimes : List Lifetime) : Prop where
  length_eq : lifetimes.length = chronicle.count
  nodup : lifetimes.Nodup
  lt_nextOrigin : ∀ lifetime ∈ lifetimes, lifetime.origin < bench.nextOrigin
  epoch_le : ∀ r registry, bench.registries r = some registry →
    ∀ lifetime ∈ lifetimes, lifetime.origin = registry.lifetime.origin →
      lifetime.epoch ≤ registry.lifetime.epoch
  begun_eq : ∀ r registry, bench.registries r = some registry →
    lifetimes[chronicle.begun r]? = some registry.lifetime
  forall₂_isFrom : ∀ f held, bench.fragments f = some held →
    List.Forall₂ (Holding.IsFrom lifetimes held.clause) held.fragment.items (chronicle.held f)

theorem dates_empty :
  empty.Dates Chronicle.empty []
  := by
  constructor
  · rfl
  · exact List.nodup_nil
  · exact fun lifetime h => absurd h List.not_mem_nil
  · exact fun r registry h => nomatch h
  · exact fun r registry h => nomatch h
  · exact fun f held h => nomatch h

/-- While no lifetime begins or ends, only what the fragments hold has to be compared. -/
theorem Dates.of_lifetimes (h : bench.Dates chronicle lifetimes)
    (hregistries : ∀ r registry, changed.registries r = some registry →
      ∃ before, bench.registries r = some before ∧ registry.lifetime = before.lifetime)
    (hnextOrigin : changed.nextOrigin = bench.nextOrigin)
    (hcount : next.count = chronicle.count) (hbegun : next.begun = chronicle.begun)
    (hheld : ∀ f held, changed.fragments f = some held →
      List.Forall₂ (Holding.IsFrom lifetimes held.clause) held.fragment.items (next.held f)) :
  changed.Dates next lifetimes
  := by
  constructor
  · rw [hcount]
    exact h.length_eq
  · exact h.nodup
  · rw [hnextOrigin]
    exact h.lt_nextOrigin
  · intro r registry hr lifetime hlifetime
    obtain ⟨before, hbefore, hsame⟩ := hregistries r registry hr
    rw [hsame]
    exact h.epoch_le r before hbefore lifetime hlifetime
  · intro r registry hr
    obtain ⟨before, hbefore, hsame⟩ := hregistries r registry hr
    rw [hbegun, hsame]
    exact h.begun_eq r before hbefore
  · exact hheld

/-- Changing a registry within its lifetime keeps the agreement. -/
theorem Dates.putRegistry (h : bench.Dates chronicle lifetimes)
    (hr : bench.registries r = some registry) {after : Registry}
    (hafter : after.lifetime = registry.lifetime) :
  (bench.putRegistry r after).Dates chronicle lifetimes
  := by
  refine h.of_lifetimes ?_ rfl rfl rfl h.forall₂_isFrom
  intro other found hfound
  obtain ⟨rfl, rfl⟩ | ⟨-, hold⟩ := of_registries_putRegistry hfound
  · exact ⟨registry, hr, hafter⟩
  · exact ⟨found, hold, rfl⟩

/-- A registry that begins a lifetime begins an era. -/
theorem Dates.begins (h : bench.Dates chronicle lifetimes) {next : Registry} {nextOrigin : Nat}
    (hbegins : bench.Begins ledger r next nextOrigin)
    (hlater : ∀ lifetime ∈ lifetimes, lifetime.origin = next.lifetime.origin →
      lifetime.epoch < next.lifetime.epoch) :
  Dates ({ bench with nextOrigin := nextOrigin }.putRegistry r next) (chronicle.renew r)
    (lifetimes ++ [next.lifetime])
  := by
  constructor
  · rw [List.length_append, h.length_eq]
    rfl
  · apply List.nodup_append.mpr
    use h.nodup, by simp
    -- the new lifetime is none of the others, for it is later than all of the same origin
    rintro lifetime hold _ hnew rfl
    rw [List.mem_singleton.mp hnew] at hold
    exact Nat.lt_irrefl _ (hlater _ hold rfl)
  · intro lifetime hlifetime
    obtain hold | hnew := List.mem_append.mp hlifetime
    · exact Nat.lt_of_lt_of_le (h.lt_nextOrigin lifetime hold) hbegins.nextOrigin_le
    · rw [List.mem_singleton.mp hnew]
      exact hbegins.lt_nextOrigin
  · intro other found hfound lifetime hlifetime horigin
    obtain ⟨rfl, rfl⟩ | ⟨hother, hfound⟩ := of_registries_putRegistry hfound
    · obtain hold | hnew := List.mem_append.mp hlifetime
      · exact Nat.le_of_lt (hlater lifetime hold horigin)
      · rw [List.mem_singleton.mp hnew]
    · obtain hold | hnew := List.mem_append.mp hlifetime
      · exact h.epoch_le other found hfound lifetime hold horigin
      · -- no registry in another slot has the origin of the new lifetime
        rw [List.mem_singleton.mp hnew] at horigin
        exact absurd (hbegins.eq_of_origin_eq other found hfound horigin.symm) hother
  · intro other found hfound
    obtain ⟨rfl, rfl⟩ | ⟨hother, hfound⟩ := of_registries_putRegistry hfound
    · rw [Chronicle.begun_renew_self, ← h.length_eq]
      exact List.getElem?_concat_length
    · have hera := h.begun_eq other found hfound
      obtain ⟨hlt, -⟩ := List.getElem?_eq_some_iff.mp hera
      rw [chronicle.begun_renew_of_ne hother, List.getElem?_append_left hlt, hera]
  · intro f held hheld
    apply (h.forall₂_isFrom f held hheld).imp
    exact fun form holding hfrom => hfrom.append _

theorem Dates.begins_of_new (h : bench.Dates chronicle lifetimes) {next : Registry}
    (hnext : next.lifetime.origin = bench.nextOrigin) :
  ∀ lifetime ∈ lifetimes, lifetime.origin = next.lifetime.origin →
    lifetime.epoch < next.lifetime.epoch
  := by
  intro lifetime hlifetime horigin
  have hlt := h.lt_nextOrigin lifetime hlifetime
  rw [horigin, hnext] at hlt
  exact absurd hlt (Nat.lt_irrefl _)

/-- Exchanging a fragment together with what it holds keeps the agreement. -/
theorem Dates.putFragment (h : bench.Dates chronicle lifetimes) (f : String)
    {held : HeldFragment} {holdings : List Holding}
    (hheld : List.Forall₂ (Holding.IsFrom lifetimes held.clause) held.fragment.items holdings) :
  (bench.putFragment f held).Dates (chronicle.hold f holdings) lifetimes
  := by
  refine h.of_lifetimes ?_ rfl rfl rfl (forall₂_putFragment h.forall₂_isFrom hheld)
  exact fun r registry hr => ⟨registry, hr, rfl⟩

/-! ### Steps and runs -/

/-- Setting a fragment with a registry keeps the forms of the fragment from the eras of what it
holds. -/
theorem Dates.forall₂_set (h : bench.Dates chronicle lifetimes) {held : HeldFragment}
    (hf : bench.fragments f = some held) (hr : bench.registries r = some registry)
    {args : held.clause.Args} {fragment : Fragment held.clause held.arity} {after : Registry}
    (hset : Succeeds (held.fragment.set (some args)) registry fragment after) :
  List.Forall₂ (Holding.IsFrom lifetimes held.clause) fragment.items
    (held.arity.keep (chronicle.held f) ⟨held.clause, args, chronicle.begun r⟩)
  := by
  obtain ⟨checked, form, hbound, hitems⟩ := Fragment.of_succeeds_set_some hset
  rw [hitems]
  apply Statement.forall₂_keep
  · exact h.forall₂_isFrom f held hf
  constructor
  · rw [hbound.literals_eq, Registry.length_nextTokens,
      Clause.literals_of_check _ hbound.check_eq]
    rfl
  · intro token htoken
    rw [hbound.literals_eq] at htoken
    rw [Registry.eq_tokenOf_of_mem_nextTokens htoken]
    exact h.begun_eq r registry hr

/-- Accepted arguments are held with the era of the registry. -/
theorem Dates.of_succeeds_set (h : bench.Dates chronicle lifetimes) {held : HeldFragment}
    (hf : bench.fragments f = some held) (hr : bench.registries r = some registry)
    {args : held.clause.Args} {fragment : Fragment held.clause held.arity} {after : Registry}
    (hset : Succeeds (held.fragment.set (some args)) registry fragment after) :
  Dates ((bench.putRegistry r after).putFragment f ⟨held.clause, held.arity, fragment⟩)
    (chronicle.hold f
      (held.arity.keep (chronicle.held f) ⟨held.clause, args, chronicle.begun r⟩)) lifetimes
  := by
  have hissues := held.fragment.issues_set (some args) registry
  rw [hset.1] at hissues
  apply (h.putRegistry hr hissues.lifetime_eq).putFragment f
  exact h.forall₂_set hf hr hset

/-- Every effect keeps the agreement with the chronicle. -/
theorem Dates.of_effect (h : bench.Dates chronicle lifetimes) (haccounts : bench.Accounts ledger)
    (heffect : bench.Effect chronicle changed next) :
  ∃ lifetimes, changed.Dates next lifetimes
  := by
  cases heffect with
  | stays => exact ⟨lifetimes, h⟩
  | goesOn hr hafter tokens =>
    have hput := h.putRegistry hr hafter.lifetime_eq
    exact ⟨lifetimes, { hput with }⟩
  | creates r horigin =>
    exact ⟨_, h.begins (haccounts.begins_of_new r horigin) (h.begins_of_new horigin)⟩
  | resets hr =>
    refine ⟨_, h.begins (haccounts.begins_of_reset hr) ?_⟩
    intro lifetime hlifetime horigin
    exact Nat.lt_succ_of_le (h.epoch_le _ _ hr lifetime hlifetime horigin)
  | empties f hitems =>
    use lifetimes
    apply h.putFragment f
    rw [hitems]
    exact List.Forall₂.nil
  | sets hf hr hset => exact ⟨lifetimes, h.of_succeeds_set hf hr hset⟩

/-- A run keeps the agreement with the chronicle. -/
theorem Dates.run (h : bench.Dates chronicle lifetimes) (haccounts : bench.Accounts ledger)
    (commands : List Command) :
  ∃ lifetimes, (bench.run commands).1.Dates (chronicle.along bench commands) lifetimes
  := by
  induction commands generalizing bench chronicle ledger lifetimes with
  | nil => exact ⟨lifetimes, h⟩
  | cons command commands ih =>
    obtain ⟨lifetimes, hstep⟩ := h.of_effect haccounts (bench.effect_step chronicle command)
    exact ih hstep (haccounts.step command)

/-! ### Tokens of other eras -/

/-- Related lists have members that are alike. -/
theorem exists_mem_iff_of_forall₂ {α β : Type} {rel : α → β → Prop} {as : List α} {bs : List β}
    (h : List.Forall₂ rel as bs) {P : α → Prop} {Q : β → Prop}
    (hrel : ∀ a b, rel a b → (P a ↔ Q b)) :
  (∃ a ∈ as, P a) ↔ ∃ b ∈ bs, Q b
  := by
  induction h with
  | nil => simp
  | cons hab _ ih => rw [List.exists_mem_cons_iff, List.exists_mem_cons_iff, hrel _ _ hab, ih]

/-- Of the tokens that have been handed out, a registry knows those from its lifetime. -/
theorem Accounts.contains_iff_lifetime_eq (h : bench.Accounts ledger)
    (hr : bench.registries r = some registry) {token : Token} (htoken : token ∈ ledger.handed) :
  registry.contains token = true ↔ token.lifetime = registry.lifetime
  := by
  constructor
  · exact Registry.lifetime_eq_of_contains
  · intro hsame
    apply h.contains_of_issued r registry hr
    exact (h.isPast token htoken).mem_issued r registry hr hsame

/-- A registry knows the tokens from the lifetime of an era if it has begun with it, and no
others. -/
theorem Dates.contains_iff (h : bench.Dates chronicle lifetimes)
    (haccounts : bench.Accounts ledger) (hr : bench.registries r = some registry)
    {token : Token} (htoken : token ∈ ledger.handed) {era : Nat}
    (hera : lifetimes[era]? = some token.lifetime) :
  registry.contains token = true ↔ era = chronicle.begun r
  := by
  obtain ⟨hlt, -⟩ := List.getElem?_eq_some_iff.mp hera
  rw [haccounts.contains_iff_lifetime_eq hr htoken, ← List.getElem?_inj hlt h.nodup, hera,
    h.begun_eq r registry hr, Option.some_inj]

/-- A registry does not know a token of a form exactly if there are literals in what the form
was made of, and they are from another era. -/
theorem Dates.exists_not_contains_iff (h : bench.Dates chronicle lifetimes)
    (haccounts : bench.Accounts ledger) (hr : bench.registries r = some registry)
    {clause : Clause} {form : clause.Form Token} {holding : Holding}
    (htokens : ∀ token ∈ clause.literals form, token ∈ ledger.handed)
    (hfrom : holding.IsFrom lifetimes clause form) :
  (∃ token ∈ clause.literals form, registry.contains token = false)
    ↔ holding.era ≠ chronicle.begun r ∧ holding.literals ≠ []
  := by
  have hcontains : ∀ token ∈ clause.literals form,
      registry.contains token = false ↔ holding.era ≠ chronicle.begun r := by
    intro token htoken
    rw [← Bool.not_eq_true, ne_eq,
      h.contains_iff haccounts hr (htokens token htoken) (hfrom.lifetime_eq token htoken)]
  rw [← List.length_pos_iff, ← hfrom.length_eq, List.length_pos_iff_exists_mem]
  constructor
  · rintro ⟨token, htoken, hunknown⟩
    exact ⟨(hcontains token htoken).mp hunknown, token, htoken⟩
  · rintro ⟨hera, token, htoken⟩
    exact ⟨token, htoken, (hcontains token htoken).mpr hera⟩

/-- A registry does not know a token of a fragment exactly if this holds literals of another
era. -/
theorem Dates.exists_mem_tokens_iff (h : bench.Dates chronicle lifetimes)
    (haccounts : bench.Accounts ledger) (hr : bench.registries r = some registry)
    {held : HeldFragment} (hf : bench.fragments f = some held) :
  (∃ token ∈ held.fragment.tokens, registry.contains token = false)
    ↔ ∃ holding ∈ chronicle.held f, holding.era ≠ chronicle.begun r ∧ holding.literals ≠ []
  := by
  have htokens : ∀ form ∈ held.fragment.items, ∀ token ∈ held.clause.literals form,
      token ∈ ledger.handed := by
    intro form hform token htoken
    apply haccounts.mem_handed_of_shows token
    exact Or.inr ⟨f, held, hf, List.mem_flatMap.mpr ⟨form, hform, htoken⟩⟩
  rw [← exists_mem_iff_of_forall₂
    ((List.forall₂_and_left _ _).mpr ⟨htokens, h.forall₂_isFrom f held hf⟩)
    fun form holding hform => h.exists_not_contains_iff haccounts hr hform.1 hform.2]
  simp only [Fragment.tokens, List.mem_flatMap]
  constructor
  · rintro ⟨token, ⟨form, hform, htoken⟩, hunknown⟩
    exact ⟨form, hform, token, htoken, hunknown⟩
  · rintro ⟨form, hform, token, htoken, hunknown⟩
    exact ⟨token, ⟨form, hform, htoken⟩, hunknown⟩

/-- What is made of no literals has no tokens. -/
theorem Dates.tokens_eq_nil (h : bench.Dates chronicle lifetimes) {held : HeldFragment}
    (hf : bench.fragments f = some held)
    (hnone : ∀ holding ∈ chronicle.held f, holding.literals = []) :
  held.fragment.tokens = []
  := by
  have hiff := exists_mem_iff_of_forall₂ (h.forall₂_isFrom f held hf)
    (P := fun form => 0 < (held.clause.literals form).length)
    (Q := fun holding => 0 < holding.literals.length)
    fun form holding hfrom => by rw [hfrom.length_eq]
  apply List.eq_nil_iff_forall_not_mem.mpr
  intro token htoken
  obtain ⟨form, hform, hliteral⟩ := List.mem_flatMap.mp htoken
  obtain ⟨holding, hholding, hpos⟩ := hiff.mp ⟨form, hform, List.length_pos_of_mem hliteral⟩
  rw [hnone holding hholding] at hpos
  contradiction

end Workbench

/-! ### Reading fragments -/

/-- Visiting a list fails as one of the visits does. -/
theorem Traced.of_forM_eq_error {α : Type} {f : α → Traced Unit} {as : List α} {e : Error}
    (h : (as.forM f).result = .error e) :
  ∃ a ∈ as, (f a).result = .error e
  := by
  induction as with
  | nil => cases h
  | cons a as ih =>
    have hcons : (a :: as).forM f = f a >>= fun _ => as.forM f := rfl
    rw [hcons, result_bind] at h
    cases ha : (f a).result with
    | error e' =>
      rw [ha] at h
      obtain rfl := Except.error.inj h
      exact ⟨a, List.mem_cons_self, ha⟩
    | ok u =>
      rw [ha] at h
      obtain ⟨found, hfound, he⟩ := ih h
      exact ⟨found, List.mem_cons_of_mem a hfound, he⟩

namespace Fragment

variable {clause : Clause} {arity : Arity}

theorem of_get_eq_error {fragment : Fragment clause arity} {registry : Registry} {e : Error}
    (h : (fragment.get registry).result = .error e) :
  e = .staleToken clause.function
  := by
  rw [get, Traced.result_bind] at h
  cases hverify : (fragment.items.forM (verify clause registry)).result with
  | ok u =>
    rw [hverify] at h
    cases h
  | error e' =>
    rw [hverify] at h
    obtain rfl := Except.error.inj h
    obtain ⟨form, -, hform⟩ := Traced.of_forM_eq_error hverify
    rw [verify] at hform
    split at hform
    · cases hform
    · exact (Except.error.inj hform).symm

/-- A registry refuses a fragment exactly if it does not know one of its tokens. -/
theorem get_eq_stale_iff (fragment : Fragment clause arity) (registry : Registry) :
  (fragment.get registry).result = .error (.staleToken clause.function)
    ↔ ∃ token ∈ fragment.tokens, registry.contains token = false
  := by
  constructor
  · intro h
    by_contra hnone
    have hknown : ∀ form ∈ fragment.items, ∀ token ∈ clause.literals form,
        registry.contains token = true := by
      intro form hform token htoken
      by_contra hunknown
      apply hnone
      exact ⟨token, List.mem_flatMap.mpr ⟨form, hform, htoken⟩, Bool.not_eq_true _ ▸ hunknown⟩
    rw [get_eq_pure hknown] at h
    cases h
  · rintro ⟨token, htoken, hunknown⟩
    cases hget : (fragment.get registry).result with
    | error e => rw [of_get_eq_error hget]
    | ok got =>
      have hknown := contains_of_get hget token htoken
      rw [hunknown] at hknown
      cases hknown

/-- Whoever shows a registry that knows all tokens gets the fragment, and what it builds is
what it renders. -/
theorem build_eq_of_get {fragment : Fragment clause arity} {registry : Registry}
    (h : fragment.get registry = pure fragment) :
  fragment.build registry = pure fragment.template
  := by
  rw [build, h, pure_bind]

theorem build_eq_stale_iff (fragment : Fragment clause arity) (registry : Registry) :
  (fragment.build registry).result = .error (.staleToken clause.function)
    ↔ (fragment.get registry).result = .error (.staleToken clause.function)
  := by
  rw [build, Traced.result_bind]
  cases (fragment.get registry).result with
  | error e =>
    constructor
    · intro h
      rw [Except.error.inj h]
    · intro h
      rw [Except.error.inj h]
      rfl
  | ok got =>
    constructor
    · intro h
      cases h
    · intro h
      cases h

end Fragment

/-- Stale fragments are detected.  After every run of commands, a registry refuses a fragment
exactly if this holds literals from another era than the one that has begun with the registry:
literals for which another registry has issued the tokens, or the same one before it was
reset.  Otherwise it gives the fragment, and what it builds is what the fragment renders.  What
holds no literals can be read with any registry. -/
theorem stale_fragments_are_detected (commands : List Command) :
  let final := (Workbench.empty.run commands).1
  let chronicle := Chronicle.empty.along Workbench.empty commands
  ∀ f held, final.fragments f = some held →
    (∀ r registry, final.registries r = some registry →
      let isStale := ∃ holding ∈ chronicle.held f,
        holding.era ≠ chronicle.begun r ∧ holding.literals ≠ []
      ((held.fragment.get registry).result = .error (.staleToken held.clause.function) ↔ isStale)
        ∧ ((held.fragment.build registry).result = .error (.staleToken held.clause.function)
          ↔ isStale)
        ∧ (¬ isStale → held.fragment.get registry = pure held.fragment
          ∧ held.fragment.build registry = pure held.fragment.template
          ∧ Option.map (Template.text Token.name) <$> held.fragment.build registry
            = pure held.fragment.render))
      ∧ ((∀ holding ∈ chronicle.held f, holding.clause.HasNoLiterals holding.args) →
        ∀ other : Registry, held.fragment.get other = pure held.fragment
          ∧ held.fragment.build other = pure held.fragment.template)
  := by
  intro final chronicle f held hf
  have haccounts := Workbench.accounts_empty.run commands
  obtain ⟨lifetimes, hdates⟩ := Workbench.dates_empty.run Workbench.accounts_empty commands
  have hreads : ∀ registry : Registry,
      (∀ token ∈ held.fragment.tokens, registry.contains token = true) →
      held.fragment.get registry = pure held.fragment := by
    intro registry hknown
    apply Fragment.get_eq_pure
    exact fun form hform token htoken =>
      hknown token (List.mem_flatMap.mpr ⟨form, hform, htoken⟩)
  constructor
  · intro r registry hr isStale
    have hunknown := hdates.exists_mem_tokens_iff haccounts hr hf
    have hget := (held.fragment.get_eq_stale_iff registry).trans hunknown
    use hget, (held.fragment.build_eq_stale_iff registry).trans hget
    intro hfresh
    have hknown : ∀ token ∈ held.fragment.tokens, registry.contains token = true := by
      intro token htoken
      by_contra h
      exact hfresh (hunknown.mp ⟨token, htoken, Bool.not_eq_true _ ▸ h⟩)
    have hbuild := Fragment.build_eq_of_get (hreads registry hknown)
    use hreads registry hknown, hbuild
    rw [hbuild]
    rfl
  · intro hplain other
    have htokens := hdates.tokens_eq_nil hf fun holding hholding =>
      (holding.clause.supplied_eq_nil_iff holding.args).mpr (hplain holding hholding)
    have hget := hreads other (by simp [htokens])
    exact ⟨hget, Fragment.build_eq_of_get hget⟩

/-- A list may mix literals that were set with a registry and with its copy.  Then neither of
them gives it, although their tokens are written alike. -/
example :
  let commands : List Command := [.new "a" {}, .copy "a" "b",
    .fragment "f" (.literal .renameTo) .many, .set "f" "a" (.literal .renameTo) (some "x"),
    .set "f" "b" (.literal .renameTo) (some "y"), .get "f" "a", .get "f" "b"]
  ((Workbench.empty.run commands).2.drop 5).map (Option.map Traced.result)
    = [some (.error (.staleToken "rename_to")), some (.error (.staleToken "rename_to"))]
  := by cbv

end BoundSql
