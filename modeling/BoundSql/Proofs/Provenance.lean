import BoundSql.Proofs.Ledger

/-!
# Tokens are known by who has issued them

Every command keeps the agreement of a workbench with its ledger, so that it holds after
every run.  A registry then knows, of all the tokens that have ever been handed out, exactly
those that it has issued in its present lifetime (`Workbench.contains_iff_issued`), and
refuses the others.
-/

namespace BoundSql

open Stateful

/-- A command that asks a question does not change the workbench. -/
def Command.IsQuestion : Command → Prop
  | .contains _ _ | .hasValue _ _ | .value _ _ | .render _ _ | .token _ | .same _ _
  | .boundValues _ | .nextId _ | .isEmpty _ | .get _ _ | .build _ _ | .renderFragment _
  | .inspect _ => True
  | .new _ _ | .copy _ _ | .allocate _ _ _ | .reserve _ _ | .fill _ _ _ | .bind _ _ _
  | .reset _ | .absorb _ _ _ | .fragment _ _ _ | .set _ _ _ _ | .clear _ => False

namespace Workbench

variable {bench : Workbench} {ledger : Ledger} {r : String}

/-! ### Commands that only look -/

/-- The workbench after a command with the given result. -/
def orStay (bench : Workbench) (result : Option (Workbench × Traced Answer)) : Workbench :=
  (result.map Prod.fst).getD bench

theorem fst_step (bench : Workbench) (command : Command) :
  (bench.step command).1 = bench.orStay (bench.perform command)
  := by
  rw [step, orStay]
  cases bench.perform command with
  | none => rfl
  | some result => rfl

theorem orStay_askRegistry (bench : Workbench) (r : String)
    (question : Registry → Traced Answer) :
  bench.orStay (bench.askRegistry r question) = bench
  := by
  rw [orStay, askRegistry]
  cases bench.registries r with
  | none => rfl
  | some registry => rfl

theorem orStay_ask (bench : Workbench) (r p : String)
    (question : Registry → Token → Except Error Answer) :
  bench.orStay (bench.ask r p question) = bench
  := by
  rw [ask]
  cases bench.tokens p with
  | none => rfl
  | some token => exact orStay_askRegistry bench r _

theorem orStay_askFragment (bench : Workbench) (f : String)
    {question : HeldFragment → Option (Workbench × Traced Answer)}
    (h : ∀ held, bench.orStay (question held) = bench) :
  bench.orStay (bench.fragments f >>= question) = bench
  := by
  cases bench.fragments f with
  | none => rfl
  | some held => exact h held

/-- A question leaves the workbench. -/
theorem step_of_isQuestion (bench : Workbench) {command : Command} (h : command.IsQuestion) :
  (bench.step command).1 = bench
  := by
  rw [fst_step]
  cases command with
  | contains | hasValue | value | render => apply orStay_ask
  | boundValues | nextId | isEmpty => apply orStay_askRegistry
  | get f r | build f r =>
    apply orStay_askFragment
    exact fun held => orStay_askRegistry bench r _
  | renderFragment f | inspect f => exact bench.orStay_askFragment f fun _ => rfl
  | token p =>
    rw [perform]
    cases bench.tokens p with
    | none => rfl
    | some token => rfl
  | same p q =>
    rw [perform]
    cases bench.tokens p with
    | none => rfl
    | some first =>
      cases bench.tokens q with
      | none => rfl
      | some second => rfl
  | _ => contradiction

/-! ### Commands that issue tokens -/

/-- What holds with the changed registry, and still when the rest of the workbench has been
changed, holds after a command on a registry. -/
theorem of_onRegistry {α : Type} {P : Workbench → Prop} {x : Stateful Registry α}
    {finish : Workbench → α → Workbench × Answer} (hnone : bench.registries r = none → P bench)
    (hput : ∀ registry, bench.registries r = some registry →
      P (bench.putRegistry r (x registry).1))
    (hfinish : ∀ registry a changed, bench.registries r = some registry →
      Succeeds x registry a changed → P (bench.putRegistry r changed) →
      P (finish (bench.putRegistry r changed) a).1) :
  P (bench.orStay (bench.onRegistry r x finish))
  := by
  rw [Workbench.onRegistry]
  cases hr : bench.registries r with
  | none => exact hnone hr
  | some registry =>
    have hchanged := hput registry hr
    rcases hx : x registry with ⟨changed, events, e | a⟩
    · rw [hx] at hchanged
      simpa [orStay, hx] using hchanged
    · rw [hx] at hchanged
      have hsucceeds : Succeeds x registry a changed := ⟨congrArg Prod.fst hx, by rw [hx]⟩
      simpa [orStay, hx] using hfinish registry a changed hr hsucceeds hchanged

/-- A computation on the registry in a slot keeps the agreement when what it hands out is
noted, and nothing else is put into the slots for tokens and fragments. -/
theorem Accounts.onRegistry {α : Type} (h : bench.Accounts ledger) {x : Stateful Registry α}
    {handsOut : Registry → List Token} {finish : Workbench → α → Workbench × Answer}
    (hissues : ∀ registry : Registry, registry.Issues (handsOut registry) (x registry).1)
    (hregistries : ∀ next a, (finish next a).1.registries = next.registries)
    (hnextOrigin : ∀ next a, (finish next a).1.nextOrigin = next.nextOrigin)
    (hshows : ∀ registry changed a, Succeeds x registry a changed →
      ∀ token, (finish (bench.putRegistry r changed) a).1.Shows token →
        bench.Shows token ∨ token ∈ handsOut registry) :
  (bench.orStay (bench.onRegistry r x finish)).Accounts (ledger.noteFrom bench r handsOut)
  := by
  apply of_onRegistry (P := fun next => next.Accounts (ledger.noteFrom bench r handsOut))
  · intro hnone
    rw [Ledger.noteFrom, hnone]
    exact h
  · intro registry hr
    rw [Ledger.noteFrom, hr]
    apply h.issues hr (hissues registry)
  · intro registry a changed hr hsucceeds hnoted
    rw [Ledger.noteFrom, hr] at hnoted ⊢
    apply hnoted.of_shows (hregistries _ a) (hnextOrigin _ a)
    intro token htoken
    obtain hold | hnew := hshows registry changed a hsucceeds token htoken
    · apply List.mem_append_left _ (h.mem_handed_of_shows token hold)
    · apply List.mem_append_right _ hnew

theorem Accounts.issue (h : bench.Accounts ledger) (r : String) (p : Option String)
    (entry : Option Value) :
  (bench.orStay (bench.issue r p (Registry.issue entry))).Accounts
    (ledger.noteFrom bench r (Registry.handsOut (Registry.issue entry) List.singleton))
  := by
  apply h.onRegistry
  · exact fun registry => registry.issues_issue entry
  · exact fun _ _ => rfl
  · exact fun _ _ => rfl
  · rintro registry changed token hsucceeds shown (⟨q, hq⟩ | hfragment)
    · obtain rfl | hold := Slots.of_putIn?_eq_some hq
      · right
        rw [Registry.handsOut, hsucceeds.2]
        apply List.mem_singleton_self shown
      · exact Or.inl (Or.inl ⟨q, hold⟩)
    · exact Or.inl (Or.inr hfragment)

theorem Accounts.absorb (h : bench.Accounts ledger) (r : String) (query : Query)
    (ps : List String) :
  (bench.step (.absorb r query ps)).1.Accounts (ledger.after bench (.absorb r query ps))
  := by
  rw [fst_step, perform, Ledger.after]
  apply h.onRegistry
  · exact fun registry => registry.issues_absorb query
  · exact fun _ _ => rfl
  · exact fun _ _ => rfl
  · rintro registry changed absorbed hsucceeds shown (⟨q, hq⟩ | hfragment)
    · obtain hmem | hold := Slots.of_putAll_eq_some hq
      · right
        rwa [Registry.handsOut, hsucceeds.2]
      · exact Or.inl (Or.inl ⟨q, hold⟩)
    · exact Or.inl (Or.inr hfragment)

theorem shows_putFragment {f : String} {held : HeldFragment} {token : Token}
    (h : (bench.putFragment f held).Shows token) :
  bench.Shows token ∨ token ∈ held.fragment.tokens
  := by
  obtain hslot | ⟨g, found, hg, htoken⟩ := h
  · exact Or.inl (Or.inl hslot)
  · obtain rfl | hold := Slots.of_put_eq_some hg
    · exact Or.inr htoken
    · exact Or.inl (Or.inr ⟨g, found, hold, htoken⟩)

theorem Accounts.putFragment (h : bench.Accounts ledger) (f : String) {held : HeldFragment}
    (hitems : held.fragment.items = []) :
  (bench.putFragment f held).Accounts ledger
  := by
  have hshows : ∀ token, (bench.putFragment f held).Shows token → token ∈ ledger.handed := by
    intro token htoken
    obtain hold | hnew := shows_putFragment htoken
    · apply h.mem_handed_of_shows token hold
    · rw [Fragment.tokens, hitems] at hnew
      contradiction
  exact h.of_shows rfl rfl hshows

theorem of_set?_eq_some {held : HeldFragment} {clause : Clause} {args : Option clause.Args}
    {request : Allocating (Fragment held.clause held.arity)}
    (h : held.set? clause args = some request) :
  ∃ args, request = held.fragment.set args
  := by
  rw [HeldFragment.set?] at h
  split_ifs at h with hclause
  use hclause ▸ args
  apply (Option.some.inj h).symm

theorem Accounts.set (h : bench.Accounts ledger) (f r : String) (clause : Clause)
    (args : Option clause.Args) :
  (bench.step (.set f r clause args)).1.Accounts (ledger.after bench (.set f r clause args))
  := by
  rw [fst_step, perform, setFragment, Ledger.after]
  cases hf : bench.fragments f with
  | none => apply h
  | some held =>
    simp only [Option.bind_eq_bind, Option.bind_some]
    cases hrequest : held.set? clause args with
    | none => apply h
    | some request =>
      obtain ⟨args, rfl⟩ := of_set?_eq_some hrequest
      simp only [Option.bind_some]
      apply h.onRegistry
      · exact fun registry => held.fragment.issues_set args registry
      · exact fun _ _ => rfl
      · exact fun _ _ => rfl
      · intro registry changed fragment hsucceeds token hshows
        obtain hold | hnew := shows_putFragment hshows
        · exact Or.inl hold
        · rw [Registry.handsOut, hsucceeds.2]
          obtain hkept | hnewest := Fragment.mem_tokens_of_set hsucceeds hnew
          · exact Or.inl (Or.inr ⟨f, held, hf, hkept⟩)
          · exact Or.inr hnewest

/-! ### Steps and runs -/

theorem Accounts.copy (h : bench.Accounts ledger) (r target : String) :
  (bench.step (.copy r target)).1.Accounts (ledger.after bench (.copy r target))
  := by
  rw [fst_step, perform, Ledger.after]
  cases hr : bench.registries r with
  | none => exact h
  | some registry => exact h.begins (h.begins_of_new target rfl)

theorem Accounts.fill (h : bench.Accounts ledger) (r : String) (value : Value) (count : Nat) :
  (bench.step (.fill r value count)).1.Accounts (ledger.after bench (.fill r value count))
  := by
  rw [fst_step, perform, Ledger.after]
  apply h.onRegistry
  · exact fun registry => registry.issues_fill value count
  · exact fun _ _ => rfl
  · exact fun _ _ => rfl
  · exact fun _ _ _ _ _ hshows => Or.inl hshows

theorem Accounts.bind (h : bench.Accounts ledger) (r p : String) (value : Value) :
  (bench.step (.bind r p value)).1.Accounts ledger
  := by
  rw [fst_step, perform]
  cases hp : bench.tokens p with
  | none => exact h
  | some token =>
    have hnone : ledger.noteFrom bench r (fun _ => []) = ledger := by
      rw [Ledger.noteFrom]
      split
      · rfl
      · apply Ledger.note_nil
    rw [← hnone]
    simp only [Option.bind_eq_bind, Option.bind_some]
    apply h.onRegistry
    · exact fun registry => registry.issues_bind token value
    · exact fun _ _ => rfl
    · exact fun _ _ => rfl
    · exact fun _ _ _ _ _ hshows => Or.inl hshows

theorem Accounts.reset (h : bench.Accounts ledger) (r : String) :
  (bench.step (.reset r)).1.Accounts (ledger.after bench (.reset r))
  := by
  rw [fst_step, perform, Ledger.after, Workbench.onRegistry]
  cases hr : bench.registries r with
  | none => exact h
  | some registry => exact h.begins (h.begins_of_reset hr)

/-- Clearing a fragment is always answered. -/
theorem exists_perform_clear {f : String} {held : HeldFragment}
    (hf : bench.fragments f = some held) :
  ∃ events cleared, Fragment.items cleared = []
    ∧ bench.perform (.clear f)
      = some (bench.putFragment f ⟨held.clause, held.arity, cleared⟩, ⟨events, .ok .done⟩)
  := by
  obtain ⟨events, cleared, hclear, hitems⟩ := held.fragment.exists_clear
  use events, cleared, hitems
  rw [perform, hf]
  simp only [Option.bind_eq_bind, Option.bind_some, hclear]
  rfl

theorem Accounts.clear (h : bench.Accounts ledger) (f : String) :
  (bench.step (.clear f)).1.Accounts ledger
  := by
  rw [fst_step]
  cases hf : bench.fragments f with
  | none =>
    rw [perform, hf]
    exact h
  | some held =>
    obtain ⟨events, cleared, hitems, hclear⟩ := exists_perform_clear hf
    rw [hclear]
    apply h.putFragment f hitems

/-- Every command keeps the agreement with the ledger. -/
theorem Accounts.step (h : bench.Accounts ledger) (command : Command) :
  (bench.step command).1.Accounts (ledger.after bench command)
  := by
  cases command with
  | new r config =>
    rw [fst_step]
    apply h.begins (h.begins_of_new r rfl)
  | copy r target => exact h.copy r target
  | allocate r value p =>
    rw [fst_step]
    apply h.issue r p (some value)
  | reserve r p =>
    rw [fst_step]
    apply h.issue r p none
  | fill r value count => exact h.fill r value count
  | bind r p value => exact h.bind r p value
  | reset r => exact h.reset r
  | absorb r query ps => exact h.absorb r query ps
  | fragment f clause arity =>
    rw [fst_step]
    apply h.putFragment f Fragment.items_empty
  | set f r clause args => exact h.set f r clause args
  | clear f => exact h.clear f
  | _ =>
    rw [step_of_isQuestion]
    · apply h
    · trivial

/-- A run keeps the agreement with the ledger. -/
theorem Accounts.run (h : bench.Accounts ledger) (commands : List Command) :
  (bench.run commands).1.Accounts (ledger.along bench commands)
  := by
  induction commands generalizing bench ledger with
  | nil => exact h
  | cons command commands ih =>
    apply ih
    apply h.step command

end Workbench

/-! ### Tokens that are not known -/

namespace Registry

variable {registry : Registry} {token : Token}

theorem position_of_not_contains (h : registry.contains token = false) :
  registry.position token = .error (.allocation (.foreign token.name))
  := by
  rw [position, Option.isSome_eq_false_iff.mp h |> Option.isNone_iff_eq_none.mp]

/-- A registry refuses a token that it does not know, and is not changed by that. -/
theorem refuses_of_not_contains (h : registry.contains token = false) :
  registry.render token = .error (.allocation (.foreign token.name))
    ∧ registry.value? token = .error (.allocation (.foreign token.name))
    ∧ registry.hasValue token = .error (.allocation (.foreign token.name))
    ∧ ∀ value, Registry.bind token value registry
      = (registry, Traced.fail (.allocation (.foreign token.name)))
  := by
  have hposition := position_of_not_contains h
  constructor
  · rw [render, hposition]
    rfl
  constructor
  · rw [value?, hposition]
    rfl
  constructor
  · rw [hasValue, hposition]
    rfl
  · intro value
    rw [Registry.bind, hposition]

end Registry

/-- Tokens are known by who has issued them.  After every run of commands no two tokens that
have been handed out are equal, and the tokens that can be taken from the workbench are among
them.  Of all these tokens a registry knows exactly those that it has issued itself since it
was created, copied or last reset; it refuses all others, and is not changed by that. -/
theorem Workbench.contains_iff_issued (commands : List Command) :
  let final := (Workbench.empty.run commands).1
  let ledger := Ledger.empty.along Workbench.empty commands
  ledger.handed.Nodup
    ∧ (∀ token, final.Shows token → token ∈ ledger.handed)
    ∧ (∀ r, ∀ token ∈ ledger.issued r, token ∈ ledger.handed)
    ∧ ∀ r registry, final.registries r = some registry →
      (∀ token ∈ ledger.handed, registry.contains token = true ↔ token ∈ ledger.issued r)
        ∧ ∀ token, registry.contains token = false →
          registry.render token = .error (.allocation (.foreign token.name))
            ∧ registry.value? token = .error (.allocation (.foreign token.name))
            ∧ registry.hasValue token = .error (.allocation (.foreign token.name))
            ∧ ∀ value, Registry.bind token value registry
              = (registry, Traced.fail (.allocation (.foreign token.name)))
  := by
  intro final ledger
  have haccounts : final.Accounts ledger := accounts_empty.run commands
  use haccounts.nodup, haccounts.mem_handed_of_shows, haccounts.mem_handed_of_issued
  intro r registry hr
  constructor
  · intro token htoken
    apply haccounts.contains_iff hr htoken
  · intro token hunknown
    apply Registry.refuses_of_not_contains hunknown

/-- Tokens of different lifetimes may be written alike. -/
example :
  (Ledger.empty.along Workbench.empty [.new "a" {}, .allocate "a" (.int 4) none, .reset "a",
    .allocate "a" (.int 5) none, .copy "a" "b", .allocate "b" (.int 6) none]).handed.map Token.name
    = ["$1", "$1", "$2"]
  := by decide

end BoundSql
