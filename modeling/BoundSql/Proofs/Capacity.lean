import BoundSql.Proofs.Provenance
import BoundSql.Proofs.Room

/-!
# Capacity

No commands bring a registry beyond its capacity, and none reports a token with a number that
the configuration does not provide.  Where the configuration is valid, the capacity is the
only bound: a token is issued as long as there are fewer, and the numbers do not run out
before.  Where it leaves no room for as many numbers, they do (`capacity_is_exact`).
-/

namespace BoundSql

open Stateful

open Registry (StaysWithin)

/-! ### Workbenches -/

namespace Workbench

variable {bench : Workbench} {commands : List Command} {r : String} {registry : Registry}

/-- Every registry has been made with a configuration from one of the commands, and fits into
it. -/
def Bounds (commands : List Command) (bench : Workbench) : Prop :=
  ∀ r registry, bench.registries r = some registry →
    registry.Fits ∧ ∃ target, .new target registry.config ∈ commands

theorem Bounds.putRegistry (h : bench.Bounds commands) (hfits : registry.Fits)
    (hnew : ∃ target, .new target registry.config ∈ commands) :
  (bench.putRegistry r registry).Bounds commands
  := by
  intro other found hfound
  obtain ⟨-, rfl⟩ | ⟨-, hold⟩ := of_registries_putRegistry hfound
  · exact ⟨hfits, hnew⟩
  · exact h other found hold

/-- A computation on the registry in a slot leaves it within its capacity. -/
theorem Bounds.onRegistry {α : Type} (h : bench.Bounds commands) (r : String)
    {x : Stateful Registry α} {finish : Workbench → α → Workbench × Answer}
    (hx : StaysWithin x) (hfinish : ∀ next a, (finish next a).1.registries = next.registries) :
  (bench.orStay (bench.onRegistry r x finish)).Bounds commands
  := by
  apply of_onRegistry (P := Bounds commands)
  · exact fun _ => h
  · intro registry hr
    obtain ⟨hfits, hnew⟩ := h r registry hr
    obtain ⟨hconfig, hchanged, -⟩ := hx registry hfits
    rw [← hconfig] at hnew
    exact h.putRegistry hchanged hnew
  · intro registry a changed _ _ hput other found hfound
    rw [hfinish] at hfound
    exact hput other found hfound

theorem Bounds.set (h : bench.Bounds commands) (f r : String) (clause : Clause)
    (args : Option clause.Args) :
  (bench.step (.set f r clause args)).1.Bounds commands
  := by
  rw [fst_step, perform, setFragment]
  cases bench.fragments f with
  | none => exact h
  | some held =>
    simp only [Option.bind_eq_bind, Option.bind_some]
    cases hrequest : held.set? clause args with
    | none => exact h
    | some request =>
      obtain ⟨args, rfl⟩ := of_set?_eq_some hrequest
      simp only [Option.bind_some]
      exact h.onRegistry r (held.fragment.staysWithin_set args) fun _ _ => rfl

/-- Every command leaves all registries within their capacities. -/
theorem Bounds.step (h : bench.Bounds commands) {command : Command}
    (hcommand : command ∈ commands) :
  (bench.step command).1.Bounds commands
  := by
  cases command with
  | new r config =>
    rw [fst_step]
    exact h.putRegistry (Registry.fits_of_size_eq_zero rfl) ⟨r, hcommand⟩
  | copy r target =>
    rw [fst_step, perform]
    cases hr : bench.registries r with
    | none => exact h
    | some registry =>
      obtain ⟨hfits, hnew⟩ := h r registry hr
      have hcopy : (registry.copy bench.nextOrigin).Fits := ⟨hfits.size_le, hfits.le_size⟩
      exact h.putRegistry (r := target) hcopy hnew
  | allocate r value p =>
    rw [fst_step, perform, issue]
    apply h.onRegistry r (Registry.staysWithin_issue (some value))
    exact fun _ _ => rfl
  | reserve r p =>
    rw [fst_step, perform, issue]
    apply h.onRegistry r (Registry.staysWithin_issue none)
    exact fun _ _ => rfl
  | fill r value count =>
    rw [fst_step, perform]
    apply h.onRegistry r (Registry.staysWithin_fill value count)
    exact fun _ _ => rfl
  | bind r p value =>
    rw [fst_step, perform]
    cases bench.tokens p with
    | none => exact h
    | some token =>
      simp only [Option.bind_eq_bind, Option.bind_some]
      apply h.onRegistry r (Registry.staysWithin_bind token value)
      exact fun _ _ => rfl
  | reset r =>
    rw [fst_step, perform]
    apply h.onRegistry r Registry.staysWithin_reset
    exact fun _ _ => rfl
  | absorb r query ps =>
    rw [fst_step, perform]
    apply h.onRegistry r (Registry.staysWithin_absorb query)
    exact fun _ _ => rfl
  | set f r clause args => exact h.set f r clause args
  | fragment f clause arity => exact h
  | clear f =>
    rw [fst_step]
    cases hf : bench.fragments f with
    | none =>
      rw [perform, hf]
      exact h
    | some held =>
      obtain ⟨events, cleared, -, hclear⟩ := exists_perform_clear hf
      rw [hclear]
      exact h
  | _ =>
    rw [step_of_isQuestion]
    · exact h
    · trivial

/-- After every run all registries are within their capacities. -/
theorem bounds_run (commands : List Command) :
  (Workbench.empty.run commands).1.Bounds commands
  := by
  have hrun : ∀ (rest : List Command) (bench : Workbench), bench.Bounds commands →
      (∀ command ∈ rest, command ∈ commands) → (bench.run rest).1.Bounds commands := by
    intro rest
    induction rest with
    | nil => exact fun bench h _ => h
    | cons command rest ih =>
      intro bench h hrest
      rw [List.forall_mem_cons] at hrest
      exact ih _ (h.step hrest.1) hrest.2
  apply hrun commands
  · exact fun r registry hr => nomatch hr
  · exact fun _ => id

/-! ### What commands report -/

/-- The result of a command on the registry in a slot reports tokens only with numbers that
the configuration provides. -/
def Reports (config : Config) (result : Option (Workbench × Traced Answer)) : Prop :=
  ∀ changed answer, result = some (changed, answer) →
    ∀ id sigil, .issued id sigil ∈ answer.events → config.Provides id

theorem reports_some {config : Config} {changed : Workbench} {answer : Traced Answer}
    (h : answer.IsSilent) :
  Reports config (some (changed, answer))
  := by
  rintro _ _ ⟨⟩ id sigil hmem
  exact absurd hmem (h id sigil)

theorem reports_bind {α : Type} {config : Config} {x : Option α}
    {f : α → Option (Workbench × Traced Answer)} (h : ∀ a, x = some a → Reports config (f a)) :
  Reports config (x >>= f)
  := by
  cases x with
  | none => exact fun _ _ hnone => nomatch hnone
  | some a => exact h a rfl

theorem reports_onRegistry {α : Type} (hr : bench.registries r = some registry)
    (hfits : registry.Fits) {x : Stateful Registry α}
    {finish : Workbench → α → Workbench × Answer} (hx : StaysWithin x) :
  Reports registry.config (bench.onRegistry r x finish)
  := by
  obtain ⟨-, -, hissued⟩ := hx registry hfits
  rw [Workbench.onRegistry, hr]
  rcases hrun : x registry with ⟨changed, events, e | a⟩
  · rw [hrun] at hissued
    simp only [Option.bind_eq_bind, Option.bind_some, hrun]
    rintro _ _ ⟨⟩ id sigil hmem
    exact hissued id sigil hmem
  · rw [hrun] at hissued
    simp only [Option.bind_eq_bind, Option.bind_some, hrun]
    rintro _ _ ⟨⟩ id sigil hmem
    exact hissued id sigil hmem

theorem reports_askRegistry {config : Config} {question : Registry → Traced Answer}
    (h : ∀ registry, (question registry).IsSilent) :
  Reports config (bench.askRegistry r question)
  := reports_bind fun registry _ => reports_some (h registry)

theorem reports_ask {config : Config} {p : String}
    {question : Registry → Token → Except Error Answer} :
  Reports config (bench.ask r p question)
  := reports_bind fun _ _ => reports_askRegistry fun _ => Traced.isSilent_of_events rfl

/-- Every command on a registry reports tokens only with numbers that its configuration
provides. -/
theorem reports_perform (hr : bench.registries r = some registry) (hfits : registry.Fits)
    {command : Command} (hcommand : command.registry? = some r) :
  Reports registry.config (bench.perform command)
  := by
  cases command with
  | token | same | fragment | renderFragment | inspect | clear => contradiction
  | new other config => exact reports_some (Traced.isSilent_of_events rfl)
  | copy other target =>
    exact reports_bind fun _ _ => reports_some (Traced.isSilent_of_events rfl)
  | contains | hasValue | value | render => exact reports_ask
  | boundValues | nextId | isEmpty =>
    exact reports_askRegistry fun _ => Traced.isSilent_of_events rfl
  | get f other =>
    apply reports_bind
    intro held _
    apply reports_askRegistry
    exact fun registry => (held.fragment.isSilent_get registry).bind fun _ =>
      Traced.isSilent_of_events rfl
  | build f other =>
    apply reports_bind
    intro held _
    apply reports_askRegistry
    intro registry
    apply Traced.IsSilent.bind
    · exact (held.fragment.isSilent_get registry).bind fun _ => Traced.isSilent_of_events rfl
    · exact fun _ => Traced.isSilent_of_events rfl
  | allocate other value p =>
    obtain rfl := Option.some.inj hcommand
    rw [perform, issue]
    exact reports_onRegistry hr hfits (Registry.staysWithin_issue (some value))
  | reserve other p =>
    obtain rfl := Option.some.inj hcommand
    rw [perform, issue]
    exact reports_onRegistry hr hfits (Registry.staysWithin_issue none)
  | fill other value count =>
    obtain rfl := Option.some.inj hcommand
    rw [perform]
    exact reports_onRegistry hr hfits (Registry.staysWithin_fill value count)
  | bind other p value =>
    obtain rfl := Option.some.inj hcommand
    rw [perform]
    apply reports_bind
    exact fun token _ => reports_onRegistry hr hfits (Registry.staysWithin_bind token value)
  | reset other =>
    obtain rfl := Option.some.inj hcommand
    rw [perform]
    exact reports_onRegistry hr hfits Registry.staysWithin_reset
  | absorb other query ps =>
    obtain rfl := Option.some.inj hcommand
    rw [perform]
    exact reports_onRegistry hr hfits (Registry.staysWithin_absorb query)
  | set f other clause args =>
    obtain rfl := Option.some.inj hcommand
    rw [perform, setFragment]
    apply reports_bind
    intro held _
    apply reports_bind
    intro request hrequest
    obtain ⟨args, rfl⟩ := of_set?_eq_some hrequest
    exact reports_onRegistry hr hfits (held.fragment.staysWithin_set args)

end Workbench

/-! ### Exactness -/

namespace Registry

/-- Where the configuration is valid, tokens are issued up to the capacity and no further. -/
theorem result_issue_of_validate {registry : Registry} (hvalid : registry.config.validate = .ok ())
    (entry : Option Value) :
  ((issue entry registry).2.result.isOk = true ↔ registry.size < registry.capacity)
    ∧ (registry.capacity ≤ registry.size →
      issue entry registry
        = (registry, Traced.fail (.allocation (.full registry.capacity))))
  := by
  have hroom : registry.firstId + registry.capacity ≤ UInt32.size :=
    Config.le_size_of_validate hvalid
  constructor
  · have hresult : (issue entry registry).2.result.isOk = registry.nextToken.isOk := by
      rw [issue]
      cases registry.nextToken with
      | error e => rfl
      | ok token => rfl
    rw [hresult, isOk_nextToken]
    omega
  · intro hfull
    rw [issue, nextToken_of_full hfull]

end Registry

/-- Capacity is exact.  After any commands every registry has been made with a configuration
of theirs and has at most as many tokens as its capacity.  It knows only tokens with numbers
that the configuration provides, from the first one on and as many as the capacity, all
within 32 bits; and no command reports another number as issued, whether its tokens are kept
or released again.  A query that is refused as too large is told how many tokens remain, which
together with those that there are make up the capacity.  If the configuration is valid, as
are all that documents and files give in whatever way their settings are read, a token is issued
exactly if there are fewer than the capacity, and otherwise because the registry is full.

If on the other hand a configuration with a proper sigil, first number and capacity is not
valid, then a new registry fails for want of numbers before it has as many tokens as its
capacity, whatever they are issued for. -/
theorem capacity_is_exact (commands : List Command) :
  let final := (Workbench.empty.run commands).1
  (∀ r registry, final.registries r = some registry →
    (∃ target, .new target registry.config ∈ commands)
      ∧ registry.size ≤ registry.capacity
      ∧ (∀ token, registry.contains token = true → registry.config.Provides token.id)
      ∧ (∀ command answer, command.registry? = some r →
        (final.step command).2 = some answer →
        ∀ id sigil, .issued id sigil ∈ answer.events → registry.config.Provides id)
      ∧ (∀ query needed remaining,
        (Registry.absorb query registry).2.result
            = .error (.allocation (.queryTooLarge needed remaining)) →
        needed = query.values.length ∧ remaining < needed
          ∧ registry.size + remaining = registry.capacity)
      ∧ (registry.config.validate = .ok () → ∀ entry,
        ((Registry.issue entry registry).2.result.isOk = true
            ↔ registry.size < registry.capacity)
          ∧ (registry.capacity ≤ registry.size → Registry.issue entry registry
            = (registry, Traced.fail (.allocation (.full registry.capacity))))))
  ∧ (∀ settings? document config, Config.parse settings? document = .ok config →
    config.validate = .ok ())
  ∧ (∀ settings? path reading config, Config.load settings? path reading = .ok config →
    config.validate = .ok ())
  ∧ ∀ config : Config, config.HasSigil → config.firstId ≠ 0 → config.capacity ≠ 0 →
    config.validate ≠ .ok () →
    ∃ count < config.capacity.toNat, ∀ origin (entries : List (Option Value)) entry more,
      entries.length = count →
      let fresh := Registry.new config origin
      Fails ((entries ++ entry :: more).mapM Registry.issue) fresh (.allocation .idsExhausted)
        (fresh.append entries)
  := by
  intro final
  constructor
  · intro r registry hr
    obtain ⟨hfits, hnew⟩ := Workbench.bounds_run commands r registry hr
    use hnew, hfits.size_le, fun token => hfits.provides_of_contains
    constructor
    · intro command answer hcommand hanswer
      rw [Workbench.step] at hanswer
      cases hperform : final.perform command with
      | none =>
        rw [hperform] at hanswer
        contradiction
      | some result =>
        rw [hperform] at hanswer
        obtain rfl := Option.some.inj hanswer
        exact Workbench.reports_perform hr hfits hcommand result.1 result.2 hperform
    constructor
    · exact fun query needed remaining => Registry.of_absorb_too_large hfits.size_le
    · exact Registry.result_issue_of_validate
  use fun settings? document config => Config.validate_of_parse
  use fun settings? path reading config => Config.validate_of_load
  intro config hsigil hfirstId hcapacity hinvalid
  have hsize := Config.size_lt_of_validate hsigil hfirstId hcapacity hinvalid
  have hfirst : config.firstId.toNat < UInt32.size := config.firstId.toNat_lt
  use UInt32.size - config.firstId.toNat
  constructor
  · omega
  · intro origin entries entry more hlength fresh
    apply Registry.fails_mapM_issue
    · show 0 + entries.length < config.capacity.toNat
      omega
    · show config.firstId.toNat + 0 + entries.length = UInt32.size
      omega

/-- Of two tokens that the capacity allows the second one has no number. -/
example :
  Registry.fill (.int 4) 2 (Registry.new ⟨"$", 4294967295, 2⟩ 0)
    = ((Registry.new ⟨"$", 4294967295, 2⟩ 0).append [some (.int 4)],
      ⟨[.issued 4294967295 "$"], .error (.allocation .idsExhausted)⟩)
  := by rfl

end BoundSql
