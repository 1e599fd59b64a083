import BoundSql.Config.Load
import BoundSql.Proofs.Issuing

/-!
# Room for tokens

A configuration provides numbers for as many tokens as its capacity, as far as these fit into
32 bits.  A registry fits when it has no more tokens than that.  With room for further tokens
they are issued one after another, and a computation on a registry that fits leaves it
fitting, whatever it issues and releases on the way (`Registry.StaysWithin`).
-/

namespace BoundSql

open Stateful

/-! ### Valid configurations -/

namespace Config

/-- The configuration provides the number for a token. -/
structure Provides (config : Config) (id : Nat) : Prop where
  firstId_le : config.firstId.toNat ≤ id
  lt_capacity : id < config.firstId.toNat + config.capacity.toNat
  lt_size : id < UInt32.size

/-- The sigil marks tokens: it is not empty, has no blank and no NUL, and ends in no digit. -/
structure HasSigil (config : Config) : Prop where
  isEmpty_eq : config.sigil.isEmpty = false
  any_isBarred_eq : config.sigil.toList.any isBarred = false
  endsInDigit_eq : endsInDigit config.sigil = false

theorem validate_eq_ok {config : Config} :
  config.validate = .ok () ↔ config.fault? = none
  := by
  rw [validate]
  cases config.fault? with
  | none => simp
  | some fault => simp

/-- A valid configuration has as many numbers as its capacity. -/
theorem le_size_of_validate {config : Config} (h : config.validate = .ok ()) :
  config.firstId.toNat + config.capacity.toNat ≤ UInt32.size
  := by
  rw [validate_eq_ok, fault?] at h
  split_ifs at h with _ _ _ _ hcapacity hroom
  have hpositive : config.capacity.toNat ≠ 0 := fun hzero =>
    hcapacity (UInt32.toNat_inj.mp hzero)
  omega

/-- A configuration that is refused for nothing else has fewer numbers than its capacity. -/
theorem size_lt_of_validate {config : Config} (hsigil : config.HasSigil)
    (hfirstId : config.firstId ≠ 0) (hcapacity : config.capacity ≠ 0)
    (h : config.validate ≠ .ok ()) :
  UInt32.size < config.firstId.toNat + config.capacity.toNat
  := by
  rw [Ne, validate_eq_ok, fault?, hsigil.isEmpty_eq, hsigil.any_isBarred_eq,
    hsigil.endsInDigit_eq] at h
  simp only [Bool.false_eq_true, if_false, if_neg hfirstId, if_neg hcapacity] at h
  have hpositive : config.capacity.toNat ≠ 0 := fun hzero =>
    hcapacity (UInt32.toNat_inj.mp hzero)
  split_ifs at h with hroom
  · omega
  · contradiction

/-- However the settings in a document are read, the configuration that it gives is valid. -/
theorem validate_of_parse {settings? : SettingsReader} {document : String} {config : Config}
    (h : parse settings? document = .ok config) :
  config.validate = .ok ()
  := by
  rw [parse] at h
  split at h
  next => contradiction
  next read _ =>
    split at h
    next => contradiction
    next hfault =>
      obtain rfl := Except.ok.inj h
      apply validate_eq_ok.mpr hfault

theorem validate_of_load {settings? : SettingsReader} {path : String}
    {reading : Except FileFault String} {config : Config}
    (h : load settings? path reading = .ok config) :
  config.validate = .ok ()
  := by
  cases reading with
  | error fault => contradiction
  | ok document =>
    simp only [load] at h
    split at h
    next => contradiction
    next => exact validate_of_parse h

end Config

/-! ### Issuing within the capacity -/

namespace Registry

variable {α β : Type} {registry : Registry}

/-- The registry has no more tokens than its capacity, and a number for each. -/
structure Fits (registry : Registry) : Prop where
  size_le : registry.size ≤ registry.capacity
  le_size : registry.firstId + registry.size ≤ UInt32.size

theorem fits_of_size_eq_zero (h : registry.size = 0) :
  registry.Fits
  := by
  constructor
  · rw [h]
    apply Nat.zero_le
  · rw [h]
    exact Nat.le_of_lt registry.config.firstId.toNat_lt

/-- The tokens of such a registry have numbers that its configuration provides. -/
theorem Fits.provides_of_contains (h : registry.Fits) {token : Token}
    (htoken : registry.contains token = true) :
  registry.config.Provides token.id
  := by
  obtain ⟨k, hk, rfl⟩ := contains_iff.mp htoken
  have hsize := h.size_le
  have hnumber := h.le_size
  constructor
  · exact Nat.le_add_right _ k
  · exact Nat.add_lt_add_left (Nat.lt_of_lt_of_le hk hsize) _
  · exact Nat.lt_of_lt_of_le (Nat.add_lt_add_left hk _) hnumber

/-- A registry has a next token exactly if it has neither exhausted its capacity nor the
numbers. -/
theorem isOk_nextToken :
  registry.nextToken.isOk = true
    ↔ registry.size < registry.capacity ∧ registry.firstId + registry.size < UInt32.size
  := by
  constructor
  · intro hok
    obtain ⟨token, htoken⟩ := Except.exists_eq_ok hok
    obtain ⟨hsize, hid, -⟩ := nextToken_eq_ok.mp htoken
    use hsize
    simpa [isTokenId] using hid
  · rintro ⟨hsize, hid⟩
    rw [nextToken_eq_ok.mpr ⟨hsize, by simpa [isTokenId] using hid, rfl⟩]
    rfl

/-- Where the capacity is not exhausted but the numbers are, that is why there is no next
token. -/
theorem nextToken_of_exhausted (hsize : registry.size < registry.capacity)
    (hid : registry.firstId + registry.size = UInt32.size) :
  registry.nextToken = .error (.allocation .idsExhausted)
  := by
  rw [nextToken, if_neg (Nat.not_le_of_lt hsize), nextId, hid]
  rfl

theorem nextToken_of_full (h : registry.capacity ≤ registry.size) :
  registry.nextToken = .error (.allocation (.full registry.capacity))
  := by
  rw [nextToken, if_pos h]

/-- With room for further tokens they are issued one after another. -/
theorem succeeds_mapM_issue {entries : List (Option Value)}
    (hsize : registry.size + entries.length ≤ registry.capacity)
    (hid : registry.firstId + registry.size + entries.length ≤ UInt32.size) :
  Succeeds (entries.mapM issue) registry (registry.nextTokens entries.length)
    (registry.append entries)
  := by
  induction entries generalizing registry with
  | nil =>
    rw [List.mapM_nil]
    apply succeeds_pure.mpr
    simp [nextTokens]
  | cons entry entries ih =>
    rw [List.length_cons] at hsize hid
    have hnext : registry.nextToken
        = .ok (registry.tokenOf (registry.firstId + registry.size)) := by
      apply nextToken_eq_ok.mpr
      use by omega
      simp only [isTokenId, decide_eq_true_eq, and_true]
      omega
    have hrest : Succeeds (entries.mapM issue) (registry.append [entry])
        ((registry.append [entry]).nextTokens entries.length)
        ((registry.append [entry]).append entries) := by
      apply ih
      · simpa [capacity, Nat.add_assoc, Nat.add_comm 1] using hsize
      · simp only [firstId_append, size_append, List.length_singleton]
        omega
    rw [List.mapM_cons, List.length_cons, registry.nextTokens_succ entry]
    apply succeeds_bind.mpr
    refine ⟨_, _, succeeds_issue.mpr ⟨hnext, rfl⟩, ?_⟩
    apply succeeds_bind.mpr
    refine ⟨_, _, hrest, ?_⟩
    apply succeeds_pure.mpr
    rw [append_append]
    exact ⟨rfl, rfl⟩

/-- Where the numbers run out before the capacity does, tokens are issued up to the last number,
and none behind it. -/
theorem fails_mapM_issue {entries more : List (Option Value)} {entry : Option Value}
    (hsize : registry.size + entries.length < registry.capacity)
    (hid : registry.firstId + registry.size + entries.length = UInt32.size) :
  Fails ((entries ++ entry :: more).mapM issue) registry (.allocation .idsExhausted)
    (registry.append entries)
  := by
  have hnext : (registry.append entries).nextToken = .error (.allocation .idsExhausted) := by
    apply nextToken_of_exhausted
    · rwa [size_append]
    · rwa [firstId_append, size_append, ← Nat.add_assoc]
  have hfails : Fails (issue entry) (registry.append entries) (.allocation .idsExhausted)
      (registry.append entries) := by
    rw [Fails, issue, hnext]
    exact ⟨rfl, rfl⟩
  rw [List.mapM_append, List.mapM_cons]
  apply fails_bind.mpr
  right
  refine ⟨_, _, succeeds_mapM_issue (Nat.le_of_lt hsize) (Nat.le_of_eq hid), ?_⟩
  apply fails_bind.mpr
  left
  apply fails_bind.mpr
  left
  exact hfails

end Registry

/-! ### Computations that report no tokens -/

namespace Traced

variable {α β : Type}

/-- No token is reported as issued. -/
def IsSilent (x : Traced α) : Prop := ∀ id sigil, .issued id sigil ∉ x.events

theorem isSilent_of_events {x : Traced α} (h : x.events = []) :
  x.IsSilent
  := by
  intro id sigil hmem
  rw [h] at hmem
  contradiction

theorem IsSilent.bind {x : Traced α} {f : α → Traced β} (hx : x.IsSilent)
    (hf : ∀ a, (f a).IsSilent) :
  (x >>= f).IsSilent
  := by
  obtain ⟨events, e | a⟩ := x
  · exact hx
  · intro id sigil hmem
    obtain hfirst | hrest := List.mem_append.mp hmem
    · exact hx id sigil hfirst
    · exact hf a id sigil hrest

theorem isSilent_forM {f : α → Traced Unit} (hf : ∀ a, (f a).IsSilent) (as : List α) :
  (as.forM f).IsSilent
  := by
  induction as with
  | nil => exact isSilent_of_events rfl
  | cons a as ih => exact (hf a).bind fun _ => ih

end Traced

namespace Fragment

variable {clause : Clause} {arity : Arity}

theorem isSilent_clear (fragment : Fragment clause arity) :
  fragment.clear.IsSilent
  := by
  rw [clear]
  split_ifs
  · apply Traced.IsSilent.bind
    · intro id sigil hmem
      rw [Traced.note, List.mem_singleton] at hmem
      cases arity <;> contradiction
    · exact fun _ => Traced.isSilent_of_events rfl
  · exact Traced.isSilent_of_events rfl

theorem isSilent_get (fragment : Fragment clause arity) (registry : Registry) :
  (fragment.get registry).IsSilent
  := by
  apply Traced.IsSilent.bind
  · apply Traced.isSilent_forM
    intro form
    rw [verify]
    split
    · exact Traced.isSilent_of_events rfl
    · apply Traced.IsSilent.bind
      · intro id sigil hmem
        rw [Traced.note, List.mem_singleton] at hmem
        contradiction
      · exact fun _ => Traced.isSilent_of_events rfl
  · exact fun _ => Traced.isSilent_of_events rfl

end Fragment

/-! ### Staying within the capacity -/

namespace Registry

variable {α β : Type} {registry : Registry}

/-- The computation leaves the configuration of a registry and keeps its tokens within what
this provides, and it reports no other numbers as issued. -/
def StaysWithin (x : Stateful Registry α) : Prop :=
  ∀ registry, registry.Fits →
    (x registry).1.config = registry.config
      ∧ (x registry).1.Fits
      ∧ ∀ id sigil, .issued id sigil ∈ (x registry).2.events → registry.config.Provides id

theorem staysWithin_lift {x : Traced α} (h : x.IsSilent) :
  StaysWithin (Stateful.lift x)
  := fun _ hfits => ⟨rfl, hfits, fun id sigil hmem => absurd hmem (h id sigil)⟩

theorem staysWithin_pure (a : α) :
  StaysWithin (pure a)
  := staysWithin_lift (Traced.isSilent_of_events rfl)

theorem StaysWithin.bind {x : Allocating α} {f : α → Allocating β} (hx : StaysWithin x)
    (hf : ∀ a, StaysWithin (f a)) :
  StaysWithin (x >>= f)
  := by
  intro registry hfits
  obtain ⟨hconfig, hchanged, hissued⟩ := hx registry hfits
  rcases h : x registry with ⟨changed, events, e | a⟩
  · rw [h] at hconfig hchanged hissued
    rw [run_bind_of_error h]
    exact ⟨hconfig, hchanged, hissued⟩
  · rw [h] at hconfig hchanged hissued
    obtain ⟨hconfig', hfinal, hissued'⟩ := hf a changed hchanged
    rw [run_bind_of_ok h]
    use hconfig'.trans hconfig, hfinal
    intro id sigil hmem
    obtain hfirst | hrest := List.mem_append.mp hmem
    · exact hissued id sigil hfirst
    · rw [← hconfig]
      exact hissued' id sigil hrest

theorem StaysWithin.noteRejected {x : Allocating α} (hx : StaysWithin x) (clause : String) :
  StaysWithin (x.noteError (.rejected clause))
  := by
  intro registry hfits
  obtain ⟨hconfig, hchanged, hissued⟩ := hx registry hfits
  use hconfig, hchanged
  intro id sigil hmem
  apply hissued id sigil
  have hevents : Event.issued id sigil ∈ ((x registry).2.noteError (.rejected clause)).events :=
    hmem
  rw [Traced.noteError] at hevents
  split at hevents
  · simpa using hevents
  · exact hevents

/-- A token that is issued has the next number, for which there is room. -/
theorem fits_extend {token : Token} (hnext : registry.nextToken = .ok token)
    (entry : Option Value) :
  (registry.extend entry).Fits ∧ registry.config.Provides token.id
  := by
  obtain ⟨hsize, hid, rfl⟩ := nextToken_eq_ok.mp hnext
  have hnumber : registry.firstId + registry.size < UInt32.size := by simpa [isTokenId] using hid
  have hgrown : (registry.append [entry]).Fits := by
    constructor
    · rw [size_append]
      exact hsize
    · rw [size_append, firstId_append, ← Nat.add_assoc]
      exact hnumber
  rw [extend_eq_append]
  use hgrown
  apply hgrown.provides_of_contains
  apply contains_iff.mpr
  use registry.size
  constructor
  · rw [size_append]
    exact Nat.lt_succ_self _
  · rfl

theorem staysWithin_issue (entry : Option Value) :
  StaysWithin (issue entry)
  := by
  intro registry hfits
  rw [issue]
  cases hnext : registry.nextToken with
  | error e => exact ⟨rfl, hfits, fun id sigil hmem => absurd hmem List.not_mem_nil⟩
  | ok token =>
    obtain ⟨hgrown, hprovides⟩ := fits_extend hnext entry
    use rfl, hgrown
    intro id sigil hmem
    obtain ⟨rfl, rfl⟩ := Event.issued.inj (List.mem_singleton.mp hmem)
    apply hprovides

theorem staysWithin_mapM {f : α → Allocating β} (hf : ∀ a, StaysWithin (f a)) (as : List α) :
  StaysWithin (as.mapM f)
  := by
  induction as with
  | nil => exact staysWithin_pure []
  | cons a as ih =>
    rw [List.mapM_cons]
    apply (hf a).bind
    intro b
    apply ih.bind
    intro bs
    apply staysWithin_pure

theorem staysWithin_traverse {F : Type → Type} {T : Traversal F} (hT : T.IsLawful)
    {f : α → Allocating β} (hf : ∀ a, StaysWithin (f a)) (x : F α) :
  StaysWithin (T.traverse f x)
  := by
  intro registry hfits
  obtain ⟨hchanged, hevents, -⟩ := hT.run_traverse f x registry
  rw [hchanged, hevents]
  apply staysWithin_mapM hf _ registry hfits

theorem Fits.rollback (h : registry.Fits) (mark : Nat) :
  (registry.rollback mark).Fits
  := by
  have hsize : (registry.rollback mark).size ≤ registry.size := by
    simp only [Registry.rollback, size, Array.take_eq_extract, Array.size_extract]
    omega
  constructor
  · exact hsize.trans h.size_le
  · exact (Nat.add_le_add_left hsize _).trans h.le_size

theorem StaysWithin.atomic {x : Allocating α} (hx : StaysWithin x) :
  StaysWithin (atomic x)
  := by
  intro registry hfits
  obtain ⟨hconfig, hchanged, hissued⟩ := hx registry hfits
  rw [Registry.atomic]
  rcases h : x registry with ⟨changed, events, e | a⟩
  · rw [h] at hconfig hchanged hissued
    exact ⟨hconfig, hchanged.rollback _, hissued⟩
  · rw [h] at hconfig hchanged hissued
    exact ⟨hconfig, hchanged, hissued⟩

theorem staysWithin_fill (value : Value) (count : Nat) :
  StaysWithin (fill value count)
  := by
  have hfill : ∀ count registry last events, registry.Fits →
      (fillFrom value count registry last events).1.config = registry.config
        ∧ (fillFrom value count registry last events).1.Fits
        ∧ ∀ id sigil, .issued id sigil ∈ (fillFrom value count registry last events).2.events →
          .issued id sigil ∈ events ∨ registry.config.Provides id := by
    intro count
    induction count with
    | zero =>
      intro registry last events hfits
      exact ⟨rfl, hfits, fun id sigil hmem => Or.inl (List.mem_reverse.mp hmem)⟩
    | succ count ih =>
      intro registry last events hfits
      rw [fillFrom]
      cases hnext : registry.nextToken with
      | error e => exact ⟨rfl, hfits, fun id sigil hmem => Or.inl (List.mem_reverse.mp hmem)⟩
      | ok token =>
        obtain ⟨hgrown, hprovides⟩ := fits_extend hnext (some value)
        obtain ⟨hconfig, hfinal, hissued⟩ :=
          ih _ (some token) (issuedEvent token :: events) hgrown
        use hconfig, hfinal
        intro id sigil hmem
        obtain hold | hnew := hissued id sigil hmem
        · obtain hsame | hevents := List.mem_cons.mp hold
          · obtain ⟨rfl, rfl⟩ := Event.issued.inj hsame
            exact Or.inr hprovides
          · exact Or.inl hevents
        · exact Or.inr hnew
  intro registry hfits
  obtain ⟨hconfig, hfinal, hissued⟩ := hfill count registry none [] hfits
  use hconfig, hfinal
  intro id sigil hmem
  apply (hissued id sigil hmem).resolve_left List.not_mem_nil

theorem staysWithin_makeRoom (query : Query) :
  StaysWithin (makeRoom query)
  := by
  intro registry hfits
  rw [makeRoom]
  split_ifs
  · exact ⟨rfl, hfits, fun id sigil hmem => absurd hmem List.not_mem_nil⟩
  · exact ⟨rfl, hfits, fun id sigil hmem => absurd hmem List.not_mem_nil⟩

theorem staysWithin_absorb (query : Query) :
  StaysWithin (absorb query)
  := by
  apply (staysWithin_makeRoom query).bind
  intro _
  apply (staysWithin_lift (Traced.isSilent_of_events rfl)).bind
  intro body
  apply StaysWithin.bind
  · apply StaysWithin.atomic
    apply (staysWithin_mapM (fun value => staysWithin_issue (some value)) _).bind
    exact fun _ => staysWithin_pure _
  · intro absorbed
    apply StaysWithin.bind
    · apply staysWithin_lift
      intro id sigil hmem
      cases List.mem_singleton.mp hmem
    · exact fun _ => staysWithin_pure _

theorem staysWithin_bind (token : Token) (value : Value) :
  StaysWithin (Registry.bind token value)
  := by
  intro registry hfits
  obtain ⟨hconfig, -, hsize, -⟩ := registry.issues_bind token value
  have hevents : (Registry.bind token value registry).2.events = [] := by
    rw [Registry.bind]
    split
    · rfl
    · split
      · rfl
      · rfl
  use hconfig
  constructor
  · constructor
    · rw [capacity, hconfig, hsize]
      exact hfits.size_le
    · rw [firstId, hconfig, hsize]
      exact hfits.le_size
  · rw [hevents]
    exact fun id sigil hmem => absurd hmem List.not_mem_nil

theorem staysWithin_reset :
  StaysWithin reset
  := by
  intro registry hfits
  use rfl, fits_of_size_eq_zero rfl
  intro id sigil hmem
  cases List.mem_singleton.mp hmem

end Registry

/-! ### Setting fragments -/

open Registry (StaysWithin)

theorem Clause.staysWithin_bind (clause : Clause) (args : clause.Args) :
  StaysWithin (clause.bind args)
  := by
  unfold bind
  split
  · apply (Registry.staysWithin_absorb _).bind
    exact fun absorbed => Registry.staysWithin_pure _
  · apply (Registry.staysWithin_lift (Traced.isSilent_of_events rfl)).bind
    intro checked
    apply Registry.staysWithin_traverse (traversal_isLawful _)
    exact fun value => Registry.staysWithin_issue (some value)

namespace Fragment

variable {clause : Clause} {arity : Arity}

theorem staysWithin_add (fragment : Fragment clause arity) (args : clause.Args) :
  StaysWithin (fragment.add args)
  := by
  cases arity with
  | one =>
    apply (clause.staysWithin_bind args).bind
    exact fun form => Registry.staysWithin_pure _
  | many =>
    apply (clause.staysWithin_bind args).bind
    intro form
    apply (Registry.staysWithin_lift (Traced.isSilent_of_events rfl)).bind
    exact fun _ => Registry.staysWithin_pure _

theorem staysWithin_set (fragment : Fragment clause arity) (args : Option clause.Args) :
  StaysWithin (fragment.set args)
  := by
  cases args with
  | none => exact Registry.staysWithin_lift fragment.isSilent_clear
  | some args => exact (fragment.staysWithin_add args).atomic.noteRejected clause.function

end Fragment

/-! ### Refusing a query -/

/-- A template that cannot be visited has a slot that cannot. -/
theorem Template.of_traverse_eq_error {ε α β : Type} {f : α → Except ε β} {t : Template α}
    {e : ε} (h : t.traverse f = .error e) :
  ∃ a ∈ t.slots, f a = .error e
  := by
  induction t with
  | nil => contradiction
  | cons symbol t ih =>
    cases symbol with
    | char c =>
      rw [traverse] at h
      cases hrest : traverse f t with
      | error e' =>
        rw [hrest] at h
        obtain rfl := Except.error.inj h
        exact ih hrest
      | ok u =>
        rw [hrest] at h
        contradiction
    | slot a =>
      rw [traverse] at h
      cases hf : f a with
      | error e' =>
        rw [hf] at h
        obtain rfl := Except.error.inj h
        exact ⟨a, List.mem_cons_self, hf⟩
      | ok b =>
        rw [hf] at h
        cases hrest : traverse f t with
        | error e' =>
          rw [hrest] at h
          obtain rfl := Except.error.inj h
          obtain ⟨a', ha', he⟩ := ih hrest
          exact ⟨a', List.mem_cons_of_mem a ha', he⟩
        | ok u =>
          rw [hrest] at h
          contradiction

/-- The only reason not to read a query is a token that names no value, unless the search for
the tokens does not end. -/
theorem Query.of_references_eq_error {query : Query} {fault : AllocationFault}
    (h : query.references = .error fault) :
  (query.sigil = "" ∧ fault = .endlessSearch)
    ∨ ∃ reference, fault = .danglingReference reference query.values.length
  := by
  by_cases hsigil : query.sigil = ""
  · rw [references_of_eq_empty hsigil] at h
    exact Or.inl ⟨hsigil, (Except.error.inj h).symm⟩
  · right
    rw [references_of_ne hsigil] at h
    obtain ⟨numeral, -, hresolve⟩ := Template.of_traverse_eq_error h
    rw [resolve] at hresolve
    split at hresolve
    next => contradiction
    next => exact ⟨_, (Except.error.inj hresolve).symm⟩

namespace Registry

variable {registry : Registry}

theorem of_nextToken_eq_error {e : Error} (h : registry.nextToken = .error e) :
  (e = .allocation (.full registry.capacity) ∧ registry.capacity ≤ registry.size)
    ∨ (e = .allocation .idsExhausted ∧ UInt32.size ≤ registry.firstId + registry.size)
  := by
  rw [nextToken, nextId] at h
  split_ifs at h with hfull hid
  · exact Or.inl ⟨(Except.error.inj h).symm, hfull⟩
  · contradiction
  · exact Or.inr ⟨(Except.error.inj h).symm, by simpa [isTokenId] using hid⟩

/-- Tokens cannot be issued for all values when the registry gets full or the numbers run out
before. -/
theorem of_fails_mapM_allocate {values : List Value} {changed : Registry} {e : Error}
    (h : Fails (values.mapM allocate) registry e changed) :
  (e = .allocation (.full registry.capacity)
      ∧ registry.capacity < registry.size + values.length)
    ∨ (e = .allocation .idsExhausted
      ∧ UInt32.size < registry.firstId + registry.size + values.length)
  := by
  induction values generalizing registry with
  | nil => cases not_fails_pure h
  | cons value values ih =>
    rw [List.mapM_cons] at h
    rw [List.length_cons]
    obtain hissue | ⟨token, next, hissue, hrest⟩ := fails_bind.mp h
    · cases hnext : registry.nextToken with
      | error e' =>
        rw [Fails, allocate, issue, hnext] at hissue
        obtain rfl := Except.error.inj hissue.2
        apply (of_nextToken_eq_error hnext).imp
        · exact fun hfull => ⟨hfull.1, by omega⟩
        · exact fun hids => ⟨hids.1, by omega⟩
      | ok token =>
        rw [Fails, allocate, issue, hnext] at hissue
        cases hissue.2
    · obtain ⟨-, rfl⟩ := succeeds_issue.mp hissue
      obtain hvalues | ⟨_, _, -, hpure⟩ := fails_bind.mp hrest
      · have hrest := ih hvalues
        rw [capacity, config_append, ← capacity, size_append, firstId_append,
          List.length_singleton] at hrest
        apply hrest.imp
        · exact fun hfull => ⟨hfull.1, by omega⟩
        · exact fun hids => ⟨hids.1, by omega⟩
      · cases not_fails_pure hpure

theorem fails_of_fails_atomic {α : Type} {x : Allocating α} {changed : Registry} {e : Error}
    (h : Fails (atomic x) registry e changed) :
  Fails x registry e (x registry).1
  := by
  rcases hrun : x registry with ⟨next, events, e' | a⟩
  · rw [Fails, atomic, hrun] at h
    rw [Fails, hrun]
    exact ⟨rfl, h.2⟩
  · rw [Fails, atomic, hrun] at h
    cases h.2

/-- Why a registry does not absorb a query: it is too large, the search for its tokens does not
end, one of its tokens names no value, or the numbers run out before its values do. -/
inductive Declines (registry : Registry) (query : Query) : AllocationFault → Prop where
  | tooLarge (h : registry.capacity < registry.size + query.values.length) :
    Declines registry query
      (.queryTooLarge query.values.length (registry.capacity - registry.size))
  | endless (h : query.sigil = "") : Declines registry query .endlessSearch
  | dangling {reference : String}
    (h : query.references = .error (.danglingReference reference query.values.length)) :
    Declines registry query (.danglingReference reference query.values.length)
  | exhausted (hvalues : query.values ≠ [])
    (h : UInt32.size < registry.firstId + registry.size + query.values.length) :
    Declines registry query .idsExhausted

theorem declines_of_fails_absorb {query : Query} {changed : Registry} {e : Error}
    (h : Fails (absorb query) registry e changed) :
  ∃ fault, e = .allocation fault ∧ registry.Declines query fault
  := by
  obtain hroom | ⟨_, _, hroom, hread⟩ := fails_bind.mp h
  · have hresult := hroom.2
    rw [makeRoom] at hresult
    split_ifs at hresult with hlarge
    · exact ⟨_, (Except.error.inj hresult).symm, .tooLarge hlarge⟩
    · contradiction
  obtain ⟨rfl, hcapacity⟩ := succeeds_makeRoom.mp hroom
  obtain hlift | ⟨body, _, hlift, hvisit⟩ := fails_bind.mp hread
  · cases hreferences : query.references with
    | error fault =>
      rw [hreferences] at hlift
      obtain ⟨hsigil, rfl⟩ | ⟨reference, rfl⟩ := Query.of_references_eq_error hreferences
      · exact ⟨_, (Except.error.inj hlift.2).symm, .endless hsigil⟩
      · exact ⟨_, (Except.error.inj hlift.2).symm, .dangling hreferences⟩
    | ok body =>
      rw [hreferences] at hlift
      cases hlift.2
  obtain ⟨rfl, -⟩ := succeeds_lift.mp hlift
  obtain hatomic | ⟨_, _, -, hreport⟩ := fails_bind.mp hvisit
  · obtain hallocate | ⟨_, _, -, hpure⟩ := fails_bind.mp (fails_of_fails_atomic hatomic)
    · obtain ⟨-, hfull⟩ | ⟨rfl, hids⟩ := of_fails_mapM_allocate hallocate
      · exact absurd hcapacity (Nat.not_le_of_lt hfull)
      · have hvalues : query.values ≠ [] := by
          intro hnil
          rw [hnil, List.mapM_nil] at hallocate
          cases not_fails_pure hallocate
        exact ⟨_, rfl, .exhausted hvalues hids⟩
    · cases not_fails_pure hpure
  · obtain hnote | ⟨_, _, -, hpure⟩ := fails_bind.mp hreport
    · cases hnote.2
    · cases not_fails_pure hpure

/-- A query that is refused as too large needs more tokens than remain, and the ones that
remain fill the registry. -/
theorem of_absorb_too_large {query : Query} {needed remaining : Nat}
    (hsize : registry.size ≤ registry.capacity)
    (h : (absorb query registry).2.result
      = .error (.allocation (.queryTooLarge needed remaining))) :
  needed = query.values.length ∧ remaining < needed
    ∧ registry.size + remaining = registry.capacity
  := by
  obtain ⟨fault, hfault, hdeclines⟩ := declines_of_fails_absorb ⟨rfl, h⟩
  obtain rfl := Error.allocation.inj hfault
  cases hdeclines with
  | tooLarge hlarge => omega

end Registry

end BoundSql
