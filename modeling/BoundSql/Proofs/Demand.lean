import BoundSql.Proofs.Admission
import BoundSql.Proofs.Verdict

/-!
# What arguments demand of a registry

A clause looks at all its arguments before it issues a token.  Arguments that it refuses are
refused with the same error by whatever registry they are bound with, and leave no token.  All
others demand room for as many tokens as they supply literals, and nothing else: with that
room, the literals become the further entries of the registry, and the form that is bound has
exactly their tokens (`clauses_own_what_they_issue`).

Only a query can fail for another reason: its tokens have to be found, and each has to name one
of its values (`Clause.NamesValues`).  A query for which this does not hold is bound by no
registry, however much room there is.

Registries are those that operations lead to (`Registry.IsReachable`).  They have no more tokens
than they have room for, so that arguments without literals can always be bound.
-/

namespace BoundSql

open Stateful

/-! ### Reachable registries -/

namespace Registry

variable {registry : Registry}

/-- The registries that can be come by: new ones, and what the operations make of a registry,
whether they succeed or fail. -/
inductive IsReachable : Registry → Prop where
  | new (config : Config) (origin : Nat) : IsReachable (new config origin)
  | copy {registry : Registry} (h : IsReachable registry) (origin : Nat) :
    IsReachable (registry.copy origin)
  | reset {registry : Registry} (h : IsReachable registry) :
    IsReachable (Registry.reset registry).1
  | issue {registry : Registry} (h : IsReachable registry) (entry : Option Value) :
    IsReachable (Registry.issue entry registry).1
  | fill {registry : Registry} (h : IsReachable registry) (value : Value) (count : Nat) :
    IsReachable (Registry.fill value count registry).1
  | bind {registry : Registry} (h : IsReachable registry) (token : Token) (value : Value) :
    IsReachable (Registry.bind token value registry).1
  | absorb {registry : Registry} (h : IsReachable registry) (query : Query) :
    IsReachable (Registry.absorb query registry).1
  | clause {registry : Registry} (h : IsReachable registry) (clause : Clause)
    (args : clause.Args) :
    IsReachable (clause.bind args registry).1
  | set {registry : Registry} (h : IsReachable registry) {clause : Clause} {arity : Arity}
    (fragment : Fragment clause arity) (args : Option clause.Args) :
    IsReachable (fragment.set args registry).1

/-- Reachable registries have no more tokens than they have room for. -/
theorem IsReachable.fits (h : registry.IsReachable) :
  registry.Fits
  := by
  induction h with
  | new config origin => exact fits_of_size_eq_zero rfl
  | copy _ origin ih => exact ⟨ih.size_le, ih.le_size⟩
  | reset _ => exact fits_of_size_eq_zero rfl
  | issue _ entry ih => exact (staysWithin_issue entry _ ih).2.1
  | fill _ value count ih => exact (staysWithin_fill value count _ ih).2.1
  | bind _ token value ih => exact (staysWithin_bind token value _ ih).2.1
  | absorb _ query ih => exact (staysWithin_absorb query _ ih).2.1
  | clause _ clause args ih => exact (clause.staysWithin_bind args _ ih).2.1
  | set _ fragment args ih => exact (fragment.staysWithin_set args _ ih).2.1

end Registry

namespace Statement

variable {grammar : Grammar} {statement : Statement grammar}

theorem isReachable_step (h : statement.registry.IsReachable) (call : Call grammar) :
  (statement.step call).1.registry.IsReachable
  := by
  cases call with
  | set field args =>
    rw [(step_set statement field args).1]
    have hset := h.set (statement.fragment field) args
    rw [set]
    rcases hrun : (statement.fragment field).set args statement.registry with
      ⟨registry, events, e | fragment⟩
    · rw [hrun] at hset
      exact hset
    · rw [hrun] at hset
      exact hset
  | reset => exact h.reset
  | get field => exact (fst_ask_map _ _ statement).symm ▸ h
  | sql => exact (fst_ask_map _ _ statement).symm ▸ h
  | build => exact (fst_ask_map _ _ statement).symm ▸ h
  | values => exact (fst_ask_map _ _ statement).symm ▸ h
  | nextId => exact (fst_ask_map _ _ statement).symm ▸ h

/-- The registry of a statement is reachable, whatever calls are made. -/
theorem isReachable_run (h : statement.registry.IsReachable) (calls : List (Call grammar)) :
  (statement.run calls).1.registry.IsReachable
  := by
  induction calls generalizing statement with
  | nil => exact h
  | cons call calls ih => exact ih (isReachable_step h call)

end Statement

/-! ### Refusals -/

namespace Clause

variable {clause : Clause} {args : clause.Args} {registry changed : Registry} {e : Error}

/-- All tokens of a query are in range: the search for them has an end, since the sigil is not
empty, and each token that it finds in the text names one of the values.  With an empty sigil it
is never known what the tokens are. -/
def NamesValues : (clause : Clause) → clause.Args → Prop
  | .condition _, .query q =>
    q.sigil ≠ "" ∧ ∀ numeral ∈ (scan q.sigil q.sql).slots, q.Names numeral.value
  | _, _ => True

theorem refusing_eq_error {F : Type} {function : String} {checked : Except Rejection F} :
  refusing function checked = .error e
    ↔ ∃ rejection, checked = .error rejection ∧ e = .invalidArgument function rejection
  := by
  cases checked with
  | error rejection => simp [refusing, Except.mapError, eq_comm]
  | ok form => simp [refusing, Except.mapError]

/-- The check refuses arguments, and nothing else unless the tokens of a query are not all in
range. -/
theorem of_check_eq_error (hnames : clause.NamesValues args)
    (h : clause.check args = .error e) :
  ∃ function rejection, e = .invalidArgument function rejection
  := by
  cases clause with
  | flag | cycle | limit => contradiction
  | condition c =>
    cases args with
    | text s =>
      obtain ⟨rejection, -, rfl⟩ := refusing_eq_error.mp h
      exact ⟨c.function, rejection, rfl⟩
    | query q =>
      obtain ⟨body, hbody⟩ := Query.exists_references_iff.mpr hnames
      have hcheck := (Expression.check_query_eq_ok c.function).mpr ⟨body, hbody, rfl⟩
      have hsame := hcheck.symm.trans h
      contradiction
  | _ =>
    obtain ⟨rejection, -, rfl⟩ := refusing_eq_error.mp h
    exact ⟨_, rejection, rfl⟩

/-- The check accepts a query only if all its tokens are in range. -/
theorem namesValues_of_check {checked : clause.Form Value}
    (h : clause.check args = .ok checked) :
  clause.NamesValues args
  := by
  cases clause with
  | condition c =>
    cases args with
    | text s => trivial
    | query q =>
      obtain ⟨body, hbody, -⟩ := (Expression.check_query_eq_ok c.function).mp h
      exact Query.exists_references_iff.mp ⟨body, hbody⟩
  | _ => trivial

/-- A query is never refused as an argument. -/
theorem check_query_ne {c : Condition} {q : Query} {function : String} {rejection : Rejection} :
  (condition c).check (.query q) ≠ .error (.invalidArgument function rejection)
  := by
  intro h
  have hcheck : (q.references.map fun body => Expression.query ⟨body, q.values⟩).mapError
      Error.allocation = .error (.invalidArgument function rejection) := h
  cases hreferences : q.references with
  | error fault =>
    rw [hreferences] at hcheck
    cases hcheck
  | ok body =>
    rw [hreferences] at hcheck
    cases hcheck

/-- What the check refuses as an argument is refused by every registry, and leaves it. -/
theorem fails_bind_of_invalidArgument {function : String} {rejection : Rejection}
    (h : clause.check args = .error (.invalidArgument function rejection))
    (registry : Registry) :
  Fails (clause.bind args) registry (.invalidArgument function rejection) registry
  := by
  unfold bind
  split
  next c q => exact absurd h check_query_ne
  next => exact fails_bind.mpr (Or.inl (fails_lift.mpr ⟨rfl, h⟩))

/-- Arguments are refused by the check, or because the registry cannot serve the request. -/
theorem of_fails_bind (h : Fails (clause.bind args) registry e changed) :
  (clause.check args = .error e ∧ changed = registry) ∨ ∃ fault, e = .allocation fault
  := by
  unfold bind at h
  split at h
  next c q =>
    right
    obtain habsorb | ⟨_, _, -, hpure⟩ := fails_bind.mp h
    · obtain ⟨fault, he, -⟩ := Registry.declines_of_fails_absorb habsorb
      exact ⟨fault, he⟩
    · cases not_fails_pure hpure
  next =>
    obtain hlift | ⟨checked, _, -, hvisit⟩ := fails_bind.mp h
    · left
      obtain ⟨rfl, hcheck⟩ := fails_lift.mp hlift
      exact ⟨hcheck, rfl⟩
    · right
      have hliterals := (traversal_isLawful _).of_fails_traverse hvisit
      obtain ⟨he, -⟩ | ⟨he, -⟩ := Registry.of_fails_mapM_allocate hliterals
      · exact ⟨_, he⟩
      · exact ⟨_, he⟩

theorem check_of_fails_bind {function : String} {rejection : Rejection}
    (h : Fails (clause.bind args) registry (.invalidArgument function rejection) changed) :
  clause.check args = .error (.invalidArgument function rejection) ∧ changed = registry
  := by
  obtain hcheck | ⟨fault, hfault⟩ := of_fails_bind h
  · exact hcheck
  · cases hfault

/-- Arguments that are not refused as such pass the check. -/
theorem exists_checked (hnames : clause.NamesValues args)
    (hvalid : ∀ function rejection changed,
      ¬ Fails (clause.bind args) registry (.invalidArgument function rejection) changed) :
  ∃ checked, clause.check args = .ok checked
  := by
  cases hcheck : clause.check args with
  | ok checked => exact ⟨checked, rfl⟩
  | error e =>
    obtain ⟨function, rejection, rfl⟩ := of_check_eq_error hnames hcheck
    exact absurd (fails_bind_of_invalidArgument hcheck registry) (hvalid _ _ _)

/-! ### Demands -/

/-- Arguments that are bound have their literals issued. -/
theorem hasIssued_of_succeeds_bind {form : clause.Form Token}
    (h : Succeeds (clause.bind args) registry form changed) :
  registry.HasIssued (clause.supplied Query.values args) (clause.literals form) changed
  := by
  obtain ⟨checked, hbound⟩ := clause.of_succeeds_bind h
  rw [← literals_of_check clause hbound.check_eq, hbound.literals_eq, hbound.changed_eq]
  exact registry.hasIssued_nextTokens _

/-- Arguments that are bound have had room for their literals. -/
theorem hasRoom_of_succeeds_bind (hfits : registry.Fits) {form : clause.Form Token}
    (h : Succeeds (clause.bind args) registry form changed) :
  registry.HasRoom (clause.supplied Query.values args).length
  := by
  obtain ⟨hconfig, hchanged, -⟩ := clause.staysWithin_bind args registry hfits
  rw [h.1, (hasIssued_of_succeeds_bind h).changed_eq] at hchanged
  have hsize := hchanged.size_le
  have hnumbers := hchanged.le_size
  rw [Registry.size_append, List.length_map] at hsize hnumbers
  rw [Registry.firstId_append, ← Nat.add_assoc] at hnumbers
  exact ⟨hsize, hnumbers⟩

/-- For a registry that fits, there is room for tokens if the last of them can be numbered. -/
theorem hasRoom_iff (hfits : registry.Fits) {count : Nat} :
  registry.HasRoom count
    ↔ registry.size + count ≤ registry.capacity
      ∧ (count = 0 ∨ registry.firstId + registry.size + count - 1 < UInt32.size)
  := by
  have hnumbers := hfits.le_size
  constructor
  · intro h
    use h.le_capacity
    have := h.le_size
    omega
  · rintro ⟨hcapacity, hlast⟩
    use hcapacity
    omega

end Clause

/-- Clauses own what they issue.  Arguments that are refused as such with one registry are
refused with the same error with every other one, however full it is, and leave no token.  All
others, if the tokens of a query among them are all in range, are bound exactly with registries
that have room for as many tokens as the arguments supply literals, and numbers for them; a
registry without room says so.  Where they are bound, the registry has issued tokens for the
literals and nothing else has changed, and the tokens of the form are these, in order.  A query
with a token out of range is never bound, nor is one whose tokens are searched for without end. -/
theorem clauses_own_what_they_issue (clause : Clause) (args : clause.Args)
    {registry other : Registry} (hother : other.IsReachable) :
  (∀ function rejection changed,
    Fails (clause.bind args) registry (.invalidArgument function rejection) changed →
    changed = registry
      ∧ Fails (clause.bind args) other (.invalidArgument function rejection) other)
  ∧ ((∀ function rejection changed,
      ¬ Fails (clause.bind args) registry (.invalidArgument function rejection) changed) →
    clause.NamesValues args →
    let literals := clause.supplied Query.values args
    let hasRoom := other.size + literals.length ≤ other.capacity
      ∧ (literals.length = 0
        ∨ other.firstId + other.size + literals.length - 1 < UInt32.size)
    ((∃ form changed, Succeeds (clause.bind args) other form changed) ↔ hasRoom)
      ∧ (¬ hasRoom → ∃ fault changed,
        Fails (clause.bind args) other (.allocation fault) changed)
      ∧ ∀ form changed, Succeeds (clause.bind args) other form changed →
        other.HasIssued literals (clause.literals form) changed)
  ∧ (¬ clause.NamesValues args →
    ∀ form changed, ¬ Succeeds (clause.bind args) other form changed)
  := by
  constructor
  · intro function rejection changed h
    obtain ⟨hcheck, rfl⟩ := Clause.check_of_fails_bind h
    exact ⟨rfl, Clause.fails_bind_of_invalidArgument hcheck other⟩
  constructor
  · intro hvalid hnames literals hasRoom
    obtain ⟨checked, hcheck⟩ := Clause.exists_checked hnames hvalid
    have hroom : other.HasRoom literals.length ↔ hasRoom := Clause.hasRoom_iff hother.fits
    have hbinds : (∃ form changed, Succeeds (clause.bind args) other form changed)
        ↔ hasRoom := by
      constructor
      · rintro ⟨form, changed, h⟩
        exact hroom.mp (Clause.hasRoom_of_succeeds_bind hother.fits h)
      · intro h
        exact Clause.succeeds_bind_of_check (hroom.mpr h) hcheck
    use hbinds
    constructor
    · intro hfull
      obtain ⟨form, h⟩ | ⟨e, h⟩ := succeeds_or_fails (clause.bind args) other
      · exact absurd (hbinds.mp ⟨form, _, h⟩) hfull
      · obtain ⟨herror, -⟩ | ⟨fault, rfl⟩ := Clause.of_fails_bind h
        · rw [hcheck] at herror
          contradiction
        · exact ⟨fault, _, h⟩
    · exact fun form changed => Clause.hasIssued_of_succeeds_bind
  · intro hnames form changed h
    obtain ⟨checked, hbound⟩ := clause.of_succeeds_bind h
    exact hnames (Clause.namesValues_of_check hbound.check_eq)

/-- Arguments with three literals.  They are refused if the collation is empty. -/
def retypeArgs (collation : String) : AlterColumnArgs :=
  ⟨"c", .variant .setDataType, some (.text "text"), some collation⟩

/-- A registry that has reserved a token. -/
def reservedRegistry : Registry := (Registry.issue none (Registry.new {} 0)).1

/-- A registry with room for nine tokens, only two of which have numbers. -/
def narrowRegistry : Registry := Registry.new ⟨"$", 4294967294, 9⟩ 1

/-- A query with three tokens for two values. -/
def ownerQuery : Query := ⟨"owner = $1 OR $1 = $2", [.text "me", .int 3], "$", 1⟩

theorem clauses_own_what_they_issue_of_narrowRegistry :
  reservedRegistry.IsReachable ∧ narrowRegistry.IsReachable
    ∧ Fails (Clause.alterColumn.bind (retypeArgs "")) narrowRegistry
      (.invalidArgument "alter_column" ⟨"collation", .emptyText⟩) narrowRegistry
    ∧ (∃ fault changed,
      Fails (Clause.alterColumn.bind (retypeArgs "C")) narrowRegistry (.allocation fault) changed)
    ∧ (∃ form changed,
      Succeeds (Clause.alterColumn.bind (retypeArgs "C")) reservedRegistry form changed
        ∧ reservedRegistry.HasIssued [.text "c", .text "text", .text "C"]
          (Clause.alterColumn.literals form) changed)
    ∧ (∃ form changed,
      Succeeds ((Clause.condition .using).bind (.query ownerQuery)) reservedRegistry form changed
        ∧ reservedRegistry.HasIssued [.text "me", .int 3]
          ((Clause.condition .using).literals form) changed)
    ∧ ∀ form changed, ¬ Succeeds ((Clause.condition .using).bind
      (.query { ownerQuery with sigil := "" })) reservedRegistry form changed
  := by
  have hreserved : reservedRegistry.IsReachable := (Registry.IsReachable.new {} 0).issue none
  have hnarrow : narrowRegistry.IsReachable := .new _ _
  have hrefused : Fails (Clause.alterColumn.bind (retypeArgs "")) reservedRegistry
      (.invalidArgument "alter_column" ⟨"collation", .emptyText⟩) reservedRegistry := by
    constructor
    · rfl
    · rfl
  have hvalid : ∀ registry function rejection changed,
      ¬ Fails (Clause.alterColumn.bind (retypeArgs "C")) registry
        (.invalidArgument function rejection) changed := by
    intro registry function rejection changed h
    have hcheck : Clause.alterColumn.check (retypeArgs "C") = .ok
        (⟨.text "c", .setDataType (.text "text") (some (.text "C"))⟩ : AlterColumn Value) := by
      rfl
    have herror := (Clause.check_of_fails_bind h).1
    rw [hcheck] at herror
    cases herror
  use hreserved, hnarrow
  constructor
  · exact ((clauses_own_what_they_issue _ _ hnarrow).1 _ _ _ hrefused).2
  constructor
  · obtain ⟨-, hdeclined, -⟩ := (clauses_own_what_they_issue .alterColumn (retypeArgs "C")
      hnarrow).2.1 (hvalid reservedRegistry) trivial
    exact hdeclined (by decide)
  constructor
  · obtain ⟨hbinds, -, hissued⟩ := (clauses_own_what_they_issue .alterColumn (retypeArgs "C")
      hreserved).2.1 (hvalid narrowRegistry) trivial
    obtain ⟨form, changed, h⟩ := hbinds.mpr (by decide)
    exact ⟨form, changed, h, hissued form changed h⟩
  constructor
  · have hnames : (Clause.condition .using).NamesValues (.query ownerQuery) :=
      Query.exists_references_iff.mp (Except.exists_eq_ok (by decide +kernel))
    have hquery : ∀ function rejection changed,
        ¬ Fails ((Clause.condition .using).bind (.query ownerQuery)) narrowRegistry
          (.invalidArgument function rejection) changed :=
      fun _ _ _ h => Clause.check_query_ne (Clause.check_of_fails_bind h).1
    obtain ⟨hbinds, -, hissued⟩ := (clauses_own_what_they_issue (.condition .using)
      (.query ownerQuery) hreserved).2.1 hquery hnames
    obtain ⟨form, changed, h⟩ := hbinds.mpr (by decide)
    exact ⟨form, changed, h, hissued form changed h⟩
  · apply (@clauses_own_what_they_issue (.condition .using)
      (.query { ownerQuery with sigil := "" }) narrowRegistry _ hreserved).2.2
    exact fun hnames => hnames.1 rfl

end BoundSql
