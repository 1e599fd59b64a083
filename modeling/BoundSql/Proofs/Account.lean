import BoundSql.Proofs.Provenance

/-!
# The account of a registry

An `Account` notes what has happened to one registry since it was created: the tokens that
it has issued, in order, those of them that were reserved, and the values that tokens have
been bound to.  It is kept from the commands and their results, without a look at the entries
of the registry.  These agree with it after every run (`Registry.Balances`), so that the
position of a value is that of its token in the order of issue, whenever the token has been
bound (`values_stand_in_order_of_issue`).
-/

namespace BoundSql

open Stateful

/-- What has happened to one registry. -/
structure Account where
  /-- The tokens, in the order in which they were issued. -/
  issued : List Token := []
  /-- The tokens that were issued without a value. -/
  reserved : List Token := []
  /-- The tokens that were given a value, at once or later. -/
  bound : List (Token × Value) := []

namespace Account

/-- An account that is continued by another one. -/
protected def append (account more : Account) : Account where
  issued := account.issued ++ more.issued
  reserved := account.reserved ++ more.reserved
  bound := account.bound ++ more.bound

instance : Append Account := ⟨Account.append⟩

@[simp]
theorem issued_append (account more : Account) :
  (account ++ more).issued = account.issued ++ more.issued
  := rfl

@[simp]
theorem reserved_append (account more : Account) :
  (account ++ more).reserved = account.reserved ++ more.reserved
  := rfl

@[simp]
theorem bound_append (account more : Account) :
  (account ++ more).bound = account.bound ++ more.bound
  := rfl

@[simp]
theorem append_empty (account : Account) :
  account ++ {} = account
  := by
  obtain ⟨issued, reserved, bound⟩ := account
  show Account.append _ _ = _
  simp [Account.append]

theorem append_assoc (account more rest : Account) :
  account ++ more ++ rest = account ++ (more ++ rest)
  := by
  obtain ⟨issued, reserved, bound⟩ := account
  show Account.append (Account.append _ _) _ = Account.append _ (Account.append _ _)
  simp only [Account.append, List.append_assoc]

/-- The account of tokens that are issued for values, in order. -/
def ofValues (tokens : List Token) (values : List Value) : Account where
  issued := tokens
  bound := tokens.zip values

/-- The account of a token that is reserved. -/
def ofReserved (token : Token) : Account where
  issued := [token]
  reserved := [token]

/-- The account of a token that is bound to a value. -/
def ofBound (token : Token) (value : Value) : Account where
  bound := [(token, value)]

end Account

/-! ### Keeping accounts -/

namespace Registry

/-- The account of a computation on a registry: that of its result, and nothing if it
fails. -/
def accountOf {α : Type} (x : Stateful Registry α) (account : α → Account)
    (registry : Registry) : Account :=
  match (x registry).2.result with
  | .ok a => account a
  | .error _ => {}

end Registry

namespace Workbench

/-- The account of a computation on the registry in a slot, if there is one. -/
def accountFrom (bench : Workbench) (r : String) (account : Registry → Account) : Account :=
  match bench.registries r with
  | none => {}
  | some registry => account registry

/-- The account of a command, of the registry that it uses. -/
def accountOf (bench : Workbench) : Command → Account
  | .allocate r value _ =>
    bench.accountFrom r
      (Registry.accountOf (Registry.allocate value) fun token => .ofValues [token] [value])
  | .reserve r _ => bench.accountFrom r (Registry.accountOf Registry.reserve .ofReserved)
  | .fill r value count =>
    bench.accountFrom r fun registry =>
      let tokens := Registry.handsOutFilling value count registry
      .ofValues tokens (tokens.map fun _ => value)
  | .bind r p value =>
    match bench.tokens p with
    | none => {}
    | some token =>
      bench.accountFrom r
        (Registry.accountOf (Registry.bind token value) fun _ => .ofBound token value)
  | .absorb r query _ =>
    bench.accountFrom r
      (Registry.accountOf (Registry.absorb query) fun absorbed =>
        .ofValues absorbed.entries query.values)
  | .set f r clause args =>
    match bench.fragments f with
    | none => {}
    | some held =>
      match held.set? clause args with
      | none => {}
      | some request =>
        bench.accountFrom r
          (Registry.accountOf request fun fragment =>
            .ofValues fragment.newest (args.toList.flatMap (clause.supplied Query.values)))
  | _ => {}

/-- What a command does with the registry in one slot. -/
def accountAt (bench : Workbench) (r : String) (command : Command) : Account :=
  if command.registry? = some r then bench.accountOf command else {}

/-- The account of the registry in one slot when commands are performed one after
another. -/
def accountAlong (bench : Workbench) (r : String) : List Command → Account
  | [] => {}
  | command :: commands =>
    bench.accountAt r command ++ (bench.step command).1.accountAlong r commands

end Workbench

/-- The command puts another registry into a slot, or resets the one that is there. -/
def Command.Begins (r : String) : Command → Prop
  | .new other _ => other = r
  | .copy _ target => target = r
  | .reset other => other = r
  | _ => False

/-! ### What an account describes -/

namespace Account

variable {account more : Account} {tokens next : List Token}
  {entries rest : List (Option Value)} {token : Token} {value : Value}

/-- The account describes tokens with their entries: the tokens were issued in this order, and
the entry of each is the value that it has been bound to.  No token has been bound twice, and
none but a reserved one is without a value. -/
structure Describes (account : Account) (tokens : List Token)
    (entries : List (Option Value)) : Prop where
  issued_eq : account.issued = tokens
  entries_eq : entries = tokens.map fun token => account.bound.lookup token
  nodup_bound : (account.bound.map Prod.fst).Nodup
  mem_of_bound : ∀ token ∈ account.bound.map Prod.fst, token ∈ tokens
  mem_of_reserved : ∀ token ∈ account.reserved, token ∈ tokens
  mem_reserved : ∀ token ∈ tokens, account.bound.lookup token = none → token ∈ account.reserved

theorem describes_empty :
  Describes {} [] []
  := by
  constructor <;> simp

theorem lookup_eq_none_iff :
  account.bound.lookup token = none ↔ token ∉ account.bound.map Prod.fst
  := by
  rw [List.lookup_eq_none_iff, List.mem_map, not_exists]
  constructor
  · rintro h pair ⟨hpair, rfl⟩
    simpa using h pair hpair
  · intro h pair hpair
    rw [bne_iff_ne]
    rintro rfl
    apply h pair ⟨hpair, rfl⟩

theorem lookup_append_of_notMem_right (h : token ∉ more.bound.map Prod.fst) :
  (account ++ more).bound.lookup token = account.bound.lookup token
  := by
  rw [bound_append, List.lookup_append, lookup_eq_none_iff.mpr h, Option.or_none]

theorem lookup_append_of_notMem_left (h : token ∉ account.bound.map Prod.fst) :
  (account ++ more).bound.lookup token = more.bound.lookup token
  := by
  rw [bound_append, List.lookup_append, lookup_eq_none_iff.mpr h, Option.none_or]

/-- A token has one value at most. -/
theorem Describes.lookup_eq_some_iff (h : account.Describes tokens entries) :
  account.bound.lookup token = some value ↔ (token, value) ∈ account.bound
  := by
  constructor
  · intro hlookup
    obtain ⟨before, after, hbound, -⟩ := List.lookup_eq_some_iff.mp hlookup
    rw [hbound]
    simp
  · intro hmem
    obtain ⟨before, after, hbound⟩ := List.append_of_mem hmem
    apply List.lookup_eq_some_iff.mpr
    use before, after, hbound
    intro pair hpair
    have hnodup := h.nodup_bound
    rw [hbound, List.map_append, List.map_cons, List.nodup_append] at hnodup
    rw [bne_iff_ne]
    rintro rfl
    apply hnodup.2.2 pair.1 (List.mem_map_of_mem hpair) pair.1 List.mem_cons_self rfl

theorem Describes.append (h : account.Describes tokens entries)
    (hmore : more.Describes next rest) (hdisjoint : tokens.Disjoint next) :
  (account ++ more).Describes (tokens ++ next) (entries ++ rest)
  := by
  have hold : ∀ token ∈ tokens,
      (account ++ more).bound.lookup token = account.bound.lookup token := by
    intro token htoken
    apply lookup_append_of_notMem_right
    exact fun hbound => hdisjoint htoken (hmore.mem_of_bound token hbound)
  have hnew : ∀ token ∈ next,
      (account ++ more).bound.lookup token = more.bound.lookup token := by
    intro token htoken
    apply lookup_append_of_notMem_left
    exact fun hbound => hdisjoint (h.mem_of_bound token hbound) htoken
  constructor
  · rw [issued_append, h.issued_eq, hmore.issued_eq]
  · rw [List.map_append, List.map_congr_left hold, List.map_congr_left hnew, ← h.entries_eq,
      ← hmore.entries_eq]
  · rw [bound_append, List.map_append, List.nodup_append]
    use h.nodup_bound, hmore.nodup_bound
    rintro token hbound _ hbound' rfl
    apply hdisjoint (h.mem_of_bound token hbound) (hmore.mem_of_bound token hbound')
  · rw [bound_append, List.map_append]
    intro token htoken
    exact (List.mem_append.mp htoken).elim
      (fun hbound => List.mem_append_left next (h.mem_of_bound token hbound))
      (fun hbound => List.mem_append_right tokens (hmore.mem_of_bound token hbound))
  · rw [reserved_append]
    intro token htoken
    exact (List.mem_append.mp htoken).elim
      (fun hreserved => List.mem_append_left next (h.mem_of_reserved token hreserved))
      (fun hreserved => List.mem_append_right tokens (hmore.mem_of_reserved token hreserved))
  · intro token htoken hlookup
    rw [reserved_append]
    obtain hmem | hmem := List.mem_append.mp htoken
    · rw [hold token hmem] at hlookup
      apply List.mem_append_left _ (h.mem_reserved token hmem hlookup)
    · rw [hnew token hmem] at hlookup
      apply List.mem_append_right _ (hmore.mem_reserved token hmem hlookup)

theorem map_lookup_zip {values : List Value} (hnodup : tokens.Nodup)
    (hlength : tokens.length = values.length) :
  (tokens.map fun token => (tokens.zip values).lookup token) = values.map some
  := by
  induction tokens generalizing values with
  | nil =>
    rw [List.eq_nil_of_length_eq_zero hlength.symm]
    rfl
  | cons first tokens ih =>
    cases values with
    | nil => contradiction
    | cons value values =>
      rw [List.nodup_cons] at hnodup
      have hrest : ∀ token ∈ tokens, ((first :: tokens).zip (value :: values)).lookup token
          = (tokens.zip values).lookup token := by
        intro token htoken
        have hne : (token == first) = false := by
          rw [beq_eq_false_iff_ne]
          rintro rfl
          apply hnodup.1 htoken
        rw [List.zip_cons_cons, List.lookup_cons, hne]
      rw [List.map_cons, List.map_congr_left hrest, ih hnodup.2 (Nat.succ.inj hlength),
        List.zip_cons_cons, List.lookup_cons_self, List.map_cons]

theorem describes_ofValues {values : List Value} (hnodup : tokens.Nodup)
    (hlength : tokens.length = values.length) :
  (ofValues tokens values).Describes tokens (values.map some)
  := by
  have hkeys : (tokens.zip values).map Prod.fst = tokens :=
    List.map_fst_zip (Nat.le_of_eq hlength)
  constructor
  · rfl
  · exact (map_lookup_zip hnodup hlength).symm
  · rwa [ofValues, hkeys]
  · rw [ofValues, hkeys]
    exact fun _ htoken => htoken
  · intro token htoken
    contradiction
  · intro token htoken hlookup
    rw [lookup_eq_none_iff, ofValues, hkeys] at hlookup
    contradiction

theorem describes_ofReserved (token : Token) :
  (ofReserved token).Describes [token] [none]
  := by
  constructor <;> simp [ofReserved]

/-- Binding a token that has no value changes the entry at its position. -/
theorem Describes.bind (h : account.Describes tokens entries) (hnodup : tokens.Nodup) {i : Nat}
    (htoken : tokens[i]? = some token) (hentry : entries[i]? = some none) :
  (account ++ ofBound token value).Describes tokens (entries.set i (some value))
  := by
  have hmem : token ∈ tokens := List.mem_of_getElem? htoken
  have hunbound : token ∉ account.bound.map Prod.fst := by
    rw [h.entries_eq, List.getElem?_map, htoken] at hentry
    exact lookup_eq_none_iff.mp (Option.some.inj hentry)
  have hself : (account ++ ofBound token value).bound.lookup token = some value := by
    rw [lookup_append_of_notMem_left hunbound]
    apply List.lookup_cons_self
  have hother : ∀ other, other ≠ token →
      (account ++ ofBound token value).bound.lookup other = account.bound.lookup other := by
    intro other hne
    apply lookup_append_of_notMem_right
    simpa [ofBound] using hne
  constructor
  · rw [issued_append, h.issued_eq]
    apply List.append_nil
  · apply List.ext_getElem?
    intro k
    rw [List.getElem?_map]
    by_cases hk : i = k
    · subst hk
      obtain ⟨hlt, -⟩ := List.getElem?_eq_some_iff.mp hentry
      rw [List.getElem?_set_self hlt, htoken, Option.map_some, hself]
    · rw [List.getElem?_set_ne hk, h.entries_eq, List.getElem?_map]
      cases hother' : tokens[k]? with
      | none => rfl
      | some other =>
        have hne : other ≠ token := by
          rintro rfl
          apply hk
          obtain ⟨hlt, -⟩ := List.getElem?_eq_some_iff.mp htoken
          apply (List.getElem?_inj hlt hnodup).mp
          rw [htoken, hother']
        rw [Option.map_some, Option.map_some, hother other hne]
  · rw [bound_append, List.map_append, List.nodup_append]
    use h.nodup_bound, List.pairwise_singleton _ token
    rintro other hbound _ hsingle rfl
    rw [List.mem_singleton.mp hsingle] at hbound
    contradiction
  · rw [bound_append, List.map_append]
    intro other hbound
    obtain hold | hnew := List.mem_append.mp hbound
    · apply h.mem_of_bound other hold
    · rwa [List.mem_singleton.mp hnew]
  · rw [reserved_append]
    intro other hreserved
    apply h.mem_of_reserved other
    simpa [ofBound] using hreserved
  · intro other hissued hlookup
    rw [reserved_append]
    apply List.mem_append_left
    by_cases hne : other = token
    · rw [hne, hself] at hlookup
      contradiction
    · rw [hother other hne] at hlookup
      apply h.mem_reserved other hissued hlookup

end Account

/-! ### Registries that agree with their accounts -/

namespace Registry

variable {registry : Registry} {account : Account} {token : Token} {value : Value}

/-- The tokens that a registry has issued so far, in order. -/
def issuedTokens (registry : Registry) : List Token :=
  (List.range' registry.firstId registry.size).map registry.tokenOf

/-- A registry agrees with an account. -/
def Balances (registry : Registry) (account : Account) : Prop :=
  account.Describes registry.issuedTokens registry.entries.toList

/-- A registry that has issued nothing agrees with the empty account. -/
theorem balances_of_isEmpty (h : registry.isEmpty = true) :
  registry.Balances {}
  := by
  have hentries : registry.entries = #[] := Array.isEmpty_iff.mp h
  rw [Balances, issuedTokens, size, hentries]
  apply Account.describes_empty

theorem issuedTokens_append (registry : Registry) (entries : List (Option Value)) :
  (registry.append entries).issuedTokens
    = registry.issuedTokens ++ registry.nextTokens entries.length
  := by
  rw [issuedTokens, issuedTokens, nextTokens, firstId_append, size_append, tokenOf_append,
    ← List.map_append, List.range'_append_1]

theorem getElem?_issuedTokens {k : Nat} :
  registry.issuedTokens[k]? = some token
    ↔ k < registry.size ∧ token = registry.tokenOf (registry.firstId + k)
  := by
  rw [issuedTokens, List.getElem?_map, Option.map_eq_some_iff]
  constructor
  · rintro ⟨id, hid, rfl⟩
    obtain ⟨hk, rfl⟩ := List.getElem?_eq_some_iff.mp hid
    rw [List.length_range'] at hk
    use hk
    rw [List.getElem_range', Nat.one_mul]
  · rintro ⟨hk, rfl⟩
    use registry.firstId + k
    rw [List.getElem?_range' hk, Nat.one_mul]
    exact ⟨rfl, rfl⟩

theorem nodup_issuedTokens (registry : Registry) :
  registry.issuedTokens.Nodup
  := by
  apply List.Pairwise.map _ _ (List.nodup_range' 1)
  intro id id' hne h
  apply hne (congrArg Token.id h)

/-- What a registry issues next it has not issued before. -/
theorem disjoint_nextTokens (registry : Registry) (count : Nat) :
  registry.issuedTokens.Disjoint (registry.nextTokens count)
  := by
  intro token hissued hnext
  obtain ⟨k, hk⟩ := List.getElem?_of_mem hissued
  obtain ⟨hlt, rfl⟩ := getElem?_issuedTokens.mp hk
  obtain ⟨j, -, hsame⟩ := mem_nextTokens.mp hnext
  have hid : registry.firstId + k = registry.firstId + (registry.size + j) :=
    congrArg Token.id hsame
  omega

theorem Balances.append (h : registry.Balances account) {more : Account}
    {entries : List (Option Value)}
    (hmore : more.Describes (registry.nextTokens entries.length) entries) :
  (registry.append entries).Balances (account ++ more)
  := by
  rw [Balances, issuedTokens_append, toList_entries_append]
  apply Account.Describes.append h hmore (registry.disjoint_nextTokens _)

theorem Balances.appendValues (h : registry.Balances account) (values : List Value) :
  (registry.append (values.map some)).Balances
    (account ++ .ofValues (registry.nextTokens values.length) values)
  := by
  apply h.append
  rw [List.length_map]
  apply Account.describes_ofValues (registry.nodup_nextTokens _)
  apply length_nextTokens

/-! #### Computations -/

/-- The computation keeps the agreement of a registry with its account, and leaves its
configuration. -/
def KeepsAccount {α : Type} (x : Stateful Registry α) (noted : Registry → Account) : Prop :=
  ∀ registry account, registry.Balances account →
    (x registry).1.config = registry.config
      ∧ (x registry).1.Balances (account ++ noted registry)

theorem keepsAccount_of_outcome {α : Type} {x : Stateful Registry α} {noted : α → Account}
    (hsucceeds : ∀ registry a changed, Succeeds x registry a changed →
      ∀ account, registry.Balances account →
        changed.config = registry.config ∧ changed.Balances (account ++ noted a))
    (hfails : ∀ registry e changed, Fails x registry e changed → changed = registry) :
  KeepsAccount x (accountOf x noted)
  := by
  intro registry account hbalances
  rcases succeeds_or_fails x registry with ⟨a, h⟩ | ⟨e, h⟩
  · rw [accountOf, h.2]
    apply hsucceeds registry a _ h account hbalances
  · have hstay := hfails registry e _ h
    rw [accountOf, h.2, Account.append_empty]
    rw [hstay]
    use rfl

theorem keepsAccount_allocate (value : Value) :
  KeepsAccount (allocate value)
    (accountOf (allocate value) fun token => .ofValues [token] [value])
  := by
  apply keepsAccount_of_outcome
  · intro registry token changed h account hbalances
    obtain ⟨hnext, rfl⟩ := succeeds_issue.mp h
    obtain ⟨-, -, rfl⟩ := nextToken_eq_ok.mp hnext
    use rfl
    apply hbalances.appendValues [value]
  · exact fun _ _ _ => of_fails_issue

theorem keepsAccount_reserve :
  KeepsAccount reserve (accountOf reserve .ofReserved)
  := by
  apply keepsAccount_of_outcome
  · intro registry token changed h account hbalances
    obtain ⟨hnext, rfl⟩ := succeeds_issue.mp h
    obtain ⟨-, -, rfl⟩ := nextToken_eq_ok.mp hnext
    use rfl
    apply hbalances.append
    apply Account.describes_ofReserved
  · exact fun _ _ _ => of_fails_issue

theorem keepsAccount_bind (token : Token) (value : Value) :
  KeepsAccount (Registry.bind token value)
    (accountOf (Registry.bind token value) fun _ => .ofBound token value)
  := by
  apply keepsAccount_of_outcome
  · intro registry _ changed h account hbalances
    obtain ⟨i, htoken, hentry, rfl⟩ := of_succeeds_bind h
    use rfl
    have hsize : Registry.issuedTokens
        { registry with entries := registry.entries.set i (some value) }
        = registry.issuedTokens := by
      rw [issuedTokens, issuedTokens, size, size, Array.size_set]
      rfl
    rw [Balances, hsize, Array.toList_set]
    apply Account.Describes.bind hbalances registry.nodup_issuedTokens _ hentry
    apply getElem?_issuedTokens.mpr
    exact ⟨i.isLt, htoken⟩
  · exact fun _ _ _ => of_fails_bind

theorem keepsAccount_absorb (query : Query) :
  KeepsAccount (absorb query)
    (accountOf (absorb query) fun absorbed => .ofValues absorbed.entries query.values)
  := by
  apply keepsAccount_of_outcome
  · intro registry absorbed changed h account hbalances
    obtain ⟨-, hentries, rfl, -⟩ := of_succeeds_absorb h
    use rfl
    rw [hentries]
    apply hbalances.appendValues
  · exact fun _ _ _ => of_fails_absorb

theorem keepsAccount_fill (value : Value) (count : Nat) :
  KeepsAccount (fill value count) fun registry =>
    .ofValues (handsOutFilling value count registry)
      ((handsOutFilling value count registry).map fun _ => value)
  := by
  have hfill : ∀ registry account last events, registry.Balances account →
      (fillFrom value count registry last events).1.config = registry.config
        ∧ (fillFrom value count registry last events).1.Balances
          (account ++ .ofValues (handsOutFilling value count registry)
            ((handsOutFilling value count registry).map fun _ => value)) := by
    induction count with
    | zero =>
      intro registry account last events hbalances
      use rfl
      rwa [← account.append_empty] at hbalances
    | succ count ih =>
      intro registry account last events hbalances
      cases hnext : registry.nextToken with
      | error e =>
        simp only [handsOutFilling, fillFrom, allocate, issue, hnext, Traced.fail]
        use trivial
        rwa [← account.append_empty] at hbalances
      | ok token =>
        simp only [handsOutFilling, fillFrom, allocate, issue, hnext]
        obtain ⟨-, -, rfl⟩ := nextToken_eq_ok.mp hnext
        have hfirst := hbalances.appendValues [value]
        rw [List.map_singleton, ← extend_eq_append] at hfirst
        obtain ⟨hconfig, hrest⟩ := ih (registry.extend (some value)) _
          (some (registry.tokenOf (registry.firstId + registry.size))) _ hfirst
        use hconfig
        rw [Account.append_assoc] at hrest
        exact hrest
  intro registry account hbalances
  apply hfill registry account none [] hbalances

theorem keepsAccount_set {clause : Clause} {arity : Arity} (fragment : Fragment clause arity)
    (args : Option clause.Args) :
  KeepsAccount (fragment.set args) (accountOf (fragment.set args) fun kept =>
    .ofValues kept.newest (args.toList.flatMap (clause.supplied Query.values)))
  := by
  apply keepsAccount_of_outcome
  · intro registry kept changed h account hbalances
    cases args with
    | none =>
      obtain ⟨rfl, hitems⟩ := Fragment.of_succeeds_set_none h
      have hnewest : kept.newest = [] := by rw [Fragment.newest, hitems]; rfl
      use rfl
      rw [hnewest]
      rwa [← account.append_empty] at hbalances
    | some args =>
      obtain ⟨checked, form, hbound, hitems⟩ := Fragment.of_succeeds_set_some h
      obtain rfl := hbound.changed_eq
      use rfl
      rw [Fragment.newest_of_items_eq hitems, hbound.literals_eq,
        Clause.literals_of_check clause hbound.check_eq, Option.toList_some, List.flatMap_singleton]
      apply hbalances.appendValues
  · exact fun _ _ _ => Fragment.of_fails_set

/-! #### What the agreement says -/

theorem Balances.length_issued (h : registry.Balances account) :
  account.issued.length = registry.size
  := by
  rw [h.issued_eq, issuedTokens, List.length_map, List.length_range']

/-- The numbers of the tokens follow each other. -/
theorem Balances.map_id_issued (h : registry.Balances account) :
  account.issued.map Token.id = List.range' registry.firstId account.issued.length
  := by
  rw [h.length_issued, h.issued_eq, issuedTokens, List.map_map]
  apply List.map_id

theorem Balances.nextId_eq (h : registry.Balances account) {id : Nat}
    (hnext : registry.nextId = .ok id) :
  id = registry.firstId + account.issued.length
  := by
  rw [nextId] at hnext
  split_ifs at hnext
  rw [h.length_issued, ← Except.ok.inj hnext]

/-- The value of a token is the one that it has been bound to. -/
theorem Balances.value?_eq_some_iff (h : registry.Balances account) :
  registry.value? token = .ok (some value) ↔ (token, value) ∈ account.bound
  := by
  rw [← h.lookup_eq_some_iff, value?_eq_ok]
  constructor
  · rintro ⟨k, rfl, hk⟩
    obtain ⟨hlt, -⟩ := List.getElem?_eq_some_iff.mp hk
    have htoken : registry.issuedTokens[k]? = some (registry.tokenOf (registry.firstId + k)) :=
      getElem?_issuedTokens.mpr ⟨by simpa [size] using hlt, rfl⟩
    rw [h.entries_eq, List.getElem?_map, htoken] at hk
    exact Option.some.inj hk
  · intro hlookup
    have hissued : token ∈ registry.issuedTokens := by
      apply h.mem_of_bound
      apply List.mem_map_of_mem (f := Prod.fst) (h.lookup_eq_some_iff.mp hlookup)
    obtain ⟨k, hk⟩ := List.getElem?_of_mem hissued
    use k, (getElem?_issuedTokens.mp hk).2
    rw [h.entries_eq, List.getElem?_map, hk, Option.map_some, hlookup]

/-- The values are all there when every token that was reserved has been bound. -/
theorem Balances.exists_boundValues_iff (h : registry.Balances account) :
  (∃ values, registry.boundValues = .ok values)
    ↔ ∀ token ∈ account.reserved, ∃ value, (token, value) ∈ account.bound
  := by
  simp only [boundValues_eq_ok, h.entries_eq, ← h.lookup_eq_some_iff]
  constructor
  · rintro ⟨values, hvalues⟩ token hreserved
    have hmem := List.mem_map_of_mem (f := fun token => account.bound.lookup token)
      (h.mem_of_reserved token hreserved)
    rw [hvalues] at hmem
    obtain ⟨value, -, hvalue⟩ := List.mem_map.mp hmem
    use value, hvalue.symm
  · intro hbound
    have hall : ∀ token ∈ registry.issuedTokens,
        ∃ value, account.bound.lookup token = some value := by
      intro token hissued
      cases hlookup : account.bound.lookup token with
      | some value => use value
      | none =>
        obtain ⟨value, hvalue⟩ := hbound token (h.mem_reserved token hissued hlookup)
        rw [hlookup] at hvalue
        contradiction
    use registry.issuedTokens.filterMap fun token => account.bound.lookup token
    rw [List.map_filterMap_some_eq_filter_map_isSome, List.filter_eq_self.mpr]
    intro entry hentry
    obtain ⟨token, hissued, rfl⟩ := List.mem_map.mp hentry
    obtain ⟨value, hvalue⟩ := hall token hissued
    rw [hvalue]
    rfl

/-- The values stand in the order in which their tokens were issued. -/
theorem Balances.forall₂_of_boundValues (h : registry.Balances account) {values : List Value}
    (hvalues : registry.boundValues = .ok values) :
  List.Forall₂ (fun token value => (token, value) ∈ account.bound) account.issued values
  := by
  rw [boundValues_eq_ok, h.entries_eq] at hvalues
  have hlookup : List.Forall₂ (fun token value => account.bound.lookup token = some value)
      account.issued values := by
    rw [← h.issued_eq, ← List.forall₂_eq_eq_eq, List.forall₂_map_left_iff,
      List.forall₂_map_right_iff] at hvalues
    exact hvalues
  exact hlookup.imp fun _ _ => h.lookup_eq_some_iff.mp

/-- A token that has a value is not bound again. -/
theorem Balances.bind_of_mem_bound (h : registry.Balances account)
    (hbound : (token, value) ∈ account.bound) (other : Value) :
  Registry.bind token other registry
    = (registry, Traced.fail (.allocation (.alreadyBound token.name)))
  := by
  obtain ⟨i, hi, hentry⟩ := Except.bind_eq_ok.mp (h.value?_eq_some_iff.mpr hbound)
  rw [Registry.bind, hi]
  simp only [Except.ok.inj hentry]

end Registry

/-! ### Runs on a workbench -/

namespace Workbench

variable {bench changed : Workbench} {account : Account} {config : Config} {r : String}

/-- The registry in a slot has the configuration and agrees with the account. -/
def Balances (bench : Workbench) (r : String) (config : Config) (account : Account) : Prop :=
  ∃ registry, bench.registries r = some registry ∧ registry.config = config
    ∧ registry.Balances account

theorem Balances.of_registries_eq (h : bench.Balances r config account)
    (hregistries : changed.registries r = bench.registries r) :
  changed.Balances r config account
  := by
  obtain ⟨registry, hr, hrest⟩ := h
  use registry, hregistries.trans hr

theorem registries_onRegistry {α : Type} {x : Stateful Registry α}
    {finish : Workbench → α → Workbench × Answer} {registry : Registry} {other : String}
    (hregistries : ∀ next a, (finish next a).1.registries = next.registries)
    (hother : bench.registries other = some registry) :
  (bench.orStay (bench.onRegistry other x finish)).registries
    = (bench.putRegistry other (x registry).1).registries
  := by
  rw [onRegistry, hother]
  rcases hx : x registry with ⟨next, events, e | a⟩
  · simp [orStay, hx]
  · simpa [orStay, hx] using hregistries (bench.putRegistry other next) a

/-- A computation on a registry that keeps its account does so in its slot. -/
theorem Balances.onRegistry {α : Type} (h : bench.Balances r config account)
    {x : Stateful Registry α} {noted : Registry → Account}
    {finish : Workbench → α → Workbench × Answer} (hkeeps : Registry.KeepsAccount x noted)
    (hregistries : ∀ next a, (finish next a).1.registries = next.registries) (other : String) :
  (bench.orStay (bench.onRegistry other x finish)).Balances r config
    (account ++ if some other = some r then bench.accountFrom other noted else {})
  := by
  by_cases hother : other = r
  · subst hother
    obtain ⟨registry, hr, rfl, hbalances⟩ := h
    obtain ⟨hconfig, hkept⟩ := hkeeps registry account hbalances
    rw [if_pos rfl, accountFrom, hr]
    use (x registry).1
    rw [registries_onRegistry hregistries hr, registries_putRegistry_self]
    use rfl, hconfig
  · rw [if_neg fun hsame => hother (Option.some.inj hsame), Account.append_empty]
    apply h.of_registries_eq
    cases hslot : bench.registries other with
    | none =>
      rw [Workbench.onRegistry, hslot]
      rfl
    | some registry =>
      rw [registries_onRegistry hregistries hslot]
      apply registries_putRegistry_of_ne
      exact Ne.symm hother

/-- Commands that do nothing with the registry in a slot keep the agreement. -/
theorem Balances.stay (h : bench.Balances r config account) {command : Command}
    (hregistries : (bench.step command).1.registries r = bench.registries r)
    (hnothing : bench.accountOf command = {}) :
  (bench.step command).1.Balances r config (account ++ bench.accountAt r command)
  := by
  rw [accountAt, hnothing, ite_self, Account.append_empty]
  apply h.of_registries_eq hregistries

theorem Balances.bind (h : bench.Balances r config account) (other p : String) (value : Value) :
  (bench.step (.bind other p value)).1.Balances r config
    (account ++ bench.accountAt r (.bind other p value))
  := by
  cases hp : bench.tokens p with
  | none =>
    apply h.stay
    · rw [fst_step, perform, hp]
      rfl
    · rw [accountOf, hp]
  | some token =>
    simp only [fst_step, perform, accountAt, accountOf, hp, Option.bind_eq_bind, Option.bind_some]
    apply h.onRegistry (Registry.keepsAccount_bind token value)
    exact fun _ _ => rfl

theorem Balances.set (h : bench.Balances r config account) (f other : String) (clause : Clause)
    (args : Option clause.Args) :
  (bench.step (.set f other clause args)).1.Balances r config
    (account ++ bench.accountAt r (.set f other clause args))
  := by
  cases hf : bench.fragments f with
  | none =>
    apply h.stay
    · rw [fst_step, perform, setFragment, hf]
      rfl
    · rw [accountOf, hf]
  | some held =>
    obtain ⟨own, arity, fragment⟩ := held
    by_cases hclause : own = clause
    · subst hclause
      simp only [fst_step, perform, setFragment, accountAt, accountOf, hf, HeldFragment.set?,
        Option.bind_eq_bind, Option.bind_some, dite_true]
      apply h.onRegistry (Registry.keepsAccount_set fragment args)
      exact fun _ _ => rfl
    · apply h.stay
      · simp [fst_step, perform, setFragment, hf, HeldFragment.set?, hclause, orStay]
      · simp only [accountOf, hf, HeldFragment.set?, hclause, dite_false]

/-- Every command but those that begin a lifetime in the slot keeps the agreement. -/
theorem Balances.step (h : bench.Balances r config account) {command : Command}
    (hbegins : ¬ command.Begins r) :
  (bench.step command).1.Balances r config (account ++ bench.accountAt r command)
  := by
  cases command with
  | new other config' =>
    apply h.stay _ rfl
    apply registries_putRegistry_of_ne
    exact Ne.symm hbegins
  | copy other target =>
    apply h.stay _ rfl
    rw [fst_step, perform]
    cases hslot : bench.registries other with
    | none => rfl
    | some registry =>
      apply Slots.put_of_ne
      exact Ne.symm hbegins
  | reset other =>
    apply h.stay _ rfl
    rw [fst_step, perform]
    cases hslot : bench.registries other with
    | none =>
      rw [Workbench.onRegistry, hslot]
      rfl
    | some registry =>
      rw [registries_onRegistry (fun _ _ => rfl) hslot]
      apply registries_putRegistry_of_ne
      exact Ne.symm hbegins
  | allocate other value p =>
    rw [fst_step, perform, issue, accountAt, accountOf]
    apply h.onRegistry (Registry.keepsAccount_allocate value)
    exact fun _ _ => rfl
  | reserve other p =>
    rw [fst_step, perform, issue, accountAt, accountOf]
    apply h.onRegistry Registry.keepsAccount_reserve
    exact fun _ _ => rfl
  | fill other value count =>
    rw [fst_step, perform, accountAt, accountOf]
    apply h.onRegistry (Registry.keepsAccount_fill value count)
    exact fun _ _ => rfl
  | absorb other query ps =>
    rw [fst_step, perform, accountAt, accountOf]
    apply h.onRegistry (Registry.keepsAccount_absorb query)
    exact fun _ _ => rfl
  | bind other p value => exact h.bind other p value
  | set f other clause args => exact h.set f other clause args
  | fragment f clause arity => exact h.stay rfl rfl
  | clear f =>
    apply h.stay _ rfl
    rw [fst_step]
    cases hf : bench.fragments f with
    | none =>
      rw [perform, hf]
      rfl
    | some held =>
      obtain ⟨events, cleared, -, hclear⟩ := exists_perform_clear hf
      rw [hclear]
      rfl
  | _ =>
    apply h.stay _ rfl
    rw [step_of_isQuestion]
    trivial

/-- So does a run of such commands. -/
theorem Balances.run (h : bench.Balances r config account) {commands : List Command}
    (hbegins : ∀ command ∈ commands, ¬ command.Begins r) :
  (bench.run commands).1.Balances r config (account ++ bench.accountAlong r commands)
  := by
  induction commands generalizing bench account with
  | nil =>
    rw [accountAlong, Account.append_empty]
    exact h
  | cons command commands ih =>
    rw [List.forall_mem_cons] at hbegins
    rw [accountAlong, ← Account.append_assoc]
    apply ih (h.step hbegins.1) hbegins.2

end Workbench

/-- The values stand in the order in which their tokens are issued.  Let a registry that has
issued nothing yet be used by any commands, accepted or refused, that do not begin another
lifetime in its slot, and keep its account.  Its tokens are numbered in the order of issue.
The values are all there exactly when each reserved token has been bound, and each then has
the position of the token that it was bound to.  A token has the value that it was bound to,
cannot be bound again, and keeps the value whatever commands follow. -/
theorem values_stand_in_order_of_issue {bench : Workbench} {r : String} {start : Registry}
    (hr : bench.registries r = some start) (hempty : start.isEmpty = true)
    {commands : List Command} (h : ∀ command ∈ commands, ¬ command.Begins r) :
  let final := (bench.run commands).1
  let account := bench.accountAlong r commands
  ∃ registry, final.registries r = some registry
    ∧ registry.config = start.config
    ∧ registry.size = account.issued.length
    ∧ account.issued.map Token.id = List.range' start.firstId account.issued.length
    ∧ (∀ id, registry.nextId = .ok id → id = start.firstId + account.issued.length)
    ∧ (account.bound.map Prod.fst).Nodup
    ∧ ((∃ values, registry.boundValues = .ok values)
      ↔ ∀ token ∈ account.reserved, ∃ value, (token, value) ∈ account.bound)
    ∧ (∀ values, registry.boundValues = .ok values →
      List.Forall₂ (fun token value => (token, value) ∈ account.bound) account.issued values)
    ∧ (∀ token value, registry.value? token = .ok (some value) ↔ (token, value) ∈ account.bound)
    ∧ ∀ token value, (token, value) ∈ account.bound →
      (∀ other, Registry.bind token other registry
        = (registry, Traced.fail (.allocation (.alreadyBound token.name))))
      ∧ ∀ more : List Command, (∀ command ∈ more, ¬ command.Begins r) →
        ∃ later, (final.run more).1.registries r = some later
          ∧ later.value? token = .ok (some value)
  := by
  intro final account
  have hstart : bench.Balances r start.config {} :=
    ⟨start, hr, rfl, Registry.balances_of_isEmpty hempty⟩
  have hfinal : final.Balances r start.config account := hstart.run h
  obtain ⟨registry, hslot, hconfig, hbalances⟩ := id hfinal
  have hfirst : registry.firstId = start.firstId := by
    rw [Registry.firstId, Registry.firstId, hconfig]
  use registry, hslot, hconfig, hbalances.length_issued.symm
  rw [← hfirst]
  use hbalances.map_id_issued, fun _ => hbalances.nextId_eq, hbalances.nodup_bound,
    hbalances.exists_boundValues_iff, fun _ => hbalances.forall₂_of_boundValues,
    fun _ _ => hbalances.value?_eq_some_iff
  intro token value hbound
  use hbalances.bind_of_mem_bound hbound
  intro more hmore
  obtain ⟨later, hlater, -, hkept⟩ := hfinal.run hmore
  use later, hlater
  apply hkept.value?_eq_some_iff.mpr
  apply List.mem_append_left _ hbound

/-- Commands that bind a token when others have been issued behind it, and try it again. -/
def bindLate : List Command :=
  [.reserve "r" (some "p"), .allocate "r" (.text "a") none, .fragment "f" .renameColumn .one,
    .set "f" "r" .renameColumn (some ⟨"b", "c"⟩), .bind "r" "p" (.int 4), .bind "r" "p" (.int 5)]

theorem values_stand_in_order_of_issue_of_bindLate :
  let bench := (Workbench.empty.step (.new "r" {})).1
  ∃ registry, (bench.run bindLate).1.registries "r" = some registry
    ∧ registry.boundValues = .ok [.int 4, .text "a", .text "b", .text "c"]
  := by
  intro bench
  have hstart : bench.registries "r" = some (Registry.new {} 0) := rfl
  have hcommands : ∀ command ∈ bindLate, ¬ command.Begins "r" := by
    simp [bindLate, Command.Begins]
  have haccount : bench.accountAlong "r" bindLate
      = ⟨[⟨1, "$", ⟨0, 0⟩⟩, ⟨2, "$", ⟨0, 0⟩⟩, ⟨3, "$", ⟨0, 0⟩⟩, ⟨4, "$", ⟨0, 0⟩⟩],
        [⟨1, "$", ⟨0, 0⟩⟩],
        [(⟨2, "$", ⟨0, 0⟩⟩, .text "a"), (⟨3, "$", ⟨0, 0⟩⟩, .text "b"),
          (⟨4, "$", ⟨0, 0⟩⟩, .text "c"), (⟨1, "$", ⟨0, 0⟩⟩, .int 4)]⟩ := rfl
  obtain ⟨registry, hslot, -, -, -, -, -, hcomplete, hvalues, -⟩ :=
    values_stand_in_order_of_issue hstart rfl hcommands
  rw [haccount] at hcomplete hvalues
  obtain ⟨values, hbound⟩ := hcomplete.mpr (by simp)
  have horder := hvalues values hbound
  use registry, hslot
  rw [hbound]
  simpa [List.forall₂_cons_left_iff] using horder

end BoundSql
