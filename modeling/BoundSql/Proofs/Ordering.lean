import BoundSql.Proofs.Agreement
import BoundSql.Proofs.Integrity
import BoundSql.Proofs.Verdict

/-!
# The order of setters

As long as there is room, what a setter answers and what is in force for its field afterwards
is decided by the calls on this field alone.  So two runs of setters that have the same calls
on each field, in the same order, give the same answers to these, however the calls on the
fields are mixed.  The tokens of the two runs have different numbers; but with their values in
the places of the tokens, both build the same (`setter_order_does_not_matter`).
-/

namespace BoundSql

open Stateful

variable {grammar : Grammar} {field : grammar.Field}

/-- Lists with the same members of every kind, in the same order, are permutations of each
other. -/
theorem perm_of_filter_eq {α κ : Type} [DecidableEq κ] (kind : α → κ) {as bs : List α}
    (h : ∀ k, as.filter (fun a => kind a = k) = bs.filter fun a => kind a = k) :
  as.Perm bs
  := by
  classical
  -- a member occurs in a list as often as among those of its kind
  apply List.perm_iff_count.mpr
  intro a
  rw [← List.count_filter (p := fun b => kind b = kind a) (by simp), h, List.count_filter (by simp)]

/-! ### Requests -/

/-- What a setter is called with: arguments for its field, or none to clear it. -/
structure Request (grammar : Grammar) where
  field : grammar.Field
  args : Option (grammar.clause field).Args

namespace Request

/-- The call of the setter. -/
def call (request : Request grammar) : Call grammar := .set request.field request.args

/-- The literals of the arguments, a query contributing all of its values. -/
def literals (request : Request grammar) : List Value :=
  request.args.toList.flatMap ((grammar.clause request.field).supplied Query.values)

/-- The same requests for each field, in the same order; requests for different fields may be
mixed in any way. -/
def Reorders (requests requests' : List (Request grammar)) : Prop :=
  ∀ field, requests.filter (fun request => request.field = field)
    = requests'.filter fun request => request.field = field

theorem Reorders.perm {requests requests' : List (Request grammar)}
    (h : Reorders requests requests') :
  requests.Perm requests'
  := perm_of_filter_eq field h

end Request

/-- A request, and what is answered to it. -/
abbrev Outcome (grammar : Grammar) : Type := Request grammar × Except Error (Reply grammar)

/-- The literals of a request if it is accepted. -/
def Outcome.retained (outcome : Outcome grammar) : List Value :=
  match outcome.2 with
  | .ok _ => outcome.1.literals
  | .error _ => []

/-- The requests with the answers of a statement to them, one after another. -/
def Statement.outcomes (statement : Statement grammar) (requests : List (Request grammar)) :
    List (Outcome grammar) :=
  requests.zip ((statement.run (requests.map Request.call)).2.map Traced.result)

/-! ### Answers without a registry -/

namespace Journal

variable {journal journal' : Journal grammar} {request : Request grammar}

/-- The answer to a request when the arguments of a journal are in force. -/
def answer (journal : Journal grammar) (request : Request grammar) :
    Except Error (Reply grammar) :=
  match request.args with
  | none => .ok .done
  | some args =>
    ((grammar.clause request.field).verdict (grammar.arity request.field) (journal request.field)
      args).map fun _ => .done

/-- The journal after a request. -/
def next (journal : Journal grammar) (request : Request grammar) : Journal grammar :=
  journal.after request.call (journal.answer request)

/-- The requests with the answers to them, one after another. -/
def outcomes (journal : Journal grammar) : List (Request grammar) → List (Outcome grammar)
  | [] => []
  | request :: requests =>
    (request, journal.answer request) :: (journal.next request).outcomes requests

/-- The journal after several requests. -/
def settled (journal : Journal grammar) : List (Request grammar) → Journal grammar
  | [] => journal
  | request :: requests => (journal.next request).settled requests

theorem next_of_ne (h : request.field ≠ field) :
  journal.next request field = journal field
  := by
  obtain ⟨other, args⟩ := request
  rw [next, Request.call]
  cases args with
  | none => exact journal.put_of_ne _ h
  | some args =>
    cases journal.answer ⟨other, some args⟩ with
    | error e => rfl
    | ok reply => exact journal.put_of_ne _ h

theorem answer_congr (h : journal request.field = journal' request.field) :
  journal.answer request = journal'.answer request
  := by
  rw [answer, answer, h]

theorem next_congr (h : journal request.field = journal' request.field) :
  journal.next request request.field = journal'.next request request.field
  := by
  rw [next, next, answer_congr h]
  obtain ⟨field, args⟩ := request
  rw [Request.call]
  cases args with
  | none => exact (journal.put_self field []).trans (journal'.put_self field []).symm
  | some args =>
    cases journal'.answer ⟨field, some args⟩ with
    | error e => exact h
    | ok reply =>
      simp only [after, put_self]
      rw [h]

/-- The requests for one field are answered as if there were no others. -/
theorem outcomes_filter (h : journal field = journal' field) (requests : List (Request grammar)) :
  (journal.outcomes requests).filter (fun outcome => outcome.1.field = field)
      = journal'.outcomes (requests.filter fun request => request.field = field)
    ∧ journal.settled requests field
      = journal'.settled (requests.filter fun request => request.field = field) field
  := by
  induction requests generalizing journal journal' with
  | nil => exact ⟨rfl, h⟩
  | cons request requests ih =>
    by_cases hfield : request.field = field
    · subst hfield
      obtain ⟨houtcomes, hsettled⟩ := ih (next_congr h)
      rw [List.filter_cons_of_pos (by simp), outcomes, outcomes,
        List.filter_cons_of_pos (by simp), houtcomes, answer_congr h]
      exact ⟨rfl, hsettled⟩
    · obtain ⟨houtcomes, hsettled⟩ := ih ((next_of_ne hfield).trans h)
      rw [List.filter_cons_of_neg (by simpa using hfield), outcomes,
        List.filter_cons_of_neg (by simpa using hfield), houtcomes]
      exact ⟨rfl, hsettled⟩

variable {requests requests' : List (Request grammar)}

theorem outcomes_reorders (journal : Journal grammar) (h : Request.Reorders requests requests')
    (field : grammar.Field) :
  (journal.outcomes requests).filter (fun outcome => outcome.1.field = field)
    = (journal.outcomes requests').filter fun outcome => outcome.1.field = field
  := by
  rw [(outcomes_filter rfl requests).1, h field]
  exact (outcomes_filter rfl requests').1.symm

theorem settled_reorders (journal : Journal grammar) (h : Request.Reorders requests requests') :
  journal.settled requests = journal.settled requests'
  := by
  funext field
  rw [(outcomes_filter rfl requests).2, h field]
  exact (outcomes_filter rfl requests').2.symm

end Journal

/-! ### Runs with room -/

namespace Statement

variable {statement changed : Statement grammar} {journal : Journal grammar}
  {request : Request grammar}

theorem result_set (statement : Statement grammar) (field : grammar.Field)
    (args : Option (grammar.clause field).Args) :
  (set field args statement).2.result
    = ((statement.fragment field).set args statement.registry).2.result.map fun _ => ()
  := by
  rw [set]
  rcases (statement.fragment field).set args statement.registry with
    ⟨registry, events, e | fragment⟩
  · rfl
  · rfl

/-- With room for the literals of a request, its answer is that of the journal. -/
theorem Agrees.result_step (h : statement.Agrees Clause.IsKept journal)
    (hroom : statement.registry.HasRoom request.literals.length) :
  (statement.step request.call).2.result = journal.answer request
  := by
  obtain ⟨field, args⟩ := request
  rw [Request.call, (step_set statement field args).2, result_set]
  cases args with
  | none =>
    obtain ⟨events, cleared, hclear, -⟩ := (statement.fragment field).exists_clear
    have hset : ((statement.fragment field).set none statement.registry).2.result
        = .ok cleared := congrArg Traced.result hclear
    rw [hset]
    rfl
  | some args =>
    rw [Request.literals, Option.toList_some, List.flatMap_singleton] at hroom
    rw [Fragment.result_set (h field) hroom]
    rfl

/-- A request takes the room of its literals at most. -/
theorem hasRoom_of_transition {count : Nat} {result : Except Error (Reply grammar)}
    (h : statement.registry.HasRoom (request.literals.length + count))
    (htransition : Transition statement request.call result changed) :
  changed.registry.HasRoom count
  := by
  have hcount := h.mono (Nat.le_add_left count request.literals.length)
  obtain ⟨field, _ | args⟩ := request
  · cases htransition with
    | cleared _ fragment hitems => exact hcount
    | refused _ _ e => exact hcount
    | asked _ _ hquestion => contradiction
  · cases htransition with
    | bound _ _ checked form registry fragment hbound hitems =>
      rw [Request.literals, Option.toList_some, List.flatMap_singleton,
        ← Clause.literals_of_check _ hbound.check_eq, ← List.length_map (f := some)] at h
      rw [registry_put]
      show registry.HasRoom count
      rw [hbound.changed_eq]
      exact h.append
    | refused _ _ e => exact hcount
    | asked _ _ hquestion => contradiction

/-- With room for the literals of all requests, the answers are those of the journal. -/
theorem Agrees.run_requests (h : statement.Agrees Clause.IsKept journal)
    {requests : List (Request grammar)}
    (hroom : statement.registry.HasRoom (requests.flatMap Request.literals).length) :
  statement.outcomes requests = journal.outcomes requests
    ∧ journal.along statement (requests.map Request.call) = journal.settled requests
  := by
  induction requests generalizing statement journal with
  | nil => exact ⟨rfl, rfl⟩
  | cons request requests ih =>
    rw [List.flatMap_cons, List.length_append] at hroom
    have hresult := h.result_step (hroom.mono (Nat.le_add_right _ _))
    have htransition := transition_step statement request.call
    have hnext := h.of_transition Clause.isKept_lasts htransition
      fun field args _ => Clause.isKept_isMade (grammar.clause field) args
    rw [hresult] at hnext
    obtain ⟨houtcomes, hsettled⟩ := ih hnext (hasRoom_of_transition hroom htransition)
    constructor
    · rw [Journal.outcomes, Journal.next, ← houtcomes, ← hresult]
      rfl
    · rw [Journal.settled, Journal.next, ← hsettled, ← hresult]
      rfl

/-! ### What is built -/

variable {statement' : Statement grammar}

/-- Statements with the same arguments in force write the same in each field, but for the tokens
by which their registries know the values. -/
theorem Agrees.map_template_eq (h : statement.Agrees Clause.IsKept journal)
    (h' : statement'.Agrees Clause.IsKept journal) (field : grammar.Field) :
  (statement.fragment field).template.map (Template.mapSlots statement.registry.lookup)
    = (statement'.fragment field).template.map (Template.mapSlots statement'.registry.lookup)
  := by
  apply Fragment.map_template_eq
  obtain ⟨forms, hforms, hitems⟩ := Clause.exists_checked_of_forall₂ (h field)
  obtain ⟨forms', hforms', hitems'⟩ := Clause.exists_checked_of_forall₂ (h' field)
  obtain rfl := Except.ok.inj (hforms.symm.trans hforms')
  rw [hitems, hitems']

theorem Agrees.layout_eq (h : statement.Agrees Clause.IsKept journal)
    (h' : statement'.Agrees Clause.IsKept journal) :
  statement.layout = statement'.layout
  := by
  have hpresent : statement.isPresent = statement'.isPresent := by
    funext field
    have hsome := congrArg Option.isSome (h.map_template_eq h' field)
    rwa [Option.isSome_map, Option.isSome_map] at hsome
  rw [layout, layout, hpresent]

/-- Statements with the same arguments in force have the same template, but for the tokens, or
neither has one. -/
theorem Agrees.template_agree (h : statement.Agrees Clause.IsKept journal)
    (h' : statement'.Agrees Clause.IsKept journal) :
  Except.Agree (fun template template' => template.mapSlots statement.registry.lookup
      = template'.mapSlots statement'.registry.lookup)
    statement.template.result statement'.template.result
  := by
  rw [template_eq fun field => (h.get_eq field).1, template_eq fun field => (h'.get_eq field).1,
    h.layout_eq h']
  cases statement'.layout with
  | error e => exact Except.Agree.error e
  | ok fields =>
    apply Except.Agree.ok
    simp only [Template.mapSlots_spaced, List.map_cons, Template.mapSlots_word,
      List.map_filterMap, h.map_template_eq h']

end Statement

/-! ### Values -/

namespace History

theorem literals_after (history : History grammar) (request : Request grammar)
    (result : Except Error (Reply grammar)) :
  (history.after request.call result).literals
    = history.literals ++ Outcome.retained (request, result)
  := by
  obtain ⟨field, args⟩ := request
  cases result with
  | error e =>
    rw [Outcome.retained, List.append_nil]
    cases args <;> rfl
  | ok reply =>
    cases args with
    | none => exact (List.append_nil _).symm
    | some args => exact List.flatMap_append

/-- What is kept in a run of setters: the literals of the requests that are accepted. -/
theorem literals_along (history : History grammar) (statement : Statement grammar)
    (requests : List (Request grammar)) :
  (history.along statement (requests.map Request.call)).literals
    = history.literals ++ (statement.outcomes requests).flatMap Outcome.retained
  := by
  induction requests generalizing history statement with
  | nil => exact (List.append_nil _).symm
  | cons request requests ih =>
    have houtcomes : statement.outcomes (request :: requests)
        = (request, (statement.step request.call).2.result)
          :: (statement.step request.call).1.outcomes requests := rfl
    rw [houtcomes, List.flatMap_cons, ← List.append_assoc, ← literals_after]
    apply ih

end History

theorem Statement.build_of_template_eq_error {statement : Statement grammar} {e : Error}
    (h : statement.template.result = .error e) :
  statement.build.result = .error e
  := by
  rw [build, Traced.result_bind, sql_eq, h]
  rfl

/-- A statement with a template is built.  The values are the literals that have been accepted,
and in the places of the tokens of the text stand the values that its registry knows. -/
theorem StatementKind.exists_build (kind : StatementKind) {config : Config}
    (hsigil : config.sigil = "$") {calls : List (Call kind.grammar)}
    (hcalls : ∀ call ∈ calls, call.UsesSigil "$") {template : Template Token}
    (h : ((Statement.new kind.grammar config).run calls).1.template.result = .ok template) :
  let final := ((Statement.new kind.grammar config).run calls).1
  ∃ q meaning, final.build.result = .ok q
    ∧ q.values = (History.along [] (Statement.new kind.grammar config) calls).literals
    ∧ q.meaning = .ok meaning
    ∧ meaning.mapSlots some = template.mapSlots final.registry.lookup
  := by
  intro final
  have hrecords : final.Records (Journal.empty.along (Statement.new kind.grammar config) calls) :=
    (Statement.records_empty _).run hcalls
  have hvalues := ((Statement.keeps_new config).run calls).boundValues_eq
  have hconfig : final.registry.config = config := Statement.config_run _ calls
  have hfinal : final.registry.config.sigil = "$" := by rw [hconfig, hsigil]
  have hbuild : final.build.result = .ok ⟨template.text Token.name,
      (History.along [] (Statement.new kind.grammar config) calls).literals,
      final.registry.config.sigil, final.registry.config.firstId⟩ := by
    rw [Statement.build_eq hvalues, Statement.sql_eq, h]
    rfl
  have hscan : scan final.registry.config.sigil (template.text Token.name)
      = template.mapSlots fun token => Numeral.ofId token.id := by
    rw [hfinal]
    exact Statement.scan_of_build hrecords kind.noDigit_command hfinal h
  have hne : final.registry.config.sigil ≠ "" := by
    rw [hfinal]
    decide
  obtain ⟨meaning, hmeaning, hread⟩ := Statement.meaning_of_build
    (q := ⟨template.text Token.name, _, final.registry.config.sigil,
      final.registry.config.firstId⟩) hne h hvalues rfl hscan
  exact ⟨_, meaning, hbuild, rfl, hmeaning, hread⟩

/-- Two runs after which the same arguments are in force.  Either both statements are built, and
with the values in the places of the tokens their texts are the same, or both are refused for the
same reason. -/
theorem StatementKind.build_agree (kind : StatementKind) {config : Config}
    (hsigil : config.sigil = "$") {calls calls' : List (Call kind.grammar)}
    (hcalls : ∀ call ∈ calls, call.UsesSigil "$") (hcalls' : ∀ call ∈ calls', call.UsesSigil "$")
    (h : Journal.empty.along (Statement.new kind.grammar config) calls
      = Journal.empty.along (Statement.new kind.grammar config) calls') :
  let start := Statement.new kind.grammar config
  Except.Agree (fun q q' : Query => (∃ meaning, q.meaning = .ok meaning ∧ q'.meaning = .ok meaning)
      ∧ q.values = (History.along [] start calls).literals
      ∧ q'.values = (History.along [] start calls').literals)
    (start.run calls).1.build.result (start.run calls').1.build.result
  := by
  intro start
  have hagrees := Statement.agrees_isKept config calls
  have hagrees' := Statement.agrees_isKept config calls'
  rw [← h] at hagrees'
  have htemplates := hagrees.template_agree hagrees'
  cases htemplate : (start.run calls).1.template.result with
  | error e =>
    rw [htemplate] at htemplates
    rw [Statement.build_of_template_eq_error htemplate,
      Statement.build_of_template_eq_error htemplates.eq_error]
    exact Except.Agree.error e
  | ok template =>
    rw [htemplate] at htemplates
    obtain ⟨template', htemplate', hread⟩ := htemplates.exists_eq_ok
    obtain ⟨q, meaning, hbuild, hvalues, hmeaning, hq⟩ :=
      kind.exists_build hsigil hcalls htemplate
    obtain ⟨q', meaning', hbuild', hvalues', hmeaning', hq'⟩ :=
      kind.exists_build hsigil hcalls' htemplate'
    obtain rfl : meaning = meaning' :=
      Template.mapSlots_injective (Option.some_injective _) (hq.trans (hread.trans hq'.symm))
    rw [hbuild, hbuild']
    apply Except.Agree.ok
    use ⟨meaning, hmeaning, hmeaning'⟩, hvalues

/-- The order of setters does not matter.  Two runs of setters on a statement have the same
requests for each field, in the same order, and there is room for the literals of all of them.
Then each request is answered in the same way in both runs.  Both statements are built, or both
are refused for the same reason.  If they are built, they have equally many values, namely
the same ones in another order, and with the values in the places of the tokens their texts are
the same.  In each run the values stand in the order in which they have been accepted. -/
theorem setter_order_does_not_matter (kind : StatementKind) (config : Config)
    (hsigil : config.sigil = "$") (requests requests' : List (Request kind.grammar))
    (hqueries : ∀ request ∈ requests, request.call.UsesSigil "$")
    (horder : Request.Reorders requests requests')
    (hcapacity : (requests.flatMap Request.literals).length ≤ config.capacity.toNat)
    (hnumbers : config.firstId.toNat + (requests.flatMap Request.literals).length
      ≤ UInt32.size) :
  let start := Statement.new kind.grammar config
  let final := (start.run (requests.map Request.call)).1
  let final' := (start.run (requests'.map Request.call)).1
  (∀ field, (start.outcomes requests).filter (fun outcome => outcome.1.field = field)
      = (start.outcomes requests').filter fun outcome => outcome.1.field = field)
    ∧ Except.Agree (fun q q' : Query => q.values.length = q'.values.length
        ∧ q.values.Perm q'.values
        ∧ (∃ meaning, q.meaning = .ok meaning ∧ q'.meaning = .ok meaning)
        ∧ q.values = (History.along [] start (requests.map Request.call)).literals
        ∧ q'.values = (History.along [] start (requests'.map Request.call)).literals)
      final.build.result final'.build.result
  := by
  intro start final final'
  have hperm := horder.perm
  have hcalls : ∀ call ∈ requests.map Request.call, call.UsesSigil "$" :=
    List.forall_mem_map.mpr hqueries
  have hcalls' : ∀ call ∈ requests'.map Request.call, call.UsesSigil "$" :=
    fun call hcall => hcalls call ((hperm.map Request.call).mem_iff.mpr hcall)
  have hroom : start.registry.HasRoom (requests.flatMap Request.literals).length :=
    Registry.hasRoom_new hcapacity hnumbers
  have hroom' : start.registry.HasRoom (requests'.flatMap Request.literals).length := by
    rwa [← (hperm.flatMap_right Request.literals).length_eq]
  have hstart : start.Agrees Clause.IsKept Journal.empty := Statement.agrees_empty _ _
  obtain ⟨houtcomes, hsettled⟩ := hstart.run_requests hroom
  obtain ⟨houtcomes', hsettled'⟩ := hstart.run_requests hroom'
  have hlocal := Journal.outcomes_reorders Journal.empty horder
  rw [← houtcomes, ← houtcomes'] at hlocal
  use hlocal
  have hinForce : Journal.empty.along start (requests.map Request.call)
      = Journal.empty.along start (requests'.map Request.call) := by
    rw [hsettled, hsettled', Journal.settled_reorders _ horder]
  apply (kind.build_agree hsigil hcalls hcalls' hinForce).imp
  rintro q q' ⟨hmeaning, hvalues, hvalues'⟩
  have hliterals : q.values.Perm q'.values := by
    rw [hvalues, hvalues', History.literals_along, History.literals_along]
    apply (perm_of_filter_eq _ hlocal).flatMap_right Outcome.retained
  use hliterals.length_eq, hliterals, hmeaning, hvalues

/-- Requests for a policy, one of which is refused and one of which clears a field. -/
def policyRequests : List (Request StatementKind.alterPolicy.grammar) :=
  [⟨.name, some ""⟩, ⟨.name, some "p"⟩, ⟨.onTable, some "t"⟩, ⟨.withCheck, some (.text "w")⟩,
    ⟨.withCheck, none⟩, ⟨.using, some (.query ⟨"a = $2 OR b < $1", [.int 4, .int 5], "$", 1⟩)⟩]

/-- The same requests in another order. -/
def mixedPolicyRequests : List (Request StatementKind.alterPolicy.grammar) :=
  [⟨.using, some (.query ⟨"a = $2 OR b < $1", [.int 4, .int 5], "$", 1⟩)⟩,
    ⟨.withCheck, some (.text "w")⟩, ⟨.name, some ""⟩, ⟨.onTable, some "t"⟩, ⟨.withCheck, none⟩,
    ⟨.name, some "p"⟩]

theorem setter_order_does_not_matter_of_policyRequests :
  ∃ q q' : Query,
    ((Statement.new StatementKind.alterPolicy.grammar {}).run
        (policyRequests.map Request.call)).1.build.result = .ok q
      ∧ ((Statement.new StatementKind.alterPolicy.grammar {}).run
        (mixedPolicyRequests.map Request.call)).1.build.result = .ok q'
      ∧ q.sql = "ALTER POLICY $1 ON $2 USING (a = $5 OR b < $4)"
      ∧ q'.sql = "ALTER POLICY $5 ON $4 USING (a = $2 OR b < $1)"
      ∧ q.values.Perm q'.values
      ∧ ∃ meaning, q.meaning = .ok meaning ∧ q'.meaning = .ok meaning
  := by
  have hbuild : ((Statement.new StatementKind.alterPolicy.grammar {}).run
      (policyRequests.map Request.call)).1.build.result
        = .ok ⟨"ALTER POLICY $1 ON $2 USING (a = $5 OR b < $4)",
          [.text "p", .text "t", .text "w", .int 4, .int 5], "$", 1⟩ := by
    simp only [policyRequests, List.map_cons, List.map_nil, Request.call]
    cbv
  have hbuild' : ((Statement.new StatementKind.alterPolicy.grammar {}).run
      (mixedPolicyRequests.map Request.call)).1.build.result
        = .ok ⟨"ALTER POLICY $5 ON $4 USING (a = $2 OR b < $1)",
          [.int 4, .int 5, .text "w", .text "t", .text "p"], "$", 1⟩ := by
    simp only [mixedPolicyRequests, List.map_cons, List.map_nil, Request.call]
    cbv
  have hqueries : ∀ request ∈ policyRequests, request.call.UsesSigil "$" := by
    simp only [policyRequests, List.forall_mem_cons]
    exact ⟨trivial, trivial, trivial, trivial, trivial, rfl, List.forall_mem_nil _⟩
  have horder : Request.Reorders policyRequests mixedPolicyRequests := by
    intro field
    cases field <;> rfl
  have hlength : (policyRequests.flatMap Request.literals).length = 6 := rfl
  have hagree := (setter_order_does_not_matter .alterPolicy {} rfl policyRequests
    mixedPolicyRequests hqueries horder (by rw [hlength]; decide) (by rw [hlength]; decide)).2
  rw [hbuild, hbuild'] at hagree
  cases hagree with
  | ok hsame =>
    obtain ⟨-, hperm, hmeaning, -⟩ := hsame
    exact ⟨_, _, hbuild, hbuild', rfl, rfl, hperm, hmeaning⟩

end BoundSql
