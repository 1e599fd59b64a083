import BoundSql.Proofs.Admission
import BoundSql.Proofs.Reference

/-!
# Valid queries

A query is exact when the numbers that its text refers to are those of its values.  Validation
reads the text up to a size: a reference with a number that does not fit into 32 bits is not
looked at (`Query.validate_eq_ok_iff`).  Apart from such references the valid queries are the
exact ones, and with such a reference a valid query is never exact
(`Query.validates_exact_unless_oversized`).
-/

namespace BoundSql

namespace Query

variable {query : Query}

/-! ### References to numbers -/

/-- The text of a query has a reference with a number. -/
def Refers (query : Query) (number : Nat) : Prop :=
  ∃ front digits behind,
    query.sql.toList = front ++ (query.sigil.toList ++ (digits ++ behind))
      ∧ Scan.IsReference front digits behind ∧ Numeral.value ⟨digits⟩ = number

/-- The numbers that a query refers to are those of its values. -/
def IsExact (query : Query) : Prop := ∀ number, query.Refers number ↔ query.Names number

/-- The query refers to a number that no token can have. -/
def IsOversized (query : Query) : Prop := ∃ number ≥ UInt32.size, query.Refers number

/-- The tokens of a query are its references, except for those that are oversized. -/
theorem exists_slot_iff (hsigil : query.sigil = "$") {number : Nat} :
  (∃ numeral ∈ (scan query.sigil query.sql).slots, numeral.value = number)
    ↔ number < UInt32.size ∧ query.Refers number
  := by
  have hslots : ∀ numeral : Numeral, numeral ∈ (scan query.sigil query.sql).slots
      ↔ isTokenId numeral.value = true ∧ ∃ front behind, query.sql.toList
          = front ++ (query.sigil.toList ++ (numeral.digits ++ behind))
        ∧ Scan.IsReference front numeral.digits behind := by
    have hunbordered : Scan.IsUnbordered "$".toList := Scan.isUnbordered_singleton '$'
    intro numeral
    rw [hsigil]
    exact Scan.mem_slots_scan_iff (by decide) hunbordered (by decide)
  constructor
  · rintro ⟨numeral, hmem, rfl⟩
    obtain ⟨hid, front, behind, htext, href⟩ := (hslots numeral).mp hmem
    use of_decide_eq_true hid, front, numeral.digits, behind, htext, href
  · rintro ⟨hsize, front, digits, behind, htext, href, rfl⟩
    use ⟨digits⟩
    constructor
    · exact (hslots ⟨digits⟩).mpr ⟨decide_eq_true hsize, front, behind, htext, href⟩
    · rfl

/-! ### Validation -/

theorem unused?_eq_none_iff {body : Template Nat} :
  query.unused? body = none ↔ ∀ position < query.values.length, position ∈ body.slots
  := by
  rw [unused?, List.find?_eq_none]
  simp

theorem validate_eq_ok :
  query.validate = .ok ()
    ↔ ∃ body, query.references = .ok body
      ∧ ∀ position < query.values.length, position ∈ body.slots
  := by
  simp only [validate, Except.bind_eq_ok, ← unused?_eq_none_iff]
  apply exists_congr
  intro body
  apply and_congr_right'
  cases query.unused? body with
  | none => simp
  | some position => simp

/-- A valid query refers to the numbers of its values, and to no others of those that tokens can
have. -/
theorem validate_eq_ok_iff (hsigil : query.sigil = "$") :
  query.validate = .ok ()
    ↔ ∀ number, (number < UInt32.size ∧ query.Refers number) ↔ query.Names number
  := by
  simp only [← exists_slot_iff hsigil]
  rw [validate_eq_ok]
  constructor
  · rintro ⟨body, hbody, hused⟩ number
    constructor
    · rintro ⟨numeral, hnumeral, rfl⟩
      exact (exists_references_iff.mp ⟨body, hbody⟩).2 numeral hnumeral
    · intro hnames
      obtain ⟨position, hposition, rfl⟩ := names_iff.mp hnames
      obtain ⟨numeral, hnumeral, hresolve⟩ :=
        (mem_slots_iff hbody).mp (hused position hposition)
      exact ⟨numeral, hnumeral, (resolve_eq_ok.mp hresolve).2⟩
  · intro h
    obtain ⟨body, hbody⟩ : ∃ body, query.references = .ok body := by
      apply exists_references_iff.mpr
      constructor
      · rw [hsigil]
        decide
      · exact fun numeral hnumeral => (h numeral.value).mp ⟨numeral, hnumeral, rfl⟩
    use body, hbody
    intro position hposition
    obtain ⟨numeral, hnumeral, hvalue⟩ := (h _).mpr (names_iff.mpr ⟨position, hposition, rfl⟩)
    exact (mem_slots_iff hbody).mpr
      ⟨numeral, hnumeral, resolve_eq_ok.mpr ⟨hposition, hvalue⟩⟩

/-- Without oversized references the valid queries are the exact ones. -/
theorem validate_eq_ok_iff_isExact (hsigil : query.sigil = "$")
    (hsize : ¬ query.IsOversized) :
  query.validate = .ok () ↔ query.IsExact
  := by
  have hfits : ∀ number, query.Refers number → number < UInt32.size := by
    intro number href
    by_contra hlarge
    exact hsize ⟨number, Nat.le_of_not_lt hlarge, href⟩
  rw [validate_eq_ok_iff hsigil, IsExact]
  apply forall_congr'
  intro number
  rw [and_iff_right_of_imp (hfits number)]

/-- A valid query with an oversized reference is not exact: if the reference named a value, then
the number of that value would be one that tokens cannot have. -/
theorem IsOversized.not_isExact (h : query.IsOversized) (hsigil : query.sigil = "$")
    (hvalid : query.validate = .ok ()) :
  ¬ query.IsExact
  := by
  intro hexact
  obtain ⟨number, hlarge, href⟩ := h
  have hnames := (hexact number).mp href
  have hfits := (((validate_eq_ok_iff hsigil).mp hvalid number).mpr hnames).1
  exact absurd hfits (Nat.not_lt_of_le hlarge)

/-- What a registry absorbs refers to values only, except for oversized references. -/
theorem names_of_absorb {registry : Registry} {absorbed : Absorbed Token}
    (hsigil : query.sigil = "$")
    (h : (Registry.absorb query registry).2.result = .ok absorbed) {number : Nat}
    (href : query.Refers number) (hsize : number < UInt32.size) :
  query.Names number
  := by
  obtain ⟨numeral, hnumeral, rfl⟩ := (exists_slot_iff hsigil).mpr ⟨hsize, href⟩
  exact (Registry.admits_of_succeeds_absorb ⟨rfl, h⟩).names numeral hnumeral

/-- What validation of a query and absorbing it say about the references in its text.  They
look at the references with numbers that tokens can have.  Without others, validation accepts
the exact queries; with another one, it accepts no exact query, and what it accepts is not
exact. -/
theorem validates_exact_unless_oversized (sql : String) (values : List Value)
    (firstId : UInt32) :
  let query : Query := ⟨sql, values, "$", firstId⟩
  (query.validate = .ok ()
      ↔ ∀ number, (number < UInt32.size ∧ query.Refers number) ↔ query.Names number)
    ∧ ((query.validate = .ok () ↔ query.IsExact)
      ↔ (query.IsOversized → query.validate ≠ .ok () ∧ ¬ query.IsExact))
    ∧ ∀ registry absorbed, (Registry.absorb query registry).2.result = .ok absorbed →
      ∀ number, query.Refers number → number < UInt32.size → query.Names number
  := by
  intro query
  constructor
  · exact validate_eq_ok_iff rfl
  constructor
  · constructor
    · intro hiff hoversized
      have hinvalid : query.validate ≠ .ok () := fun hvalid =>
        hoversized.not_isExact rfl hvalid (hiff.mp hvalid)
      exact ⟨hinvalid, fun hexact => hinvalid (hiff.mpr hexact)⟩
    · intro h
      by_cases hoversized : query.IsOversized
      · obtain ⟨hinvalid, hinexact⟩ := h hoversized
        exact iff_of_false hinvalid hinexact
      · exact validate_eq_ok_iff_isExact rfl hoversized
  · exact fun registry absorbed h number => names_of_absorb rfl h

/-- The largest number that a token can have is looked at. -/
example : validate ⟨"SELECT id FROM teams WHERE name = $4294967295", [], "$", 1⟩
    = .error (.danglingReference "$4294967295" 0) := by decide +kernel

/-- A query without values whose only reference has the smallest number that is too large for a
token. -/
def oversized : Query := ⟨"SELECT id FROM teams WHERE name = $4294967296", [], "$", 1⟩

/-- The reference names no value, but the query is valid, and a registry absorbs it. -/
theorem oversized_is_accepted :
  oversized.Refers 4294967296 ∧ ¬ oversized.Names 4294967296
    ∧ ¬ (oversized.validate = .ok () ↔ oversized.IsExact)
    ∧ (Registry.absorb oversized (Registry.new {} 0)).2.result.isOk = true
  := by
  have href : oversized.Refers 4294967296 := by
    use "SELECT id FROM teams WHERE name = ".toList, "4294967296".toList, []
    refine ⟨by decide, ?_, by decide⟩
    constructor
    · constructor
      · decide
      · decide
      · rfl
    · decide
  have hnames : ¬ oversized.Names 4294967296 := by
    rintro ⟨-, hlast⟩
    contradiction
  have hvalid : oversized.validate = .ok () := by decide +kernel
  refine ⟨href, hnames, ?_, by decide +kernel⟩
  intro hiff
  exact hnames ((hiff.mp hvalid _).mp href)

end Query

end BoundSql
