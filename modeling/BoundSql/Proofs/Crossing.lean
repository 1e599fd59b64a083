import BoundSql.Proofs.Absorption

/-!
# Queries with another sigil

A registry may absorb a query whose tokens are marked with another sigil than its own.  The
tokens are then written with the sigil of the registry, and the text around them is kept.
Nobody looks for that sigil in the text: what was no token before may be read as one
afterwards, and a token may be read as something else together with the text in front of it.
Whether this happens depends on the query and the two sigils only
(`Registry.absorb_crosses_sigils_iff`).
-/

namespace BoundSql

open Stateful

/-! ### Another sigil before each number -/

namespace Query

/-- The text of a query with another sigil before the number of each token. -/
def respelled (query : Query) (sigil : String) : String :=
  String.ofList ((scan query.sigil query.sql).written sigil.toList)

/-- With another sigil before the numbers, the text of a query still has the same tokens and
the same characters around them. -/
def IsRespellable (query : Query) (sigil : String) : Prop :=
  scan sigil (query.respelled sigil) = scan query.sigil query.sql

instance (query : Query) (sigil : String) : Decidable (query.IsRespellable sigil) :=
  inferInstanceAs (Decidable (scan sigil (query.respelled sigil) = scan query.sigil query.sql))

theorem isRespellable_iff {query : Query} {sigil : String} {s : Char} {rest : List Char}
    (h : sigil.toList = s :: rest) :
  query.IsRespellable sigil
    ↔ Scan.scanFrom s rest none ((scan query.sigil query.sql).written (s :: rest))
      = scan query.sigil query.sql
  := by
  rw [IsRespellable, respelled, scan_eq_scanFrom h, String.toList_ofList, h]

/-- The tokens of a query have proper numerals. -/
theorem isProper_of_mem_slots (query : Query) :
  ∀ n ∈ (scan query.sigil query.sql).slots, n.IsProper
  := by
  intro n hn
  cases hsigil : query.sigil.toList with
  | nil =>
    rw [scan, hsigil, Template.slots_word] at hn
    contradiction
  | cons s rest =>
    rw [scan_eq_scanFrom hsigil] at hn
    apply Scan.isProper_of_mem_slots_scanFrom none _ n hn

end Query

/-! ### Texts without the sigil -/

namespace Scan

open Template

variable {s q : Char} {sigil mark : List Char}

/-- What is read behind a numeral does not begin with a digit when it is written with another
sigil. -/
theorem takeWhile_written_of_digits (s : Char) (sigil : List Char) (q : Char)
    (mark : List Char) {digits text : List Char} (hne : digits ≠ [])
    (hdigits : ∀ c ∈ digits, c.isDigit = true) (htext : text.takeWhile Char.isDigit = []) :
  ((scanFrom q mark digits.getLast? text).written (s :: sigil)).takeWhile Char.isDigit = []
  := by
  have hwritten : (scanFrom q mark digits.getLast? text).written (q :: mark) = text :=
    written_scanFrom _ _
  cases hscan : scanFrom q mark digits.getLast? text with
  | nil => rfl
  | cons symbol t =>
    cases symbol with
    | char c =>
      rw [hscan, written_char] at hwritten
      rw [← hwritten] at htext
      by_cases hc : c.isDigit
      · rw [List.takeWhile_cons_of_pos hc] at htext
        contradiction
      · apply List.takeWhile_cons_of_neg hc
    | slot n =>
      have hglued := isGlued_of_scanFrom_eq_slot hscan
      rw [isGlued_getLast? hne hdigits] at hglued
      contradiction

/-- A text that does not contain the first character of a sigil, except in its tokens, has the
same tokens with this sigil. -/
theorem scanFrom_written_of_notMem (before : Option Char) (text : List Char)
    (h : .char s ∉ scanFrom q mark before text) :
  scanFrom s sigil before ((scanFrom q mark before text).written (s :: sigil))
    = scanFrom q mark before text
  := by
  have hnot : ∀ {cs : List Char} {t : Template Numeral}, .char s ∉ ofChars cs ++ t →
      s ∉ cs ∧ .char s ∉ t := by
    intro cs t hst
    rw [List.mem_append, not_or] at hst
    use fun hs => hst.1 (List.mem_map_of_mem hs), hst.2
  fun_induction scanFrom q mark before text with
  | case1 before => exact scanFrom_nil before
  | case2 before c cs hnone ih =>
    rw [List.mem_cons, not_or] at h
    have hp : ¬ (s :: sigil) <+: c :: (scanFrom q mark (some c) cs).written (s :: sigil) := by
      intro hp
      apply h.1
      rw [(List.cons_prefix_cons.mp hp).1]
    rw [written_char, scanFrom_cons hp, ih h.2]
  | case3 before c cs rest hrest digits hglued ih =>
    obtain ⟨hmark, ht⟩ := hnot h
    have hlast : (q :: mark).getLast?.or before = (q :: mark).getLast? := by
      rw [List.getLast?_eq_some_getLast (List.cons_ne_nil q mark), Option.some_or]
    rw [written_append, written_ofChars, scanFrom_append_of_notMem hmark, hlast, ih ht]
  | case4 before c cs rest hrest digits hglued found ih =>
    rw [Bool.or_eq_true, List.isEmpty_iff, not_or, Bool.not_eq_true] at hglued
    have hdigits : ∀ c ∈ digits, c.isDigit = true := fun c hc => List.mem_takeWhile_imp hc
    by_cases hid : isTokenId (Numeral.value ⟨digits⟩)
    · have hfound : found = ref ⟨digits⟩ := if_pos hid
      rw [hfound] at h ⊢
      have ht := ih fun ht => h (List.mem_append_right _ ht)
      have hstop := takeWhile_written_of_digits s sigil q mark hglued.1 hdigits
        (takeWhile_dropWhile_digits rest)
      generalize scanFrom q mark digits.getLast? (rest.dropWhile Char.isDigit) = t at ht hstop ⊢
      have hproper : Numeral.IsProper ⟨digits⟩ := ⟨hglued.1, hdigits, hid⟩
      rw [written_append, written, chars_ref, scanFrom_token hglued.2 hproper hstop, ht]
      rfl
    · have hfound : found = ofChars (q :: mark ++ digits) := if_neg hid
      rw [hfound] at h ⊢
      obtain ⟨hmark, ht⟩ := hnot h
      have hlast : (q :: mark ++ digits).getLast?.or before = digits.getLast? := by
        rw [List.getLast?_append, List.getLast?_eq_some_getLast hglued.1, Option.some_or,
          Option.some_or]
      rw [written_append, written_ofChars, scanFrom_append_of_notMem hmark, hlast, ih ht]

end Scan

/-- A query is respellable if its text does not contain the first character of the sigil,
except in its tokens. -/
theorem Query.isRespellable_of_notMem {query : Query} {sigil : String} {s : Char}
    {rest : List Char} (hsigil : sigil.toList = s :: rest) (hquery : query.sigil ≠ "")
    (h : .char s ∉ scan query.sigil query.sql) :
  query.IsRespellable sigil
  := by
  obtain ⟨q, mark, hmark⟩ := List.exists_cons_of_ne_nil (mt String.toList_eq_nil_iff.mp hquery)
  rw [scan_eq_scanFrom hmark] at h
  rw [isRespellable_iff hsigil, scan_eq_scanFrom hmark]
  apply Scan.scanFrom_written_of_notMem none _ h

/-! ### Absorbing across sigils -/

/-- The text of an absorbed query, read with the given sigil, has a token for each token of
the query, in the same place and with the number of the entry that stands for its value, and
no others. -/
structure Absorbed.IsReadAs (absorbed : Absorbed Token) (sigil : String) (query : Query) :
    Prop where
  shape_eq : (scan sigil (absorbed.template.text Token.name)).shape
    = (scan query.sigil query.sql).shape
  exists_references : ∃ references, query.references = .ok references
    ∧ (scan sigil (absorbed.template.text Token.name)).slots.map
        (fun numeral => some numeral.value)
      = references.slots.map fun position => absorbed.entries[position]?.map Token.id

namespace Registry

variable {registry : Registry} {query : Query} {absorbed : Absorbed Token}

/-- Whatever the numbers of its tokens are, an absorbed query is read as it was written if
and only if the query is respellable. -/
theorem isReadAs_iff_isRespellable (hsigil : registry.config.sigil ≠ "")
    (h : (absorb query registry).2.result = .ok absorbed) :
  absorbed.IsReadAs registry.config.sigil query ↔ query.IsRespellable registry.config.sigil
  := by
  obtain ⟨hbody, hentries, -, hids⟩ := of_succeeds_absorb ⟨rfl, h⟩
  have hlength : absorbed.entries.length = query.values.length := by
    rw [hentries, length_nextTokens]
  have hsigils : ∀ token ∈ absorbed.template.slots, token.sigil = registry.config.sigil := by
    intro token htoken
    have hmem := Absorbed.mem_entries_of_mem_slots htoken
    rw [hentries] at hmem
    rw [eq_tokenOf_of_mem_nextTokens hmem]
    rfl
  obtain ⟨exchange, htemplate, -⟩ := Absorbed.mapSlots_template hbody hlength
    fun token => Numeral.ofId token.id
  obtain ⟨s, rest, hs⟩ := List.exists_cons_of_ne_nil (mt String.toList_eq_nil_iff.mp hsigil)
  have hshape : (absorbed.template.mapSlots fun token => Numeral.ofId token.id).shape
      = (scan query.sigil query.sql).shape := by
    have hexchange := Template.shape_mapSlots exchange (scan query.sigil query.sql)
    rwa [← htemplate] at hexchange
  have hread : scan registry.config.sigil (absorbed.template.text Token.name)
      = Scan.scanFrom s rest none
        ((absorbed.template.mapSlots fun token => Numeral.ofId token.id).written
          (s :: rest)) := by
    rw [scan_eq_scanFrom hs, Template.toList_text_name hsigils, hs]
  rw [Query.isRespellable_iff hs]
  constructor
  · intro hreadAs
    have hsame := hreadAs.shape_eq
    rw [hread] at hsame
    apply Scan.scanFrom_written_of_shape_eq none _ _ hsame.symm query.isProper_of_mem_slots
  · intro hrespelled
    have hproper : ∀ n ∈ (absorbed.template.mapSlots fun token =>
        Numeral.ofId token.id).slots, n.IsProper := by
      intro n hn
      rw [Template.slots_mapSlots] at hn
      obtain ⟨token, htoken, rfl⟩ := List.mem_map.mp hn
      apply Numeral.isProper_ofId
      apply hids token (Absorbed.mem_entries_of_mem_slots htoken)
    have hback := Scan.scanFrom_written_of_shape_eq none _ _ (by rw [hrespelled, hshape]) hproper
    rw [hback] at hread
    constructor
    · rw [hread, hshape]
    · use absorbed.body, hbody
      have hslots := congrArg Template.slots (Absorbed.mapSlots_template_of_lt absorbed
        (fun position hposition => by
          rw [hlength]
          apply Query.lt_of_mem_slots hbody hposition) fun token => some token.id)
      rw [Template.slots_mapSlots, Template.slots_mapSlots] at hslots
      rw [hread, Template.slots_mapSlots, List.map_map]
      simpa only [Function.comp_def, Numeral.value_ofId, Option.map_eq_bind] using hslots

/-- A query whose tokens are marked with another sigil is absorbed without loss if and only if
it is respellable with the sigil of the registry: this depends neither on the registry nor on
the numbers that its tokens receive.  It is so for every query that does not have the first
character of this sigil around its tokens. -/
theorem absorb_crosses_sigils_iff (hsigil : registry.config.sigil ≠ "")
    (h : (absorb query registry).2.result = .ok absorbed) :
  (absorbed.IsReadAs registry.config.sigil query
      ↔ query.IsRespellable registry.config.sigil)
    ∧ ((∀ s ∈ registry.config.sigil.toList.head?, .char s ∉ scan query.sigil query.sql) →
      absorbed.IsReadAs registry.config.sigil query)
  := by
  have hiff := isReadAs_iff_isRespellable hsigil h
  use hiff
  intro htext
  obtain ⟨s, rest, hs⟩ := List.exists_cons_of_ne_nil (mt String.toList_eq_nil_iff.mp hsigil)
  rw [hs] at htext
  rw [hiff]
  apply Query.isRespellable_of_notMem hs (Query.sigil_ne_empty (of_succeeds_absorb ⟨rfl, h⟩).1)
  apply htext s rfl

/-- A registry with the sigil `:` that has issued two tokens absorbs a query with the sigil
`$`. -/
theorem absorb_crosses_sigils_iff_of_colon :
  ∃ absorbed,
    (absorb ⟨"owner = $1 OR $1 = $2", [.text "me", .int 3], "$", 1⟩
        ((new { sigil := ":" } 0).append [some (.text "p"), none])).2.result = .ok absorbed
      ∧ absorbed.IsReadAs ":" ⟨"owner = $1 OR $1 = $2", [.text "me", .int 3], "$", 1⟩
  := by
  obtain ⟨absorbed, h⟩ : ∃ absorbed,
      (absorb ⟨"owner = $1 OR $1 = $2", [.text "me", .int 3], "$", 1⟩
        ((new { sigil := ":" } 0).append [some (.text "p"), none])).2.result = .ok absorbed :=
    Except.exists_eq_ok (by decide +kernel)
  use absorbed, h
  apply (absorb_crosses_sigils_iff (by decide) h).2
  rintro s ⟨⟩
  decide +kernel

/-- Both sigils are valid and the query is accepted, but the sigil of the registry is not
looked for in its text, and an array slice is read as a token afterwards. -/
theorem absorb_captures_array_slice :
  ∃ absorbed,
    Config.validate { sigil := ":" } = .ok ()
      ∧ Config.validate { sigil := "$" } = .ok ()
      ∧ (absorb ⟨"tags[:9] = $1", [.text "me"], "$", 1⟩
          ((new { sigil := ":" } 0).append [some (.text "p"), some (.text "t")])).2.result
        = .ok absorbed
      ∧ ¬ absorbed.IsReadAs ":" ⟨"tags[:9] = $1", [.text "me"], "$", 1⟩
  := by
  obtain ⟨absorbed, h⟩ : ∃ absorbed,
      (absorb ⟨"tags[:9] = $1", [.text "me"], "$", 1⟩
        ((new { sigil := ":" } 0).append [some (.text "p"), some (.text "t")])).2.result
      = .ok absorbed :=
    Except.exists_eq_ok (by decide +kernel)
  use absorbed, rfl, rfl, h
  apply mt (isReadAs_iff_isRespellable (by decide) h).mp
  decide +kernel

end Registry

end BoundSql
