import BoundSql.Proofs.Reading

/-!
# References in SQL text

A reference is an occurrence of the sigil that is not glued to a word, together with all digits
behind it, of which there is at least one.  Where a text has references does not depend on how
they are looked for.  Every token that is found in a text is a reference, and if occurrences of
the sigil overlap neither each other nor digits, then every reference is found whose number is
one that a token can have (`Scan.mem_slots_scan_iff`).
-/

namespace BoundSql

open Template

/-- A slot of a template stands between two templates. -/
theorem Template.exists_eq_append_slot {α : Type} {t : Template α} {a : α} (h : a ∈ t.slots) :
  ∃ u v : Template α, t = u ++ .slot a :: v
  := by
  obtain ⟨symbol, hsymbol, hslot⟩ := List.mem_filterMap.mp h
  cases symbol with
  | char c => contradiction
  | slot b =>
    obtain rfl := Option.some.inj hslot
    apply List.append_of_mem hsymbol

theorem Template.of_ofChars_append_eq {α : Type} {cs : List Char} {t u v : Template α} {a : α}
    (h : ofChars cs ++ t = u ++ .slot a :: v) :
  ∃ rest, u = ofChars cs ++ rest ∧ t = rest ++ .slot a :: v
  := by
  induction cs generalizing u with
  | nil => exact ⟨u, rfl, h⟩
  | cons c cs ih =>
    cases u with
    | nil => cases h
    | cons symbol u =>
      obtain ⟨rfl, hrest⟩ := List.cons.inj h
      obtain ⟨rest, rfl, ht⟩ := ih hrest
      exact ⟨rest, rfl, ht⟩

namespace Scan

variable {s : Char} {sigil : List Char}

/-- Digits in front of a text are all digits that stand there, and there is at least one. -/
structure IsRun (digits behind : List Char) : Prop where
  ne_nil : digits ≠ []
  isDigit : ∀ c ∈ digits, c.isDigit = true
  takeWhile_eq : behind.takeWhile Char.isDigit = []

/-- Digits make an occurrence of the sigil in front of them a reference, which stands between
two texts: they are all digits there, and the occurrence is not glued to a word. -/
structure IsReference (front digits behind : List Char) : Prop extends IsRun digits behind where
  isGlued_eq : isGlued front.getLast? = false

theorem isRun_takeWhile {text : List Char} (h : text.takeWhile Char.isDigit ≠ []) :
  IsRun (text.takeWhile Char.isDigit) (text.dropWhile Char.isDigit)
  where
  ne_nil := h
  isDigit _ hc := List.mem_takeWhile_imp hc
  takeWhile_eq := takeWhile_dropWhile_digits text

/-! ### Tokens are references -/

/-- Where a slot has been read, there is a reference with its digits between the text that has
been read before and the one that is read behind. -/
theorem of_scanFrom_eq_append (before : Option Char) (text : List Char) :
  ∀ (u v : Template Numeral) (numeral : Numeral),
    scanFrom s sigil before text = u ++ .slot numeral :: v →
    isGlued ((u.written (s :: sigil)).getLast?.or before) = false
      ∧ IsRun numeral.digits (v.written (s :: sigil))
  := by
  fun_induction scanFrom s sigil before text with
  | case1 before =>
    intro u v numeral hsplit
    cases u with
    | nil => contradiction
    | cons symbol u => contradiction
  | case2 before c cs h ih =>
    intro u v numeral hsplit
    cases u with
    | nil => cases hsplit
    | cons symbol u =>
      obtain ⟨rfl, hrest⟩ := List.cons.inj hsplit
      rw [written_char, getLast?_cons_or]
      exact ih u v numeral hrest
  | case3 before c cs rest h digits hglued ih =>
    intro u v numeral hsplit
    obtain ⟨u, rfl, hrest⟩ := of_ofChars_append_eq hsplit
    rw [written_append, written_ofChars, getLast?_append_or (List.cons_ne_nil s sigil)]
    exact ih u v numeral hrest
  | case4 before c cs rest h digits hglued found ih =>
    intro u v numeral hsplit
    rw [Bool.or_eq_true, List.isEmpty_iff, not_or, Bool.not_eq_true] at hglued
    by_cases hid : isTokenId (Numeral.value ⟨digits⟩)
    · have hfound : found = ref ⟨digits⟩ := if_pos hid
      rw [hfound] at hsplit
      cases u with
      | nil =>
        obtain ⟨hsame, hrest⟩ := List.cons.inj hsplit
        obtain rfl := Symbol.slot.inj hsame
        have hv : v.written (s :: sigil) = rest.dropWhile Char.isDigit := by
          rw [← written_scanFrom digits.getLast? (rest.dropWhile Char.isDigit)]
          exact congrArg (written (s :: sigil)) hrest.symm
        rw [hv]
        exact ⟨hglued.2, isRun_takeWhile hglued.1⟩
      | cons symbol u =>
        obtain ⟨rfl, hrest⟩ := List.cons.inj hsplit
        rw [written_slot, getLast?_digits_append hglued.1]
        exact ih u v numeral hrest
    · have hfound : found = ofChars (s :: sigil ++ digits) := if_neg hid
      rw [hfound] at hsplit
      obtain ⟨u, rfl, hrest⟩ := of_ofChars_append_eq hsplit
      rw [written_append, written_ofChars, getLast?_digits_append hglued.1]
      exact ih u v numeral hrest

/-! ### References are found -/

/-- Occurrences of the sigil do not overlap: nothing but the whole sigil both begins and ends
it. -/
def IsUnbordered (sigil : List Char) : Prop :=
  ∀ border, border <+: sigil → border <:+ sigil → border = [] ∨ border = sigil

/-- Occurrences of a single character do not overlap. -/
theorem isUnbordered_singleton (s : Char) :
  IsUnbordered [s]
  := by
  intro border hprefix _
  obtain rfl | ⟨rest, rfl, hrest⟩ := List.prefix_cons_iff.mp hprefix
  · exact Or.inl rfl
  · rw [List.prefix_nil.mp hrest]
    exact Or.inr rfl

/-- An occurrence of the sigil behind another one does not begin within it. -/
theorem IsUnbordered.of_append_eq {sigil front text rest : List Char}
    (h : IsUnbordered sigil) (htext : sigil ++ text = front ++ (sigil ++ rest)) :
  front = [] ∨ ∃ between, front = sigil ++ between ∧ text = between ++ (sigil ++ rest)
  := by
  have hfront : front <+: sigil ++ text := ⟨_, htext.symm⟩
  obtain hsigil | ⟨border, hborder⟩ :=
    List.prefix_or_prefix_of_prefix (List.prefix_append sigil text) hfront
  · obtain ⟨between, rfl⟩ := hsigil
    rw [List.append_assoc, List.append_cancel_left_eq] at htext
    exact Or.inr ⟨between, rfl, htext⟩
  · have htext' : border ++ text = sigil ++ rest := by
      rwa [← hborder, List.append_assoc, List.append_cancel_left_eq, hborder] at htext
    have hle : border.length ≤ sigil.length := by
      rw [← hborder, List.length_append]
      apply Nat.le_add_left
    have hprefix : border <+: sigil :=
      List.prefix_of_prefix_length_le ⟨text, htext'⟩ (List.prefix_append sigil rest) hle
    obtain rfl | rfl := h border hprefix ⟨front, hborder⟩
    · rw [List.append_nil] at hborder
      obtain rfl := hborder
      exact Or.inr ⟨[], (List.append_nil front).symm, htext'⟩
    · exact Or.inl (List.append_left_eq_self.mp hborder)

/-- The digits of an occurrence are written alike, whether they make a token or not. -/
theorem written_token_or_chars (digits : List Char) :
  written (s :: sigil) (if isTokenId (Numeral.value ⟨digits⟩) then ref ⟨digits⟩
      else ofChars (s :: sigil ++ digits))
    = s :: sigil ++ digits
  := by
  split_ifs
  · apply chars_ref
  · apply written_ofChars

/-- A reference whose number is one that a token can have is read, wherever it stands in the
text. -/
theorem exists_scanFrom_eq_append (hunbordered : IsUnbordered (s :: sigil))
    (hs : s.isDigit = false) (before : Option Char) (text : List Char) :
  ∀ front digits behind : List Char,
    text = front ++ (s :: sigil ++ (digits ++ behind)) →
    isGlued (front.getLast?.or before) = false → IsRun digits behind →
    isTokenId (Numeral.value ⟨digits⟩) = true →
    ∃ u v, scanFrom s sigil before text = u ++ .slot ⟨digits⟩ :: v
      ∧ written (s :: sigil) u = front
  := by
  fun_induction scanFrom s sigil before text with
  | case1 before =>
    intro front digits behind htext
    simp at htext
  | case2 before c cs h ih =>
    intro front digits behind htext hbefore hrun hid
    cases front with
    | nil =>
      have hsigil : s :: sigil <+: c :: cs := ⟨_, htext.symm⟩
      exact absurd hsigil (afterSigil?_eq_none_iff.mp h)
    | cons d front =>
      obtain ⟨rfl, hcs⟩ := List.cons.inj htext
      rw [getLast?_cons_or] at hbefore
      obtain ⟨u, v, hscan, hu⟩ := ih _ _ _ hcs hbefore hrun hid
      use .char c :: u, v, congrArg (Symbol.char c :: ·) hscan
      rw [written_char, hu]
  | case3 before c cs rest h found hglued ih =>
    intro front digits behind htext hbefore hrun hid
    rw [eq_append_of_afterSigil? h] at htext
    obtain rfl | ⟨between, rfl, hrest⟩ := hunbordered.of_append_eq htext
    · rw [List.nil_append, List.append_cancel_left_eq] at htext
      rw [List.getLast?_nil, Option.none_or] at hbefore
      have hfound : found = digits := by
        rw [← takeWhile_digits_append hrun.isDigit hrun.takeWhile_eq, ← htext]
      rw [hbefore, Bool.or_false, List.isEmpty_iff, hfound] at hglued
      exact absurd hglued hrun.ne_nil
    · rw [getLast?_append_or (List.cons_ne_nil s sigil)] at hbefore
      obtain ⟨u, v, hscan, hu⟩ := ih _ _ _ hrest hbefore hrun hid
      use ofChars (s :: sigil) ++ u, v
      rw [hscan, List.append_assoc, written_append, written_ofChars, hu]
      exact ⟨rfl, rfl⟩
  | case4 before c cs rest h run hglued found ih =>
    intro front digits behind htext hbefore hrun hid
    rw [eq_append_of_afterSigil? h] at htext
    obtain rfl | ⟨between, rfl, hrest⟩ := hunbordered.of_append_eq htext
    · rw [List.nil_append, List.append_cancel_left_eq] at htext
      have hdigits : run = digits := by
        rw [← takeWhile_digits_append hrun.isDigit hrun.takeWhile_eq, ← htext]
      have hfound : found = ref ⟨digits⟩ := by
        rw [← hdigits] at hid ⊢
        exact if_pos hid
      rw [hfound]
      exact ⟨[], _, rfl, rfl⟩
    · -- The digits behind this occurrence end before the next occurrence begins.
      have hstop : (s :: sigil ++ (digits ++ behind)).takeWhile Char.isDigit = [] := by
        rw [List.cons_append]
        apply List.takeWhile_cons_of_neg
        simp [hs]
      have hdigits : run = between.takeWhile Char.isDigit := by
        rw [← takeWhile_append_of_stop hstop between, ← hrest]
      have hbetween : between = run ++ between.dropWhile Char.isDigit := by
        rw [hdigits, List.takeWhile_append_dropWhile]
      rw [Bool.or_eq_true, List.isEmpty_iff, not_or] at hglued
      rw [hbetween, ← List.append_assoc, getLast?_digits_append hglued.1] at hbefore
      have hdrop : rest.dropWhile Char.isDigit
          = between.dropWhile Char.isDigit ++ (s :: sigil ++ (digits ++ behind)) := by
        rw [hrest, dropWhile_append_of_stop hstop]
      obtain ⟨u, v, hscan, hu⟩ := ih _ _ _ hdrop hbefore hrun hid
      have hfound : found.written (s :: sigil) = s :: sigil ++ run := written_token_or_chars run
      use found ++ u, v
      rw [hscan, List.append_assoc, written_append, hfound, hu, List.append_assoc, ← hbetween]
      exact ⟨rfl, rfl⟩

section

variable {sigil sql : String} {numeral : Numeral}

/-- A token of the scan is a reference between the text in front of it and the text behind it. -/
theorem of_scan_eq_append (hsigil : sigil ≠ "") {u v : Template Numeral}
    (h : scan sigil sql = u ++ .slot numeral :: v) :
  isTokenId numeral.value = true
    ∧ sql.toList = u.written sigil.toList
      ++ (sigil.toList ++ (numeral.digits ++ v.written sigil.toList))
    ∧ IsReference (u.written sigil.toList) numeral.digits (v.written sigil.toList)
  := by
  obtain ⟨s, rest, hs⟩ := exists_toList_eq_cons hsigil
  rw [scan_eq_scanFrom hs] at h
  rw [hs]
  refine ⟨?_, ?_, ?_⟩
  · have hslot : numeral ∈ (scanFrom s rest none sql.toList).slots := by
      rw [h, slots_append, slots_slot]
      apply List.mem_append_right _ List.mem_cons_self
    apply (isProper_of_mem_slots_scanFrom none _ _ hslot).isTokenId
  · rw [← written_scanFrom none sql.toList, h, written_append, written_slot, List.append_assoc]
  · obtain ⟨hglued, hrun⟩ := of_scanFrom_eq_append none _ u v numeral h
    rw [Option.or_none] at hglued
    exact ⟨hrun, hglued⟩

/-- A reference whose number is one that a token can have is a token of the scan, behind the text
in front of it. -/
theorem exists_scan_eq_append (hsigil : sigil ≠ "") (hunbordered : IsUnbordered sigil.toList)
    (hdigits : ∀ c ∈ sigil.toList, c.isDigit = false) {front behind : List Char}
    (htext : sql.toList = front ++ (sigil.toList ++ (numeral.digits ++ behind)))
    (href : IsReference front numeral.digits behind) (hid : isTokenId numeral.value = true) :
  ∃ u v : Template Numeral, scan sigil sql = u ++ .slot numeral :: v
    ∧ u.written sigil.toList = front
  := by
  obtain ⟨s, rest, hs⟩ := exists_toList_eq_cons hsigil
  have hglued := href.isGlued_eq
  rw [← Option.or_none (o := front.getLast?)] at hglued
  rw [hs] at hunbordered hdigits htext ⊢
  rw [scan_eq_scanFrom hs]
  apply exists_scanFrom_eq_append hunbordered (hdigits s List.mem_cons_self) none _ _ _ _ htext
    hglued href.toIsRun hid

/-- The tokens of a text are those of its references whose numbers tokens can have. -/
theorem mem_slots_scan_iff (hsigil : sigil ≠ "") (hunbordered : IsUnbordered sigil.toList)
    (hdigits : ∀ c ∈ sigil.toList, c.isDigit = false) :
  numeral ∈ (scan sigil sql).slots
    ↔ isTokenId numeral.value = true
      ∧ ∃ front behind, sql.toList = front ++ (sigil.toList ++ (numeral.digits ++ behind))
        ∧ IsReference front numeral.digits behind
  := by
  constructor
  · intro hmem
    obtain ⟨u, v, hsplit⟩ := exists_eq_append_slot hmem
    obtain ⟨hid, htext, href⟩ := of_scan_eq_append hsigil hsplit
    exact ⟨hid, _, _, htext, href⟩
  · rintro ⟨hid, front, behind, htext, href⟩
    obtain ⟨u, v, hscan, -⟩ :=
      exists_scan_eq_append hsigil hunbordered hdigits htext href hid
    rw [hscan, slots_append, slots_slot]
    apply List.mem_append_right _ List.mem_cons_self

end

end Scan

end BoundSql
