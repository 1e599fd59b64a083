import BoundSql.Proofs.Template
import Mathlib.Data.List.TakeWhile

/-!
# Reading templates back

A template of numerals is written by putting the sigil and the digits of each numeral in
its place.  `scanFrom_written_mapSlots` says that a template that was read from a text is
still read when its numerals have been exchanged for others: the text between the tokens
stays between them, and no token appears or gets lost.  `Legible` templates are those
that are read back wherever no word character stands before them, and the ways of putting
templates together keep them legible.
-/

namespace BoundSql

theorem isDigit_of_mem_toDigits (n : Nat) :
  ∀ c ∈ Nat.toDigits 10 n, c.isDigit = true
  := fun _ hc => Nat.isDigit_of_mem_toDigits (by decide) (by decide) hc

namespace Numeral

instance : Inhabited Numeral := ⟨⟨[]⟩⟩

/-- The numeral that a token with the number `id` is written with. -/
def ofId (id : Nat) : Numeral := ⟨Nat.toDigits 10 id⟩

@[simp]
theorem value_ofId (id : Nat) :
  (ofId id).value = id
  := Nat.ofDigitChars_toDigits (by decide) (by decide)

/-- A numeral that can stand behind a sigil: digits, at least one of them, with the number
of a token. -/
structure IsProper (numeral : Numeral) : Prop where
  ne_nil : numeral.digits ≠ []
  isDigit : ∀ c ∈ numeral.digits, c.isDigit = true
  isTokenId : isTokenId numeral.value = true

theorem isProper_ofId {id : Nat} (h : BoundSql.isTokenId id = true) :
  (ofId id).IsProper where
  ne_nil := Nat.toDigits_ne_nil
  isDigit := isDigit_of_mem_toDigits id
  isTokenId := by rwa [value_ofId]

end Numeral

/-- The characters of a template of numerals, each behind the sigil. -/
def Template.written (sigil : List Char) (t : Template Numeral) : List Char :=
  t.chars fun numeral => sigil ++ numeral.digits

/-- The text of a template of tokens with one sigil is written from their numerals. -/
theorem Template.toList_text_name {sigil : String} {t : Template Token}
    (h : ∀ token ∈ t.slots, token.sigil = sigil) :
  (t.text Token.name).toList
    = (t.mapSlots fun token => Numeral.ofId token.id).written sigil.toList
  := by
  rw [toList_text, written, chars_mapSlots]
  apply chars_congr
  intro token htoken
  rw [Token.name, h token htoken]
  apply toList_tokenName

theorem exists_toList_eq_cons {text : String} (h : text ≠ "") :
  ∃ c cs, text.toList = c :: cs
  := List.exists_cons_of_ne_nil (mt String.toList_eq_nil_iff.mp h)

theorem scan_eq_scanFrom {sigil : String} {s : Char} {rest : List Char}
    (h : sigil.toList = s :: rest) (sql : String) :
  scan sigil sql = Scan.scanFrom s rest none sql.toList
  := by
  rw [scan, h]

namespace Scan

open Template

variable {s : Char} {sigil : List Char}

/-! ### One step of the scan -/

theorem afterSigil?_eq_some_iff {sigil text rest : List Char} :
  afterSigil? sigil text = some rest ↔ text = sigil ++ rest
  := by
  constructor
  · apply eq_append_of_afterSigil?
  · rintro rfl
    apply afterSigil?_append

theorem afterSigil?_eq_none_iff {sigil text : List Char} :
  afterSigil? sigil text = none ↔ ¬ sigil <+: text
  := by
  rw [Option.eq_none_iff_forall_ne_some]
  constructor
  · rintro h ⟨rest, hrest⟩
    apply h rest
    apply afterSigil?_eq_some_iff.mpr hrest.symm
  · intro h rest hrest
    apply h
    use rest
    exact (afterSigil?_eq_some_iff.mp hrest).symm

@[simp]
theorem scanFrom_nil (before : Option Char) :
  scanFrom s sigil before [] = []
  := by
  rw [scanFrom]

/-- Where no occurrence of the sigil begins, the scan moves on by one character. -/
theorem scanFrom_cons {before : Option Char} {c : Char} {cs : List Char}
    (h : ¬ (s :: sigil) <+: c :: cs) :
  scanFrom s sigil before (c :: cs) = .char c :: scanFrom s sigil (some c) cs
  := by
  rw [scanFrom]
  split
  next => rfl
  next rest hrest =>
    rw [afterSigil?_eq_none_iff.mpr h] at hrest
    contradiction

/-- At an occurrence of the sigil the scan reads the digits behind it. -/
theorem scanFrom_sigil (before : Option Char) (rest : List Char) :
  scanFrom s sigil before (s :: sigil ++ rest)
    = if (rest.takeWhile Char.isDigit).isEmpty || isGlued before then
        ofChars (s :: sigil) ++ scanFrom s sigil (s :: sigil).getLast? rest
      else
        (if isTokenId (Numeral.value ⟨rest.takeWhile Char.isDigit⟩) then
          ref ⟨rest.takeWhile Char.isDigit⟩
        else ofChars (s :: sigil ++ rest.takeWhile Char.isDigit))
          ++ scanFrom s sigil (rest.takeWhile Char.isDigit).getLast?
              (rest.dropWhile Char.isDigit)
  := by
  rw [List.cons_append, scanFrom]
  split
  next hnone =>
    rw [← List.cons_append, afterSigil?_append] at hnone
    contradiction
  next rest' hrest =>
    rw [← List.cons_append, afterSigil?_append] at hrest
    obtain rfl := Option.some.inj hrest
    rfl

/-- Of the character before the text only matters whether it glues an occurrence to a
word. -/
theorem scanFrom_congr {before before' : Option Char} (h : isGlued before = isGlued before')
    (text : List Char) :
  scanFrom s sigil before text = scanFrom s sigil before' text
  := by
  cases text with
  | nil => simp
  | cons c cs =>
    by_cases hp : (s :: sigil) <+: c :: cs
    · obtain ⟨rest, hrest⟩ := hp
      rw [← hrest, scanFrom_sigil, scanFrom_sigil, h]
    · rw [scanFrom_cons hp, scanFrom_cons hp]

/-! ### Digits -/

/-- A text behind a numeral that does not go on with digits. -/
theorem takeWhile_digits_append {digits rest : List Char}
    (hdigits : ∀ c ∈ digits, c.isDigit = true) (hrest : rest.takeWhile Char.isDigit = []) :
  (digits ++ rest).takeWhile Char.isDigit = digits
  := by
  rw [List.takeWhile_append_of_pos hdigits, hrest, List.append_nil]

theorem dropWhile_eq_self {rest : List Char} (hrest : rest.takeWhile Char.isDigit = []) :
  rest.dropWhile Char.isDigit = rest
  := by
  have h := List.takeWhile_append_dropWhile (p := Char.isDigit) (l := rest)
  rwa [hrest, List.nil_append] at h

theorem dropWhile_digits_append {digits rest : List Char}
    (hdigits : ∀ c ∈ digits, c.isDigit = true) (hrest : rest.takeWhile Char.isDigit = []) :
  (digits ++ rest).dropWhile Char.isDigit = rest
  := by
  rw [List.dropWhile_append_of_pos hdigits, dropWhile_eq_self hrest]

theorem takeWhile_dropWhile_digits (cs : List Char) :
  (cs.dropWhile Char.isDigit).takeWhile Char.isDigit = []
  := by
  induction cs with
  | nil => rfl
  | cons c cs ih =>
    by_cases h : c.isDigit
    · rwa [List.dropWhile_cons_of_pos h]
    · rw [List.dropWhile_cons_of_neg h, List.takeWhile_cons_of_neg h]

/-- Behind a digit an occurrence of the sigil is glued. -/
theorem isGlued_getLast? {digits : List Char} (hne : digits ≠ [])
    (hdigits : ∀ c ∈ digits, c.isDigit = true) :
  isGlued digits.getLast? = true
  := by
  have hlast := hdigits _ (List.getLast_mem hne)
  rw [List.getLast?_eq_some_getLast hne]
  simp [isGlued, isWordChar, Char.isAlphanum, hlast]

/-- A written token is read. -/
theorem scanFrom_token {before : Option Char} {numeral : Numeral} {rest : List Char}
    (hbefore : isGlued before = false) (hnumeral : numeral.IsProper)
    (hrest : rest.takeWhile Char.isDigit = []) :
  scanFrom s sigil before (s :: sigil ++ numeral.digits ++ rest)
    = .slot numeral :: scanFrom s sigil numeral.digits.getLast? rest
  := by
  have hne : numeral.digits.isEmpty = false := by simpa using hnumeral.ne_nil
  rw [List.append_assoc, scanFrom_sigil, takeWhile_digits_append hnumeral.isDigit hrest,
    dropWhile_digits_append hnumeral.isDigit hrest, hne, hbefore]
  simp [hnumeral.isTokenId, ref]

/-- The numerals that are read from a text are proper. -/
theorem isProper_of_mem_slots_scanFrom (before : Option Char) (text : List Char) :
  ∀ n ∈ (scanFrom s sigil before text).slots, n.IsProper
  := by
  fun_induction scanFrom s sigil before text with
  | case1 before =>
    intro n hn
    contradiction
  | case2 before c cs h ih => exact ih
  | case3 before c cs rest h digits hglued ih =>
    rw [slots_append, slots_ofChars, List.nil_append]
    apply ih
  | case4 before c cs rest h digits hglued found ih =>
    rw [Bool.or_eq_true, List.isEmpty_iff, not_or] at hglued
    rw [slots_append, List.forall_mem_append]
    refine ⟨?_, ih⟩
    intro n hn
    by_cases hid : isTokenId (Numeral.value ⟨digits⟩)
    · have hfound : found = ref ⟨digits⟩ := if_pos hid
      rw [hfound, slots_ref] at hn
      obtain rfl := List.mem_singleton.mp hn
      exact ⟨hglued.1, fun c hc => List.mem_takeWhile_imp hc, hid⟩
    · have hfound : found = ofChars (s :: sigil ++ digits) := if_neg hid
      rw [hfound, slots_ofChars] at hn
      contradiction

/-- Where a word character stands before a text, the text does not begin with a token. -/
theorem isGlued_of_scanFrom_eq_slot {before : Option Char} {text : List Char} {n : Numeral}
    {t : Template Numeral} (h : scanFrom s sigil before text = .slot n :: t) :
  isGlued before = false
  := by
  cases text with
  | nil =>
    rw [scanFrom_nil] at h
    contradiction
  | cons c cs =>
    by_cases hp : (s :: sigil) <+: c :: cs
    · obtain ⟨rest, hrest⟩ := hp
      rw [← hrest, scanFrom_sigil] at h
      split_ifs at h with hglued
      · cases h
      · rw [Bool.or_eq_true, not_or, Bool.not_eq_true, Bool.not_eq_true] at hglued
        exact hglued.2
      · cases h
    · rw [scanFrom_cons hp] at h
      cases h

/-! ### Exchanging numerals -/

theorem written_scanFrom (before : Option Char) (text : List Char) :
  (scanFrom s sigil before text).written (s :: sigil) = text
  := chars_scanFrom s sigil before text

theorem written_char (c : Char) (t : Template Numeral) :
  written (s :: sigil) (.char c :: t) = c :: t.written (s :: sigil)
  := rfl

theorem written_slot (n : Numeral) (t : Template Numeral) :
  written (s :: sigil) (.slot n :: t) = s :: sigil ++ n.digits ++ t.written (s :: sigil)
  := rfl

theorem written_append (t u : Template Numeral) :
  (t ++ u).written (s :: sigil) = t.written (s :: sigil) ++ u.written (s :: sigil)
  := chars_append _ t u

theorem written_ofChars (cs : List Char) :
  (ofChars cs : Template Numeral).written (s :: sigil) = cs
  := chars_ofChars _ cs

/-- Whether a written template begins with a digit does not depend on the numerals. -/
theorem takeWhile_written_of_shape_eq {t u : Template Numeral} (hshape : u.shape = t.shape)
    (h : (t.written (s :: sigil)).takeWhile Char.isDigit = []) :
  (u.written (s :: sigil)).takeWhile Char.isDigit = []
  := by
  cases t with
  | nil =>
    cases u with
    | nil => rfl
    | cons symbol u => cases symbol <;> contradiction
  | cons symbol t =>
    cases symbol with
    | char c =>
      obtain ⟨u, rfl, -⟩ := of_shape_eq_char hshape
      by_cases hc : c.isDigit
      · rw [written_char, List.takeWhile_cons_of_pos hc] at h
        contradiction
      · apply List.takeWhile_cons_of_neg hc
    | slot n =>
      obtain ⟨m, u, rfl, -⟩ := of_shape_eq_slot hshape
      by_cases hs : s.isDigit
      · rw [written_slot, List.append_assoc, List.cons_append,
          List.takeWhile_cons_of_pos hs] at h
        contradiction
      · rw [written_slot, List.append_assoc, List.cons_append]
        apply List.takeWhile_cons_of_neg hs

/-- An occurrence of the sigil at the beginning of a written template does not depend on
the numerals: it ends before the digits of the first token begin. -/
theorem prefix_written_of_shape_eq {t u : Template Numeral} (hshape : u.shape = t.shape)
    (front : List Char) (h : (s :: sigil) <+: front ++ u.written (s :: sigil)) :
  (s :: sigil) <+: front ++ t.written (s :: sigil)
  := by
  induction t generalizing front u with
  | nil =>
    cases u with
    | nil => exact h
    | cons symbol u => cases symbol <;> contradiction
  | cons symbol t ih =>
    cases symbol with
    | char c =>
      obtain ⟨u, rfl, hrest⟩ := of_shape_eq_char hshape
      rw [written_char, List.append_cons]
      apply ih hrest
      rwa [written_char, List.append_cons] at h
    | slot n =>
      obtain ⟨m, u, rfl, -⟩ := of_shape_eq_slot hshape
      rw [written_slot, List.append_assoc, ← List.append_assoc] at h
      rw [written_slot, List.append_assoc, ← List.append_assoc]
      apply List.IsPrefix.trans _ (List.prefix_append (front ++ s :: sigil) _)
      apply List.prefix_of_prefix_length_le h (List.prefix_append _ _)
      simp

/-- A template of proper numerals is read back if a template that was read from a text has
the same characters in the same places. -/
theorem scanFrom_written_of_shape_eq (before : Option Char) (text : List Char) :
  ∀ u : Template Numeral, u.shape = (scanFrom s sigil before text).shape →
    (∀ n ∈ u.slots, n.IsProper) → scanFrom s sigil before (u.written (s :: sigil)) = u
  := by
  fun_induction scanFrom s sigil before text with
  | case1 before =>
    intro u hshape _
    cases u with
    | nil => exact scanFrom_nil before
    | cons symbol u => cases symbol <;> contradiction
  | case2 before c cs h ih =>
    intro u hshape hu
    obtain ⟨u, rfl, hrest⟩ := of_shape_eq_char hshape
    have hp : ¬ (s :: sigil) <+: c :: u.written (s :: sigil) := by
      intro hp
      apply afterSigil?_eq_none_iff.mp h
      have hcs := prefix_written_of_shape_eq hrest [c] hp
      rwa [written_scanFrom] at hcs
    rw [written_char, scanFrom_cons hp, ih u hrest hu]
  | case3 before c cs rest h digits hglued ih =>
    intro u hshape hu
    rw [shape_append, shape_ofChars] at hshape
    obtain ⟨u, rfl, hrest⟩ := of_shape_eq_ofChars hshape
    have hstop : (u.written (s :: sigil)).takeWhile Char.isDigit = []
        ∨ isGlued before = true := by
      rw [Bool.or_eq_true, List.isEmpty_iff] at hglued
      apply hglued.imp_left
      intro hdigits
      apply takeWhile_written_of_shape_eq hrest
      rw [written_scanFrom, ← hdigits]
    rw [slots_append, slots_ofChars, List.nil_append] at hu
    rw [written_append, written_ofChars, scanFrom_sigil, if_pos, ih u hrest hu]
    rw [Bool.or_eq_true, List.isEmpty_iff]
    apply hstop
  | case4 before c cs rest h digits hglued found ih =>
    intro u hshape hu
    rw [Bool.or_eq_true, List.isEmpty_iff, not_or, Bool.not_eq_true] at hglued
    have hdigits : ∀ c ∈ digits, c.isDigit = true := fun c hc => List.mem_takeWhile_imp hc
    have hstop : ∀ v : Template Numeral, v.shape
        = (scanFrom s sigil digits.getLast? (rest.dropWhile Char.isDigit)).shape →
        (v.written (s :: sigil)).takeWhile Char.isDigit = [] := by
      intro v hv
      apply takeWhile_written_of_shape_eq hv
      rw [written_scanFrom, takeWhile_dropWhile_digits]
    rw [shape_append] at hshape
    by_cases hid : isTokenId (Numeral.value ⟨digits⟩)
    · have hfound : found = ref ⟨digits⟩ := if_pos hid
      rw [hfound] at hshape
      obtain ⟨n, u, rfl, hrest⟩ := of_shape_eq_slot hshape
      rw [slots_slot, List.forall_mem_cons] at hu
      have hbefore : isGlued n.digits.getLast? = isGlued digits.getLast? := by
        rw [isGlued_getLast? hu.1.ne_nil hu.1.isDigit, isGlued_getLast? hglued.1 hdigits]
      rw [written_slot, scanFrom_token hglued.2 hu.1 (hstop u hrest), scanFrom_congr hbefore,
        ih u hrest hu.2]
    · have hfound : found = ofChars (s :: sigil ++ digits) := if_neg hid
      rw [hfound, shape_ofChars] at hshape
      obtain ⟨u, rfl, hrest⟩ := of_shape_eq_ofChars hshape
      rw [slots_append, slots_ofChars, List.nil_append] at hu
      rw [written_append, written_ofChars, List.append_assoc, scanFrom_sigil,
        takeWhile_digits_append hdigits (hstop u hrest),
        dropWhile_digits_append hdigits (hstop u hrest), if_neg, if_neg hid, ih u hrest hu]
      rw [Bool.or_eq_true, List.isEmpty_iff, not_or, Bool.not_eq_true]
      apply hglued

/-- A template that was read from a text is read again when its numerals have been
exchanged for other proper ones. -/
theorem scanFrom_written_mapSlots (r : Numeral → Numeral) (before : Option Char)
    (text : List Char) (hr : ∀ n ∈ (scanFrom s sigil before text).slots, (r n).IsProper) :
  scanFrom s sigil before (((scanFrom s sigil before text).mapSlots r).written (s :: sigil))
    = (scanFrom s sigil before text).mapSlots r
  := by
  apply scanFrom_written_of_shape_eq before text _ (shape_mapSlots r _)
  intro n hn
  rw [slots_mapSlots] at hn
  obtain ⟨m, hm, rfl⟩ := List.mem_map.mp hn
  apply hr m hm

/-! ### Boundaries -/

/-- A text that can follow any other without becoming part of a token there: it is empty
or begins with a character that is neither a digit nor in the sigil. -/
def IsDetached (sigil cs : List Char) : Prop :=
  ∀ c ∈ cs.head?, c ∉ sigil ∧ c.isDigit = false

theorem IsDetached.takeWhile_eq_nil {sigil cs : List Char} (h : IsDetached sigil cs) :
  cs.takeWhile Char.isDigit = []
  := by
  cases cs with
  | nil => rfl
  | cons c cs =>
    apply List.takeWhile_cons_of_neg
    simp [(h c rfl).2]

theorem IsDetached.prefix_of_append {sigil text cs : List Char} (h : IsDetached sigil cs)
    (hbegins : sigil <+: text ++ cs) :
  sigil <+: text
  := by
  cases cs with
  | nil => rwa [List.append_nil] at hbegins
  | cons c cs =>
    rcases List.prefix_or_prefix_of_prefix hbegins (List.prefix_append text (c :: cs)) with
      hsigil | ⟨rest, rfl⟩
    · apply hsigil
    · rw [List.prefix_append_right_inj, List.prefix_cons_iff] at hbegins
      obtain rfl | ⟨rest, rfl, -⟩ := hbegins
      · simp
      · exact absurd (by simp) (h c rfl).1

theorem takeWhile_append_of_stop {cs : List Char} (h : cs.takeWhile Char.isDigit = [])
    (text : List Char) :
  (text ++ cs).takeWhile Char.isDigit = text.takeWhile Char.isDigit
  := by
  induction text with
  | nil => exact h
  | cons c text ih =>
    by_cases hc : c.isDigit
    · rw [List.cons_append, List.takeWhile_cons_of_pos hc, List.takeWhile_cons_of_pos hc, ih]
    · rw [List.cons_append, List.takeWhile_cons_of_neg hc, List.takeWhile_cons_of_neg hc]

theorem dropWhile_append_of_stop {cs : List Char} (h : cs.takeWhile Char.isDigit = [])
    (text : List Char) :
  (text ++ cs).dropWhile Char.isDigit = text.dropWhile Char.isDigit ++ cs
  := by
  induction text with
  | nil => exact dropWhile_eq_self h
  | cons c text ih =>
    by_cases hc : c.isDigit
    · rw [List.cons_append, List.dropWhile_cons_of_pos hc, List.dropWhile_cons_of_pos hc, ih]
    · rw [List.cons_append, List.dropWhile_cons_of_neg hc, List.dropWhile_cons_of_neg hc,
        List.cons_append]

/-- The last character of a text that has one, with another text in front. -/
theorem getLast?_append_or {front : List Char} (h : front ≠ []) (text : List Char)
    (before : Option Char) :
  (front ++ text).getLast?.or before = text.getLast?.or front.getLast?
  := by
  rw [List.getLast?_append, Option.or_assoc, List.getLast?_eq_some_getLast h, Option.some_or]

theorem getLast?_cons_or (c : Char) (text : List Char) (before : Option Char) :
  (c :: text).getLast?.or before = text.getLast?.or (some c)
  := getLast?_append_or (List.cons_ne_nil c []) text before

/-- Digits behind the sigil end the text, unless something stands behind them. -/
theorem getLast?_digits_append {digits : List Char} (h : digits ≠ []) (text : List Char)
    (before : Option Char) :
  (s :: sigil ++ digits ++ text).getLast?.or before = text.getLast?.or digits.getLast?
  := by
  have hne : s :: sigil ++ digits ≠ [] := by simp
  rw [getLast?_append_or hne, List.getLast?_append, List.getLast?_eq_some_getLast h,
    Option.some_or]

/-- A text before a detached one is read on its own. -/
theorem scanFrom_append (before : Option Char) (text : List Char) {cs : List Char}
    (h : IsDetached (s :: sigil) cs) :
  scanFrom s sigil before (text ++ cs)
    = scanFrom s sigil before text ++ scanFrom s sigil (text.getLast?.or before) cs
  := by
  have hstop := h.takeWhile_eq_nil
  fun_induction scanFrom s sigil before text with
  | case1 before => rfl
  | case2 before c text hnone ih =>
    have hp : ¬ (s :: sigil) <+: c :: (text ++ cs) := by
      intro hp
      apply afterSigil?_eq_none_iff.mp hnone
      apply h.prefix_of_append hp
    rw [List.cons_append, scanFrom_cons hp, ih, getLast?_cons_or, List.cons_append]
  | case3 before c text rest hrest digits hglued ih =>
    rw [eq_append_of_afterSigil? hrest, List.append_assoc, scanFrom_sigil,
      takeWhile_append_of_stop hstop, if_pos hglued, ih, List.append_assoc,
      getLast?_append_or (List.cons_ne_nil s sigil)]
  | case4 before c text rest hrest digits hglued found ih =>
    rw [eq_append_of_afterSigil? hrest, List.append_assoc, scanFrom_sigil,
      takeWhile_append_of_stop hstop, dropWhile_append_of_stop hstop, if_neg hglued, ih,
      List.append_assoc]
    rw [Bool.or_eq_true, List.isEmpty_iff, not_or] at hglued
    have hsplit : s :: sigil ++ rest
        = (s :: sigil ++ digits) ++ rest.dropWhile Char.isDigit := by
      rw [List.append_assoc, List.takeWhile_append_dropWhile]
    rw [hsplit, getLast?_digits_append hglued.1]
    rfl

/-- In front of a text, characters other than the first one of the sigil are no part of a
token. -/
theorem scanFrom_append_of_notMem {cs : List Char} (h : s ∉ cs) (before : Option Char)
    (text : List Char) :
  scanFrom s sigil before (cs ++ text)
    = ofChars cs ++ scanFrom s sigil (cs.getLast?.or before) text
  := by
  induction cs generalizing before with
  | nil => rfl
  | cons c cs ih =>
    rw [List.mem_cons, not_or] at h
    have hp : ¬ (s :: sigil) <+: c :: (cs ++ text) := by
      intro hp
      apply h.1
      exact (List.cons_prefix_cons.mp hp).1
    rw [List.cons_append, scanFrom_cons hp, ih h.2, getLast?_cons_or]
    rfl

/-! ### Legible templates -/

/-- A template that is read back wherever no word character stands before it. -/
def Legible (s : Char) (sigil : List Char) (t : Template Numeral) : Prop :=
  ∀ before, isGlued before = false →
    scanFrom s sigil before (t.written (s :: sigil)) = t

/-- A text that can stand between legible templates: it has nothing to do with the sigil,
does not begin with a digit and does not end in a word character. -/
structure Separates (s : Char) (sigil separator : List Char) : Prop where
  notMem : s ∉ separator
  isDetached : IsDetached (s :: sigil) separator
  ne_nil : separator ≠ []
  isGlued_getLast? : isGlued separator.getLast? = false

/-- It suffices to read a template back from the beginning of a text. -/
theorem legible_iff {t : Template Numeral} :
  Legible s sigil t ↔ scanFrom s sigil none (t.written (s :: sigil)) = t
  := by
  constructor
  · exact fun h => h none rfl
  · intro h before hbefore
    have hnone : isGlued before = isGlued none := hbefore
    rw [scanFrom_congr hnone, h]

theorem Legible.nil :
  Legible s sigil []
  := fun before _ => scanFrom_nil before

theorem Legible.ref {numeral : Numeral} (h : numeral.IsProper) :
  Legible s sigil (ref numeral)
  := by
  intro before hbefore
  have hread : scanFrom s sigil before (s :: sigil ++ numeral.digits ++ [])
      = .slot numeral :: scanFrom s sigil numeral.digits.getLast? [] :=
    scanFrom_token hbefore h rfl
  rw [scanFrom_nil, List.append_nil] at hread
  rw [written, chars_ref, hread]
  rfl

/-- A template that was read from a text is legible with other numerals. -/
theorem Legible.mapSlots_scanFrom {r : Numeral → Numeral} {text : List Char}
    (hr : ∀ n ∈ (scanFrom s sigil none text).slots, (r n).IsProper) :
  Legible s sigil ((scanFrom s sigil none text).mapSlots r)
  := legible_iff.mpr (scanFrom_written_mapSlots r none text hr)

/-- Legible templates with a separator between them. -/
theorem Legible.append {t u : Template Numeral} {separator : List Char}
    (ht : Legible s sigil t) (hseparator : Separates s sigil separator)
    (hu : Legible s sigil u) :
  Legible s sigil (t ++ Template.ofChars separator ++ u)
  := by
  intro before hbefore
  have hdetached : IsDetached (s :: sigil) (separator ++ u.written (s :: sigil)) := by
    intro c hc
    apply hseparator.isDetached
    rwa [List.head?_append_of_ne_nil _ hseparator.ne_nil] at hc
  have hbehind : isGlued (separator.getLast?.or
      ((t.written (s :: sigil)).getLast?.or before)) = false := by
    rw [List.getLast?_eq_some_getLast hseparator.ne_nil, Option.some_or,
      ← List.getLast?_eq_some_getLast hseparator.ne_nil, hseparator.isGlued_getLast?]
  rw [written_append, written_append, written_ofChars, List.append_assoc,
    scanFrom_append before _ hdetached, ht before hbefore,
    scanFrom_append_of_notMem hseparator.notMem, hu _ hbehind, List.append_assoc]

/-- A legible template between two separators, such as brackets. -/
theorem Legible.between {left right : String} (hleft : Separates s sigil left.toList)
    (hright : Separates s sigil right.toList) {t : Template Numeral}
    (h : Legible s sigil t) :
  Legible s sigil (word left ++ t ++ word right)
  := by
  have hopened := (Legible.nil.append hleft h).append hright Legible.nil
  rwa [List.nil_append, List.append_nil] at hopened

end Scan

end BoundSql
