import BoundSql.Proofs.Reading

/-!
# What stands beside tokens

A text without digits can follow any other text without changing how that is read, and a text
behind a blank is read on its own when the sigil has no blank.  So a statement is read back
exactly when its parts are: parts with blanks between them (`legible_joined_iff`), and in them
numbers (`legible_number_iff`) and tokens behind a bracket (`legible_opened_ref_iff`), which are
all that a sigil can run into.
-/

namespace BoundSql

namespace Template

variable {α β : Type}

theorem ofChars_append (cs ds : List Char) :
  (ofChars (cs ++ ds) : Template α) = ofChars cs ++ ofChars ds
  := List.map_append

/-! ### Templates that begin with a word -/

/-- A template that begins with a word without digits, which ends at a blank. -/
def BeginsWithWord (t : Template α) : Prop :=
  ∃ cs, (∀ c ∈ cs, c.isDigit = false)
    ∧ (t = ofChars cs ∨ ∃ u : Template α, t = ofChars cs ++ .char ' ' :: u)

theorem beginsWithWord_word {w : String} (h : ∀ c ∈ w.toList, c.isDigit = false) :
  BeginsWithWord (word w : Template α)
  := ⟨w.toList, h, .inl rfl⟩

theorem beginsWithWord_mapSlots (f : α → β) {t : Template α} (h : BeginsWithWord t) :
  BeginsWithWord (t.mapSlots f)
  := by
  obtain ⟨cs, hcs, rfl | ⟨u, rfl⟩⟩ := h
  · use cs, hcs
    left
    apply mapSlots_ofChars
  · use cs, hcs
    right
    use u.mapSlots f
    rw [mapSlots_append, mapSlots_ofChars, mapSlots_char]

/-- A separator that ends in a blank, split there. -/
theorem joined_cons_cons {separator : String} {cs : List Char}
    (hseparator : separator.toList = cs ++ [' ']) (part next : Template α)
    (parts : List (Template α)) :
  joined separator (part :: next :: parts)
    = part ++ ofChars cs ++ .char ' ' :: joined separator (next :: parts)
  := by
  have hjoined : joined separator (part :: next :: parts)
      = part ++ word separator ++ joined separator (next :: parts) := rfl
  rw [hjoined, word, hseparator, ofChars_append, List.append_assoc, List.append_assoc,
    List.append_assoc]
  rfl

theorem beginsWithWord_joined {separator : String} {cs : List Char}
    (hseparator : separator.toList = cs ++ [' ']) (hcs : ∀ c ∈ cs, c.isDigit = false)
    {part : Template α} (h : BeginsWithWord part) (parts : List (Template α)) :
  BeginsWithWord (joined separator (part :: parts))
  := by
  cases parts with
  | nil => exact h
  | cons next parts =>
    rw [joined_cons_cons hseparator]
    obtain ⟨ds, hds, rfl | ⟨u, rfl⟩⟩ := h
    · use ds ++ cs, List.forall_mem_append.mpr ⟨hds, hcs⟩
      right
      use joined separator (next :: parts)
      rw [ofChars_append]
    · use ds, hds
      right
      use u ++ ofChars cs ++ .char ' ' :: joined separator (next :: parts)
      simp

theorem beginsWithWord_spaced {part : Template α} (h : BeginsWithWord part)
    (parts : List (Template α)) :
  BeginsWithWord (spaced (part :: parts))
  := by
  apply beginsWithWord_joined _ _ h
  · exact []
  · rfl
  · decide

end Template

namespace Scan

open Template

variable {s : Char} {sigil : List Char}

/-! ### Texts without tokens -/

/-- A text in which the sigil does not occur has no tokens. -/
theorem scanFrom_of_not_infix {text : List Char} (h : ¬ (s :: sigil) <:+: text)
    (before : Option Char) :
  scanFrom s sigil before text = ofChars text
  := by
  induction text generalizing before with
  | nil => exact scanFrom_nil before
  | cons c cs ih =>
    rw [List.infix_cons_iff, not_or] at h
    rw [scanFrom_cons h.1, ih h.2]
    rfl

/-- A text without digits has no tokens. -/
theorem scanFrom_of_noDigit {text : List Char} (h : ∀ c ∈ text, c.isDigit = false)
    (before : Option Char) :
  scanFrom s sigil before text = ofChars text
  := by
  fun_induction scanFrom s sigil before text with
  | case1 before => rfl
  | case2 before c cs hnone ih =>
    rw [ih fun c' hc' => h c' (List.mem_cons_of_mem c hc')]
    rfl
  | case3 before c cs rest hrest digits hglued ih =>
    rw [eq_append_of_afterSigil? hrest, List.forall_mem_append] at h
    rw [eq_append_of_afterSigil? hrest, ih h.2, ofChars_append]
  | case4 before c cs rest hrest digits hglued found ih =>
    rw [Bool.or_eq_true, List.isEmpty_iff, not_or] at hglued
    rw [eq_append_of_afterSigil? hrest, List.forall_mem_append] at h
    obtain ⟨d, hd⟩ := List.exists_mem_of_ne_nil _ hglued.1
    have hdigit : d.isDigit = true := List.mem_takeWhile_imp hd
    rw [h.2 d ((List.takeWhile_prefix _).subset hd)] at hdigit
    contradiction

theorem takeWhile_of_noDigit {cs : List Char} (h : ∀ c ∈ cs, c.isDigit = false) :
  cs.takeWhile Char.isDigit = []
  := by
  cases cs with
  | nil => rfl
  | cons c cs =>
    apply List.takeWhile_cons_of_neg
    simp [h c List.mem_cons_self]

/-- At an occurrence of the sigil that no digits follow there is no token. -/
theorem scanFrom_sigil_of_noDigit {rest : List Char} (h : ∀ c ∈ rest, c.isDigit = false)
    (before : Option Char) :
  scanFrom s sigil before (s :: sigil ++ rest) = ofChars (s :: sigil ++ rest)
  := by
  rw [scanFrom_sigil, takeWhile_of_noDigit h, List.isEmpty_nil, Bool.true_or, if_pos rfl,
    scanFrom_of_noDigit h, ofChars_append]

/-- An occurrence of the sigil that reaches behind a text is longer than the text, and what
follows it also follows the text. -/
theorem of_prefix_append {text cs rest : List Char} (hrest : s :: sigil ++ rest = text ++ cs)
    (h : ¬ (s :: sigil) <+: text) :
  ¬ (s :: sigil) <:+: text ∧ rest <:+ cs
  := by
  rcases List.append_eq_append_iff.mp hrest with ⟨middle, rfl, -⟩ | ⟨middle, hsigil, rfl⟩
  · exact absurd (List.prefix_append _ middle) h
  · refine ⟨?_, List.suffix_append middle rest⟩
    have hshort : text <+: s :: sigil := by
      rw [hsigil]
      apply List.prefix_append
    intro hwithin
    apply h
    have htext : text = s :: sigil := hshort.eq_of_length_le hwithin.length_le
    use [], by rw [htext, List.append_nil]

/-- A text without digits does not change how the text before it is read. -/
theorem scanFrom_append_of_noDigit {cs : List Char} (h : ∀ c ∈ cs, c.isDigit = false)
    (before : Option Char) (text : List Char) :
  scanFrom s sigil before (text ++ cs) = scanFrom s sigil before text ++ ofChars cs
  := by
  have hstop := takeWhile_of_noDigit h
  fun_induction scanFrom s sigil before text with
  | case1 before => exact scanFrom_of_noDigit h before
  | case2 before c text hnone ih =>
    have hnot := afterSigil?_eq_none_iff.mp hnone
    by_cases hp : (s :: sigil) <+: c :: (text ++ cs)
    · -- an occurrence that reaches into `cs` is followed by the rest of `cs`
      obtain ⟨rest, hrest⟩ := hp
      rw [← List.cons_append] at hrest
      obtain ⟨hwithin, hsuffix⟩ := of_prefix_append hrest hnot
      have hrestDigits : ∀ d ∈ rest, d.isDigit = false := fun d hd => h d (hsuffix.subset hd)
      have hhere := scanFrom_of_not_infix hwithin before
      rw [scanFrom_cons hnot] at hhere
      rw [hhere, ← ofChars_append, ← hrest]
      apply scanFrom_sigil_of_noDigit hrestDigits
    · rw [List.cons_append, scanFrom_cons hp, ih, List.cons_append]
  | case3 before c text rest hrest digits hglued ih =>
    rw [eq_append_of_afterSigil? hrest, List.append_assoc, scanFrom_sigil,
      takeWhile_append_of_stop hstop, if_pos hglued, ih, List.append_assoc]
  | case4 before c text rest hrest digits hglued found ih =>
    rw [eq_append_of_afterSigil? hrest, List.append_assoc, scanFrom_sigil,
      takeWhile_append_of_stop hstop, dropWhile_append_of_stop hstop, if_neg hglued, ih,
      List.append_assoc]
    rfl

/-! ### Parts of a legible template -/

theorem eq_nil_of_written_eq_nil {t : Template Numeral} (h : t.written (s :: sigil) = []) :
  t = []
  := by
  cases t with
  | nil => rfl
  | cons symbol t => cases symbol <;> contradiction

/-- Templates that are written alike and begin equal templates are equal. -/
theorem append_inj_of_written {t t' u u' : Template Numeral} (h : t ++ u = t' ++ u')
    (hwritten : t.written (s :: sigil) = t'.written (s :: sigil)) :
  t = t' ∧ u = u'
  := by
  rcases List.append_eq_append_iff.mp h with ⟨middle, rfl, rfl⟩ | ⟨middle, rfl, rfl⟩
  · rw [written_append, List.self_eq_append_right] at hwritten
    obtain rfl := eq_nil_of_written_eq_nil hwritten
    use (List.append_nil t).symm
    rfl
  · rw [written_append, List.append_right_eq_self] at hwritten
    obtain rfl := eq_nil_of_written_eq_nil hwritten
    use List.append_nil t'
    rfl

/-- A text without digits can stand behind every template. -/
theorem legible_append_ofChars_iff {t : Template Numeral} {cs : List Char}
    (h : ∀ c ∈ cs, c.isDigit = false) :
  Legible s sigil (t ++ Template.ofChars cs) ↔ Legible s sigil t
  := by
  apply forall₂_congr
  intro before _
  rw [written_append, written_ofChars, scanFrom_append_of_noDigit h, List.append_left_inj]

theorem Legible.ofChars_of_noDigit {cs : List Char} (h : ∀ c ∈ cs, c.isDigit = false) :
  Legible s sigil (Template.ofChars cs)
  := (legible_append_ofChars_iff (t := []) h).mpr Legible.nil

theorem separates_singleton {c : Char} (h : c ∉ s :: sigil) (hdigit : c.isDigit = false)
    (hword : isGlued (some c) = false) :
  Separates s sigil [c] where
  notMem hmem := h (List.mem_singleton.mp hmem ▸ List.mem_cons_self)
  isDetached d hd := by
    obtain rfl := Option.some.inj hd
    exact ⟨h, hdigit⟩
  ne_nil := nofun
  isGlued_getLast? := hword

/-- What stands before a blank and what stands behind it are read apart. -/
theorem legible_append_blank_iff (hblank : ' ' ∉ s :: sigil) {t u : Template Numeral} :
  Legible s sigil (t ++ .char ' ' :: u) ↔ Legible s sigil t ∧ Legible s sigil u
  := by
  have hseparates : Separates s sigil [' '] := separates_singleton hblank rfl rfl
  constructor
  · intro h
    have hdetached : IsDetached (s :: sigil) (' ' :: u.written (s :: sigil)) :=
      hseparates.isDetached
    have hstep : ¬ (s :: sigil) <+: ' ' :: u.written (s :: sigil) := by
      intro hbegins
      apply hblank
      rw [(List.cons_prefix_cons.mp hbegins).1]
      exact List.mem_cons_self
    have hread : ∀ before, isGlued before = false →
        scanFrom s sigil before (t.written (s :: sigil)) = t
          ∧ scanFrom s sigil (some ' ') (u.written (s :: sigil)) = u := by
      intro before hbefore
      have hwhole := h before hbefore
      rw [written_append, written_char, scanFrom_append before _ hdetached,
        scanFrom_cons hstep] at hwhole
      obtain ⟨ht, hu⟩ := append_inj_of_written hwhole (written_scanFrom _ _)
      use ht, (List.cons.inj hu).2
    constructor
    · exact fun before hbefore => (hread before hbefore).1
    · intro before hbefore
      have hblankBefore : isGlued before = isGlued (some ' ') := hbefore
      rw [scanFrom_congr hblankBefore, (hread none rfl).2]
  · rintro ⟨ht, hu⟩
    have happend := ht.append hseparates hu
    rwa [List.append_assoc] at happend

/-- Parts with a separator between them that ends in a blank are read apart. -/
theorem legible_joined_iff (hblank : ' ' ∉ s :: sigil) {separator : String} {cs : List Char}
    (hseparator : separator.toList = cs ++ [' ']) (hcs : ∀ c ∈ cs, c.isDigit = false)
    {parts : List (Template Numeral)} :
  Legible s sigil (joined separator parts) ↔ ∀ part ∈ parts, Legible s sigil part
  := by
  fun_induction joined separator parts with
  | case1 => simp [Legible.nil]
  | case2 part => simp
  | case3 part parts hne ih =>
    cases parts with
    | nil => exact absurd rfl hne
    | cons next parts =>
      have hsplit : part ++ word separator ++ joined separator (next :: parts) = _ :=
        joined_cons_cons hseparator part next parts
      rw [hsplit, legible_append_blank_iff hblank, legible_append_ofChars_iff hcs, ih]
      exact List.forall_mem_cons.symm

/-! ### Behind an opening bracket -/

/-- A template that begins with a word can stand behind an opening bracket. -/
theorem legible_opened_iff (hblank : ' ' ∉ s :: sigil) {t : Template Numeral}
    (hword : t.BeginsWithWord) :
  Legible s sigil (.char '(' :: t) ↔ Legible s sigil t
  := by
  obtain ⟨cs, hcs, rfl | ⟨u, rfl⟩⟩ := hword
  all_goals
    have hopened : ∀ c ∈ '(' :: cs, c.isDigit = false := List.forall_mem_cons.mpr ⟨rfl, hcs⟩
  · exact iff_of_true (Legible.ofChars_of_noDigit hopened) (Legible.ofChars_of_noDigit hcs)
  · have hwhole : Legible s sigil (Template.ofChars ('(' :: cs) ++ .char ' ' :: u) ↔ _ :=
      legible_append_blank_iff hblank
    rw [legible_append_blank_iff hblank]
    apply hwhole.trans
    apply and_congr_left
    exact fun _ => iff_of_true (Legible.ofChars_of_noDigit hopened) (Legible.ofChars_of_noDigit hcs)

theorem eq_of_prefix_cons {α : Type} {a : α} {l : List α} (h : l <+: a :: l) :
  ∀ b ∈ l, b = a
  := by
  induction l with
  | nil => simp
  | cons b l ih =>
    obtain ⟨rfl, hrest⟩ := List.cons_prefix_cons.mp h
    rw [List.forall_mem_cons]
    use rfl, ih hrest

theorem cons_eq_append_singleton {α : Type} {a : α} {l : List α} (h : ∀ b ∈ l, b = a) :
  a :: l = l ++ [a]
  := by
  rw [List.eq_replicate_of_mem h, ← List.replicate_succ, List.replicate_succ']

/-- A sigil of several opening brackets, of which the bracket before a token takes the place of
the first. -/
def IsBrackets (sigil : List Char) : Prop := 2 ≤ sigil.length ∧ ∀ c ∈ sigil, c = '('

/-- A token can stand behind an opening bracket, unless the sigil consists of several. -/
theorem legible_opened_ref_iff {numeral : Numeral} (h : numeral.IsProper) :
  Legible s sigil (.char '(' :: Template.ref numeral) ↔ ¬ IsBrackets (s :: sigil)
  := by
  have hwritten : written (s :: sigil) (.char '(' :: Template.ref numeral)
      = '(' :: (s :: sigil ++ numeral.digits ++ []) := rfl
  have htoken : scanFrom s sigil (some '(') (s :: sigil ++ numeral.digits ++ [])
      = Template.ref numeral := by
    rw [scanFrom_token rfl h rfl, scanFrom_nil]
    rfl
  have hmoved : (∀ c ∈ s :: sigil, c = '(') →
      '(' :: (s :: sigil ++ numeral.digits ++ []) = s :: sigil ++ '(' :: numeral.digits := by
    intro hbrackets
    rw [List.append_nil, ← List.cons_append, cons_eq_append_singleton hbrackets,
      List.append_assoc]
    rfl
  by_cases hp : (s :: sigil) <+: '(' :: (s :: sigil ++ numeral.digits ++ [])
  · -- the sigil begins with the bracket, so it consists of brackets
    obtain ⟨rfl, hrest⟩ := List.cons_prefix_cons.mp hp
    rw [List.append_assoc] at hrest
    have hsigil : ∀ c ∈ '(' :: sigil, c = '(' := by
      rw [List.forall_mem_cons]
      use rfl
      apply eq_of_prefix_cons
      apply List.prefix_of_prefix_length_le hrest (List.prefix_append _ _) (Nat.le_succ _)
    cases sigil with
    | nil =>
      refine iff_of_true ?_ fun hbrackets => absurd hbrackets.1 (by decide)
      intro before _
      rw [hwritten, hmoved hsigil, scanFrom_sigil, ← List.append_nil ('(' :: numeral.digits)]
      exact congrArg (Symbol.char '(' :: ·) htoken
    | cons c sigil =>
      refine iff_of_false ?_ fun hnot => hnot ⟨Nat.le_add_left 2 _, hsigil⟩
      intro hlegible
      have hread := hlegible none rfl
      rw [hwritten, hmoved hsigil, scanFrom_sigil] at hread
      cases (List.cons.inj (List.cons.inj hread).2).1
  · refine iff_of_true ?_ ?_
    · intro before _
      rw [hwritten, scanFrom_cons hp, htoken]
    · rintro ⟨-, hbrackets⟩
      apply hp
      rw [hmoved hbrackets]
      apply List.prefix_append

/-! ### Numbers -/

/-- A sigil that a valid configuration can have: it has no blank and does not end in a digit. -/
structure IsMark (s : Char) (sigil : List Char) : Prop where
  blank_notMem : ' ' ∉ s :: sigil
  isDigit_getLast : ((s :: sigil).getLast (List.cons_ne_nil s sigil)).isDigit = false

/-- Digits alone have no token. -/
theorem IsMark.scanFrom_digits (h : IsMark s sigil) {digits : List Char}
    (hdigits : ∀ c ∈ digits, c.isDigit = true) (before : Option Char) :
  scanFrom s sigil before digits = Template.ofChars digits
  := by
  apply scanFrom_of_not_infix
  intro hwithin
  have hlast := hdigits _ (hwithin.subset (List.getLast_mem (List.cons_ne_nil s sigil)))
  rw [h.isDigit_getLast] at hlast
  contradiction

/-- The digits of a number that no token can have are text. -/
theorem IsMark.scanFrom_of_not_isTokenId (h : IsMark s sigil) {digits : List Char}
    (hdigits : ∀ c ∈ digits, c.isDigit = true)
    (hid : ¬ isTokenId (Numeral.value ⟨digits⟩) = true) (before : Option Char) :
  scanFrom s sigil before (s :: sigil ++ digits) = Template.ofChars (s :: sigil ++ digits)
  := by
  have htake : digits.takeWhile Char.isDigit = digits := List.takeWhile_eq_self_iff.mpr hdigits
  have hdrop : digits.dropWhile Char.isDigit = [] := List.dropWhile_eq_nil_iff.mpr hdigits
  rw [scanFrom_sigil, htake, hdrop, if_neg hid, scanFrom_nil, List.append_nil, ite_eq_right_iff,
    h.scanFrom_digits hdigits, ofChars_append]
  exact fun _ => rfl

/-- A number is read as a token when the sigil is a minus sign. -/
def IsReadAsToken (sigil : List Char) (n : Int) : Prop :=
  sigil = ['-'] ∧ n < 0 ∧ isTokenId n.natAbs = true

theorem toList_toString_nat (n : Nat) :
  (toString n).toList = Nat.toDigits 10 n
  := by
  simp [toString, Nat.repr]

/-- A number is written as its digits, behind a minus sign if it is negative. -/
theorem toList_toString_int (n : Int) :
  (toString n).toList = (if n < 0 then ['-'] else []) ++ Nat.toDigits 10 n.natAbs
  := by
  cases n with
  | ofNat n =>
    have hnonneg : ¬ Int.ofNat n < 0 := Int.not_lt.mpr (Int.natCast_nonneg n)
    rw [if_neg hnonneg]
    exact toList_toString_nat n
  | negSucc n =>
    rw [if_pos (Int.negSucc_lt_zero n)]
    show ("-" ++ toString (n + 1)).toList = _
    rw [String.toList_append, toList_toString_nat]
    rfl

theorem legible_number_iff (h : IsMark s sigil) (n : Int) :
  Legible s sigil (Template.word (toString n)) ↔ ¬ IsReadAsToken (s :: sigil) n
  := by
  have hdigits := isDigit_of_mem_toDigits n.natAbs
  rw [Template.word, toList_toString_int]
  by_cases hneg : n < 0
  · rw [if_pos hneg]
    by_cases hminus : s :: sigil = ['-']
    · obtain ⟨rfl, rfl⟩ := List.cons.inj hminus
      by_cases hid : isTokenId n.natAbs = true
      · refine iff_of_false ?_ fun hnot => hnot ⟨rfl, hneg, hid⟩
        intro hlegible
        have hread := hlegible none rfl
        have htoken :
            scanFrom '-' [] none ('-' :: [] ++ (Numeral.ofId n.natAbs).digits ++ []) = _ :=
          scanFrom_token rfl (Numeral.isProper_ofId hid) rfl
        rw [List.append_nil] at htoken
        rw [written_ofChars] at hread
        cases (List.cons.inj (htoken.symm.trans hread)).1
      · refine iff_of_true ?_ fun hread => hid hread.2.2
        intro before _
        rw [written_ofChars]
        apply h.scanFrom_of_not_isTokenId hdigits
        rwa [← Numeral.value_ofId n.natAbs] at hid
    · refine iff_of_true ?_ fun hread => hminus hread.1
      intro before _
      have hp : ¬ (s :: sigil) <+: '-' :: Nat.toDigits 10 n.natAbs := by
        intro hbegins
        obtain ⟨rfl, hrest⟩ := List.cons_prefix_cons.mp hbegins
        have hne : sigil ≠ [] := fun hnil => hminus (congrArg ('-' :: ·) hnil)
        have hlast := h.isDigit_getLast
        rw [List.getLast_cons hne, hdigits _ (hrest.subset (List.getLast_mem hne))] at hlast
        contradiction
      rw [written_ofChars, List.singleton_append, scanFrom_cons hp, h.scanFrom_digits hdigits]
      rfl
  · rw [if_neg hneg, List.nil_append]
    refine iff_of_true ?_ fun hread => hneg hread.2.1
    intro before _
    rw [written_ofChars, h.scanFrom_digits hdigits]

end Scan

/-! ### Templates of slots -/

namespace Template

open Scan

variable {α : Type} {s : Char} {sigil : List Char} {numeral : α → Numeral}

/-- A template is read back with the sigil `s :: sigil` when its slots are written as numerals. -/
def IsLegibleWith (s : Char) (sigil : List Char) (numeral : α → Numeral) (t : Template α) : Prop :=
  Legible s sigil (t.mapSlots numeral)

namespace IsLegibleWith

theorem word {w : String} (h : ∀ c ∈ w.toList, c.isDigit = false) :
  IsLegibleWith s sigil numeral (word w)
  := by
  rw [IsLegibleWith, mapSlots_word]
  apply Legible.ofChars_of_noDigit h

theorem ref {a : α} (h : (numeral a).IsProper) :
  IsLegibleWith s sigil numeral (ref a)
  := by
  rw [IsLegibleWith, mapSlots_ref]
  apply Legible.ref h

end IsLegibleWith

theorem isLegibleWith_joined_iff (hmark : IsMark s sigil) {separator : String} {cs : List Char}
    (hseparator : separator.toList = cs ++ [' ']) (hcs : ∀ c ∈ cs, c.isDigit = false)
    {parts : List (Template α)} :
  (joined separator parts).IsLegibleWith s sigil numeral
    ↔ ∀ part ∈ parts, part.IsLegibleWith s sigil numeral
  := by
  rw [IsLegibleWith, mapSlots_joined, legible_joined_iff hmark.blank_notMem hseparator hcs,
    List.forall_mem_map]
  rfl

theorem isLegibleWith_spaced_iff (hmark : IsMark s sigil) {parts : List (Template α)} :
  (spaced parts).IsLegibleWith s sigil numeral
    ↔ ∀ part ∈ parts, part.IsLegibleWith s sigil numeral
  := by
  apply isLegibleWith_joined_iff hmark _ _
  · exact []
  · rfl
  · decide

theorem isLegibleWith_listed_iff (hmark : IsMark s sigil) {parts : List (Template α)} :
  (listed parts).IsLegibleWith s sigil numeral
    ↔ ∀ part ∈ parts, part.IsLegibleWith s sigil numeral
  := by
  apply isLegibleWith_joined_iff hmark _ _
  · exact [',']
  · rfl
  · decide

theorem isLegibleWith_number_iff (hmark : IsMark s sigil) (n : Int) :
  (Template.word (toString n)).IsLegibleWith s sigil numeral ↔ ¬ IsReadAsToken (s :: sigil) n
  := by
  rw [IsLegibleWith, mapSlots_word]
  apply legible_number_iff hmark

/-- Brackets around a template: only the opening one matters. -/
theorem isLegibleWith_enclosed_iff {part : Template α} :
  (enclosed part).IsLegibleWith s sigil numeral
    ↔ Legible s sigil (.char '(' :: part.mapSlots numeral)
  := by
  rw [IsLegibleWith, mapSlots_enclosed]
  apply legible_append_ofChars_iff
  decide

/-- A keyword with a list in brackets, in which each part begins with a word. -/
theorem isLegibleWith_enclosed_listed_iff (hmark : IsMark s sigil) {parts : List (Template α)}
    (hwords : ∀ part ∈ parts, part.BeginsWithWord) :
  (enclosed (listed parts)).IsLegibleWith s sigil numeral
    ↔ ∀ part ∈ parts, part.IsLegibleWith s sigil numeral
  := by
  rw [isLegibleWith_enclosed_iff, ← isLegibleWith_listed_iff hmark]
  apply legible_opened_iff hmark.blank_notMem
  apply beginsWithWord_mapSlots
  cases parts with
  | nil => exact ⟨[], by decide, .inl rfl⟩
  | cons part parts =>
    apply beginsWithWord_joined _ _ (hwords part List.mem_cons_self)
    · exact [',']
    · rfl
    · decide

end Template

end BoundSql
