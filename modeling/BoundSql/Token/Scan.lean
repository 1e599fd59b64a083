import BoundSql.Template
import BoundSql.Token

/-!
# Finding tokens in SQL text

`scan sigil sql` takes SQL text apart into its tokens and the other characters.  A token
is an occurrence of the sigil together with all digits behind it, unless the sigil is
glued to a word: directly behind an ASCII letter, a digit or an underscore it is part of
an identifier.  Occurrences are looked for from left to right and do not overlap.  The
digits of an occurrence whose number is too large for a token are other characters, and
no occurrence is looked for among them.

`scan` loses nothing: putting the sigil and the digits of each token back in its place
gives the text again (`chars_scan`).

The sigil has to be a text.  An empty one occurs wherever it is looked for, so that the
search stays where it is: `scan?` takes a text apart only if the search comes to an end.
-/

namespace BoundSql

/-- The digits of a token in SQL text. -/
structure Numeral where
  digits : List Char
deriving DecidableEq

/-- The number that the digits of a token stand for. -/
def Numeral.value (numeral : Numeral) : Nat := Nat.ofDigitChars 10 numeral.digits 0

/-- Decides whether a number is one that a token can have. -/
def isTokenId (n : Nat) : Bool := n < UInt32.size

namespace Scan

/-- Decides whether a character may be part of an identifier. -/
def isWordChar (c : Char) : Bool := c.isAlphanum || c = '_'

/-- Decides whether the character before an occurrence glues it to a word. -/
def isGlued (before : Option Char) : Bool := before.any isWordChar

/-- What follows the sigil in a text that begins with it. -/
def afterSigil? : List Char → List Char → Option (List Char)
  | [], text => some text
  | _ :: _, [] => none
  | s :: sigil, c :: text => if s = c then afterSigil? sigil text else none

theorem eq_append_of_afterSigil? {sigil text rest : List Char}
    (h : afterSigil? sigil text = some rest) :
  text = sigil ++ rest
  := by
  fun_induction afterSigil? sigil text with
  | case1 text => simpa using h
  | case2 => simp at h
  | case3 sigil c text ih => rw [List.cons_append, ← ih h]
  | case4 s sigil c text hne => simp at h

theorem afterSigil?_append (sigil rest : List Char) :
  afterSigil? sigil (sigil ++ rest) = some rest
  := by
  induction sigil with
  | nil => rfl
  | cons s sigil ih => simpa [afterSigil?] using ih

theorem length_lt_of_afterSigil? {s : Char} {sigil text rest : List Char}
    (h : afterSigil? (s :: sigil) text = some rest) :
  rest.length < text.length
  := by
  rw [eq_append_of_afterSigil? h, List.length_append, List.length_cons]
  omega

theorem length_dropWhile_le (p : Char → Bool) (cs : List Char) :
  (cs.dropWhile p).length ≤ cs.length
  := (List.dropWhile_suffix p).length_le

/-- Takes apart the text behind the character `before`, for the sigil `s :: sigil`. -/
def scanFrom (s : Char) (sigil : List Char) (before : Option Char) (text : List Char) :
    Template Numeral :=
  match text with
  | [] => []
  | c :: cs =>
    match h : afterSigil? (s :: sigil) (c :: cs) with
    | none => .char c :: scanFrom s sigil (some c) cs
    | some rest =>
      let digits := rest.takeWhile Char.isDigit
      if digits.isEmpty || isGlued before then
        Template.ofChars (s :: sigil)
          ++ scanFrom s sigil (s :: sigil).getLast? rest
      else
        let found :=
          if isTokenId (Numeral.value ⟨digits⟩) then Template.ref ⟨digits⟩
          else Template.ofChars (s :: sigil ++ digits)
        found ++ scanFrom s sigil digits.getLast? (rest.dropWhile Char.isDigit)
termination_by text.length
decreasing_by
  · simp
  · exact length_lt_of_afterSigil? h
  · exact Nat.lt_of_le_of_lt (length_dropWhile_le _ _) (length_lt_of_afterSigil? h)

end Scan

/-- Takes SQL text apart into its tokens and the other characters, for a sigil that is not
empty.  With an empty one the result, all characters, means nothing: it is never asked for. -/
def scan (sigil sql : String) : Template Numeral :=
  match sigil.toList with
  | [] => Template.word sql
  | s :: rest => Scan.scanFrom s rest none sql.toList

/-- The search for an empty sigil, which is found with nothing read: the next search is the
same as this one. -/
def Scan.endless (text : List Char) : Option (Template Numeral) := endless text
partial_fixpoint

/-- Takes SQL text apart into its tokens and the other characters, if the search for the
tokens has an end. -/
def scan? (sigil sql : String) : Option (Template Numeral) :=
  if sigil = "" then Scan.endless sql.toList else some (scan sigil sql)

/-! ### When the search has an end -/

theorem Scan.endless_eq_none (text : List Char) :
  endless text = none
  := by
  rw [Option.eq_none_iff_forall_ne_some]
  -- what holds of the results of the next search holds of those of this one: nothing does
  exact endless.partial_correctness text (fun _ => False) fun _ ih => ih

/-- The search has an end exactly if the sigil is not empty. -/
theorem scan?_eq_some {sigil sql : String} {template : Template Numeral} :
  scan? sigil sql = some template ↔ sigil ≠ "" ∧ template = scan sigil sql
  := by
  by_cases h : sigil = ""
  · simp [scan?, h, Scan.endless_eq_none]
  · simp [scan?, h, eq_comm]

theorem scan?_eq_none {sigil sql : String} :
  scan? sigil sql = none ↔ sigil = ""
  := by
  by_cases h : sigil = ""
  · simp [scan?, h, Scan.endless_eq_none]
  · simp [scan?, h]

/-! ### Nothing is lost -/

theorem Template.chars_ofChars {α : Type} (name : α → List Char) (cs : List Char) :
  chars name (ofChars cs) = cs
  := by
  simp [chars, ofChars, List.flatMap_map]

namespace Scan

theorem chars_scanFrom (s : Char) (sigil : List Char) (before : Option Char)
    (text : List Char) :
  (scanFrom s sigil before text).chars (fun numeral => s :: sigil ++ numeral.digits)
    = text
  := by
  fun_induction scanFrom s sigil before text with
  | case1 => rfl
  | case2 before c cs h ih => exact congrArg (c :: ·) ih
  | case3 before c cs rest h digits hglued ih =>
    rw [Template.chars_append, Template.chars_ofChars, ih, ← eq_append_of_afterSigil? h]
  | case4 before c cs rest h digits hglued found ih =>
    have hfound : found.chars (fun numeral => s :: sigil ++ numeral.digits)
        = s :: sigil ++ digits := by
      by_cases hid : isTokenId (Numeral.value ⟨digits⟩)
      · simp [found, hid]
      · simp only [found, hid]
        exact Template.chars_ofChars _ _
    rw [Template.chars_append, hfound, ih, List.append_assoc,
      List.takeWhile_append_dropWhile, ← eq_append_of_afterSigil? h]

end Scan

/-- Putting the sigil and the digits of each token back in its place gives the text
again. -/
theorem chars_scan (sigil sql : String) :
  (scan sigil sql).chars (fun numeral => sigil.toList ++ numeral.digits) = sql.toList
  := by
  unfold scan
  split
  · simp
  · next s rest h => rw [h]; exact Scan.chars_scanFrom s rest none sql.toList

end BoundSql
