import BoundSql.Proofs.Reference
import BoundSql.Proofs.Splicing

/-!
# Searching the bytes of SQL text

The tokens of a text are searched for in its bytes, round by round.  A round takes the text from
an offset on and looks for the next occurrence of the sigil.  The next round begins behind this
occurrence and the digits that follow it, or directly behind the sigil if there are no digits or
the occurrence is glued to a word.  A round has no result if it would cut the text within a
character, and `search?` has none if the rounds that it is given do not suffice.

The search agrees with the scan from any offset on, as each round reads on in the text and finds
what the scan finds there (`round?_spec`, `search?_eq`).  So it comes to an end for every sigil
that is not empty, and it finds references with their exact ranges (`search_is_exact`).  With an
empty sigil no number of rounds suffices: the search has an end exactly if `scan?` has a result
(`exists_search?_iff`).
-/

namespace BoundSql

open Template Scan

/-! ### Bytes of characters -/

/-- The bytes of a text. -/
def utf8Bytes (text : String) : List UInt8 := text.toUTF8.data.toList

/-- Decides whether a byte is an ASCII digit. -/
def isDigitByte (b : UInt8) : Bool := 48 ≤ b && b ≤ 57

/-- Decides whether a byte is an ASCII letter, a digit or an underscore. -/
def isWordByte (b : UInt8) : Bool :=
  b = 95 || isDigitByte b || (65 ≤ b && b ≤ 90) || (97 ≤ b && b ≤ 122)

theorem utf8Bytes_eq (text : String) :
  utf8Bytes text = text.toList.flatMap String.utf8EncodeChar
  := by
  rw [utf8Bytes, String.toUTF8_eq_toByteArray, ← String.ofList_toList (s := text),
    String.toByteArray_ofList, List.utf8Encode, List.data_toByteArray, String.toList_ofList]

theorem utf8Bytes_append (front rest : String) :
  utf8Bytes (front ++ rest) = utf8Bytes front ++ utf8Bytes rest
  := by
  rw [utf8Bytes_eq, utf8Bytes_eq, utf8Bytes_eq, String.toList_append, List.flatMap_append]

theorem length_utf8Bytes (text : String) :
  (utf8Bytes text).length = text.utf8ByteSize
  := rfl

/-- A character is a byte of its own if it is an ASCII character, and otherwise none of its bytes
is one. -/
theorem utf8EncodeChar_cases (c : Char) :
  (c.toNat < 128 ∧ String.utf8EncodeChar c = [UInt8.ofNat c.toNat])
    ∨ (128 ≤ c.toNat ∧ String.utf8EncodeChar c ≠ []
      ∧ ∀ b ∈ String.utf8EncodeChar c, 128 ≤ b.toNat)
  := by
  simp only [String.utf8EncodeChar, Char.toNat]
  split_ifs with h₁ h₂ h₃
  · exact Or.inl ⟨by omega, rfl⟩
  all_goals
    right
    refine ⟨by omega, List.cons_ne_nil _ _, ?_⟩
    simp only [List.mem_cons, List.not_mem_nil, or_false, forall_eq_or_imp, forall_eq,
      UInt8.toNat_ofNat']
    omega

theorem isDigitByte_ofNat {c : Char} (h : c.toNat < 128) :
  isDigitByte (UInt8.ofNat c.toNat) = c.isDigit
  := by
  have hall : ∀ n < 128, isDigitByte (UInt8.ofNat n) = (Char.ofNat n).isDigit := by decide
  rw [hall _ h, Char.ofNat_toNat]

theorem isWordByte_ofNat {c : Char} (h : c.toNat < 128) :
  isWordByte (UInt8.ofNat c.toNat) = isWordChar c
  := by
  have hall : ∀ n < 128, isWordByte (UInt8.ofNat n) = isWordChar (Char.ofNat n) := by decide
  rw [hall _ h, Char.ofNat_toNat]

theorem isWordByte_of_le {b : UInt8} (h : 128 ≤ b.toNat) :
  isWordByte b = false
  := by
  simp only [isWordByte, isDigitByte, UInt8.le_iff_toNat_le, ← UInt8.toNat_inj, UInt8.reduceToNat,
    Bool.or_eq_false_iff, Bool.and_eq_false_iff, decide_eq_false_iff_not]
  omega

theorem isDigitByte_of_le {b : UInt8} (h : 128 ≤ b.toNat) :
  isDigitByte b = false
  := by
  have hword := isWordByte_of_le h
  simp only [isWordByte, Bool.or_eq_false_iff] at hword
  apply hword.1.1.2

theorem isWordChar_of_le {c : Char} (h : 128 ≤ c.toNat) :
  isWordChar c = false
  := by
  have hranges : isWordChar c = (decide (65 ≤ c.val ∧ c.val ≤ 90)
      || (decide (97 ≤ c.val) && decide (c.val ≤ 122))
      || (decide (48 ≤ c.val) && decide (c.val ≤ 57)) || decide (c = '_')) := rfl
  have hne : c ≠ '_' := by
    rintro rfl
    contradiction
  simp [hranges, UInt32.le_iff_toNat_le, hne]
  omega

theorem isDigit_of_le {c : Char} (h : 128 ≤ c.toNat) :
  c.isDigit = false
  := by
  have hword := isWordChar_of_le h
  simp only [isWordChar, Char.isAlphanum, Bool.or_eq_false_iff] at hword
  apply hword.1.2

/-- The digits at the beginning of a text are the digits at the beginning of its bytes. -/
theorem takeWhile_isDigitByte (cs : List Char) :
  (cs.flatMap String.utf8EncodeChar).takeWhile isDigitByte
    = (cs.takeWhile Char.isDigit).flatMap String.utf8EncodeChar
  := by
  induction cs with
  | nil => rfl
  | cons c cs ih =>
    rw [List.flatMap_cons]
    obtain ⟨hc, hbytes⟩ | ⟨hc, hne, hbytes⟩ := utf8EncodeChar_cases c
    · have hdigit := isDigitByte_ofNat hc
      rw [hbytes, List.singleton_append, List.takeWhile_cons, List.takeWhile_cons, hdigit, ih]
      split_ifs
      · rw [List.flatMap_cons, hbytes, List.singleton_append]
      · rfl
    · obtain ⟨b, bs, hcons⟩ := List.exists_cons_of_ne_nil hne
      rw [hcons] at hbytes ⊢
      rw [List.cons_append, List.takeWhile_cons, List.takeWhile_cons, isDigit_of_le hc,
        isDigitByte_of_le (hbytes b List.mem_cons_self)]
      rfl

/-- The last byte of a text glues an occurrence to a word when the last character does. -/
theorem any_getLast?_isWordByte (cs : List Char) :
  (cs.flatMap String.utf8EncodeChar).getLast?.any isWordByte = isGlued cs.getLast?
  := by
  obtain rfl | ⟨front, c, rfl⟩ := List.eq_nil_or_concat' cs
  · rfl
  · rw [List.flatMap_append, List.flatMap_singleton, List.getLast?_concat, isGlued, Option.any_some]
    obtain ⟨hc, hbytes⟩ | ⟨hc, hne, hbytes⟩ := utf8EncodeChar_cases c
    · rw [hbytes, List.getLast?_concat, Option.any_some, isWordByte_ofNat hc]
    · rw [List.getLast?_append_of_ne_nil _ hne, List.getLast?_eq_some_getLast hne,
        Option.any_some, isWordChar_of_le hc]
      apply isWordByte_of_le
      apply hbytes _ (List.getLast_mem hne)

/-! ### One round of the search -/

/-- A token with the range of bytes that it takes up in a text. -/
structure Located where
  span : Span
  id : Nat
deriving DecidableEq

/-- The token that is written with a numeral, when it stands behind a text. -/
def Located.behind (sigil front : String) (numeral : Numeral) : Located where
  span := ⟨front.utf8ByteSize, (front ++ numeral.text sigil).utf8ByteSize⟩
  id := numeral.value

theorem Numeral.text_toList (sigil digits : String) :
  Numeral.text sigil ⟨digits.toList⟩ = sigil ++ digits
  := by
  rw [Numeral.text, String.ofList_toList]

/-- The offset of the first occurrence of a pattern in a text. -/
def firstOccurrence? (pattern : List Char) : List Char → Option Nat
  | [] => if pattern.isEmpty then some 0 else none
  | c :: cs =>
    if pattern.isPrefixOf (c :: cs) then some 0
    else (firstOccurrence? pattern cs).map (c.utf8Size + ·)

/-- The offset at which the digits end that stand in a text from an offset on. -/
def digitsEnd (text : String) (start : Nat) : Nat :=
  start + (((utf8Bytes text).drop start).takeWhile isDigitByte).length

/-- Decides whether the byte in front of an offset glues what follows to a word.  There is no
result if the text has no such byte. -/
def gluedAt? (text : String) (start : Nat) : Option Bool :=
  if start = 0 then some false else (utf8Bytes text)[start - 1]?.map isWordByte

/-- What comes of one round of the search: a token, if one was found, and the offset at which the
next round begins. -/
structure Round where
  token? : Option Located
  next : Nat

/-- One round of the search, from an offset on.  There is no result if the text cannot be cut at
the offsets that the round comes to, and the result is empty if there is no further occurrence of
the sigil. -/
def round? (sigil sql : String) (offset : Nat) : Option (Option Round) := do
  let rest ← Span.cut? ⟨offset, sql.utf8ByteSize⟩ sql
  match firstOccurrence? sigil.toList rest.toList with
  | none => pure none
  | some distance => do
    let start := offset + distance
    let behind := start + sigil.utf8ByteSize
    let stop := digitsEnd sql behind
    let glued ← gluedAt? sql start
    if behind < stop ∧ glued = false then do
      let digits ← Span.cut? ⟨behind, stop⟩ sql
      let id := Numeral.value ⟨digits.toList⟩
      pure (some ⟨if isTokenId id then some ⟨⟨start, stop⟩, id⟩ else none, stop⟩)
    else pure (some ⟨none, behind⟩)

/-- The tokens that the search finds from an offset on.  There is no result if a round has none,
or if the search goes on after the given number of rounds. -/
def search? (sigil sql : String) : Nat → Nat → Option (List Located)
  | 0, _ => none
  | rounds + 1, offset => do
    match ← round? sigil sql offset with
    | none => pure []
    | some round => do
      let found ← search? sigil sql rounds round.next
      pure (round.token?.toList ++ found)

theorem digitsEnd_append (front rest : String) :
  digitsEnd (front ++ rest) front.utf8ByteSize
    = (front ++ String.ofList (rest.toList.takeWhile Char.isDigit)).utf8ByteSize
  := by
  rw [digitsEnd, utf8Bytes_append, ← length_utf8Bytes front, List.drop_left, utf8Bytes_eq rest,
    takeWhile_isDigitByte, String.utf8ByteSize_append, ← length_utf8Bytes (String.ofList _),
    utf8Bytes_eq (String.ofList _), String.toList_ofList, length_utf8Bytes]

theorem gluedAt?_append (front rest : String) :
  gluedAt? (front ++ rest) front.utf8ByteSize = some (isGlued front.toList.getLast?)
  := by
  rw [gluedAt?, ← length_utf8Bytes, utf8Bytes_append, ← any_getLast?_isWordByte, ← utf8Bytes_eq]
  split_ifs with hempty
  · rw [List.length_eq_zero_iff.mp hempty]
    rfl
  · have hne : utf8Bytes front ≠ [] := mt List.length_eq_zero_iff.mpr hempty
    rw [List.getElem?_append_left (by omega), ← List.getLast?_eq_getElem?,
      List.getLast?_eq_some_getLast hne]
    rfl

/-! ### Tokens with their places -/

namespace Template

theorem text_ofChars {α : Type} (name : α → String) (cs : List Char) :
  text name (ofChars cs) = String.ofList cs
  := congrArg String.ofList (chars_ofChars _ cs)

/-- The tokens of a template with the ranges that they take up, when the text of the template
stands behind another one. -/
def located (sigil : String) : String → Template Numeral → List Located
  | _, [] => []
  | front, .char c :: t => located sigil (front ++ String.singleton c) t
  | front, .slot numeral :: t =>
    .behind sigil front numeral :: located sigil (front ++ numeral.text sigil) t

theorem located_append (sigil front : String) (t u : Template Numeral) :
  located sigil front (t ++ u)
    = located sigil front t ++ located sigil (front ++ t.text (Numeral.text sigil)) u
  := by
  induction t generalizing front with
  | nil =>
    have htext : text (Numeral.text sigil) [] = "" := rfl
    rw [htext, String.append_empty]
    rfl
  | cons symbol t ih =>
    cases symbol with
    | char c =>
      rw [List.cons_append, located, ih, located, text_char, String.append_assoc]
    | slot numeral =>
      rw [List.cons_append, located, ih, located, text_slot, String.append_assoc]
      rfl

theorem located_ofChars (sigil front : String) (cs : List Char) :
  located sigil front (ofChars cs) = []
  := by
  induction cs generalizing front with
  | nil => rfl
  | cons c cs ih => apply ih _

/-- A token of a template stands behind what is in front of its slot. -/
theorem exists_of_mem_located {sigil front : String} {t : Template Numeral} {found : Located}
    (h : found ∈ located sigil front t) :
  ∃ (u v : Template Numeral) (numeral : Numeral), t = u ++ .slot numeral :: v
    ∧ found = .behind sigil (front ++ u.text (Numeral.text sigil)) numeral
  := by
  induction t generalizing front with
  | nil => cases h
  | cons symbol t ih =>
    cases symbol with
    | char c =>
      obtain ⟨u, v, numeral, rfl, rfl⟩ := ih h
      use .char c :: u, v, numeral, rfl
      rw [text_char, String.append_assoc]
    | slot numeral =>
      obtain rfl | htail := List.mem_cons.mp h
      · use [], t, numeral, rfl
        rw [text, chars_nil, String.ofList_nil, String.append_empty]
      · obtain ⟨u, v, other, rfl, rfl⟩ := ih htail
        use .slot numeral :: u, v, other, rfl
        rw [text_slot, String.append_assoc]

/-- The ranges of the tokens do not overlap. -/
theorem pairwise_located (sigil front : String) (t : Template Numeral) :
  (located sigil front t).Pairwise fun a b => a.span.stop ≤ b.span.start
  := by
  induction t generalizing front with
  | nil => apply List.Pairwise.nil
  | cons symbol t ih =>
    cases symbol with
    | char c => apply ih _
    | slot numeral =>
      rw [located, List.pairwise_cons]
      refine ⟨?_, ih _⟩
      intro found hfound
      obtain ⟨u, v, other, -, rfl⟩ := exists_of_mem_located hfound
      simp only [Located.behind, String.utf8ByteSize_append]
      omega

theorem map_span_located (sigil front : String) (t : Template Numeral) :
  (located sigil front t).map Located.span = t.spans (Numeral.text sigil) front.utf8ByteSize
  := by
  induction t generalizing front with
  | nil => rfl
  | cons symbol t ih =>
    cases symbol with
    | char c =>
      rw [located, ih, spans, String.utf8ByteSize_append, String.utf8ByteSize_singleton]
    | slot numeral =>
      rw [located, List.map_cons, ih, spans, Located.behind, String.utf8ByteSize_append]

end Template

/-! ### The scan behind a text -/

/-- Takes apart the text behind another one. -/
def scanBehind (sigil front text : String) : Template Numeral :=
  match sigil.toList with
  | [] => word text
  | s :: rest => scanFrom s rest front.toList.getLast? text.toList

/-- The tokens of the text behind another one, with their places behind it. -/
def locatedBehind (sigil front text : String) : List Located :=
  located sigil front (scanBehind sigil front text)

theorem scanBehind_eq_scanFrom {sigil : String} {s : Char} {cs : List Char}
    (h : sigil.toList = s :: cs) (front text : String) :
  scanBehind sigil front text = scanFrom s cs front.toList.getLast? text.toList
  := by
  rw [scanBehind, h]

theorem getLast?_toList_append {text : String} (h : text ≠ "") (front : String) :
  (front ++ text).toList.getLast? = text.toList.getLast?
  := by
  rw [String.toList_append, List.getLast?_append_of_ne_nil _ (mt String.toList_eq_nil_iff.mp h)]

/-- Characters that the scan passes over do not matter. -/
theorem locatedBehind_of_eq_ofChars_append {sigil front read text rest : String}
    (h : scanBehind sigil front text
      = ofChars read.toList ++ scanBehind sigil (front ++ read) rest) :
  locatedBehind sigil front text = locatedBehind sigil (front ++ read) rest
  := by
  rw [locatedBehind, h, located_append, located_ofChars, text_ofChars, String.ofList_toList,
    List.nil_append, locatedBehind]

/-- Up to the first occurrence of the sigil the scan passes over the text. -/
theorem scanFrom_of_firstOccurrence? (s : Char) (cs : List Char) (before : Option Char)
    (text : List Char) :
  (firstOccurrence? (s :: cs) text = none ∧ scanFrom s cs before text = ofChars text)
    ∨ ∃ skipped behind : List Char, text = skipped ++ (s :: cs ++ behind)
      ∧ firstOccurrence? (s :: cs) text = some (String.ofList skipped).utf8ByteSize
      ∧ scanFrom s cs before text
        = ofChars skipped ++ scanFrom s cs (skipped.getLast?.or before) (s :: cs ++ behind)
  := by
  induction text generalizing before with
  | nil => exact Or.inl ⟨rfl, scanFrom_nil before⟩
  | cons c text ih =>
    by_cases hp : (s :: cs) <+: c :: text
    · right
      obtain ⟨behind, hbehind⟩ := hp
      have hp : (s :: cs).isPrefixOf (c :: text) = true :=
        List.isPrefixOf_iff_prefix.mpr ⟨behind, hbehind⟩
      use [], behind, hbehind.symm
      rw [firstOccurrence?, if_pos hp, hbehind]
      exact ⟨rfl, rfl⟩
    · rw [firstOccurrence?, if_neg (mt List.isPrefixOf_iff_prefix.mp hp), scanFrom_cons hp]
      obtain ⟨hnone, hscan⟩ | ⟨skipped, behind, htext, hsome, hscan⟩ := ih (some c)
      · left
        rw [hnone, hscan]
        exact ⟨rfl, rfl⟩
      · right
        use c :: skipped, behind, congrArg (c :: ·) htext
        rw [hsome, hscan, getLast?_cons_or, String.ofList_cons, String.utf8ByteSize_append,
          String.utf8ByteSize_singleton]
        exact ⟨rfl, rfl⟩

/-- Up to the first occurrence of the sigil there are no tokens. -/
theorem locatedBehind_of_firstOccurrence? {sigil : String} (hsigil : sigil ≠ "")
    (front text : String) :
  (firstOccurrence? sigil.toList text.toList = none ∧ locatedBehind sigil front text = [])
    ∨ ∃ skipped behind : String, text = skipped ++ sigil ++ behind
      ∧ firstOccurrence? sigil.toList text.toList = some skipped.utf8ByteSize
      ∧ locatedBehind sigil front text
        = locatedBehind sigil (front ++ skipped) (sigil ++ behind)
  := by
  obtain ⟨s, cs, hs⟩ := exists_toList_eq_cons hsigil
  have hscan := scanFrom_of_firstOccurrence? s cs front.toList.getLast? text.toList
  rw [← scanBehind_eq_scanFrom hs, ← hs] at hscan
  obtain ⟨hnone, hscan⟩ | ⟨skipped, behind, htext, hsome, hscan⟩ := hscan
  · left
    rw [locatedBehind, hscan, located_ofChars]
    exact ⟨hnone, rfl⟩
  · right
    use String.ofList skipped, String.ofList behind
    refine ⟨?_, hsome, ?_⟩
    · apply String.toList_inj.mp
      simp only [String.toList_append, String.toList_ofList, htext, List.append_assoc]
    · apply locatedBehind_of_eq_ofChars_append
      rw [hscan, scanBehind_eq_scanFrom hs]
      simp only [String.toList_append, String.toList_ofList, List.getLast?_append]

/-- At an occurrence of the sigil the scan reads the digits behind it. -/
theorem scanBehind_sigil {sigil : String} (hsigil : sigil ≠ "") (front : String)
    {digits rest : String}
    (hdigits : (digits ++ rest).toList.takeWhile Char.isDigit = digits.toList) :
  scanBehind sigil front (sigil ++ digits ++ rest)
    = if digits = "" ∨ isGlued front.toList.getLast? = true then
        ofChars sigil.toList ++ scanBehind sigil (front ++ sigil) (digits ++ rest)
      else
        (if isTokenId (Numeral.value ⟨digits.toList⟩) then ref ⟨digits.toList⟩
          else ofChars (sigil ++ digits).toList)
          ++ scanBehind sigil (front ++ sigil ++ digits) rest
  := by
  obtain ⟨s, cs, hs⟩ := exists_toList_eq_cons hsigil
  have hdrop : (digits ++ rest).toList.dropWhile Char.isDigit = rest.toList := by
    have hboth := List.takeWhile_append_dropWhile (p := Char.isDigit) (l := (digits ++ rest).toList)
    rw [hdigits, String.toList_append, List.append_cancel_left_eq] at hboth
    rwa [String.toList_append]
  have hscan := @scanFrom_sigil s cs front.toList.getLast? (digits ++ rest).toList
  rw [hdigits, hdrop, ← hs, ← String.toList_append, ← String.toList_append, ← String.append_assoc,
    ← scanBehind_eq_scanFrom hs] at hscan
  simp only [Bool.or_eq_true, List.isEmpty_iff, String.toList_eq_nil_iff] at hscan
  rw [hscan]
  split_ifs with hpassed
  · rw [scanBehind_eq_scanFrom hs, getLast?_toList_append hsigil]
  · rw [scanBehind_eq_scanFrom hs, getLast?_toList_append (not_or.mp hpassed).1]
  · rw [scanBehind_eq_scanFrom hs, getLast?_toList_append (not_or.mp hpassed).1]

/-- At an occurrence of the sigil there is a token, unless there are no digits behind it, it is
glued to a word, or the number is none of a token. -/
theorem locatedBehind_sigil {sigil : String} (hsigil : sigil ≠ "") (front : String)
    {digits rest : String}
    (hdigits : (digits ++ rest).toList.takeWhile Char.isDigit = digits.toList) :
  locatedBehind sigil front (sigil ++ digits ++ rest)
    = if digits = "" ∨ isGlued front.toList.getLast? = true then
        locatedBehind sigil (front ++ sigil) (digits ++ rest)
      else
        (if isTokenId (Numeral.value ⟨digits.toList⟩) then
          some (.behind sigil front ⟨digits.toList⟩)
        else none).toList
          ++ locatedBehind sigil (front ++ sigil ++ digits) rest
  := by
  have hscan := scanBehind_sigil hsigil front hdigits
  split_ifs at hscan ⊢ with hpassed hid
  · apply locatedBehind_of_eq_ofChars_append hscan
  · rw [@String.append_assoc front] at hscan ⊢
    rw [locatedBehind, hscan, ← Numeral.text_toList sigil]
    rfl
  · rw [@String.append_assoc front] at hscan ⊢
    rw [Option.toList_none, List.nil_append]
    apply locatedBehind_of_eq_ofChars_append hscan

/-! ### The search and the scan -/

/-- A round that comes to an occurrence of the sigil goes on behind the digits, unless there are
none or the occurrence is glued to a word. -/
theorem round?_of_firstOccurrence? {sigil skipped digits rest : String} (front : String)
    (h : firstOccurrence? sigil.toList (skipped ++ sigil ++ digits ++ rest).toList
      = some skipped.utf8ByteSize)
    (hdigits : (digits ++ rest).toList.takeWhile Char.isDigit = digits.toList) :
  round? sigil (front ++ skipped ++ sigil ++ digits ++ rest) front.utf8ByteSize
    = some (some
        (if digits = "" ∨ isGlued (front ++ skipped).toList.getLast? = true then
          ⟨none, (front ++ skipped ++ sigil).utf8ByteSize⟩
        else
          ⟨if isTokenId (Numeral.value ⟨digits.toList⟩) then
              some (.behind sigil (front ++ skipped) ⟨digits.toList⟩)
            else none,
            (front ++ skipped ++ sigil ++ digits).utf8ByteSize⟩))
  := by
  have htext := Span.cut?_append front (skipped ++ sigil ++ digits ++ rest) ""
  have hglued := gluedAt?_append (front ++ skipped) (sigil ++ digits ++ rest)
  have hend := digitsEnd_append (front ++ skipped ++ sigil) (digits ++ rest)
  have hcut := Span.cut?_append (front ++ skipped ++ sigil) digits rest
  have hstart := String.utf8ByteSize_append (s := front) (t := skipped)
  have hbehind := String.utf8ByteSize_append (s := front ++ skipped) (t := sigil)
  rw [hdigits, String.ofList_toList] at hend
  simp only [← String.append_assoc, String.append_empty] at htext hglued hend hcut
  have hgoesOn : (front ++ skipped ++ sigil).utf8ByteSize
        < (front ++ skipped ++ sigil ++ digits).utf8ByteSize
        ∧ isGlued (front ++ skipped).toList.getLast? = false
      ↔ ¬ (digits = "" ∨ isGlued (front ++ skipped).toList.getLast? = true) := by
    rw [String.utf8ByteSize_append (t := digits), ← String.utf8ByteSize_eq_zero_iff, not_or,
      Bool.not_eq_true, Nat.lt_add_right_iff_pos, Nat.pos_iff_ne_zero]
  rw [Located.behind, Numeral.text_toList, ← @String.append_assoc (front ++ skipped)]
  simp only [round?, htext, h, ← hstart, ← hbehind, hglued, hend, hcut, hgoesOn,
    Option.bind_eq_bind, Option.bind_some, ite_not]
  split_ifs <;> rfl

/-- A text begins with all digits that stand there. -/
theorem exists_eq_digits_append (text : String) :
  ∃ digits rest : String, text = digits ++ rest
    ∧ (digits ++ rest).toList.takeWhile Char.isDigit = digits.toList
  := by
  use String.ofList (text.toList.takeWhile Char.isDigit),
    String.ofList (text.toList.dropWhile Char.isDigit)
  rw [← String.ofList_append, List.takeWhile_append_dropWhile, String.ofList_toList,
    String.toList_ofList]
  exact ⟨rfl, rfl⟩

/-- A round reads on in the text and finds the tokens of what it reads, or it ends the search as
there are no tokens left. -/
theorem round?_spec {sigil : String} (hsigil : sigil ≠ "") (front text : String) :
  (round? sigil (front ++ text) front.utf8ByteSize = some none
      ∧ locatedBehind sigil front text = [])
    ∨ ∃ (read unread : String) (token? : Option Located), text = read ++ unread ∧ read ≠ ""
      ∧ round? sigil (front ++ text) front.utf8ByteSize
        = some (some ⟨token?, (front ++ read).utf8ByteSize⟩)
      ∧ locatedBehind sigil front text
        = token?.toList ++ locatedBehind sigil (front ++ read) unread
  := by
  obtain ⟨hnone, hlocated⟩ | ⟨skipped, behind, rfl, hsome, hlocated⟩ :=
    locatedBehind_of_firstOccurrence? hsigil front text
  · left
    have htext := Span.cut?_append front text ""
    rw [String.append_empty] at htext
    rw [round?, htext, Option.bind_eq_bind, Option.bind_some, hnone]
    exact ⟨rfl, hlocated⟩
  · right
    obtain ⟨digits, rest, rfl, hdigits⟩ := exists_eq_digits_append behind
    rw [← String.append_assoc] at hsome hlocated
    rw [← String.append_assoc, locatedBehind_sigil hsigil _ hdigits] at hlocated
    have hround := round?_of_firstOccurrence? front hsome hdigits
    -- an occurrence that is passed over is read without the digits behind it
    by_cases hpassed : digits = "" ∨ isGlued (front ++ skipped).toList.getLast? = true
    · rw [if_pos hpassed] at hround hlocated
      use skipped ++ sigil, digits ++ rest, none
      simp only [← String.append_assoc]
      refine ⟨trivial, ?_, hround, hlocated⟩
      rw [Ne, String.append_eq_empty_iff, not_and]
      exact fun _ => hsigil
    · rw [if_neg hpassed] at hround hlocated
      use skipped ++ sigil ++ digits, rest
      simp only [← String.append_assoc]
      refine ⟨_, trivial, ?_, hround, hlocated⟩
      rw [Ne, String.append_eq_empty_iff, not_and]
      exact fun _ => (not_or.mp hpassed).1

/-- With more rounds than there are characters left, the search finds the tokens of the scan: each
round but the last one reads at least one character. -/
theorem search?_eq {sigil : String} (hsigil : sigil ≠ "") (rounds : Nat) (front text : String)
    (h : text.length < rounds) :
  search? sigil (front ++ text) rounds front.utf8ByteSize
    = some (locatedBehind sigil front text)
  := by
  induction rounds generalizing front text with
  | zero => omega
  | succ rounds ih =>
    obtain ⟨hround, hlocated⟩ | ⟨read, unread, token?, rfl, hread, hround, hlocated⟩ :=
      round?_spec hsigil front text
    · rw [search?, hround, hlocated]
      rfl
    · have hpos : read.length ≠ 0 := mt String.length_eq_zero_iff.mp hread
      have hlength : unread.length < rounds := by
        rw [String.length_append] at h
        omega
      have hrest := ih (front ++ read) unread hlength
      rw [String.append_assoc] at hrest
      rw [search?, hround, hlocated]
      show (search? sigil _ rounds (front ++ read).utf8ByteSize).bind _ = _
      rw [hrest]
      rfl

/-! ### When the search has an end -/

/-- An empty sigil occurs wherever a round begins, so that no round is the last one. -/
theorem round?_empty_ne (sql : String) (offset : Nat) :
  round? "" sql offset ≠ some none
  := by
  have hfirst : ∀ text, firstOccurrence? "".toList text = some 0 := by
    intro text
    cases text <;> rfl
  rw [round?]
  cases Span.cut? ⟨offset, sql.utf8ByteSize⟩ sql with
  | none => exact Option.some_ne_none _ ∘ Eq.symm
  | some rest =>
    rw [Option.bind_eq_bind, Option.bind_some, hfirst]
    intro h
    obtain ⟨glued, -, h⟩ := Option.bind_eq_some_iff.mp h
    split_ifs at h
    · obtain ⟨digits, -, h⟩ := Option.bind_eq_some_iff.mp h
      cases Option.some.inj h
    · cases Option.some.inj h

theorem search?_empty (sql : String) (rounds offset : Nat) :
  search? "" sql rounds offset = none
  := by
  induction rounds generalizing offset with
  | zero => rfl
  | succ rounds ih =>
    rw [search?]
    cases hround : round? "" sql offset with
    | none => rfl
    | some result =>
      cases result with
      | none => exact absurd hround (round?_empty_ne sql offset)
      | some round =>
        show (search? "" sql rounds round.next).bind _ = none
        rw [ih]
        rfl

/-- The search has an end exactly if the scan has a result. -/
theorem exists_search?_iff {sigil sql : String} :
  (∃ rounds found, search? sigil sql rounds 0 = some found)
    ↔ ∃ template, scan? sigil sql = some template
  := by
  constructor
  · rintro ⟨rounds, found, hfound⟩
    have hsigil : sigil ≠ "" := by
      rintro rfl
      rw [search?_empty] at hfound
      contradiction
    exact ⟨_, scan?_eq_some.mpr ⟨hsigil, rfl⟩⟩
  · rintro ⟨template, htemplate⟩
    have hsigil := (scan?_eq_some.mp htemplate).1
    have hsearch := search?_eq hsigil (sql.length + 1) "" sql (Nat.lt_succ_self _)
    rw [String.empty_append] at hsearch
    exact ⟨_, _, hsearch⟩

/-! ### Cutting the text apart -/

theorem Template.length_spans {α : Type} (name : α → String) (offset : Nat) (t : Template α) :
  (t.spans name offset).length = t.slots.length
  := by
  induction t generalizing offset with
  | nil => rfl
  | cons symbol t ih =>
    cases symbol with
    | char c => apply ih _
    | slot a => apply congrArg Nat.succ (ih _)

/-- Whether a text can be cut apart at ranges does not depend on what is put in their place. -/
theorem isSome_splice?_congr {text : String} {last : Nat} {pieces pieces' : List (Span × String)}
    (h : pieces.map Prod.fst = pieces'.map Prod.fst) :
  (splice? text last pieces).isSome = (splice? text last pieces').isSome
  := by
  induction pieces generalizing last pieces' with
  | nil =>
    obtain rfl := List.map_eq_nil_iff.mp h.symm
    rfl
  | cons piece pieces ih =>
    obtain ⟨⟨span, name'⟩, pieces', rfl, rfl, hrest⟩ := List.map_eq_cons_iff.mp h.symm
    have hih : (splice? text piece.1.stop pieces).isSome
        = (splice? text piece.1.stop pieces').isSome := ih hrest.symm
    rw [splice?, splice?]
    cases Span.cut? ⟨last, piece.1.start⟩ text with
    | none => rfl
    | some cut =>
      simp only [Option.bind_eq_bind, Option.bind_some, Option.pure_def, Option.isSome_bind,
        Option.isSome_some, Option.any_true, hih]

/-- A text can be cut apart at the ranges of its tokens. -/
theorem isSome_splice?_of_located {sigil sql : String} {pieces : List (Span × String)}
    (h : pieces.map Prod.fst = (located sigil "" (scan sigil sql)).map Located.span) :
  (splice? sql 0 pieces).isSome
  := by
  have hsplice := splice?_spans (Numeral.text sigil) (Numeral.text sigil) "" "" (scan sigil sql)
  rw [String.append_empty, String.empty_append, text_scan] at hsplice
  have hspans : pieces.map Prod.fst = (((scan sigil sql).spans (Numeral.text sigil) 0).zip
      ((scan sigil sql).slots.map (Numeral.text sigil))).map Prod.fst := by
    rw [h, map_span_located, List.map_fst_zip]
    · rfl
    · rw [length_spans, List.length_map]
  rw [isSome_splice?_congr hspans]
  apply Option.isSome_of_eq_some hsplice

/-! ### References and their ranges -/

theorem toList_text_eq_written (sigil : String) (t : Template Numeral) :
  (t.text (Numeral.text sigil)).toList = t.written sigil.toList
  := by
  rw [toList_text]
  simp only [Numeral.text, String.toList_append, String.toList_ofList]
  rfl

theorem Located.start_lt_stop {sigil : String} (hsigil : sigil ≠ "") (front : String)
    (numeral : Numeral) :
  (behind sigil front numeral).span.start < (behind sigil front numeral).span.stop
  := by
  have hpos := mt String.utf8ByteSize_eq_zero_iff.mp hsigil
  simp only [behind, Numeral.text, String.utf8ByteSize_append]
  omega

/-- A token of the scan is a reference, and it has the range and the number of the reference. -/
theorem exists_reference_of_mem_located {sigil : String} (hsigil : sigil ≠ "") {sql : String}
    {found : Located} (h : found ∈ located sigil "" (scan sigil sql)) :
  ∃ (front behind : String) (numeral : Numeral), sql = front ++ numeral.text sigil ++ behind
    ∧ found = .behind sigil front numeral ∧ isTokenId numeral.value = true
    ∧ IsReference front.toList numeral.digits behind.toList
  := by
  obtain ⟨u, v, numeral, hsplit, rfl⟩ := exists_of_mem_located h
  obtain ⟨hid, -, href⟩ := of_scan_eq_append hsigil hsplit
  rw [← toList_text_eq_written, ← toList_text_eq_written] at href
  use u.text (Numeral.text sigil), v.text (Numeral.text sigil), numeral
  refine ⟨?_, by rw [String.empty_append], hid, href⟩
  rw [← text_scan sigil sql, hsplit, text_append, text_slot, String.append_assoc]

/-- If occurrences of the sigil overlap neither each other nor digits, then a reference whose
number is one that a token can have is a token of the scan. -/
theorem mem_located_of_reference {sigil : String} (hsigil : sigil ≠ "")
    (hunbordered : IsUnbordered sigil.toList) (hdigits : ∀ c ∈ sigil.toList, c.isDigit = false)
    {front behind : String} {numeral : Numeral}
    (href : IsReference front.toList numeral.digits behind.toList)
    (hid : isTokenId numeral.value = true) :
  .behind sigil front numeral
    ∈ located sigil "" (scan sigil (front ++ numeral.text sigil ++ behind))
  := by
  have htext : (front ++ numeral.text sigil ++ behind).toList
      = front.toList ++ (sigil.toList ++ (numeral.digits ++ behind.toList)) := by
    simp only [Numeral.text, String.toList_append, String.toList_ofList, List.append_assoc]
  obtain ⟨u, v, hscan, hu⟩ :=
    exists_scan_eq_append hsigil hunbordered hdigits htext href hid
  have hfront : u.text (Numeral.text sigil) = front := by
    apply String.toList_inj.mp
    rw [toList_text_eq_written, hu]
  rw [hscan, located_append, hfront, String.empty_append]
  apply List.mem_append_right _ List.mem_cons_self

/-- With one round more than a text has characters, or with any number of further rounds, the
search comes to an end and finds the tokens of the scan.  Their ranges follow one another, none
of them is empty, and the text can be cut apart at all of them.  In the range of a token there is
a reference with the number of the token, and if occurrences of the sigil overlap neither each
other nor digits, then every reference is found whose number is one that a token can have. -/
theorem search_is_exact {sigil : String} (hsigil : sigil ≠ "") (sql : String) :
  ∃ tokens : List Located,
    (∀ rounds, sql.length < rounds → search? sigil sql rounds 0 = some tokens)
    ∧ tokens = located sigil "" (scan sigil sql)
    ∧ tokens.Pairwise (fun a b => a.span.stop ≤ b.span.start)
    ∧ (∀ found ∈ tokens, found.span.start < found.span.stop
      ∧ ∃ (front behind : String) (numeral : Numeral), sql = front ++ numeral.text sigil ++ behind
        ∧ found = .behind sigil front numeral
        ∧ found.span.cut? sql = some (numeral.text sigil)
        ∧ IsReference front.toList numeral.digits behind.toList
        ∧ numeral.value < UInt32.size)
    ∧ (∀ pieces : List (Span × String), pieces.map Prod.fst = tokens.map Located.span →
      (splice? sql 0 pieces).isSome)
    ∧ (IsUnbordered sigil.toList → (∀ c ∈ sigil.toList, c.isDigit = false) →
      ∀ (front behind : String) (numeral : Numeral), sql = front ++ numeral.text sigil ++ behind →
        IsReference front.toList numeral.digits behind.toList →
        numeral.value < UInt32.size → .behind sigil front numeral ∈ tokens)
  := by
  use located sigil "" (scan sigil sql)
  refine ⟨?ends, rfl, pairwise_located _ _ _, ?exact, fun _ => isSome_splice?_of_located, ?complete⟩
  case ends =>
    intro rounds hrounds
    have hsearch := search?_eq hsigil rounds "" sql hrounds
    rw [String.empty_append] at hsearch
    exact hsearch
  case exact =>
    intro found hfound
    obtain ⟨front, behind, numeral, rfl, rfl, hid, href⟩ :=
      exists_reference_of_mem_located hsigil hfound
    have hcut := Span.cut?_append front (numeral.text sigil) behind
    use Located.start_lt_stop hsigil front numeral
    exact ⟨front, behind, numeral, rfl, rfl, hcut, href, of_decide_eq_true hid⟩
  case complete =>
    rintro hunbordered hdigits front behind numeral rfl href hid
    apply mem_located_of_reference hsigil hunbordered hdigits href
    apply decide_eq_true hid

/-- Both tokens of a text that begins with a character of two bytes are found. -/
theorem search_is_exact_of_wideText :
  ∃ tokens : List Located, (∀ rounds, 6 < rounds → search? ":" "é:1,:2" rounds 0 = some tokens)
    ∧ .behind ":" "é" ⟨['1']⟩ ∈ tokens ∧ .behind ":" "é:1," ⟨['2']⟩ ∈ tokens
  := by
  have hsigil : ":" ≠ "" := by decide
  have hfirst : IsReference "é".toList ['1'] ",:2".toList :=
    ⟨⟨by decide, by decide, by decide⟩, by decide⟩
  have hsecond : IsReference "é:1,".toList ['2'] "".toList :=
    ⟨⟨by decide, by decide, by decide⟩, by decide⟩
  obtain ⟨tokens, hends, -, -, -, -, hcomplete⟩ := search_is_exact hsigil "é:1,:2"
  have hfound := hcomplete (isUnbordered_singleton ':') (by decide)
  use tokens, hends
  exact ⟨hfound _ _ _ (by decide) hfirst (by decide), hfound _ _ _ (by decide) hsecond (by decide)⟩

end BoundSql
