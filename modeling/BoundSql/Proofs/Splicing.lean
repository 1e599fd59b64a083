import BoundSql.Proofs.Absorption
import Mathlib.Data.String.Basic

/-!
# Splicing

The tokens of SQL text take up ranges of its bytes.  `splice?` cuts a text apart at such ranges
and puts names in their place; it has no result when a range reaches beyond the text, through a
character, or back behind the previous one.  The text of an absorbed query is what splicing the
names of its entries into the text of the query gives, and there always is a result
(`Absorbed.spliced?_eq`).
-/

namespace BoundSql

/-! ### Ranges of bytes -/

/-- A range of the bytes of a text. -/
structure Span where
  start : Nat
  stop : Nat
deriving DecidableEq

/-- The part of a text in a range of bytes.  There is none if the range is not one of the text,
or if it begins or ends within a character. -/
def Span.cut? (span : Span) (text : String) : Option String :=
  if span.start ≤ span.stop ∧ (String.Pos.Raw.mk span.start).isValid text
      ∧ (String.Pos.Raw.mk span.stop).isValid text then
    some (String.Pos.Raw.extract text ⟨span.start⟩ ⟨span.stop⟩)
  else none

theorem isValid_utf8ByteSize (front rest : String) :
  (String.Pos.Raw.mk front.utf8ByteSize).isValid (front ++ rest) = true
  := by
  rw [String.Pos.Raw.isValid_eq_true_iff, String.Pos.Raw.isValid_iff_exists_append]
  use front, rest, rfl
  rfl

/-- Behind one text and in front of another the text between them is cut out. -/
theorem Span.cut?_append (front piece rest : String) :
  Span.cut? ⟨front.utf8ByteSize, (front ++ piece).utf8ByteSize⟩ (front ++ piece ++ rest)
    = some piece
  := by
  have hstart : (String.Pos.Raw.mk front.utf8ByteSize).isValid (front ++ piece ++ rest) := by
    rw [String.append_assoc]
    apply isValid_utf8ByteSize
  have hstop := isValid_utf8ByteSize (front ++ piece) rest
  have hextract := String.extract_of_valid front.toList piece.toList rest.toList
  simp only [String.ofList_append, String.ofList_toList, ← String.utf8ByteSize_ofList,
    ← String.utf8ByteSize_append] at hextract
  have hle : front.utf8ByteSize ≤ (front ++ piece).utf8ByteSize := by
    rw [String.utf8ByteSize_append]
    apply Nat.le_add_right
  rw [cut?, if_pos ⟨hle, hstart, hstop⟩, hextract]

/-- The text behind the byte `last`, with a name in place of each range. -/
def splice? (text : String) (last : Nat) : List (Span × String) → Option String
  | [] => Span.cut? ⟨last, text.utf8ByteSize⟩ text
  | (span, name) :: rest => do
    let piece ← Span.cut? ⟨last, span.start⟩ text
    let spliced ← splice? text span.stop rest
    pure (piece ++ name ++ spliced)

/-! ### The slots of a template -/

namespace Template

variable {α : Type}

/-- The ranges of the slots in a text, in which the template is written from an offset on. -/
def spans (name : α → String) : Nat → Template α → List Span
  | _, [] => []
  | offset, .char c :: t => spans name (offset + c.utf8Size) t
  | offset, .slot a :: t =>
    let stop := offset + (name a).utf8ByteSize
    ⟨offset, stop⟩ :: spans name stop t

theorem text_char (name : α → String) (c : Char) (t : Template α) :
  text name (.char c :: t) = String.singleton c ++ text name t
  := by
  rw [text, chars_char, String.ofList_cons]
  rfl

theorem text_slot (name : α → String) (a : α) (t : Template α) :
  text name (.slot a :: t) = name a ++ text name t
  := by
  rw [text, chars_slot, String.ofList_append, String.ofList_toList]
  rfl

/-- New names spliced into the text of a template give its text with the new names.  The text
in front of the template ends with `pending`, which has not been cut out yet. -/
theorem splice?_spans (old new : α → String) (front pending : String) (t : Template α) :
  splice? (front ++ pending ++ text old t) front.utf8ByteSize
      ((t.spans old (front ++ pending).utf8ByteSize).zip (t.slots.map new))
    = some (pending ++ text new t)
  := by
  induction t generalizing front pending with
  | nil =>
    have hcut := Span.cut?_append front pending ""
    have htext : ∀ name : α → String, text name [] = "" := fun name => rfl
    rw [String.append_empty] at hcut
    rw [htext, htext, String.append_empty, String.append_empty, ← hcut]
    rfl
  | cons symbol t ih =>
    cases symbol with
    | char c =>
      have hoffset : (front ++ pending).utf8ByteSize + c.utf8Size
          = (front ++ (pending ++ String.singleton c)).utf8ByteSize := by
        rw [← String.append_assoc, String.utf8ByteSize_append (t := String.singleton c),
          String.utf8ByteSize_singleton]
      have hold : front ++ pending ++ text old (.char c :: t)
          = front ++ (pending ++ String.singleton c) ++ text old t := by
        simp only [text_char, String.append_assoc]
      rw [spans, slots_char, hoffset, hold, ih, text_char, String.append_assoc]
    | slot a =>
      have hcut := Span.cut?_append front pending (text old (.slot a :: t))
      have hrest := ih (front ++ pending ++ old a) ""
      have hold : front ++ pending ++ text old (.slot a :: t)
          = front ++ pending ++ old a ++ text old t := by
        rw [text_slot, ← String.append_assoc]
      rw [String.append_empty, String.utf8ByteSize_append (s := front ++ pending)] at hrest
      rw [spans, slots_slot, List.map_cons, List.zip_cons_cons, splice?, hcut, hold, hrest,
        text_slot, String.empty_append]
      show some (pending ++ new a ++ text new t) = _
      rw [String.append_assoc]

end Template

/-! ### Absorbed queries -/

/-- The text of a token of SQL text. -/
def Numeral.text (sigil : String) (numeral : Numeral) : String :=
  sigil ++ String.ofList numeral.digits

theorem text_scan (sigil sql : String) :
  (scan sigil sql).text (Numeral.text sigil) = sql
  := by
  apply String.toList_inj.mp
  rw [Template.toList_text, ← chars_scan sigil sql]
  simp only [Numeral.text, String.toList_append, String.toList_ofList]

/-- The ranges of the tokens in the text of a query. -/
def Query.spans (query : Query) : List Span :=
  (scan query.sigil query.sql).spans (Numeral.text query.sigil) 0

namespace Absorbed

/-- The names of the entries that the tokens of a query have become.  There are none if one of
the tokens refers to no entry. -/
def names? (absorbed : Absorbed Token) : Option (List String) :=
  absorbed.body.slots.mapM fun position => absorbed.entries[position]?.map Token.name

/-- The text of a query with the names of the entries spliced in. -/
def spliced? (absorbed : Absorbed Token) (query : Query) : Option String := do
  let names ← absorbed.names?
  splice? query.sql 0 (query.spans.zip names)

/-- Every token of a query refers to an entry. -/
theorem names?_eq {absorbed : Absorbed Token}
    (h : ∀ position ∈ absorbed.body.slots, position < absorbed.entries.length) :
  absorbed.names? = some (absorbed.template.slots.map Token.name)
  := by
  have hslots := congrArg Template.slots
    (mapSlots_template_of_lt absorbed h fun token => some token.name)
  rw [Template.slots_mapSlots, Template.slots_mapSlots] at hslots
  calc absorbed.names?
      = (absorbed.body.slots.map fun position =>
          absorbed.entries[position]?.bind fun token => some token.name).mapM id := by
        simp only [names?, Option.map_eq_bind, List.mapM_map]
        rfl
    _ = absorbed.template.slots.mapM fun token => some token.name := by
        rw [← hslots, List.mapM_map]
        rfl
    _ = some (absorbed.template.slots.map Token.name) := List.mapM_pure

/-- The text of an absorbed query comes from cutting the text of the query apart, which is
possible at all its tokens, and each of these refers to an entry. -/
theorem spliced?_eq {query : Query} {absorbed : Absorbed Token}
    (hbody : query.references = .ok absorbed.body)
    (hlength : absorbed.entries.length = query.values.length) :
  absorbed.spliced? query = some (absorbed.template.text Token.name)
  := by
  have hpositions : ∀ position ∈ absorbed.body.slots, position < absorbed.entries.length := by
    intro position hposition
    rw [hlength]
    apply Query.lt_of_mem_slots hbody hposition
  obtain ⟨exchange, hexchange, -⟩ := mapSlots_template hbody hlength Token.name
  have hslots := congrArg Template.slots hexchange
  rw [Template.slots_mapSlots, Template.slots_mapSlots] at hslots
  have htext : absorbed.template.text Token.name
      = Template.text exchange (scan query.sigil query.sql) := by
    have hchars := congrArg (Template.chars String.toList) hexchange
    rw [Template.chars_mapSlots, Template.chars_mapSlots] at hchars
    exact congrArg String.ofList hchars
  have hsplice := Template.splice?_spans (Numeral.text query.sigil) exchange "" ""
    (scan query.sigil query.sql)
  rw [String.append_empty, String.empty_append, text_scan, String.empty_append, ← hslots]
    at hsplice
  rw [spliced?, names?_eq hpositions, htext]
  exact hsplice

end Absorbed

end BoundSql
