/-!
# Templates

A `Template α` is text with gaps: a list of symbols, each a character or a slot that
holds an `α`.  Two templates are equal exactly when they have the same characters and
the same slots in the same places.  `Template.expand` puts a template in place of each
slot, and `Template.text` writes a template out once each slot has a name.  `spaced`,
`listed` and `enclosed` are the three ways in which parts of a statement are put
together.
-/

namespace BoundSql

/-- A symbol of a template: a character of its text, or a slot. -/
inductive Symbol (α : Type) where
  | char (c : Char)
  | slot (a : α)
deriving DecidableEq

/-- Text with slots that hold values of type `α`. -/
abbrev Template (α : Type) := List (Symbol α)

namespace Template

variable {α β γ : Type}

/-- The template of the characters `cs`, without slots. -/
def ofChars (cs : List Char) : Template α := cs.map .char

/-- The template of the text `s`, without slots. -/
def word (s : String) : Template α := ofChars s.toList

/-- The template that consists of one slot. -/
def ref (a : α) : Template α := [.slot a]

/-- The template that `symbol` becomes when each slot is replaced by a template. -/
def expandSymbol (f : α → Template β) : Symbol α → Template β
  | .char c => [.char c]
  | .slot a => f a

/-- Replaces each slot by a template. -/
def expand (f : α → Template β) (t : Template α) : Template β :=
  t.flatMap (expandSymbol f)

/-- Replaces what each slot holds. -/
def mapSlots (f : α → β) (t : Template α) : Template β :=
  t.expand fun a => ref (f a)

/-- What the slots hold, from left to right. -/
def slots (t : Template α) : List α :=
  t.filterMap fun
    | .char _ => none
    | .slot a => some a

/-- The characters of a template whose slots are written as `name` says. -/
def chars (name : α → List Char) (t : Template α) : List Char :=
  t.flatMap fun
    | .char c => [c]
    | .slot a => name a

/-- The text of a template whose slots are written as `name` says. -/
def text (name : α → String) (t : Template α) : String :=
  String.ofList (t.chars fun a => (name a).toList)

/-- Visits the slots from left to right, replacing what each holds. -/
def traverse {m : Type → Type} [Monad m] (f : α → m β) : Template α → m (Template β)
  | [] => pure []
  | .char c :: t => do
    let rest ← traverse f t
    pure (.char c :: rest)
  | .slot a :: t => do
    let b ← f a
    let rest ← traverse f t
    pure (.slot b :: rest)

/-- Puts `separator` between the parts. -/
def joined (separator : String) : List (Template α) → Template α
  | [] => []
  | [part] => part
  | part :: parts => part ++ word separator ++ joined separator parts

/-- The parts one after another, with blanks between them. -/
def spaced (parts : List (Template α)) : Template α := joined " " parts

/-- The parts one after another, with commas between them. -/
def listed (parts : List (Template α)) : Template α := joined ", " parts

/-- A part in round brackets. -/
def enclosed (part : Template α) : Template α := word "(" ++ part ++ word ")"

@[simp]
theorem expand_nil (f : α → Template β) :
  expand f [] = []
  := rfl

@[simp]
theorem expand_append (f : α → Template β) (s t : Template α) :
  expand f (s ++ t) = expand f s ++ expand f t
  := List.flatMap_append

@[simp]
theorem expand_word (f : α → Template β) (s : String) :
  expand f (word s) = word s
  := by
  simp only [expand, word, ofChars, List.flatMap_map]
  exact (List.map_eq_flatMap ..).symm

@[simp]
theorem mapSlots_append (f : α → β) (s t : Template α) :
  mapSlots f (s ++ t) = mapSlots f s ++ mapSlots f t
  := expand_append _ s t

@[simp]
theorem mapSlots_word (f : α → β) (s : String) :
  mapSlots f (word s) = word s
  := expand_word _ s

@[simp]
theorem mapSlots_ref (f : α → β) (a : α) :
  mapSlots f (ref a) = ref (f a)
  := by
  simp [mapSlots, expand, ref, expandSymbol]

theorem mapSlots_joined (f : α → β) (separator : String) (parts : List (Template α)) :
  mapSlots f (joined separator parts) = joined separator (parts.map (mapSlots f))
  := by
  fun_induction joined separator parts with
  | case1 => rfl
  | case2 part => rfl
  | case3 part parts h ih =>
    cases parts with
    | nil => exact absurd rfl h
    | cons p ps => simp [joined, ih]

@[simp]
theorem slots_append (s t : Template α) :
  slots (s ++ t) = slots s ++ slots t
  := List.filterMap_append

@[simp]
theorem slots_word (s : String) :
  slots (word s : Template α) = []
  := by
  simp [slots, word, ofChars]

@[simp]
theorem slots_ref (a : α) :
  slots (ref a) = [a]
  := rfl

@[simp]
theorem chars_append (name : α → List Char) (s t : Template α) :
  chars name (s ++ t) = chars name s ++ chars name t
  := List.flatMap_append

@[simp]
theorem chars_word (name : α → List Char) (s : String) :
  chars name (word s) = s.toList
  := by
  simp [chars, word, ofChars, List.flatMap_map]

@[simp]
theorem chars_ref (name : α → List Char) (a : α) :
  chars name (ref a) = name a
  := by
  simp [chars, ref]

end Template

end BoundSql
