import BoundSql.Proofs.Outcome
import BoundSql.Token.Scan
import Mathlib.Data.List.Basic

/-!
# Laws of templates

`Template.mapSlots` is a functor, and `Template.chars` and `Template.slots` read a mapped
template as one expects.  The operations that put templates together commute with all
three.
-/

namespace BoundSql

/-- What is said of the characters of a text is decided one by one, and not by going through all
characters that there are. -/
instance (priority := high) decidableForallMemChars {p : Char → Prop} [DecidablePred p]
    (cs : List Char) : Decidable (∀ c ∈ cs, p c) := List.decidableBAll p cs

namespace Template

variable {α β γ : Type}

/-! ### Symbol by symbol -/

@[simp]
theorem mapSlots_nil (f : α → β) :
  mapSlots f [] = []
  := rfl

@[simp]
theorem mapSlots_char (f : α → β) (c : Char) (t : Template α) :
  mapSlots f (.char c :: t) = .char c :: mapSlots f t
  := rfl

@[simp]
theorem mapSlots_slot (f : α → β) (a : α) (t : Template α) :
  mapSlots f (.slot a :: t) = .slot (f a) :: mapSlots f t
  := rfl

@[simp]
theorem chars_nil (name : α → List Char) :
  chars name [] = []
  := rfl

@[simp]
theorem chars_char (name : α → List Char) (c : Char) (t : Template α) :
  chars name (.char c :: t) = c :: chars name t
  := rfl

@[simp]
theorem chars_slot (name : α → List Char) (a : α) (t : Template α) :
  chars name (.slot a :: t) = name a ++ chars name t
  := rfl

@[simp]
theorem slots_nil :
  slots ([] : Template α) = []
  := rfl

@[simp]
theorem slots_char (c : Char) (t : Template α) :
  slots (.char c :: t) = slots t
  := rfl

@[simp]
theorem slots_slot (a : α) (t : Template α) :
  slots (.slot a :: t) = a :: slots t
  := rfl

/-! ### Mapping slots -/

theorem mapSlots_mapSlots (g : β → γ) (f : α → β) (t : Template α) :
  mapSlots g (mapSlots f t) = mapSlots (fun a => g (f a)) t
  := by
  induction t with
  | nil => rfl
  | cons symbol t ih =>
    cases symbol with
    | char c => simp [ih]
    | slot a => simp [ih]

/-- Maps that agree on the slots of a template have the same effect on it. -/
theorem mapSlots_congr {f g : α → β} {t : Template α} (h : ∀ a ∈ t.slots, f a = g a) :
  mapSlots f t = mapSlots g t
  := by
  induction t with
  | nil => rfl
  | cons symbol t ih =>
    cases symbol with
    | char c => simp [ih h]
    | slot a =>
      simp only [slots_slot, List.forall_mem_cons] at h
      simp [h.1, ih h.2]

theorem mapSlots_injective {f : α → β} (hf : Function.Injective f) :
  Function.Injective (mapSlots f)
  := by
  intro t u h
  induction t generalizing u with
  | nil =>
    cases u with
    | nil => rfl
    | cons symbol u => cases symbol <;> cases h
  | cons symbol t ih =>
    cases u with
    | nil => cases symbol <;> cases h
    | cons symbol' u =>
      cases symbol with
      | char c =>
        cases symbol' with
        | char c' =>
          obtain ⟨hchar, htail⟩ := List.cons.inj h
          rw [Symbol.char.inj hchar, ih htail]
        | slot a' => cases (List.cons.inj h).1
      | slot a =>
        cases symbol' with
        | char c' => cases (List.cons.inj h).1
        | slot a' =>
          obtain ⟨hslot, htail⟩ := List.cons.inj h
          rw [hf (Symbol.slot.inj hslot), ih htail]

@[simp]
theorem mapSlots_ofChars (f : α → β) (cs : List Char) :
  mapSlots f (ofChars cs) = ofChars cs
  := by
  induction cs with
  | nil => rfl
  | cons c cs ih => exact congrArg (Symbol.char c :: ·) ih

theorem mapSlots_flatMap {ι : Type} (f : α → β) (g : ι → Template α) (xs : List ι) :
  mapSlots f (xs.flatMap g) = xs.flatMap fun x => mapSlots f (g x)
  := List.flatMap_assoc

theorem slots_mapSlots (f : α → β) (t : Template α) :
  slots (mapSlots f t) = (slots t).map f
  := by
  induction t with
  | nil => rfl
  | cons symbol t ih =>
    cases symbol with
    | char c => simp [ih]
    | slot a => simp [ih]

/-- A template without what its slots hold. -/
def shape (t : Template α) : Template Unit := t.mapSlots fun _ => ()

theorem shape_mapSlots (f : α → β) (t : Template α) :
  (t.mapSlots f).shape = t.shape
  := mapSlots_mapSlots _ f t

@[simp]
theorem shape_append (t u : Template α) :
  shape (t ++ u) = shape t ++ shape u
  := mapSlots_append _ t u

@[simp]
theorem shape_ofChars (cs : List Char) :
  shape (ofChars cs : Template α) = ofChars cs
  := mapSlots_ofChars _ cs

theorem of_shape_eq_char {c : Char} {t : Template Unit} {u : Template α}
    (h : u.shape = .char c :: t) :
  ∃ rest : Template α, u = .char c :: rest ∧ rest.shape = t
  := by
  cases u with
  | nil => contradiction
  | cons symbol rest =>
    cases symbol with
    | char c' =>
      obtain ⟨hc, hrest⟩ := List.cons.inj h
      use rest, by rw [Symbol.char.inj hc]
      exact hrest
    | slot a => cases (List.cons.inj h).1

theorem of_shape_eq_slot {t : Template Unit} {u : Template α} (h : u.shape = .slot () :: t) :
  ∃ a, ∃ rest : Template α, u = .slot a :: rest ∧ rest.shape = t
  := by
  cases u with
  | nil => contradiction
  | cons symbol rest =>
    cases symbol with
    | char c => cases (List.cons.inj h).1
    | slot a => exact ⟨a, rest, rfl, (List.cons.inj h).2⟩

theorem of_shape_eq_ofChars {cs : List Char} {t : Template Unit} {u : Template α}
    (h : u.shape = ofChars cs ++ t) :
  ∃ rest : Template α, u = ofChars cs ++ rest ∧ rest.shape = t
  := by
  induction cs generalizing u with
  | nil => exact ⟨u, rfl, h⟩
  | cons c cs ih =>
    obtain ⟨rest, rfl, hrest⟩ := of_shape_eq_char h
    obtain ⟨rest, rfl, hshape⟩ := ih hrest
    exact ⟨rest, rfl, hshape⟩

theorem chars_mapSlots (name : β → List Char) (f : α → β) (t : Template α) :
  chars name (mapSlots f t) = chars (fun a => name (f a)) t
  := by
  induction t with
  | nil => rfl
  | cons symbol t ih =>
    cases symbol with
    | char c => simp [ih]
    | slot a => simp [ih]

theorem chars_congr {name name' : α → List Char} {t : Template α}
    (h : ∀ a ∈ t.slots, name a = name' a) :
  chars name t = chars name' t
  := by
  induction t with
  | nil => rfl
  | cons symbol t ih =>
    cases symbol with
    | char c => simp [ih h]
    | slot a =>
      simp only [slots_slot, List.forall_mem_cons] at h
      simp [h.1, ih h.2]

@[simp]
theorem toList_text (name : α → String) (t : Template α) :
  (t.text name).toList = t.chars fun a => (name a).toList
  := String.toList_ofList

@[simp]
theorem slots_ofChars (cs : List Char) :
  slots (ofChars cs : Template α) = []
  := by
  induction cs with
  | nil => rfl
  | cons c cs ih => exact ih

/-! ### Visiting slots -/

theorem traverse_id_mapSlots {ε : Type} (f : α → Except ε β) (t : Template α) :
  (t.mapSlots f).traverse id = t.traverse f
  := by
  induction t with
  | nil => rfl
  | cons symbol t ih =>
    cases symbol with
    | char c => simp [traverse, ih]
    | slot a => simp [traverse, ih]

theorem traverse_id_mapSlots_ok {ε : Type} (t : Template β) :
  (t.mapSlots (Except.ok (ε := ε))).traverse id = .ok t
  := by
  induction t with
  | nil => rfl
  | cons symbol t ih =>
    cases symbol with
    | char c => simp [traverse, ih, bind, Except.bind, pure, Except.pure]
    | slot a => simp [traverse, ih, bind, Except.bind, pure, Except.pure]

theorem eq_mapSlots_ok_of_traverse_id {ε : Type} {t : Template (Except ε β)}
    {u : Template β} (h : t.traverse id = .ok u) :
  t = u.mapSlots .ok
  := by
  induction t generalizing u with
  | nil =>
    obtain rfl := Except.ok.inj h
    rfl
  | cons symbol t ih =>
    cases symbol with
    | char c =>
      obtain ⟨rest, hrest, hu⟩ := Except.bind_eq_ok.mp h
      obtain rfl := Except.ok.inj hu
      rw [mapSlots_char, ← ih hrest]
    | slot x =>
      obtain ⟨b, hb, hbind⟩ := Except.bind_eq_ok.mp h
      obtain ⟨rest, hrest, hu⟩ := Except.bind_eq_ok.mp hbind
      obtain rfl := Except.ok.inj hu
      rw [mapSlots_slot, ← ih hrest, ← hb, id]

/-- A visit succeeds when it does at every slot. -/
theorem traverse_eq_ok {ε : Type} {f : α → Except ε β} {t : Template α} {u : Template β} :
  t.traverse f = .ok u ↔ t.mapSlots f = u.mapSlots .ok
  := by
  rw [← traverse_id_mapSlots]
  constructor
  · apply eq_mapSlots_ok_of_traverse_id
  · intro h
    rw [h, traverse_id_mapSlots_ok]

/-! ### Putting templates together -/

theorem slots_joined (separator : String) (parts : List (Template α)) :
  slots (joined separator parts) = parts.flatMap slots
  := by
  fun_induction joined separator parts with
  | case1 => rfl
  | case2 part => simp
  | case3 part parts h ih => simp [ih]

@[simp]
theorem slots_spaced (parts : List (Template α)) :
  slots (spaced parts) = parts.flatMap slots
  := slots_joined " " parts

@[simp]
theorem slots_listed (parts : List (Template α)) :
  slots (listed parts) = parts.flatMap slots
  := slots_joined ", " parts

@[simp]
theorem slots_enclosed (part : Template α) :
  slots (enclosed part) = slots part
  := by
  simp [enclosed]

@[simp]
theorem mapSlots_spaced (f : α → β) (parts : List (Template α)) :
  mapSlots f (spaced parts) = spaced (parts.map (mapSlots f))
  := mapSlots_joined f " " parts

@[simp]
theorem mapSlots_listed (f : α → β) (parts : List (Template α)) :
  mapSlots f (listed parts) = listed (parts.map (mapSlots f))
  := mapSlots_joined f ", " parts

@[simp]
theorem mapSlots_enclosed (f : α → β) (part : Template α) :
  mapSlots f (enclosed part) = enclosed (mapSlots f part)
  := by
  simp [enclosed]

/-! ### Text -/

theorem text_append (name : α → String) (t u : Template α) :
  (t ++ u).text name = t.text name ++ u.text name
  := by
  simp [text]

@[simp]
theorem text_word (name : α → String) (s : String) :
  (word s).text name = s
  := by
  simp [text]

/-- The text of parts is their texts with the separator between them. -/
theorem text_joined (name : α → String) (separator : String) (parts : List (Template α)) :
  (joined separator parts).text name = separator.intercalate (parts.map (text name))
  := by
  fun_induction joined separator parts with
  | case1 => rfl
  | case2 part => exact String.intercalate_singleton.symm
  | case3 part parts h ih =>
    cases parts with
    | nil => exact absurd rfl h
    | cons next rest =>
      rw [text_append, text_append, text_word, ih, List.map_cons, List.map_cons,
        List.map_cons, String.intercalate_cons_cons]

end Template

end BoundSql
