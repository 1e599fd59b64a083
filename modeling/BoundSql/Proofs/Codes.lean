import BoundSql.Proofs.Legibility
import Mathlib.Tactic.IntervalCases

/-!
# Unique decoding

A way of writing can be decoded when what is written and what stands behind it can be told from
the whole, whatever stands there, as long as that does not begin with one of certain patterns
(`Decodes`).  Keywords of which none is a prefix of another can be decoded behind anything,
numbers when no digit follows, and lists when no comma follows.
-/

namespace BoundSql

namespace Template

variable {α β : Type}

/-! ### Patterns -/

/-- The template begins with a pattern, whatever its slots hold. -/
def Begins (pattern : Template Unit) (t : Template α) : Prop := pattern <+: t.shape

/-- No template begins with both patterns. -/
def Clash (p q : Template Unit) : Prop := ¬ p <+: q ∧ ¬ q <+: p

instance (p q : Template Unit) : Decidable (Clash p q) :=
  inferInstanceAs (Decidable (¬ p <+: q ∧ ¬ q <+: p))

/-- The template begins with none of the patterns. -/
def Stops (patterns : List (Template Unit)) (t : Template α) : Prop :=
  ∀ p ∈ patterns, ¬ Begins p t

theorem begins_word (w : String) (t : Template α) :
  Begins (word w) (word w ++ t)
  := by
  have hshape : (word w : Template α).shape = word w := shape_ofChars w.toList
  rw [Begins, shape_append, hshape]
  apply List.prefix_append

theorem Clash.not_begins {p q : Template Unit} (h : Clash p q) {t : Template α}
    (hp : Begins p t) :
  ¬ Begins q t
  := by
  intro hq
  rcases List.prefix_or_prefix_of_prefix hp hq with hpq | hqp
  · exact h.1 hpq
  · exact h.2 hqp

theorem Stops.mono {patterns patterns' : List (Template Unit)} {t : Template α}
    (h : Stops patterns' t) (hsubset : patterns ⊆ patterns') :
  Stops patterns t
  := fun p hp => h p (hsubset hp)

theorem not_begins_nil {p : Template Unit} (h : p ≠ []) :
  ¬ Begins p ([] : Template α)
  := fun hp => h (List.prefix_nil.mp hp)

/-! ### Ways of writing that can be decoded -/

/-- What is written can be told from what stands behind it, if that begins with none of the
patterns. -/
def Decodes {F : Type} (write : F → Template α) (P : F → Prop)
    (patterns : List (Template Unit)) : Prop :=
  ∀ x y, P x → P y → ∀ t u, Stops patterns t → Stops patterns u →
    write x ++ t = write y ++ u → x = y ∧ t = u

variable {F : Type} {write : F → Template α} {P : F → Prop} {patterns : List (Template Unit)}

/-- Without patterns, anything may stand behind what is written. -/
theorem Decodes.cancel (h : Decodes write P []) {x y : F} (hx : P x) (hy : P y)
    {t u : Template α} (heq : write x ++ t = write y ++ u) :
  x = y ∧ t = u
  := h x y hx hy t u (List.forall_mem_nil _) (List.forall_mem_nil _) heq

/-- Words of which none is a prefix of another. -/
theorem decodes_words {T : Type} {keyword : T → String} {P : T → Prop}
    (h : ∀ x y, P x → P y →
      (word (keyword x) : Template Unit) <+: word (keyword y) → x = y) :
  Decodes (α := α) (fun x => word (keyword x)) P []
  := by
  intro x y hPx hPy t u _ _ heq
  have hx := begins_word (keyword x) t
  have hy := begins_word (keyword y) u
  rw [heq] at hx
  obtain rfl : x = y := by
    rcases List.prefix_or_prefix_of_prefix hx hy with hxy | hyx
    · exact h x y hPx hPy hxy
    · exact (h y x hPy hPx hyx).symm
  use rfl
  exact List.append_cancel_left heq

theorem begins_ref (a : α) (t : Template α) :
  Begins (ref ()) (ref a ++ t)
  := ⟨t.shape, rfl⟩

theorem decodes_ref :
  Decodes (α := α) ref (fun _ => True) []
  := by
  intro a b _ _ t u _ _ heq
  obtain ⟨hab, htu⟩ := List.cons.inj heq
  use Symbol.slot.inj hab, htu

/-! ### Numbers -/

/-- The digits, each as a pattern. -/
def digitPatterns : List (Template Unit) :=
  ['0', '1', '2', '3', '4', '5', '6', '7', '8', '9'].map fun c => [.char c]

theorem mem_digits_of_isDigit {c : Char} (h : c.isDigit = true) :
  c ∈ ['0', '1', '2', '3', '4', '5', '6', '7', '8', '9']
  := by
  obtain ⟨hlower, hupper⟩ : 48 ≤ c.toNat ∧ c.toNat ≤ 57 := by
    simpa [Char.isDigit, UInt32.le_iff_toNat_le] using h
  rw [← Char.ofNat_toNat c]
  interval_cases c.toNat <;> decide

theorem not_isDigit_of_stops {c : Char} {t : Template α} (h : Stops digitPatterns (.char c :: t)) :
  c.isDigit = false
  := by
  rw [← Bool.not_eq_true]
  intro hdigit
  apply h [.char c]
  · apply List.mem_map_of_mem (mem_digits_of_isDigit hdigit)
  · exact ⟨t.shape, rfl⟩

theorem ofChars_append_inj {ds es : List Char} (hds : ∀ c ∈ ds, c.isDigit = true)
    (hes : ∀ c ∈ es, c.isDigit = true) {t u : Template α} (ht : Stops digitPatterns t)
    (hu : Stops digitPatterns u) (h : ofChars ds ++ t = ofChars es ++ u) :
  ds = es ∧ t = u
  := by
  induction ds generalizing es with
  | nil =>
    cases es with
    | nil => exact ⟨rfl, h⟩
    | cons e es =>
      have hbegins : t = .char e :: (ofChars es ++ u) := h
      rw [hbegins] at ht
      have hdigit := not_isDigit_of_stops ht
      rw [hes e List.mem_cons_self] at hdigit
      exact absurd hdigit.symm Bool.false_ne_true
  | cons d ds ih =>
    cases es with
    | nil =>
      have hbegins : .char d :: (ofChars ds ++ t) = u := h
      rw [← hbegins] at hu
      have hdigit := not_isDigit_of_stops hu
      rw [hds d List.mem_cons_self] at hdigit
      exact absurd hdigit.symm Bool.false_ne_true
    | cons e es =>
      obtain ⟨hde, hrest⟩ := List.cons.inj h
      obtain rfl := Symbol.char.inj hde
      obtain ⟨rfl, htu⟩ := ih (fun c hc => hds c (List.mem_cons_of_mem d hc))
        (fun c hc => hes c (List.mem_cons_of_mem d hc)) hrest
      exact ⟨rfl, htu⟩

theorem toDigits_inj {m n : Nat} (h : Nat.toDigits 10 m = Nat.toDigits 10 n) :
  m = n
  := by
  have hvalue := congrArg (fun digits => Numeral.value ⟨digits⟩) h
  have hm : Numeral.value ⟨Nat.toDigits 10 m⟩ = m := Numeral.value_ofId m
  have hn : Numeral.value ⟨Nat.toDigits 10 n⟩ = n := Numeral.value_ofId n
  rwa [hm, hn] at hvalue

theorem ofChars_toDigits_ne {n : Nat} {t u : Template α} :
  ofChars (Nat.toDigits 10 n) ++ t ≠ .char '-' :: u
  := by
  have hdigits := isDigit_of_mem_toDigits n
  intro h
  cases hn : Nat.toDigits 10 n with
  | nil => exact Nat.toDigits_ne_nil hn
  | cons c cs =>
    rw [hn] at h hdigits
    have hc := hdigits c List.mem_cons_self
    rw [Symbol.char.inj (List.cons.inj h).1] at hc
    contradiction

theorem decodes_number :
  Decodes (α := α) (fun n : Int => word (toString n)) (fun _ => True) digitPatterns
  := by
  intro m n _ _ t u ht hu h
  simp only [word, Scan.toList_toString_int] at h
  by_cases hm : m < 0
  · by_cases hn : n < 0
    · rw [if_pos hm, if_pos hn] at h
      obtain ⟨habs, htu⟩ := ofChars_append_inj (isDigit_of_mem_toDigits _)
        (isDigit_of_mem_toDigits _) ht hu (List.cons.inj h).2
      have := toDigits_inj habs
      refine ⟨?_, htu⟩
      omega
    · rw [if_pos hm, if_neg hn] at h
      exact absurd h.symm ofChars_toDigits_ne
  · by_cases hn : n < 0
    · rw [if_neg hm, if_pos hn] at h
      exact absurd h ofChars_toDigits_ne
    · rw [if_neg hm, if_neg hn] at h
      obtain ⟨habs, htu⟩ := ofChars_append_inj (isDigit_of_mem_toDigits _)
        (isDigit_of_mem_toDigits _) ht hu h
      have := toDigits_inj habs
      refine ⟨?_, htu⟩
      omega

/-! ### Lists -/

/-- Forms, each behind a separator. -/
def behindEach (separator : String) (write : F → Template α) (xs : List F) : Template α :=
  xs.flatMap fun x => word separator ++ write x

theorem behindEach_cons_append (separator : String) (write : F → Template α) (x : F)
    (xs : List F) (t : Template α) :
  behindEach separator write (x :: xs) ++ t
    = word separator ++ (write x ++ (behindEach separator write xs ++ t))
  := by
  rw [behindEach, List.flatMap_cons, List.append_assoc, List.append_assoc]
  rfl

theorem joined_map_cons (separator : String) (write : F → Template α) (x : F) (xs : List F) :
  joined separator ((x :: xs).map write) = write x ++ behindEach separator write xs
  := by
  induction xs generalizing x with
  | nil => exact (List.append_nil (write x)).symm
  | cons next xs ih =>
    have hjoined : joined separator ((x :: next :: xs).map write)
        = write x ++ word separator ++ joined separator ((next :: xs).map write) := rfl
    have hcons := behindEach_cons_append separator write next xs []
    rw [List.append_nil, List.append_nil] at hcons
    rw [hjoined, ih next, hcons, List.append_assoc]

theorem behindEach_append (separator : String) (write : F → Template α) (xs ys : List F) :
  behindEach separator write (xs ++ ys)
    = behindEach separator write xs ++ behindEach separator write ys
  := List.flatMap_append

theorem mapSlots_behindEach (f : α → β) (separator : String) (write : F → Template α)
    (xs : List F) :
  mapSlots f (behindEach separator write xs)
    = behindEach separator (fun x => mapSlots f (write x)) xs
  := by
  rw [behindEach, mapSlots_flatMap]
  simp only [mapSlots_append, mapSlots_word]
  rfl

/-- Parts with blanks between them: all but the first stand behind one. -/
theorem spaced_cons (part : Template α) (parts : List (Template α)) :
  spaced (part :: parts) = part ++ behindEach " " id parts
  := by
  have hjoined := joined_map_cons " " id part parts
  rw [List.map_id] at hjoined
  exact hjoined

/-- The parts that there are, each behind a blank. -/
theorem behindEach_filterMap (part : F → Option (Template α)) (xs : List F) :
  behindEach " " id (xs.filterMap part)
    = xs.flatMap fun x => ((part x).map (word " " ++ ·)).getD []
  := by
  induction xs with
  | nil => rfl
  | cons x xs ih =>
    rw [List.flatMap_cons, ← ih]
    cases h : part x with
    | none =>
      rw [List.filterMap_cons_none h]
      rfl
    | some t =>
      rw [List.filterMap_cons_some h]
      rfl

/-- Every form begins with one of the patterns. -/
def Leads (write : F → Template α) (P : F → Prop) (leads : List (Template Unit)) : Prop :=
  ∀ x t, P x → ∃ lead ∈ leads, Begins lead (write x ++ t)

/-- The patterns behind a separator. -/
def behind (separator : String) (patterns : List (Template Unit)) : List (Template Unit) :=
  patterns.map (word separator ++ ·)

theorem begins_behind_iff {separator : String} {p : Template Unit} {t : Template α} :
  Begins (word separator ++ p) (word separator ++ t) ↔ Begins p t
  := by
  have hshape : (word separator : Template α).shape = word separator :=
    shape_ofChars separator.toList
  rw [Begins, shape_append, hshape]
  apply List.prefix_append_right_inj

variable {leads : List (Template Unit)} {separator : String}

theorem Leads.behindEach (h : Leads write P leads) {x : F} {xs : List F} (hx : P x)
    (t : Template α) :
  ∃ fence ∈ behind separator leads, Begins fence (behindEach separator write (x :: xs) ++ t)
  := by
  obtain ⟨lead, hlead, hbegins⟩ := h x (Template.behindEach separator write xs ++ t) hx
  use word separator ++ lead, List.mem_map_of_mem hlead
  rw [behindEach_cons_append]
  exact begins_behind_iff.mpr hbegins

/-- Forms behind separators can be decoded in front of what does not begin like one more of
them, if a form can be in front of another. -/
theorem Decodes.behindEach (h : Decodes write P patterns) (separator : String)
    (hleads : Leads write P leads)
    (hclash : ∀ fence ∈ behind separator leads, ∀ p ∈ patterns, Clash fence p) :
  Decodes (behindEach separator write) (∀ x ∈ ·, P x) (behind separator leads ++ patterns)
  := by
  have hstops : ∀ (xs : List F) (t : Template α), (∀ x ∈ xs, P x) →
      Stops (behind separator leads ++ patterns) t →
      Stops patterns (Template.behindEach separator write xs ++ t) := by
    intro xs t hxs ht
    cases xs with
    | nil => exact fun p hp => ht p (List.mem_append_right _ hp)
    | cons x xs =>
      obtain ⟨fence, hfence, hmore⟩ := hleads.behindEach (hxs x List.mem_cons_self) t
      exact fun p hp => (hclash fence hfence p hp).not_begins hmore
  intro xs ys hxs hys t u ht hu heq
  -- The shorter list would leave the start of one more form in front of `t` or `u`.
  induction xs generalizing ys with
  | nil =>
    cases ys with
    | nil => exact ⟨rfl, heq⟩
    | cons y ys =>
      obtain ⟨fence, hfence, hmore⟩ := hleads.behindEach (hys y List.mem_cons_self) u
      rw [← heq] at hmore
      exact absurd hmore (ht fence (List.mem_append_left _ hfence))
  | cons x xs ih =>
    cases ys with
    | nil =>
      obtain ⟨fence, hfence, hmore⟩ := hleads.behindEach (hxs x List.mem_cons_self) t
      rw [heq] at hmore
      exact absurd hmore (hu fence (List.mem_append_left _ hfence))
    | cons y ys =>
      rw [List.forall_mem_cons] at hxs hys
      rw [behindEach_cons_append, behindEach_cons_append] at heq
      obtain ⟨rfl, hrest⟩ := h x y hxs.1 hys.1 _ _ (hstops xs t hxs.2 ht)
        (hstops ys u hys.2 hu) (List.append_cancel_left heq)
      obtain ⟨rfl, htu⟩ := ih ys hxs.2 hys.2 hrest
      exact ⟨rfl, htu⟩

/-- A list of at least one form. -/
theorem Decodes.listed (h : Decodes write P patterns)
    (hclash : ∀ p ∈ patterns, Clash (word ", ") p) :
  Decodes (fun xs : List F => listed (xs.map write)) (fun xs => xs ≠ [] ∧ ∀ x ∈ xs, P x)
    (word ", " :: patterns)
  := by
  have hleads : Leads write P [[]] := fun x t _ => ⟨[], List.mem_singleton_self _, List.nil_prefix⟩
  have hcomma : ∀ fence ∈ behind ", " [[]], ∀ p ∈ patterns, Clash fence p := by
    intro fence hfence
    obtain rfl := List.mem_singleton.mp hfence
    exact hclash
  have hall : Decodes (Template.behindEach ", " write) (∀ x ∈ ·, P x) (word ", " :: patterns) :=
    h.behindEach ", " hleads hcomma
  have hlisted : ∀ xs : List F, xs ≠ [] → ∀ t : Template α,
      Template.behindEach ", " write xs ++ t
        = word ", " ++ (Template.listed (xs.map write) ++ t) := by
    intro xs hne t
    cases xs with
    | nil => contradiction
    | cons x xs =>
      rw [behindEach_cons_append, Template.listed, joined_map_cons, List.append_assoc]
  rintro xs ys ⟨hxne, hxs⟩ ⟨hyne, hys⟩ t u ht hu heq
  apply hall xs ys hxs hys t u ht hu
  rw [hlisted xs hxne, hlisted ys hyne]
  exact congrArg (word ", " ++ ·) heq

/-- A list in brackets, which may be empty, ends at the closing bracket. -/
theorem Decodes.enclosed (h : Decodes write P patterns) (hleads : Leads write P leads)
    (hcomma : ∀ p ∈ patterns, Clash (word ", ") p)
    (hclose : ∀ p ∈ leads ++ patterns, Clash (word ")") p) :
  Decodes (fun xs : List F => enclosed (Template.listed (xs.map write))) (∀ x ∈ ·, P x) []
  := by
  rw [List.forall_mem_append] at hclose
  have hends : ∀ t : Template α, Stops (word ", " :: patterns) (word ")" ++ t) := by
    intro t
    rw [Stops, List.forall_mem_cons]
    use Clash.not_begins (by decide) (begins_word ")" t)
    exact fun p hp => (hclose.2 p hp).not_begins (begins_word ")" t)
  have hempty : ∀ x xs (t u : Template α), P x →
      Template.listed ((x :: xs).map write) ++ (word ")" ++ t) ≠ word ")" ++ u := by
    intro x xs t u hx heq
    rw [Template.listed, joined_map_cons, List.append_assoc] at heq
    obtain ⟨lead, hlead, hbegins⟩ := hleads x _ hx
    rw [heq] at hbegins
    exact (hclose.1 lead hlead).not_begins (begins_word ")" u) hbegins
  intro xs ys hxs hys t u _ _ heq
  simp only [Template.enclosed, List.append_assoc] at heq
  have hinner := List.append_cancel_left heq
  cases xs with
  | nil =>
    cases ys with
    | nil => exact ⟨rfl, List.append_cancel_left hinner⟩
    | cons y ys => exact absurd hinner.symm (hempty y ys u t (hys y List.mem_cons_self))
  | cons x xs =>
    cases ys with
    | nil => exact absurd hinner (hempty x xs t u (hxs x List.mem_cons_self))
    | cons y ys =>
      obtain ⟨heqs, hrest⟩ := h.listed hcomma _ _ ⟨List.cons_ne_nil x xs, hxs⟩
        ⟨List.cons_ne_nil y ys, hys⟩ _ _ (hends t) (hends u) hinner
      exact ⟨heqs, List.append_cancel_left hrest⟩

/-! ### Putting ways of writing together -/

theorem Decodes.mono (h : Decodes write P patterns) {P' : F → Prop}
    {patterns' : List (Template Unit)} (hP : ∀ x, P' x → P x) (hsubset : patterns ⊆ patterns') :
  Decodes write P' patterns'
  := by
  intro x y hx hy t u ht hu
  apply h x y (hP x hx) (hP y hy) t u (ht.mono hsubset) (hu.mono hsubset)

/-- What determines a form can be written in its place. -/
theorem Decodes.comap (h : Decodes write P patterns) {G : Type} {f : G → F}
    (hf : Function.Injective f) :
  Decodes (fun x => write (f x)) (fun x => P (f x)) patterns
  := by
  intro x y hx hy t u ht hu heq
  obtain ⟨hxy, htu⟩ := h (f x) (f y) hx hy t u ht hu heq
  use hf hxy, htu

theorem toList_injective :
  Function.Injective (Option.toList (α := F))
  := by
  rintro (_ | x) (_ | y) h
  · rfl
  · contradiction
  · contradiction
  · rw [(List.cons.inj h).1]

/-- A form that may be left out. -/
theorem Decodes.optional (h : Decodes write (fun _ => True) [])
    (hleads : Leads write (fun _ => True) leads) :
  Decodes (fun x => Template.behindEach " " write (Option.toList x)) (fun _ => True)
    (behind " " leads)
  := by
  have hlist := h.behindEach " " hleads fun _ _ => List.forall_mem_nil _
  rw [List.append_nil] at hlist
  apply (hlist.comap toList_injective).mono
  · exact fun _ _ _ _ => trivial
  · exact List.Subset.refl _

/-- A keyword in front does not matter. -/
theorem Decodes.spaced_word (h : Decodes write P patterns) (keyword : String) :
  Decodes (fun x => spaced [word keyword, write x]) P patterns
  := by
  intro x y hx hy t u ht hu heq
  apply h x y hx hy t u ht hu
  simp only [spaced, joined, List.append_assoc] at heq
  exact List.append_cancel_left (List.append_cancel_left heq)

/-- Nothing, or a list of forms behind a blank. -/
def behindBlank (write : List F → Template α) : List F → Template α
  | [] => []
  | x :: xs => word " " ++ write (x :: xs)

theorem Leads.behindBlank {write : List F → Template α}
    (hleads : Leads write (fun xs => xs ≠ [] ∧ ∀ x ∈ xs, P x) leads) {x : F} {xs : List F}
    (h : ∀ y ∈ x :: xs, P y) (t : Template α) :
  ∃ fence ∈ behind " " leads, Begins fence (behindBlank write (x :: xs) ++ t)
  := by
  obtain ⟨lead, hlead, hbegins⟩ := hleads (x :: xs) t ⟨List.cons_ne_nil x xs, h⟩
  use word " " ++ lead, List.mem_map_of_mem hlead
  rw [Template.behindBlank, List.append_assoc]
  exact begins_behind_iff.mpr hbegins

/-- A list that may be left out when it is empty. -/
theorem Decodes.behindBlank {write : List F → Template α}
    (h : Decodes write (fun xs => xs ≠ [] ∧ ∀ x ∈ xs, P x) patterns)
    (hleads : Leads write (fun xs => xs ≠ [] ∧ ∀ x ∈ xs, P x) leads) :
  Decodes (behindBlank write) (∀ x ∈ ·, P x) (behind " " leads ++ patterns)
  := by
  intro xs ys hxs hys t u ht hu heq
  cases xs with
  | nil =>
    cases ys with
    | nil => exact ⟨rfl, heq⟩
    | cons y ys =>
      obtain ⟨fence, hfence, hmore⟩ := hleads.behindBlank hys u
      rw [← heq] at hmore
      exact absurd hmore (ht fence (List.mem_append_left _ hfence))
  | cons x xs =>
    cases ys with
    | nil =>
      obtain ⟨fence, hfence, hmore⟩ := hleads.behindBlank hxs t
      rw [heq] at hmore
      exact absurd hmore (hu fence (List.mem_append_left _ hfence))
    | cons y ys =>
      rw [Template.behindBlank, Template.behindBlank, List.append_assoc, List.append_assoc] at heq
      apply h _ _ ⟨List.cons_ne_nil x xs, hxs⟩ ⟨List.cons_ne_nil y ys, hys⟩ t u
        (ht.mono (List.subset_append_right _ _)) (hu.mono (List.subset_append_right _ _))
      exact List.append_cancel_left heq

/-! ### Parts in order -/

section Parts

variable {ι : Type} {F : ι → Type} {write : (i : ι) → F i → Template α}
  {P : (i : ι) → F i → Prop} {fences continuations : ι → List (Template Unit)} {order : List ι}

/-- What begins with a fence of one of the parts, or is empty, stops patterns with which no fence
goes together. -/
theorem stops_flatMap {patterns : List (Template Unit)} {x : (i : ι) → F i}
    (hfences : ∀ i t, write i (x i) = [] ∨ ∃ fence ∈ fences i, Begins fence (write i (x i) ++ t))
    (hclash : ∀ i ∈ order, ∀ p ∈ patterns, ∀ fence ∈ fences i, Clash p fence)
    (hpatterns : [] ∉ patterns) :
  Stops patterns (order.flatMap fun i => write i (x i))
  := by
  induction order with
  | nil => exact fun p hp => not_begins_nil fun hnil => hpatterns (hnil ▸ hp)
  | cons i order ih =>
    rw [List.forall_mem_cons] at hclash
    rw [List.flatMap_cons]
    rcases hfences i (order.flatMap fun i => write i (x i)) with hnothing | ⟨fence, hfence, hbegins⟩
    · rw [hnothing, List.nil_append]
      apply ih hclash.2
    · exact fun p hp hother => (hclash.1 p hp fence hfence).not_begins hother hbegins

/-- Parts that are written in order can be told from the whole, when no part can be taken for
what may go on behind one before it, nor for that one itself. -/
theorem eq_of_flatMap_eq (hdecodes : ∀ i, Decodes (write i) (P i) (fences i ++ continuations i))
    (hfences : ∀ i c t, P i c → write i c = [] ∨ ∃ fence ∈ fences i, Begins fence (write i c ++ t))
    (horder : order.Pairwise fun i j =>
      ∀ p ∈ fences i ++ continuations i, ∀ fence ∈ fences j, Clash p fence)
    (hnonempty : ∀ i ∈ order, [] ∉ fences i ++ continuations i) {x y : (i : ι) → F i}
    (hx : ∀ i, P i (x i)) (hy : ∀ i, P i (y i))
    (h : (order.flatMap fun i => write i (x i)) = order.flatMap fun i => write i (y i)) :
  ∀ i ∈ order, x i = y i
  := by
  induction order with
  | nil => exact List.forall_mem_nil _
  | cons i order ih =>
    rw [List.pairwise_cons] at horder
    rw [List.forall_mem_cons] at hnonempty
    -- What the later parts write, much or nothing, does not look like more of the first one.
    have hstops : ∀ z : (i : ι) → F i, (∀ i, P i (z i)) →
        Stops (fences i ++ continuations i) (order.flatMap fun j => write j (z j)) :=
      fun z hz => stops_flatMap (fun j t => hfences j (z j) t (hz j)) horder.1 hnonempty.1
    rw [List.flatMap_cons, List.flatMap_cons] at h
    obtain ⟨hi, hrest⟩ :=
      hdecodes i (x i) (y i) (hx i) (hy i) _ _ (hstops x hx) (hstops y hy) h
    rw [List.forall_mem_cons]
    use hi
    apply ih horder.2 hnonempty.2 hrest

end Parts

end Template

end BoundSql
