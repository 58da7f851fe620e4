import Mathlib.Data.List.Basic
import ParamRules.Number.Decimal
import ParamRules.Report.Location

/-!
# The text of locations

Keys enter the text of a location as they are.  So the text need not determine the steps: a
key may itself contain a dot or a bracket.  It does determine them if keys are not empty and
contain neither a dot nor an opening bracket, whatever else they are made of.
-/

namespace ParamRules

/-- A name that is not empty and contains neither of the marks that begin a step. -/
structure IsPlainName (name : String) : Prop where
  ne_empty : name ≠ ""
  dot_notMem : '.' ∉ name.toList
  bracket_notMem : '[' ∉ name.toList

instance (name : String) : Decidable (IsPlainName name) :=
  decidable_of_iff (name ≠ "" ∧ '.' ∉ name.toList ∧ '[' ∉ name.toList)
    ⟨fun ⟨h, hdot, hbracket⟩ => ⟨h, hdot, hbracket⟩,
      fun ⟨h, hdot, hbracket⟩ => ⟨h, hdot, hbracket⟩⟩

/-- Two texts that end where the characters with a property end are the same if they are
so with what follows them. -/
theorem append_inj_of_head?
    {α : Type} {p : α → Prop} {xs ys rest rest' : List α}
    (hxs : ∀ c ∈ xs, p c) (hys : ∀ c ∈ ys, p c)
    (hrest : ∀ c ∈ rest.head?, ¬p c) (hrest' : ∀ c ∈ rest'.head?, ¬p c)
    (h : xs ++ rest = ys ++ rest') : xs = ys ∧ rest = rest' := by
  induction xs generalizing ys with
  | nil =>
      cases ys with
      | nil => exact ⟨rfl, h⟩
      | cons y ys =>
          have hhead : y ∈ rest.head? := by
            have hcons : rest = y :: (ys ++ rest') := h
            simp [hcons]
          exact absurd (hys y List.mem_cons_self) (hrest y hhead)
  | cons x xs ih =>
      cases ys with
      | nil =>
          have hhead : x ∈ rest'.head? := by
            have hcons : x :: (xs ++ rest) = rest' := h
            simp [← hcons]
          exact absurd (hxs x List.mem_cons_self) (hrest' x hhead)
      | cons y ys =>
          obtain ⟨rfl, htail⟩ := List.cons.inj h
          have hxs' : ∀ c ∈ xs, p c := fun c hc => hxs c (List.mem_cons_of_mem _ hc)
          have hys' : ∀ c ∈ ys, p c := fun c hc => hys c (List.mem_cons_of_mem _ hc)
          obtain ⟨rfl, hrests⟩ := ih hxs' hys' htail
          exact ⟨rfl, hrests⟩

/-! ## Steps -/

namespace Step

/-- A step into a field with a plain name, or into a list. -/
def IsPlain : Step → Prop
  | .key name => IsPlainName name
  | .index _ => True

/-- A character that is not a mark at which the text of a step begins. -/
def IsInner (c : Char) : Prop :=
  c ≠ '.' ∧ c ≠ '['

theorem isInner_of_mem {name : String} (hname : IsPlainName name) :
    ∀ c ∈ name.toList, IsInner c := by
  intro c hc
  constructor
  · rintro rfl
    exact hname.dot_notMem hc
  · rintro rfl
    exact hname.bracket_notMem hc

theorem not_isInner_head?_suffix (step : Step) (rest : List Char) :
    ∀ c ∈ (step.suffix ++ rest).head?, ¬IsInner c := by
  intro c hc hinner
  cases step with
  | key name =>
      have hmark : c = '.' := by simpa [suffix, eq_comm] using hc
      exact hinner.1 hmark
  | index i =>
      have hmark : c = '[' := by simpa [suffix, eq_comm] using hc
      exact hinner.2 hmark

theorem not_isInner_head?_flatMap (steps : List Step) :
    ∀ c ∈ (steps.flatMap suffix).head?, ¬IsInner c := by
  cases steps with
  | nil =>
      intro c hc
      cases hc
  | cons step rest =>
      rw [List.flatMap_cons]
      exact step.not_isInner_head?_suffix _

/-- The digits of an index end at the bracket behind them. -/
theorem index_append_inj {i j : Nat} {rest rest' : List Char}
    (h : suffix (.index i) ++ rest = suffix (.index j) ++ rest') :
    i = j ∧ rest = rest' := by
  have hdigits (n : Nat) : ∀ c ∈ Decimal.digitsOf n, c.isDigit = true :=
    fun c hc => Nat.isDigit_of_mem_toDigits (by decide) (by decide) hc
  have hbracket (more : List Char) : ∀ c ∈ (']' :: more).head?, ¬c.isDigit = true := by
    intro c hc
    have hmark : c = ']' := by simpa [eq_comm] using hc
    subst hmark
    decide
  have htail : Decimal.digitsOf i ++ ']' :: rest = Decimal.digitsOf j ++ ']' :: rest' := by
    simpa [suffix, Decimal.digitsOf] using h
  obtain ⟨hij, hrest⟩ := append_inj_of_head? (hdigits i) (hdigits j)
    (hbracket rest) (hbracket rest') htail
  have hvalue : Decimal.digitsValue (Decimal.digitsOf i) =
      Decimal.digitsValue (Decimal.digitsOf j) := congrArg _ hij
  rw [Decimal.digitsValue_digitsOf, Decimal.digitsValue_digitsOf] at hvalue
  exact ⟨hvalue, (List.cons.inj hrest).2⟩

theorem key_append_inj {name name' : String} {rest rest' : List Char}
    (hname : IsPlainName name) (hname' : IsPlainName name')
    (hrest : ∀ c ∈ rest.head?, ¬IsInner c) (hrest' : ∀ c ∈ rest'.head?, ¬IsInner c)
    (h : name.toList ++ rest = name'.toList ++ rest') :
    name = name' ∧ rest = rest' := by
  obtain ⟨hnames, hrests⟩ := append_inj_of_head? (isInner_of_mem hname)
    (isInner_of_mem hname') hrest hrest' h
  exact ⟨String.toList_injective hnames, hrests⟩

/-- A first key does not begin like an index. -/
theorem key_lead_ne_index {name : String} (hname : IsPlainName name) {i : Nat}
    {rest rest' : List Char} : lead (.key name) ++ rest ≠ lead (.index i) ++ rest' := by
  intro h
  cases hchars : name.toList with
  | nil => exact hname.ne_empty (String.toList_eq_nil_iff.mp hchars)
  | cons c cs =>
      have hc : c = '[' := by simpa [lead, suffix, hchars] using congrArg List.head? h
      apply hname.bracket_notMem
      simp [hchars, hc]

section

variable {step other : Step} {rest rest' : List Char}
variable (hstep : step.IsPlain) (hother : other.IsPlain)
variable (hrest : ∀ c ∈ rest.head?, ¬IsInner c) (hrest' : ∀ c ∈ rest'.head?, ¬IsInner c)

include hstep hother hrest hrest'

/-- The text of a first step ends where the next one begins. -/
theorem lead_append_inj (h : step.lead ++ rest = other.lead ++ rest') :
    step = other ∧ rest = rest' := by
  cases step with
  | key name =>
      cases other with
      | key name' =>
          obtain ⟨rfl, hrests⟩ := key_append_inj hstep hother hrest hrest' h
          exact ⟨rfl, hrests⟩
      | index j => exact absurd h (key_lead_ne_index hstep)
  | index i =>
      cases other with
      | key name' => exact absurd h.symm (key_lead_ne_index hother)
      | index j =>
          obtain ⟨rfl, hrests⟩ := index_append_inj h
          exact ⟨rfl, hrests⟩

/-- So does the text of a later step. -/
theorem suffix_append_inj (h : step.suffix ++ rest = other.suffix ++ rest') :
    step = other ∧ rest = rest' := by
  have hlead : step.lead ++ rest = other.lead ++ rest' := by
    cases step with
    | key name =>
        cases other with
        | key name' => exact (List.cons.inj h).2
        | index j => simp [suffix] at h
    | index i =>
        cases other with
        | key name' => simp [suffix] at h
        | index j => exact h
  exact lead_append_inj hstep hother hrest hrest' hlead

end

theorem suffix_ne_nil (step : Step) : step.suffix ≠ [] := by
  cases step <;> simp [suffix]

/-- The text of later steps determines these steps. -/
theorem eq_of_flatMap_suffix_eq
    {steps others : List Step}
    (hsteps : ∀ step ∈ steps, step.IsPlain) (hothers : ∀ step ∈ others, step.IsPlain)
    (h : steps.flatMap suffix = others.flatMap suffix) : steps = others := by
  induction steps generalizing others with
  | nil =>
      cases others with
      | nil => rfl
      | cons other others =>
          exact absurd (List.append_eq_nil_iff.mp h.symm).1 other.suffix_ne_nil
  | cons step steps ih =>
      cases others with
      | nil => exact absurd (List.append_eq_nil_iff.mp h).1 step.suffix_ne_nil
      | cons other others =>
          obtain ⟨hstep, hlater⟩ := List.forall_mem_cons.mp hsteps
          obtain ⟨hother, hlater'⟩ := List.forall_mem_cons.mp hothers
          rw [List.flatMap_cons, List.flatMap_cons] at h
          obtain ⟨rfl, hrest⟩ := suffix_append_inj hstep hother
            (not_isInner_head?_flatMap steps) (not_isInner_head?_flatMap others) h
          rw [ih hlater hlater' hrest]

end Step

/-! ## Locations -/

namespace Location

/-- Every key is plain. -/
def IsPlain (location : Location) : Prop :=
  ∀ step ∈ location.steps, step.IsPlain

theorem IsPlain.key {location : Location} (h : location.IsPlain) {name : String}
    (hname : IsPlainName name) : (location.key name).IsPlain := by
  intro step hstep
  rcases List.mem_append.mp hstep with hbefore | hlast
  · exact h step hbefore
  · rw [List.mem_singleton.mp hlast]
    exact hname

theorem IsPlain.index {location : Location} (h : location.IsPlain) (i : Nat) :
    (location.index i).IsPlain := by
  intro step hstep
  rcases List.mem_append.mp hstep with hbefore | hlast
  · exact h step hbefore
  · rw [List.mem_singleton.mp hlast]
    trivial

theorem lead_ne_nil {step : Step} (hstep : step.IsPlain) : step.lead ≠ [] := by
  cases step with
  | key name =>
      intro hnil
      exact hstep.ne_empty (String.toList_eq_nil_iff.mp hnil)
  | index i => simp [Step.lead, Step.suffix]

/-- The text of a location with plain keys determines its steps. -/
theorem eq_of_text_eq {a b : Location} (ha : a.IsPlain) (hb : b.IsPlain)
    (h : a.text = b.text) : a = b := by
  have hchars : a.chars = b.chars := String.ofList_injective h
  obtain ⟨steps⟩ := a
  obtain ⟨others⟩ := b
  cases steps with
  | nil =>
      cases others with
      | nil => rfl
      | cons other others =>
          have hlead := lead_ne_nil (hb other List.mem_cons_self)
          exact absurd (List.append_eq_nil_iff.mp hchars.symm).1 hlead
  | cons step steps =>
      cases others with
      | nil =>
          have hlead := lead_ne_nil (ha step List.mem_cons_self)
          exact absurd (List.append_eq_nil_iff.mp hchars).1 hlead
      | cons other others =>
          obtain ⟨hstep, hsteps⟩ := List.forall_mem_cons.mp ha
          obtain ⟨hother, hothers⟩ := List.forall_mem_cons.mp hb
          obtain ⟨rfl, hrest⟩ := Step.lead_append_inj hstep hother
            (Step.not_isInner_head?_flatMap steps) (Step.not_isInner_head?_flatMap others)
            hchars
          rw [Step.eq_of_flatMap_suffix_eq hsteps hothers hrest]

theorem key_inj {a b : Location} {name name' : String} :
    a.key name = b.key name' ↔ a = b ∧ name = name' := by
  obtain ⟨steps⟩ := a
  obtain ⟨others⟩ := b
  simp [key]

theorem index_inj {a b : Location} {i j : Nat} : a.index i = b.index j ↔ a = b ∧ i = j := by
  obtain ⟨steps⟩ := a
  obtain ⟨others⟩ := b
  simp [index]

/-- The elements of one list have places of their own. -/
theorem text_index_inj {location : Location} {i j : Nat} :
    (location.index i).text = (location.index j).text ↔ i = j := by
  constructor
  · intro h
    have hchars : (location.index i).chars = (location.index j).chars :=
      String.ofList_injective h
    rw [chars_index, chars_index] at hchars
    have hsuffix : Step.suffix (.index i) ++ [] = Step.suffix (.index j) ++ [] := by
      simpa [Step.suffix] using List.append_cancel_left hchars
    exact (Step.index_append_inj hsuffix).1
  · rintro rfl
    rfl

/-- An element of a list does not have the place of the list. -/
theorem text_index_ne (location : Location) (i : Nat) :
    (location.index i).text ≠ location.text := by
  intro h
  have hchars : (location.index i).chars = location.chars := String.ofList_injective h
  rw [chars_index] at hchars
  simp at hchars

theorem text_index_ne_empty (location : Location) (i : Nat) :
    (location.index i).text ≠ "" := by
  intro h
  have hchars : (location.index i).chars = [] := String.ofList_eq_empty_iff.mp h
  rw [chars_index] at hchars
  simp at hchars

theorem key_ne_index {a b : Location} {name : String} {i : Nat} : a.key name ≠ b.index i := by
  obtain ⟨steps⟩ := a
  obtain ⟨others⟩ := b
  simp [key, index]

end Location

end ParamRules
