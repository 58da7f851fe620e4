import Mathlib.Data.List.Basic

/-!
# Entries with keys

A key is a row of numbers, and keys are in lexicographic order.  Numbering the items of
a row and listing what each item contributes puts the number of the item in front of
every key it contributes.  Such a list ascends as soon as each contribution does.
-/

namespace ParamRules

/-- The place of an entry: one number for each level of nesting. -/
abbrev Key := List Nat

/-- Entries in the order of their keys, no two of them with the same key. -/
def Ascending {α : Type} (entries : List (Key × α)) : Prop :=
  entries.Pairwise fun a b => List.Lex (· < ·) a.1 b.1

/-- The first entry is the one with the least key. -/
theorem Ascending.head?_eq_some_iff
    {α : Type} {entries : List (Key × α)} (h : Ascending entries) {x : α} :
    (entries.map Prod.snd).head? = some x ↔
      ∃ key, (key, x) ∈ entries ∧
        ∀ other y, (other, y) ∈ entries → other = key ∨ List.Lex (· < ·) key other := by
  cases entries with
  | nil => simp
  | cons first rest =>
      obtain ⟨least, y⟩ := first
      have hleast := (List.pairwise_cons.mp h).1
      rw [List.map_cons, List.head?_cons, Option.some.injEq]
      constructor
      · rintro rfl
        refine ⟨least, List.mem_cons_self, ?_⟩
        intro other z hother
        rcases List.mem_cons.mp hother with heq | hrest
        · exact .inl (Prod.mk.inj heq).1
        · exact .inr (hleast _ hrest)
      · rintro ⟨key, hmem, hmin⟩
        rcases List.mem_cons.mp hmem with heq | hrest
        · exact (Prod.mk.inj heq).2.symm
        · have hlt : List.Lex (· < ·) least key := hleast _ hrest
          rcases hmin least y List.mem_cons_self with rfl | hgt
          · exact (List.lt_irrefl _ hlt).elim
          · exact (List.lt_asymm hlt hgt).elim

/-- Entries with one key are one entry at most. -/
theorem Ascending.length_le_one
    {α : Type} {entries : List (Key × α)} (h : Ascending entries)
    (hkeys : ∀ a ∈ entries, ∀ b ∈ entries, a.1 = b.1) : entries.length ≤ 1 := by
  cases entries with
  | nil => exact Nat.zero_le _
  | cons first rest =>
      cases rest with
      | nil => exact Nat.le_refl _
      | cons second rest =>
          have hlt : List.Lex (· < ·) first.1 second.1 :=
            (List.pairwise_cons.mp h).1 second List.mem_cons_self
          have hkey : first.1 = second.1 :=
            hkeys first List.mem_cons_self second
              (List.mem_cons_of_mem first List.mem_cons_self)
          rw [hkey] at hlt
          exact (List.lt_irrefl _ hlt).elim

/-- The entries one level further down, below the number `n`. -/
def below {α : Type} (n : Nat) (entries : List (Key × α)) : List (Key × α) :=
  entries.map fun (key, x) => (n :: key, x)

/-- What each item of a row contributes, below the number of the item. -/
def numbered {α β : Type} (contribution : α → Nat → List (Key × β))
    (items : List α) : List (Key × β) :=
  items.zipIdx.flatMap fun (item, i) => below i (contribution item i)

section Below

variable {α : Type} {n : Nat} {entries : List (Key × α)}

theorem map_snd_below : (below n entries).map Prod.snd = entries.map Prod.snd := by
  rw [below, List.map_map]
  rfl

theorem mem_below_iff {key : Key} {x : α} :
    (key, x) ∈ below n entries ↔ ∃ rest, key = n :: rest ∧ (rest, x) ∈ entries := by
  simp only [below, List.mem_map, Prod.exists, Prod.mk.injEq]
  constructor
  · rintro ⟨rest, _, hmem, rfl, rfl⟩
    exact ⟨rest, rfl, hmem⟩
  · rintro ⟨rest, rfl, hmem⟩
    exact ⟨rest, x, hmem, rfl, rfl⟩

theorem ascending_below (h : Ascending entries) : Ascending (below n entries) := by
  rw [Ascending, below, List.pairwise_map]
  exact h.imp fun hlt => List.Lex.cons hlt

/-- What is below a smaller number comes first. -/
theorem lex_of_mem_below
    {m : Nat} {others : List (Key × α)} (hnm : n < m) {a b : Key × α}
    (ha : a ∈ below n entries) (hb : b ∈ below m others) :
    List.Lex (· < ·) a.1 b.1 := by
  obtain ⟨_, hkey, -⟩ := mem_below_iff.mp ha
  obtain ⟨_, hkey', -⟩ := mem_below_iff.mp hb
  rw [hkey, hkey']
  exact List.Lex.rel hnm

theorem ascending_append_below
    {m : Nat} {others : List (Key × α)} (hnm : n < m)
    (h : Ascending entries) (h' : Ascending others) :
    Ascending (below n entries ++ below m others) := by
  rw [Ascending, List.pairwise_append]
  refine ⟨ascending_below h, ascending_below h', ?_⟩
  intro a ha b hb
  exact lex_of_mem_below hnm ha hb

end Below

section Numbered

variable {α β : Type} {contribution : α → Nat → List (Key × β)} {items : List α}

theorem map_snd_numbered :
    (numbered contribution items).map Prod.snd =
      items.zipIdx.flatMap fun (item, i) => (contribution item i).map Prod.snd := by
  rw [numbered, List.map_flatMap]
  exact List.flatMap_congr fun _ _ => map_snd_below

/-- Without the keys, contributions that do not depend on the number are a plain
`flatMap`. -/
theorem map_snd_numbered_const (f : α → List (Key × β)) (items : List α) :
    (numbered (fun item _ => f item) items).map Prod.snd =
      items.flatMap fun item => (f item).map Prod.snd := by
  rw [map_snd_numbered]
  calc
    items.zipIdx.flatMap (fun p => (f p.1).map Prod.snd) =
        (items.zipIdx.map Prod.fst).flatMap fun item => (f item).map Prod.snd :=
      (List.flatMap_map Prod.fst (fun item => (f item).map Prod.snd) items.zipIdx).symm
    _ = items.flatMap fun item => (f item).map Prod.snd := by
      rw [List.zipIdx_map_fst]

theorem mem_numbered_iff {key : Key} {x : β} :
    (key, x) ∈ numbered contribution items ↔
      ∃ i item rest, key = i :: rest ∧ items[i]? = some item ∧
        (rest, x) ∈ contribution item i := by
  simp only [numbered, List.mem_flatMap, Prod.exists, List.mem_zipIdx_iff_getElem?,
    mem_below_iff]
  constructor
  · rintro ⟨item, i, hitem, rest, rfl, hmem⟩
    exact ⟨i, item, rest, rfl, hitem, hmem⟩
  · rintro ⟨i, item, rest, rfl, hitem, hmem⟩
    exact ⟨item, i, hitem, rest, rfl, hmem⟩

theorem pairwise_zipIdx_snd (items : List α) :
    items.zipIdx.Pairwise fun a b => a.2 < b.2 := by
  have hindices : (items.zipIdx.map Prod.snd).Pairwise (· < ·) := by
    rw [List.zipIdx_map_snd]
    exact List.pairwise_lt_range'
  exact List.pairwise_map.mp hindices

theorem ascending_numbered (h : ∀ item ∈ items, ∀ i, Ascending (contribution item i)) :
    Ascending (numbered contribution items) := by
  rw [Ascending, numbered, List.pairwise_flatMap]
  constructor
  · rintro ⟨item, i⟩ hmem
    exact ascending_below (h item (List.fst_mem_of_mem_zipIdx hmem) i)
  · refine (pairwise_zipIdx_snd items).imp ?_
    intro a b hlt x hx y hy
    exact lex_of_mem_below hlt hx hy

end Numbered

end ParamRules
