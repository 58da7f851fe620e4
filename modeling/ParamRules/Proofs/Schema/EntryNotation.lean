import Mathlib.Data.List.DropRight
import Mathlib.Data.List.Forall2
import ParamRules.Schema.Description

/-!
# How entries write keywords and patterns

A keyword may stand among blanks and in letters of either case, and a pattern between
slashes.  The relations of this module say what such a text stands for.  They do not say how
that is found, but they leave no choice, and it is what the readers find.
-/

namespace ParamRules

/-! ## Keywords -/

namespace Text

/-- A letter from `A` to `Z` becomes the small one, and every other character stays. -/
inductive Lowers : Char → Char → Prop
  | capital {c d : Char} (hleast : 'A' ≤ c) (hgreatest : c ≤ 'Z')
      (hsmall : d.toNat = c.toNat + 32) : Lowers c d
  | other {c : Char} (hother : ¬('A' ≤ c ∧ c ≤ 'Z')) : Lowers c c

/-- A text stands for a word, which it may write among blanks and in letters of either case.
The word itself neither begins nor ends with a blank. -/
inductive Spells : String → String → Prop
  | intro {before core after word : List Char}
      (hbefore : ∀ c ∈ before, isBlank c = true) (hafter : ∀ c ∈ after, isBlank c = true)
      (hfirst : ∀ c ∈ core.head?, isBlank c = false)
      (hlast : ∀ c ∈ core.getLast?, isBlank c = false)
      (hword : List.Forall₂ Lowers core word) :
      Spells (String.ofList (before ++ core ++ after)) (String.ofList word)

theorem toLower_of_not_capital {c : Char} (h : ¬('A' ≤ c ∧ c ≤ 'Z')) : c.toLower = c :=
  dif_neg fun hcapital => h ⟨hcapital.1, hcapital.2⟩

theorem toNat_toLower_of_capital {c : Char} (h : 'A' ≤ c ∧ c ≤ 'Z') :
    c.toLower.toNat = c.toNat + 32 := by
  have hgreatest : c.val.toNat ≤ 90 := h.2
  have hval : c.toLower.val = c.val + 32 := congrArg Char.val (dif_pos ⟨h.1, h.2⟩)
  rw [Char.toNat, Char.toNat, hval, UInt32.toNat_add, Nat.mod_eq_of_lt]
  · rfl
  · change c.val.toNat + 32 < 4294967296
    omega

theorem lowers_iff {c d : Char} : Lowers c d ↔ c.toLower = d := by
  constructor
  · intro h
    cases h with
    | capital hleast hgreatest hsmall =>
        have hlower := toNat_toLower_of_capital ⟨hleast, hgreatest⟩
        exact Char.toNat_inj.mp (hlower.trans hsmall.symm)
    | other hother => exact toLower_of_not_capital hother
  · rintro rfl
    by_cases hcapital : 'A' ≤ c ∧ c ≤ 'Z'
    · exact .capital hcapital.1 hcapital.2 (toNat_toLower_of_capital hcapital)
    · rw [toLower_of_not_capital hcapital]
      exact .other hcapital

theorem forall₂_lowers_iff {core word : List Char} :
    List.Forall₂ Lowers core word ↔ core.map Char.toLower = word := by
  have hlowers : Lowers = fun c d => c.toLower = d := by
    funext c d
    exact propext lowers_iff
  rw [hlowers, ← List.forall₂_map_left_iff, List.forall₂_eq_eq_eq]

theorem skipBlanks_append
    {before rest : List Char} (hbefore : ∀ c ∈ before, isBlank c = true)
    (hfirst : ∀ c ∈ rest.head?, isBlank c = false) :
    skipBlanks (before ++ rest) = rest := by
  rw [skipBlanks, List.dropWhile_append_of_pos hbefore]
  cases rest with
  | nil => rfl
  | cons c rest =>
      have hc : ¬isBlank c = true := Bool.not_eq_true _ ▸ hfirst c rfl
      exact List.dropWhile_cons_of_neg hc

/-- Trimming leaves what is between the blanks. -/
theorem trimList_append
    {before core after : List Char}
    (hbefore : ∀ c ∈ before, isBlank c = true) (hafter : ∀ c ∈ after, isBlank c = true)
    (hfirst : ∀ c ∈ core.head?, isBlank c = false)
    (hlast : ∀ c ∈ core.getLast?, isBlank c = false) :
    trimList (before ++ core ++ after) = core := by
  by_cases hcore : core = []
  · -- without a core the front has no end, and all is skipped at once
    have hnone : skipBlanks (before ++ core ++ after) = [] := by
      rw [hcore, List.append_nil, skipBlanks, List.dropWhile_append_of_pos hbefore]
      exact List.dropWhile_eq_nil_iff.mpr hafter
    rw [trimList, hnone, hcore]
    rfl
  · have hfront : ∀ c ∈ (core ++ after).head?, isBlank c = false := by
      rwa [List.head?_append_of_ne_nil core hcore]
    have hback : ∀ c ∈ core.reverse.head?, isBlank c = false := by
      rwa [List.head?_reverse]
    have hblank : ∀ c ∈ after.reverse, isBlank c = true := by simpa using hafter
    rw [trimList, List.append_assoc, skipBlanks_append hbefore hfront, List.reverse_append,
      skipBlanks_append hblank hback, List.reverse_reverse]

theorem exists_eq_append_trimList (cs : List Char) :
    ∃ before after, (∀ c ∈ before, isBlank c = true) ∧ (∀ c ∈ after, isBlank c = true) ∧
      cs = before ++ trimList cs ++ after := by
  refine ⟨cs.takeWhile isBlank, (skipBlanks cs).rtakeWhile isBlank, ?_, ?_, ?_⟩
  · exact fun c => List.mem_takeWhile_imp
  · exact fun c => List.mem_rtakeWhile_imp
  · have htrim : trimList cs = (skipBlanks cs).rdropWhile isBlank := rfl
    rw [htrim, List.append_assoc, List.rdropWhile_append_rtakeWhile, skipBlanks,
      List.takeWhile_append_dropWhile]

theorem isBlank_head_skipBlanks (cs : List Char) :
    ∀ c ∈ (skipBlanks cs).head?, isBlank c = false := by
  intro c hc
  have hhead := List.head?_dropWhile_not isBlank cs
  rwa [← skipBlanks, hc] at hhead

theorem isBlank_getLast_trimList (cs : List Char) :
    ∀ c ∈ (trimList cs).getLast?, isBlank c = false := by
  intro c hc
  rw [trimList, List.getLast?_reverse] at hc
  exact isBlank_head_skipBlanks _ c hc

theorem isBlank_head_trimList (cs : List Char) :
    ∀ c ∈ (trimList cs).head?, isBlank c = false := by
  intro c hc
  obtain ⟨after, hafter⟩ : trimList cs <+: skipBlanks cs :=
    List.rdropWhile_prefix isBlank (skipBlanks cs)
  apply isBlank_head_skipBlanks cs
  rw [← hafter, List.head?_append, hc]
  rfl

/-- A text stands for the word that is compared with keywords, and for no other. -/
theorem spells_iff {text word : String} : Spells text word ↔ word = keyword text := by
  constructor
  · rintro ⟨hbefore, hafter, hfirst, hlast, hword⟩
    rw [forall₂_lowers_iff] at hword
    rw [keyword, String.toList_ofList, trimList_append hbefore hafter hfirst hlast, hword]
  · rintro rfl
    obtain ⟨before, after, hbefore, hafter, hsplit⟩ := exists_eq_append_trimList text.toList
    have htext : text = String.ofList (before ++ trimList text.toList ++ after) := by
      rw [← hsplit, String.ofList_toList]
    have hword : List.Forall₂ Lowers (trimList text.toList)
        ((trimList text.toList).map Char.toLower) := forall₂_lowers_iff.mpr rfl
    have hspells := Spells.intro hbefore hafter (isBlank_head_trimList _)
      (isBlank_getLast_trimList _) hword
    rwa [← htext] at hspells

end Text

/-! ## Patterns -/

/-- A text stands for the source of a pattern: what is between its outer slashes, if it has
both, and otherwise the text itself. -/
inductive WritesSource : String → String → Prop
  | slashed (source : List Char) :
      WritesSource (String.ofList ('/' :: source ++ ['/'])) (String.ofList source)
  | bare {text : String} (hbare : ∀ inner, text.toList ≠ '/' :: inner ++ ['/']) :
      WritesSource text text

theorem withoutSlashes_betweenSlashes (cs : List Char) :
    withoutSlashes ('/' :: cs ++ ['/']) = cs := by
  simp [withoutSlashes]

theorem withoutSlashes_of_bare {cs : List Char} (hbare : ∀ inner, cs ≠ '/' :: inner ++ ['/']) :
    withoutSlashes cs = cs := by
  unfold withoutSlashes
  split
  next rest =>
    split
    next hlast =>
      obtain ⟨inner, rfl⟩ := List.getLast?_eq_some_iff.mp hlast
      exact absurd rfl (hbare inner)
    next => rfl
  next => rfl

theorem writesSource_iff {text source : String} :
    WritesSource text source ↔ source = String.ofList (withoutSlashes text.toList) := by
  constructor
  · intro h
    cases h with
    | slashed source => rw [String.toList_ofList, withoutSlashes_betweenSlashes]
    | bare hbare => rw [withoutSlashes_of_bare hbare, String.ofList_toList]
  · rintro rfl
    by_cases hslashed : ∃ inner, text.toList = '/' :: inner ++ ['/']
    · obtain ⟨inner, hinner⟩ := hslashed
      have htext : text = String.ofList ('/' :: inner ++ ['/']) := by
        rw [← hinner, String.ofList_toList]
      rw [hinner, withoutSlashes_betweenSlashes, htext]
      exact .slashed inner
    · have hbare : ∀ inner, text.toList ≠ '/' :: inner ++ ['/'] := not_exists.mp hslashed
      rw [withoutSlashes_of_bare hbare, String.ofList_toList]
      exact .bare hbare

end ParamRules
