import Mathlib.Data.List.TakeWhile
import ParamRules.Json.Reader
import ParamRules.Proofs.Json.Spelling

/-!
# Printed numbers

A whole number of 64 bits is read back from its digits.  A binary number need not be: its
shortest digits determine it, but reading rounds more than once.  Which numbers are read
back is therefore a condition of its own, and whatever is printed for a number is at least
one word to the scanner.
-/

namespace ParamRules

/-! ## Digits -/

theorem Numeral.absorb_eq
    {digits : List Char} {significand : Nat}
    (h : Nat.ofDigitChars 10 digits significand < 0x10000000000000000) :
    Numeral.absorb significand digits =
      (Nat.ofDigitChars 10 digits significand, digits.length) := by
  induction digits generalizing significand with
  | nil => rfl
  | cons c rest ih =>
      have hnext : significand * 10 + Decimal.digitsValue [c] =
          10 * significand + (c.toNat - '0'.toNat) := by
        rw [Decimal.digitsValue, Nat.ofDigitChars_cons, Nat.ofDigitChars_nil]
        omega
      rw [Nat.ofDigitChars_cons] at h ⊢
      have hle : 10 * significand + (c.toNat - '0'.toNat) < 0x10000000000000000 := by
        rw [Nat.ofDigitChars_eq_ofDigitChars_zero] at h
        have hpos := Nat.le_mul_of_pos_left (10 * significand + (c.toNat - '0'.toNat))
          (Nat.pow_pos (n := rest.length) (show 0 < 10 by decide))
        omega
      rw [Numeral.absorb, hnext]
      simp only [hle, if_true, ih h, List.length_cons]

namespace Decimal

theorem isDigit_of_mem_digitsOf {n : Nat} {c : Char} (h : c ∈ digitsOf n) :
    c.isDigit = true :=
  Nat.isDigit_of_mem_toDigits (by decide) (by decide) h

theorem digitsOf_ne_nil (n : Nat) : digitsOf n ≠ [] :=
  Nat.toDigits_ne_nil

/-- Only zero begins with the digit zero. -/
theorem eq_zero_of_head?_digitsOf {n : Nat} (h : (digitsOf n).head? = some '0') :
    n = 0 := by
  induction n using Nat.strongRecOn with
  | ind n ih =>
      rw [digitsOf, Nat.toDigits_eq_if (by decide)] at h
      split at h
      · have hdigit : Nat.digitChar n = '0' := by simpa using h
        exact Nat.digitChar_eq_zero.mp hdigit
      · next hge =>
          rw [List.head?_append_of_ne_nil _ Nat.toDigits_ne_nil] at h
          have hzero := ih (n / 10) (by omega) h
          omega

end Decimal

namespace Numeral

theorem unsigned?_digitsOf (negative : Bool) (n : Nat) :
    unsigned? negative (Decimal.digitsOf n) =
      some ⟨negative, Decimal.digitsOf n, [], 0, true⟩ := by
  have hdigits : ∀ c ∈ Decimal.digitsOf n, c.isDigit = true :=
    fun c hc => Decimal.isDigit_of_mem_digitsOf hc
  have htake : (Decimal.digitsOf n).takeWhile Char.isDigit = Decimal.digitsOf n :=
    List.takeWhile_eq_self_iff.mpr hdigits
  have hdrop : (Decimal.digitsOf n).dropWhile Char.isDigit = [] :=
    List.dropWhile_eq_nil_iff.mpr hdigits
  have hleading : ((Decimal.digitsOf n).length != 1 &&
      (Decimal.digitsOf n).head? == some '0') = false := by
    rw [Bool.and_eq_false_imp]
    intro hlength
    by_contra hhead
    have hzero := Decimal.eq_zero_of_head?_digitsOf (by simpa using hhead)
    subst hzero
    exact absurd hlength (by decide)
  have hne : (Decimal.digitsOf n).isEmpty = false := by
    simp [Decimal.digitsOf_ne_nil]
  unfold unsigned?
  simp only [htake, hdrop, hleading, hne, Bool.or_self, Bool.false_eq_true, if_false]

theorem ofChars?_digitsOf (n : Nat) :
    ofChars? (Decimal.digitsOf n) = unsigned? false (Decimal.digitsOf n) := by
  unfold ofChars?
  split
  · next rest hdigits =>
      have hminus : '-' ∈ Decimal.digitsOf n := by simp [hdigits]
      exact absurd (Decimal.isDigit_of_mem_digitsOf hminus) (by decide)
  · rfl

theorem whole?_digitsOf (negative : Bool) {n : Nat} (h : n < 0x10000000000000000) :
    whole? ⟨negative, Decimal.digitsOf n, [], 0, true⟩ =
      some (if negative then -(n : Int) else n) := by
  have hvalue : Nat.ofDigitChars 10 (Decimal.digitsOf n) 0 = n :=
    Decimal.digitsValue_digitsOf n
  have hbound : Nat.ofDigitChars 10 (Decimal.digitsOf n) 0 < 0x10000000000000000 := by
    rwa [hvalue]
  have habsorb := absorb_eq hbound
  rw [hvalue] at habsorb
  simp only [whole?, habsorb, decide_true, Bool.and_self, if_true]

theorem number?_of_whole?
    {numeral : Numeral} {n : Int} (hwhole : numeral.whole? = some n)
    (hfits : fitsWord n = true) (hzero : numeral.negative = true → n ≠ 0) :
    numeral.number? = some (.whole n) := by
  have hkept : (fitsWord n && !(numeral.negative && n == 0)) = true := by
    cases hnegative : numeral.negative with
    | false => simp [hfits]
    | true => simp [hfits, hzero hnegative]
  rw [number?, hwhole, Option.filter_some, if_pos hkept]

end Numeral

/-! ## Numbers that are read back -/

namespace JsonNumber

/-- The text of the number is a numeral for this number. -/
def ReadsBack (n : JsonNumber) : Prop :=
  (Numeral.ofChars? n.chars).bind Numeral.number? = some n

instance (n : JsonNumber) : Decidable n.ReadsBack :=
  inferInstanceAs (Decidable (_ = _))

theorem readsBack_whole {n : Int} (h : fitsWord n = true) : (whole n).ReadsBack := by
  have hbounds : -0x8000000000000000 ≤ n ∧ n < 0x10000000000000000 := by
    simpa [fitsWord] using h
  have hlt : n.natAbs < 0x10000000000000000 := by omega
  by_cases hnegative : n < 0
  · have hchars : chars (.whole n) = '-' :: Decimal.digitsOf n.natAbs :=
      if_pos hnegative
    have hwhole := Numeral.whole?_digitsOf true hlt
    have hvalue : -(n.natAbs : Int) = n := by omega
    rw [if_pos rfl, hvalue] at hwhole
    rw [ReadsBack, hchars, Numeral.ofChars?, Numeral.unsigned?_digitsOf, Option.bind_some]
    exact Numeral.number?_of_whole? hwhole h fun _ => by omega
  · have hchars : chars (.whole n) = Decimal.digitsOf n.natAbs := if_neg hnegative
    have hwhole := Numeral.whole?_digitsOf false hlt
    have hvalue : (n.natAbs : Int) = n := by omega
    rw [if_neg Bool.false_ne_true, hvalue] at hwhole
    rw [ReadsBack, hchars, Numeral.ofChars?_digitsOf, Numeral.unsigned?_digitsOf,
      Option.bind_some]
    exact Numeral.number?_of_whole? hwhole h fun hfalse => nomatch hfalse

/-! ## The characters of numbers -/

/-- The characters of which the texts of numbers consist. -/
def isNumberChar (c : Char) : Bool :=
  c.isDigit || c == '-' || c == '+' || c == '.' || c == 'e'

theorem isNumberChar_of_isDigit {c : Char} (h : c.isDigit = true) :
    isNumberChar c = true := by
  simp [isNumberChar, h]

theorem isNumberChar_digitsOf (n : Nat) :
    ∀ c ∈ Decimal.digitsOf n, isNumberChar c = true :=
  fun _ hc => isNumberChar_of_isDigit (Decimal.isDigit_of_mem_digitsOf hc)

theorem isNumberChar_wholeText (n : Int) : ∀ c ∈ wholeText n, isNumberChar c = true := by
  intro c hc
  unfold wholeText at hc
  split at hc
  · rcases List.mem_cons.mp hc with rfl | hc
    · rfl
    · exact isNumberChar_digitsOf _ c hc
  · exact isNumberChar_digitsOf _ c hc

theorem isNumberChar_replicate_zero (k : Nat) :
    ∀ c ∈ List.replicate k '0', isNumberChar c = true := by
  intro c hc
  rw [List.eq_of_mem_replicate hc]
  rfl

theorem isNumberChar_positional (keepPoint : Bool) (d : ShortDecimal) :
    ∀ c ∈ FiniteBinary64.positional keepPoint d, isNumberChar c = true := by
  intro c hc
  have hdigits := isNumberChar_digitsOf d.digits
  unfold FiniteBinary64.positional at hc
  split at hc
  · have hwhole (k : Nat) :
        ∀ c ∈ Decimal.digitsOf d.digits ++ List.replicate k '0', isNumberChar c = true :=
      List.forall_mem_append.mpr ⟨hdigits, isNumberChar_replicate_zero k⟩
    split at hc
    · rcases List.mem_append.mp hc with hc | hc
      · exact hwhole _ c hc
      · rcases List.mem_pair.mp hc with rfl | rfl <;> rfl
    · exact hwhole _ c hc
  · have hpadded (k : Nat) :
        ∀ c ∈ List.replicate k '0' ++ Decimal.digitsOf d.digits, isNumberChar c = true :=
      List.forall_mem_append.mpr ⟨isNumberChar_replicate_zero k, hdigits⟩
    rcases List.mem_append.mp hc with hc | hc
    · exact hpadded _ c (List.mem_of_mem_take hc)
    · rcases List.mem_cons.mp hc with rfl | hc
      · rfl
      · exact hpadded _ c (List.mem_of_mem_drop hc)

theorem isNumberChar_scientific (d : ShortDecimal) :
    ∀ c ∈ FiniteBinary64.scientific d, isNumberChar c = true := by
  intro c hc
  have hdigits := isNumberChar_digitsOf d.digits
  rcases List.mem_append.mp hc with hc | hc
  · split at hc
    · next first second rest heq =>
        rw [heq] at hdigits
        simp only [List.mem_cons] at hc hdigits
        rcases hc with hc | rfl | hc
        · exact hdigits c (.inl hc)
        · rfl
        · exact hdigits c (.inr hc)
    · exact hdigits c hc
  · rcases List.mem_cons.mp hc with rfl | hc
    · rfl
    rcases List.mem_cons.mp hc with hc | hc
    · rw [hc]
      split <;> rfl
    · exact isNumberChar_digitsOf _ c hc

theorem isNumberChar_chars (n : JsonNumber) : ∀ c ∈ n.chars, isNumberChar c = true := by
  cases n with
  | whole n => exact isNumberChar_wholeText n
  | decimal x =>
      intro c hc
      rcases List.mem_append.mp hc with hc | hc
      · unfold FiniteBinary64.signText at hc
        split at hc
        · rw [List.mem_singleton.mp hc]
          rfl
        · cases hc
      · split at hc
        · exact isNumberChar_positional _ _ c hc
        · exact isNumberChar_scientific _ c hc

theorem isDelimiter_eq_false {c : Char} (h : isNumberChar c = true) :
    Json.Scan.isDelimiter c = false := by
  by_contra hc
  have hmark : Json.Token.ofMark? c ≠ none → isNumberChar c = false := by
    intro hmark
    unfold Json.Token.ofMark? at hmark
    split at hmark <;> first | rfl | exact absurd rfl hmark
  simp only [Json.Scan.isDelimiter, Json.Token.isSpace, Bool.not_eq_false,
    Bool.or_eq_true, beq_iff_eq, Option.isSome_iff_ne_none] at hc
  rcases hc with ((((rfl | rfl) | rfl) | rfl) | rfl) | hc
  all_goals first | exact absurd h (by decide) | exact absurd h (by simp [hmark hc])

/-! ## The token of a number -/

instance : Inhabited Numeral := ⟨⟨false, [], [], 0, true⟩⟩

/-- The numeral that is written for the number. -/
def numeral (n : JsonNumber) : Numeral :=
  (Numeral.ofChars? n.chars).getD default

theorem ReadsBack.ofChars?_eq {n : JsonNumber} (h : n.ReadsBack) :
    Numeral.ofChars? n.chars = some n.numeral := by
  obtain ⟨numeral, hnumeral, _⟩ := Option.bind_eq_some_iff.mp h
  simp [JsonNumber.numeral, hnumeral]

theorem ReadsBack.number?_numeral {n : JsonNumber} (h : n.ReadsBack) :
    n.numeral.number? = some n := by
  have hread : (Numeral.ofChars? n.chars).bind Numeral.number? = some n := h
  rwa [h.ofChars?_eq, Option.bind_some] at hread

/-- A number that is read back spells its numeral. -/
theorem ReadsBack.spellsWord {n : JsonNumber} (h : n.ReadsBack) :
    Json.SpellsWord n.chars [.numeral n.numeral] := by
  have hchars := h.ofChars?_eq
  have hne : n.chars ≠ [] := by
    intro hnil
    rw [hnil] at hchars
    exact absurd hchars (by simp [Numeral.ofChars?, Numeral.unsigned?])
  have hword (first : Char) (rest : List Char) (hfirst : isNumberChar first = false) :
      n.chars ≠ first :: rest := by
    intro heq
    have hmem := isNumberChar_chars n first (by simp [heq])
    rw [hfirst] at hmem
    exact absurd hmem (by decide)
  refine Json.spellsWord_word (List.any_eq_false.mpr fun c hc => ?_) hne ?_
  · rw [isDelimiter_eq_false (isNumberChar_chars n c hc)]
    exact Bool.false_ne_true
  · rw [Json.Token.ofWord?, if_neg (hword _ _ rfl), if_neg (hword _ _ rfl),
      if_neg (hword _ _ rfl), hchars, Option.map_some]

end JsonNumber

end ParamRules
