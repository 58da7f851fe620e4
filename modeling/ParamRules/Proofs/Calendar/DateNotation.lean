import Mathlib.Algebra.Group.Nat.Defs
import ParamRules.Schema.FieldType

/-!
# Which texts are dates

A date is usually written in ten characters: four digits for the year, two for the month and
two for the day, with hyphens between them.  All such texts of days that exist are dates.
Reading is more lenient than that: there may be blanks in front of a number, a number may have
fewer digits, and a year with a sign may have any number of them.  The texts of ten digits and
hyphens that begin with a digit are those for which it makes no difference.
-/

namespace ParamRules

namespace Calendar

open Text

/-! ## Readers -/

/-- The reader reads texts of this form, if no further digit follows. -/
structure Reads {α : Type} (read : List Char → Option (α × List Char))
    (Form : List Char → α → Prop) : Prop where
  sound : ∀ {cs rest : List Char} {a : α}, read cs = some (a, rest) →
    ∃ text, cs = text ++ rest ∧ Form text a
  complete : ∀ {text rest : List Char} {a : α}, Form text a →
    (∀ c ∈ rest.head?, c.isDigit = false) → read (text ++ rest) = some (a, rest)

/-- A number that is written with one to `most` digits. -/
structure IsNumeral (most : Nat) (digits : List Char) (n : Nat) : Prop where
  isDigit : ∀ c ∈ digits, c.isDigit = true
  ne_nil : digits ≠ []
  length_le : digits.length ≤ most
  value_eq : n = Decimal.digitsValue digits

/-- Text of a form, possibly with blanks in front of it. -/
def AfterBlanks {α : Type} (Form : List Char → α → Prop) (text : List Char) (a : α) : Prop :=
  ∃ blanks inner, text = blanks ++ inner ∧ (∀ c ∈ blanks, isBlank c = true) ∧ Form inner a

theorem takeWhile_take_append
    {p : Char → Bool} {digits rest : List Char} {most : Nat}
    (hdigits : ∀ c ∈ digits, p c = true) (hlength : digits.length ≤ most)
    (hrest : ∀ c ∈ rest.head?, p c = false) :
    ((digits ++ rest).take most).takeWhile p = digits := by
  have hstop : (rest.take (most - digits.length)).takeWhile p = [] := by
    cases rest with
    | nil => simp
    | cons c rest =>
        have hc : p c = false := hrest c rfl
        cases most - digits.length <;> simp [hc]
  rw [List.take_append, List.take_of_length_le hlength, List.takeWhile_append_of_pos hdigits,
    hstop, List.append_nil]

theorem digits?_reads (most : Nat) : Reads (digits? most) (IsNumeral most) where
  sound := by
    intro cs rest n h
    simp only [digits?] at h
    split at h
    · cases h
    next hsome =>
      cases h
      have htake := List.takeWhile_prefix Char.isDigit (l := cs.take most)
      have hprefix := htake.trans (List.take_prefix most cs)
      refine ⟨_, (List.prefix_iff_eq_append.mp hprefix).symm, ?_, ?_, ?_, rfl⟩
      · exact List.all_eq_true.mp List.all_takeWhile
      · intro hnil
        exact hsome (List.isEmpty_iff.mpr hnil)
      · exact Nat.le_trans htake.length_le (List.length_take_le most cs)
  complete := by
    rintro digits rest n ⟨hdigits, hne, hlength, rfl⟩ hrest
    have hread := takeWhile_take_append hdigits hlength hrest
    simp only [digits?, hread, List.isEmpty_iff, if_neg hne, List.drop_left]

theorem isBlank_of_isDigit {c : Char} (h : c.isDigit = true) : isBlank c = false := by
  obtain ⟨hlow, hhigh⟩ := Char.isDigit_iff_toNat.mp h
  have hlow : 48 ≤ c.toNat := hlow
  have hhigh : c.toNat ≤ 57 := hhigh
  simp only [isBlank, blankRanges, List.any_cons, List.any_nil, Bool.or_false,
    Bool.or_eq_false_iff, Bool.and_eq_false_iff, decide_eq_false_iff_not]
  omega

theorem ne_of_isDigit {c mark : Char} (hc : c.isDigit = true) (hmark : mark.isDigit = false) :
    c ≠ mark := by
  rintro rfl
  rw [hmark] at hc
  cases hc

theorem skipBlanks_append
    {blanks inner : List Char} (hblanks : ∀ c ∈ blanks, isBlank c = true)
    (hinner : ∀ c ∈ inner.head?, isBlank c = false) :
    skipBlanks (blanks ++ inner) = inner := by
  rw [skipBlanks, List.dropWhile_append_of_pos hblanks]
  cases inner with
  | nil => rfl
  | cons c rest =>
      have hc : isBlank c = false := hinner c rfl
      simp [hc]

/-- A reader that skips blanks first. -/
theorem Reads.afterBlanks
    {α : Type} {read : List Char → Option (α × List Char)} {Form : List Char → α → Prop}
    (h : Reads read Form)
    (hstart : ∀ {text : List Char} {a : α}, Form text a →
      ∃ c tail, text = c :: tail ∧ isBlank c = false) :
    Reads (fun cs => read (skipBlanks cs)) (AfterBlanks Form) where
  sound := by
    intro cs rest a hread
    obtain ⟨text, htext, hform⟩ := h.sound hread
    refine ⟨cs.takeWhile isBlank ++ text, ?_, _, text, rfl, ?_, hform⟩
    · rw [List.append_assoc, ← htext, skipBlanks, List.takeWhile_append_dropWhile]
    · exact List.all_eq_true.mp List.all_takeWhile
  complete := by
    rintro _ rest a ⟨blanks, inner, rfl, hblanks, hform⟩ hrest
    obtain ⟨c, tail, rfl, hc⟩ := hstart hform
    have hhead : ∀ d ∈ (c :: tail ++ rest).head?, isBlank d = false := by
      rintro d ⟨⟩
      exact hc
    rw [List.append_assoc, skipBlanks_append hblanks hhead]
    exact h.complete hform hrest

/-! ## Years, months and days -/

/-- The text of a year: at most four digits, or a sign and any number of them. -/
inductive IsYear : List Char → Int → Prop
  | unsigned {digits : List Char} {n : Nat} (hdigits : IsNumeral 4 digits n) : IsYear digits n
  | plus {digits : List Char} {n : Nat} (hdigits : IsNumeral digits.length digits n) :
      IsYear ('+' :: digits) n
  | minus {digits : List Char} {n : Nat} (hdigits : IsNumeral digits.length digits n) :
      IsYear ('-' :: digits) (-(n : Int))

theorem IsNumeral.exists_eq_cons {most : Nat} {digits : List Char} {n : Nat}
    (h : IsNumeral most digits n) :
    ∃ c tail, digits = c :: tail ∧ c.isDigit = true := by
  obtain ⟨c, tail, rfl⟩ := List.exists_cons_of_ne_nil h.ne_nil
  exact ⟨c, tail, rfl, h.isDigit c List.mem_cons_self⟩

theorem IsNumeral.of_length {most : Nat} {digits : List Char} {n : Nat}
    (h : IsNumeral most digits n) {other : Nat} (hlength : digits.length ≤ other) :
    IsNumeral other digits n :=
  ⟨h.isDigit, h.ne_nil, hlength, h.value_eq⟩

/-- Reads a year without blanks in front of it. -/
def bareYear? : List Char → Option (Int × List Char)
  | '-' :: rest => (digits? rest.length rest).map fun (n, rest) => (-(n : Int), rest)
  | '+' :: rest => (digits? rest.length rest).map fun (n, rest) => ((n : Int), rest)
  | rest => (digits? 4 rest).map fun (n, rest) => ((n : Int), rest)

theorem exists_of_map_digits?
    {most : Nat} {cs rest : List Char} {f : Nat → Int} {y : Int}
    (h : ((digits? most cs).map fun (n, rest) => (f n, rest)) = some (y, rest)) :
    ∃ digits n, cs = digits ++ rest ∧ IsNumeral most digits n ∧ y = f n := by
  obtain ⟨⟨n, tail⟩, hread, heq⟩ := Option.map_eq_some_iff.mp h
  cases heq
  obtain ⟨digits, htext, hdigits⟩ := (digits?_reads most).sound hread
  exact ⟨digits, n, htext, hdigits, rfl⟩

theorem bareYear?_reads : Reads bareYear? IsYear where
  sound := by
    intro cs rest y h
    unfold bareYear? at h
    split at h
    next tail =>
      obtain ⟨digits, n, rfl, hdigits, rfl⟩ :=
        exists_of_map_digits? (f := fun n => -(n : Int)) h
      exact ⟨'-' :: digits, rfl, .minus (hdigits.of_length (Nat.le_refl _))⟩
    next tail =>
      obtain ⟨digits, n, rfl, hdigits, rfl⟩ := exists_of_map_digits? h
      exact ⟨'+' :: digits, rfl, .plus (hdigits.of_length (Nat.le_refl _))⟩
    next =>
      obtain ⟨digits, n, rfl, hdigits, rfl⟩ := exists_of_map_digits? h
      exact ⟨digits, rfl, .unsigned hdigits⟩
  complete := by
    intro text rest y hform hrest
    cases hform with
    | @unsigned digits n hdigits =>
        obtain ⟨c, tail, rfl, hc⟩ := hdigits.exists_eq_cons
        have hread := (digits?_reads 4).complete hdigits hrest
        have hminus : c ≠ '-' := ne_of_isDigit hc (by decide)
        have hplus : c ≠ '+' := ne_of_isDigit hc (by decide)
        rw [List.cons_append] at hread ⊢
        unfold bareYear?
        split
        next hcons => exact absurd (List.cons.inj hcons).1 hminus
        next hcons => exact absurd (List.cons.inj hcons).1 hplus
        next => rw [hread, Option.map_some]
    | @plus digits n hdigits | @minus digits n hdigits =>
        have hlength : digits.length ≤ (digits ++ rest).length := by simp
        have hread := (digits?_reads _).complete (hdigits.of_length hlength) hrest
        rw [List.cons_append, bareYear?, hread, Option.map_some]

theorem IsYear.exists_eq_cons {text : List Char} {y : Int} (h : IsYear text y) :
    ∃ c tail, text = c :: tail ∧ isBlank c = false := by
  cases h with
  | unsigned hdigits =>
      obtain ⟨c, tail, rfl, hc⟩ := hdigits.exists_eq_cons
      exact ⟨c, tail, rfl, isBlank_of_isDigit hc⟩
  | plus | minus => exact ⟨_, _, rfl, by decide⟩

theorem year?_reads : Reads year? (AfterBlanks IsYear) :=
  bareYear?_reads.afterBlanks IsYear.exists_eq_cons

theorem pair?_reads : Reads pair? (AfterBlanks (IsNumeral 2)) := by
  apply (digits?_reads 2).afterBlanks
  intro digits n hdigits
  obtain ⟨c, tail, rfl, hc⟩ := hdigits.exists_eq_cons
  exact ⟨c, tail, rfl, isBlank_of_isDigit hc⟩

/-! ## Dates -/

/-- The text of a date: a year, a month and a day of the month, with hyphens between them
and possibly blanks in front of each.  The day need not exist. -/
inductive IsDateText : List Char → Day → Prop
  | intro {year month day : List Char} {y : Int} {m d : Nat}
      (hyear : AfterBlanks IsYear year y) (hmonth : AfterBlanks (IsNumeral 2) month m)
      (hday : AfterBlanks (IsNumeral 2) day d) :
      IsDateText (year ++ '-' :: (month ++ '-' :: day)) ⟨y, m, d⟩

theorem mark?_eq_some_iff {mark : Char} {cs rest : List Char} :
    mark? mark cs = some rest ↔ cs = mark :: rest := by
  cases cs with
  | nil => simp [mark?]
  | cons c tail => by_cases hc : c = mark <;> simp [mark?, hc]

theorem day?_eq_some_iff {cs rest : List Char} {date : Day} :
    day? cs = some (date, rest) ↔
      ∃ y cs₁ m cs₂ d, year? cs = some (y, '-' :: cs₁) ∧ pair? cs₁ = some (m, '-' :: cs₂) ∧
        pair? cs₂ = some (d, rest) ∧ date = ⟨y, m, d⟩ := by
  simp only [day?, Option.bind_eq_bind, Option.bind_eq_some_iff, mark?_eq_some_iff, Prod.exists,
    Option.pure_def, Option.some.injEq, Prod.mk.injEq]
  constructor
  · rintro ⟨y, _, hyear, cs₁, rfl, m, _, hmonth, cs₂, rfl, d, _, hday, rfl, rfl⟩
    exact ⟨y, cs₁, m, cs₂, d, hyear, hmonth, hday, rfl⟩
  · rintro ⟨y, cs₁, m, cs₂, d, hyear, hmonth, hday, rfl⟩
    exact ⟨y, _, hyear, cs₁, rfl, m, _, hmonth, cs₂, rfl, d, rest, hday, rfl, rfl⟩

theorem day?_reads : Reads day? IsDateText where
  sound := by
    intro cs rest date h
    obtain ⟨y, cs₁, m, cs₂, d, hy, hm, hd, rfl⟩ := day?_eq_some_iff.mp h
    obtain ⟨year, rfl, hyear⟩ := year?_reads.sound hy
    obtain ⟨month, rfl, hmonth⟩ := pair?_reads.sound hm
    obtain ⟨day, rfl, hday⟩ := pair?_reads.sound hd
    exact ⟨_, by simp, .intro hyear hmonth hday⟩
  complete := by
    rintro _ rest _ (@⟨year, month, day, y, m, d, hyear, hmonth, hday⟩) hrest
    have hhyphen (cs : List Char) : ∀ c ∈ ('-' :: cs).head?, c.isDigit = false := by
      rintro c ⟨⟩
      decide
    have hy := year?_reads.complete hyear (hhyphen (month ++ '-' :: (day ++ rest)))
    have hm := pair?_reads.complete hmonth (hhyphen (day ++ rest))
    have hd := pair?_reads.complete hday hrest
    refine day?_eq_some_iff.mpr ⟨y, _, m, _, d, ?_, hm, hd, rfl⟩
    rw [List.append_assoc, List.cons_append, List.append_assoc, List.cons_append]
    exact hy

theorem day?_eq_some_nil_iff {cs : List Char} {date : Day} :
    day? cs = some (date, []) ↔ IsDateText cs date := by
  constructor
  · intro h
    obtain ⟨text, rfl, hdate⟩ := day?_reads.sound h
    rwa [List.append_nil]
  · intro h
    have hread : day? (cs ++ []) = some (date, []) := day?_reads.complete h nofun
    rwa [List.append_nil] at hread

/-- The text of a date names one day. -/
theorem IsDateText.unique {cs : List Char} {date other : Day}
    (h : IsDateText cs date) (hother : IsDateText cs other) : date = other := by
  rw [← day?_eq_some_nil_iff] at h hother
  rw [h] at hother
  cases hother
  rfl

/-- The day exists in the proleptic Gregorian calendar. -/
structure Day.Exists (date : Day) : Prop where
  month_pos : 1 ≤ date.month
  month_le : date.month ≤ 12
  day_pos : 1 ≤ date.day
  day_le : date.day ≤ daysInMonth date.year date.month

theorem month_of_daysInMonth_pos {year : Int} {month : Nat}
    (h : 0 < daysInMonth year month) : 1 ≤ month ∧ month ≤ 12 := by
  unfold daysInMonth at h
  split at h <;> omega

theorem Day.isValid_iff {date : Day} :
    date.isValid = true ↔
      firstYear ≤ date.year ∧ date.year ≤ lastYear ∧ date.Exists := by
  simp only [isValid, Bool.and_eq_true, decide_eq_true_eq]
  constructor
  · rintro ⟨⟨⟨hfirst, hlast⟩, hpos⟩, hle⟩
    have hmonth := month_of_daysInMonth_pos (Nat.lt_of_lt_of_le hpos hle)
    exact ⟨hfirst, hlast, hmonth.1, hmonth.2, hpos, hle⟩
  · rintro ⟨hfirst, hlast, -, -, hpos, hle⟩
    exact ⟨⟨⟨hfirst, hlast⟩, hpos⟩, hle⟩

/-- Text is a date if and only if it is written as one and the day exists, in a year in
range. -/
theorem isDate_iff {s : String} :
    isDate s = true ↔ ∃ date, IsDateText s.toList date ∧
      firstYear ≤ date.year ∧ date.year ≤ lastYear ∧ date.Exists := by
  simp only [← Day.isValid_iff, ← day?_eq_some_nil_iff, isDate]
  constructor
  · intro h
    split at h
    next date hread => exact ⟨date, hread, h⟩
    next => cases h
  · rintro ⟨date, hread, hvalid⟩
    rw [hread]
    exact hvalid

/-! ## The usual form -/

/-- The usual text of a day: four digits, two digits and two digits, with hyphens between
them.  The day need not exist. -/
inductive IsFixedDateText : List Char → Day → Prop
  | intro {year month day : List Char} {y m d : Nat}
      (hyear : IsNumeral 4 year y) (hyearLength : year.length = 4)
      (hmonth : IsNumeral 2 month m) (hmonthLength : month.length = 2)
      (hday : IsNumeral 2 day d) (hdayLength : day.length = 2) :
      IsFixedDateText (year ++ '-' :: (month ++ '-' :: day)) ⟨y, m, d⟩

theorem AfterBlanks.of_form {α : Type} {Form : List Char → α → Prop} {text : List Char} {a : α}
    (h : Form text a) : AfterBlanks Form text a :=
  ⟨[], text, rfl, nofun, h⟩

theorem AfterBlanks.form
    {α : Type} {Form : List Char → α → Prop} {text : List Char} {a : α}
    (h : AfterBlanks Form text a) (htext : ∀ c ∈ text, isBlank c = false) : Form text a := by
  obtain ⟨blanks, inner, rfl, hblanks, hform⟩ := h
  cases blanks with
  | nil => exact hform
  | cons c rest =>
      have hblank := hblanks c List.mem_cons_self
      rw [htext c List.mem_cons_self] at hblank
      cases hblank

theorem IsFixedDateText.isDateText
    {cs : List Char} {date : Day} (h : IsFixedDateText cs date) : IsDateText cs date := by
  obtain ⟨hyear, -, hmonth, -, hday, -⟩ := h
  exact .intro (.of_form (.unsigned hyear)) (.of_form hmonth) (.of_form hday)

theorem IsFixedDateText.length_eq
    {cs : List Char} {date : Day} (h : IsFixedDateText cs date) : cs.length = 10 := by
  obtain ⟨-, hyear, -, hmonth, -, hday⟩ := h
  simp only [List.length_append, List.length_cons, hyear, hmonth, hday]

theorem digitsValue_lt {digits : List Char} (h : ∀ c ∈ digits, c.isDigit = true) :
    Decimal.digitsValue digits < 10 ^ digits.length := by
  induction digits with
  | nil => decide
  | cons c rest ih =>
      have hrest : Decimal.digitsValue rest < 10 ^ rest.length :=
        ih fun d hd => h d (List.mem_cons_of_mem c hd)
      have hdigit : c.toNat - 48 ≤ 9 := by
        have hhigh : c.toNat ≤ 57 := (Char.isDigit_iff_toNat.mp (h c List.mem_cons_self)).2
        omega
      have hvalue : Decimal.digitsValue (c :: rest) =
          10 ^ rest.length * (c.toNat - 48) + Decimal.digitsValue rest := by
        rw [Decimal.digitsValue, Nat.ofDigitChars_cons, Nat.ofDigitChars_eq_ofDigitChars_zero,
          Nat.mul_zero, Nat.zero_add]
        rfl
      calc Decimal.digitsValue (c :: rest)
          = 10 ^ rest.length * (c.toNat - 48) + Decimal.digitsValue rest := hvalue
        _ < 10 ^ rest.length * 9 + 10 ^ rest.length :=
          Nat.add_lt_add_of_le_of_lt (Nat.mul_le_mul_left _ hdigit) hrest
        _ = 10 ^ (c :: rest).length := by rw [List.length_cons, Nat.pow_succ]; omega

theorem IsFixedDateText.year_mem_range
    {cs : List Char} {date : Day} (h : IsFixedDateText cs date) :
    firstYear ≤ date.year ∧ date.year ≤ lastYear := by
  obtain ⟨hyear, hlength, -, -, -, -⟩ := h
  have hlt := digitsValue_lt hyear.isDigit
  rw [← hyear.value_eq, hlength] at hlt
  simp only [firstYear, lastYear]
  omega

/-- Ten digits and hyphens that begin with a digit leave no room for anything but the usual
form. -/
theorem IsDateText.isFixedDateText
    {cs : List Char} {date : Day} (h : IsDateText cs date) (hlength : cs.length = 10)
    (hchars : ∀ c ∈ cs, c.isDigit = true ∨ c = '-') (hhead : ∀ c ∈ cs.head?, c ≠ '-') :
    IsFixedDateText cs date := by
  have hblank : ∀ c ∈ cs, isBlank c = false := by
    intro c hc
    rcases hchars c hc with hdigit | rfl
    · exact isBlank_of_isDigit hdigit
    · decide
  obtain @⟨year, month, day, y, m, d, hyear, hmonth, hday⟩ := h
  have hyear := hyear.form fun c hc => hblank c (by simp [hc])
  have hmonth := hmonth.form fun c hc => hblank c (by simp [hc])
  have hday := hday.form fun c hc => hblank c (by simp [hc])
  cases hyear with
  | unsigned hnumeral =>
      have hyearLength := hnumeral.length_le
      have hmonthLength := hmonth.length_le
      have hdayLength := hday.length_le
      simp only [List.length_append, List.length_cons] at hlength
      exact .intro hnumeral (by omega) hmonth (by omega) hday (by omega)
  | plus =>
      rcases hchars '+' (by simp) with hdigit | heq
      · exact absurd hdigit (by decide)
      · exact absurd heq (by decide)
  | minus => exact absurd rfl (hhead '-' (by simp))

theorem IsFixedDateText.digit_or_hyphen
    {cs : List Char} {date : Day} (h : IsFixedDateText cs date) :
    ∀ c ∈ cs, c.isDigit = true ∨ c = '-' := by
  obtain ⟨hyear, -, hmonth, -, hday, -⟩ := h
  intro c hc
  simp only [List.mem_append, List.mem_cons] at hc
  rcases hc with hc | rfl | hc | rfl | hc
  · exact .inl (hyear.isDigit c hc)
  · exact .inr rfl
  · exact .inl (hmonth.isDigit c hc)
  · exact .inr rfl
  · exact .inl (hday.isDigit c hc)

theorem IsFixedDateText.head?_ne_hyphen
    {cs : List Char} {date : Day} (h : IsFixedDateText cs date) :
    ∀ c ∈ cs.head?, c ≠ '-' := by
  obtain ⟨hyear, -, -, -, -, -⟩ := h
  obtain ⟨c, tail, rfl, hc⟩ := hyear.exists_eq_cons
  rintro _ ⟨⟩
  exact ne_of_isDigit hc (by decide)

/-- Text is a day that exists in the usual form if and only if it is a date and consists of
ten digits and hyphens, of which the first is a digit. -/
theorem exists_isFixedDateText_iff {s : String} :
    (∃ date, IsFixedDateText s.toList date ∧ date.Exists) ↔
      isDate s = true ∧ s.toList.length = 10 ∧
        (∀ c ∈ s.toList, c.isDigit = true ∨ c = '-') ∧ ∀ c ∈ s.toList.head?, c ≠ '-' := by
  rw [isDate_iff]
  constructor
  · rintro ⟨date, hfixed, hexists⟩
    obtain ⟨hfirst, hlast⟩ := hfixed.year_mem_range
    exact ⟨⟨date, hfixed.isDateText, hfirst, hlast, hexists⟩, hfixed.length_eq,
      hfixed.digit_or_hyphen, hfixed.head?_ne_hyphen⟩
  · rintro ⟨⟨date, hdate, -, -, hexists⟩, hlength, hchars, hhead⟩
    exact ⟨date, hdate.isFixedDateText hlength hchars hhead, hexists⟩

end Calendar

/-! ## The type of dates -/

namespace FieldType

open Calendar

/-- The values of the type are the strings that are dates. -/
theorem accepts_date_iff {v : Json} :
    accepts .date v = true ↔ ∃ s date, v = .string s ∧ IsDateText s.toList date ∧
      firstYear ≤ date.year ∧ date.year ≤ lastYear ∧ date.Exists := by
  cases v with
  | string s =>
      rw [accepts, isDate_iff]
      constructor
      · rintro ⟨date, hdate⟩
        exact ⟨s, date, rfl, hdate⟩
      · rintro ⟨_, date, ⟨⟩, hdate⟩
        exact ⟨date, hdate⟩
  | null | bool | number | array | object => simp [accepts]

/-- A day in the usual form has the type. -/
theorem accepts_date_of_isFixedDateText {s : String} {date : Day}
    (h : IsFixedDateText s.toList date) (hexists : date.Exists) :
    accepts .date (.string s) = true :=
  (exists_isFixedDateText_iff.mp ⟨date, h, hexists⟩).1

/-- So does a day in a form with fewer digits. -/
theorem accepts_date_unpadded :
    accepts .date (.string "2024-1-5") = true ∧
      ¬∃ date, IsFixedDateText "2024-1-5".toList date := by
  refine ⟨by decide, ?_⟩
  rintro ⟨date, h⟩
  exact absurd h.length_eq (by decide)

end FieldType

end ParamRules
