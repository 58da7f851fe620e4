import ParamRules.Proofs.Json.Spelling

/-!
# Quoted strings

Every string, whatever characters it has, is written so that the scanner reads it back:
quotes, backslashes and control characters as escapes, all others as they are.  Characters
are never halves of surrogate pairs, so their codes join up to the same string.
-/

namespace ParamRules.Json

open Scan

/-! ## Characters inside quotes -/

theorem run_escape
    {e c : Char} (he : e ≠ 'u') (hc : Token.escaped? e = some c)
    (before : List Token) (reversed : List Nat) (rest : List Char) :
    run ⟨before, .text reversed⟩ ('\\' :: e :: rest) =
      run ⟨before, .text (c.toNat :: reversed)⟩ rest := by
  have hbackslash : step ⟨before, .text reversed⟩ '\\' = some ⟨before, .escape reversed⟩ :=
    rfl
  have hescape : step ⟨before, .escape reversed⟩ e =
      some ⟨before, .text (c.toNat :: reversed)⟩ := by
    simp [step, he, hc]
  rw [run_cons, hbackslash, Option.bind_some, run_cons, hescape, Option.bind_some]

theorem hexDigit?_digitChar {d : Nat} (h : d < 16) :
    Token.hexDigit? (Nat.digitChar d) = some d := by
  revert d
  decide

theorem run_controlEscape
    {c : Char} (hc : c.toNat < 0x20)
    (before : List Token) (reversed : List Nat) (rest : List Char) :
    run ⟨before, .text reversed⟩ (controlEscape c ++ rest) =
      run ⟨before, .text (c.toNat :: reversed)⟩ rest := by
  have hhigh := hexDigit?_digitChar (d := c.toNat / 16) (by omega)
  have hlow := hexDigit?_digitChar (d := c.toNat % 16) (by omega)
  have hzero : Token.hexDigit? '0' = some 0 := rfl
  have hcode : c.toNat / 16 * 16 + c.toNat % 16 = c.toNat := Nat.div_add_mod' _ _
  simp [controlEscape, run_cons, step, hzero, hhigh, hlow, hcode]

theorem run_escapeChar
    (c : Char) (before : List Token) (reversed : List Nat) (rest : List Char) :
    run ⟨before, .text reversed⟩ (escapeChar c ++ rest) =
      run ⟨before, .text (c.toNat :: reversed)⟩ rest := by
  unfold escapeChar
  split
  · next hc =>
      subst hc
      exact run_escape (by decide) rfl before reversed rest
  split
  · next hc =>
      subst hc
      exact run_escape (by decide) rfl before reversed rest
  split
  · next hc =>
      subst hc
      exact run_escape (by decide) rfl before reversed rest
  split
  · next hc =>
      subst hc
      exact run_escape (by decide) rfl before reversed rest
  split
  · next hc =>
      subst hc
      exact run_escape (by decide) rfl before reversed rest
  split
  · next hc =>
      subst hc
      exact run_escape (by decide) rfl before reversed rest
  split
  · next hc =>
      subst hc
      exact run_escape (by decide) rfl before reversed rest
  split
  · next hcontrol => exact run_controlEscape hcontrol before reversed rest
  · next hquote hbackslash _ _ _ _ _ hcontrol =>
      rw [List.singleton_append, run_cons]
      simp [step, hquote, hbackslash, hcontrol]

theorem run_escapedText
    (cs : List Char) (before : List Token) (reversed : List Nat) (rest : List Char) :
    run ⟨before, .text reversed⟩ (cs.flatMap escapeChar ++ rest) =
      run ⟨before, .text ((cs.map Char.toNat).reverse ++ reversed)⟩ rest := by
  induction cs generalizing reversed with
  | nil => rfl
  | cons c cs ih =>
      rw [List.flatMap_cons, List.append_assoc, run_escapeChar, ih, List.map_cons,
        List.reverse_cons, List.append_assoc, List.singleton_append]

/-! ## The codes of a string -/

theorem not_isHighSurrogate (c : Char) : Token.isHighSurrogate c.toNat = false := by
  have hvalid := c.valid
  simp only [Token.isHighSurrogate, Bool.and_eq_false_iff, decide_eq_false_iff_not]
  simp only [UInt32.isValidChar, Nat.isValidChar] at hvalid
  change ¬55296 ≤ c.val.toNat ∨ ¬c.val.toNat < 56320
  omega

theorem not_isLowSurrogate (c : Char) : Token.isLowSurrogate c.toNat = false := by
  have hvalid := c.valid
  simp only [Token.isLowSurrogate, Bool.and_eq_false_iff, decide_eq_false_iff_not]
  simp only [UInt32.isValidChar, Nat.isValidChar] at hvalid
  change ¬56320 ≤ c.val.toNat ∨ ¬c.val.toNat < 57344
  omega

theorem charsOfCodes?_map_toNat (cs : List Char) :
    Token.charsOfCodes? (cs.map Char.toNat) = some cs := by
  induction cs with
  | nil => rfl
  | cons c rest ih =>
      cases rest with
      | nil =>
          simp [Token.charsOfCodes?, not_isHighSurrogate, not_isLowSurrogate,
            Char.ofNat_toNat]
      | cons d rest =>
          rw [List.map_cons] at ih
          rw [List.map_cons, List.map_cons]
          simp [Token.charsOfCodes?, not_isHighSurrogate, not_isLowSurrogate, ih,
            Char.ofNat_toNat]

/-- A quoted string spells one token, which holds the string. -/
theorem spells_quote (s : String) : Spells (quote s) [.text (some s)] := by
  intro before rest
  have hcodes : Token.ofCodes ((s.toList.map Char.toNat).reverse ++ []) =
      .text (some s) := by
    rw [List.append_nil, Token.ofCodes, List.reverse_reverse, charsOfCodes?_map_toNat,
      Option.map_some, String.ofList_toList]
  have hopen : step ⟨before, .between⟩ '"' = some ⟨before, .text []⟩ := rfl
  have hclose (reversed : List Nat) : step ⟨before, .text reversed⟩ '"' =
      some ⟨Token.ofCodes reversed :: before, .between⟩ := rfl
  rw [quote, List.append_assoc, List.cons_append, run_cons, hopen, Option.bind_some,
    run_escapedText, List.singleton_append, run_cons, hclose, Option.bind_some, hcodes]
  rfl

end ParamRules.Json
