import Mathlib.Data.List.Basic
import ParamRules.Json.Printer
import ParamRules.Json.Reader

/-!
# Texts that spell tokens

A piece of text spells a row of tokens if the scanner, standing between two tokens, finds
exactly these tokens in it and stands between two tokens again.  An unquoted word does so
only if a delimiter or the end of the text follows.  Pieces can be put together, so it is
enough to know the marks, the blanks, the quoted strings and the words.
-/

namespace ParamRules.Json

namespace Scan

/-- Scans the rest of a text. -/
def run (scan : Scan) (cs : List Char) : Option (List Token) :=
  (cs.foldlM step scan).bind finish

theorem run_cons (scan : Scan) (c : Char) (cs : List Char) :
    run scan (c :: cs) = (step scan c).bind fun next => run next cs := by
  simp only [run, List.foldlM_cons]
  cases step scan c <;> rfl

theorem run_between_nil (tokens : List Token) :
    run ⟨tokens, .between⟩ [] = some tokens.reverse := rfl

end Scan

open Scan

/-- The text begins with a delimiter, or there is none. -/
def EndsWord (cs : List Char) : Prop :=
  ∀ c ∈ cs.head?, isDelimiter c = true

/-- The text spells the tokens, whatever follows it. -/
def Spells (cs : List Char) (tokens : List Token) : Prop :=
  ∀ before rest, run ⟨before, .between⟩ (cs ++ rest) =
    run ⟨tokens.reverse ++ before, .between⟩ rest

/-- The text spells the tokens if no character of a word follows it. -/
def SpellsWord (cs : List Char) (tokens : List Token) : Prop :=
  ∀ before rest, EndsWord rest → run ⟨before, .between⟩ (cs ++ rest) =
    run ⟨tokens.reverse ++ before, .between⟩ rest

section Pieces

variable {cs ds : List Char} {tokens more : List Token}

theorem Spells.spellsWord (h : Spells cs tokens) : SpellsWord cs tokens :=
  fun before rest _ => h before rest

theorem Spells.append (h : Spells cs tokens) (h' : Spells ds more) :
    Spells (cs ++ ds) (tokens ++ more) := by
  intro before rest
  rw [List.append_assoc, h, h', List.reverse_append, List.append_assoc]

theorem Spells.append_word (h : Spells cs tokens) (h' : SpellsWord ds more) :
    SpellsWord (cs ++ ds) (tokens ++ more) := by
  intro before rest hrest
  rw [List.append_assoc, h, h' _ _ hrest, List.reverse_append, List.append_assoc]

/-- A delimiter at the head of the second piece ends a word at the end of the first. -/
theorem SpellsWord.append
    {d : Char} (h : SpellsWord cs tokens) (hd : isDelimiter d = true)
    (h' : Spells (d :: ds) more) :
    Spells (cs ++ d :: ds) (tokens ++ more) := by
  intro before rest
  have hends : EndsWord (d :: ds ++ rest) := by
    intro c hc
    cases hc
    exact hd
  rw [List.append_assoc, h _ _ hends, h', List.reverse_append, List.append_assoc]

theorem SpellsWord.append_word
    {d : Char} (h : SpellsWord cs tokens) (hd : isDelimiter d = true)
    (h' : SpellsWord (d :: ds) more) :
    SpellsWord (cs ++ d :: ds) (tokens ++ more) := by
  intro before rest hrest
  have hends : EndsWord (d :: ds ++ rest) := by
    intro c hc
    cases hc
    exact hd
  rw [List.append_assoc, h _ _ hends, h' _ _ hrest, List.reverse_append,
    List.append_assoc]

theorem SpellsWord.run_start (h : SpellsWord cs tokens) : run start cs = some tokens := by
  have hrun := h [] [] (by simp [EndsWord])
  rw [List.append_nil, List.append_nil] at hrun
  rw [start, hrun, run_between_nil, List.reverse_reverse]

end Pieces

/-! ## Marks and blanks -/

theorem spells_nil : Spells [] [] := fun _ _ => rfl

theorem takeBetween?_mark
    {c : Char} {token : Token} (h : Token.ofMark? c = some token)
    (before : List Token) :
    takeBetween? before c = some ⟨token :: before, .between⟩ := by
  unfold Token.ofMark? at h
  split at h <;> cases h <;> rfl

theorem spells_mark {c : Char} {token : Token} (h : Token.ofMark? c = some token) :
    Spells [c] [token] := by
  intro before rest
  rw [List.singleton_append, run_cons]
  change (takeBetween? before c).bind _ = _
  rw [takeBetween?_mark h]
  rfl

theorem spells_space {c : Char} (h : Token.isSpace c = true) : Spells [c] [] := by
  intro before rest
  rw [List.singleton_append, run_cons]
  change (takeBetween? before c).bind _ = _
  rw [takeBetween?, if_pos h]
  rfl

theorem spells_spaces {cs : List Char} (h : ∀ c ∈ cs, Token.isSpace c = true) :
    Spells cs [] := by
  induction cs with
  | nil => exact spells_nil
  | cons c rest ih =>
      have hrest := ih fun d hd => h d (List.mem_cons_of_mem _ hd)
      exact (spells_space (h c List.mem_cons_self)).append hrest

/-! ## Words -/

theorem run_word
    {token : Token} {reversed rest : List Char} (before : List Token)
    (htoken : Token.ofWord? reversed.reverse = some token) (hrest : EndsWord rest) :
    run ⟨before, .word reversed⟩ rest = run ⟨token :: before, .between⟩ rest := by
  cases rest with
  | nil => simp [run, finish, htoken]
  | cons d rest =>
      have hd : isDelimiter d = true := hrest d rfl
      rw [run_cons, run_cons]
      simp only [step, hd, if_true, htoken, Option.bind_some]

theorem run_word_append
    {word : List Char} (hword : word.any isDelimiter = false)
    (before : List Token) (reversed rest : List Char) :
    run ⟨before, .word reversed⟩ (word ++ rest) =
      run ⟨before, .word (word.reverse ++ reversed)⟩ rest := by
  induction word generalizing reversed with
  | nil => rfl
  | cons c word ih =>
      rw [List.any_cons, Bool.or_eq_false_iff] at hword
      obtain ⟨hc, hword⟩ := hword
      rw [List.cons_append, run_cons]
      simp only [step, hc, Bool.false_eq_true, if_false, Option.bind_some]
      rw [ih hword, List.reverse_cons, List.append_assoc, List.singleton_append]

theorem takeBetween?_of_not_delimiter
    {c : Char} (h : isDelimiter c = false) (before : List Token) :
    takeBetween? before c = some ⟨before, .word [c]⟩ := by
  simp only [isDelimiter, Bool.or_eq_false_iff, beq_eq_false_iff_ne, ne_eq] at h
  obtain ⟨⟨hspace, hquote⟩, hmark⟩ := h
  have hnone : Token.ofMark? c = none := by simpa using hmark
  simp [takeBetween?, hspace, hquote, hnone]

/-- A word without delimiters spells its token. -/
theorem spellsWord_word
    {word : List Char} {token : Token} (hword : word.any isDelimiter = false)
    (hne : word ≠ []) (htoken : Token.ofWord? word = some token) :
    SpellsWord word [token] := by
  intro before rest hrest
  cases word with
  | nil => exact (hne rfl).elim
  | cons c word =>
      rw [List.any_cons, Bool.or_eq_false_iff] at hword
      obtain ⟨hc, hword⟩ := hword
      rw [List.cons_append, run_cons]
      change (takeBetween? before c).bind _ = _
      rw [takeBetween?_of_not_delimiter hc, Option.bind_some, run_word_append hword]
      have hreverse : (word.reverse ++ [c]).reverse = c :: word := by simp
      rw [run_word before (by rw [hreverse]; exact htoken) hrest]
      rfl

end ParamRules.Json
