import ParamRules.Proofs.Json.QuotedText
import ParamRules.Proofs.Json.TokenTree

/-!
# Printed values

Both forms of a value spell its tokens: they differ in white space only, and the scanner
drops it.  The numbers of the value have to be ones that are read back.
-/

namespace ParamRules.Json

open Scan

/-- Every number of the value is read back, and no object has a key twice. -/
inductive Legible : Json → Prop where
  | null : Legible .null
  | bool (b : Bool) : Legible (.bool b)
  | number {n : JsonNumber} (h : n.ReadsBack) : Legible (.number n)
  | string (s : String) : Legible (.string s)
  | array {items : List Json} (h : ∀ v ∈ items, Legible v) : Legible (.array items)
  | object {fields : Fields} (hkeys : (fields.map Prod.fst).Nodup)
      (h : ∀ entry ∈ fields, Legible entry.2) : Legible (.object fields)

/-! ## Parts of a text -/

theorem isDelimiter_of_mark {c : Char} {token : Token} (h : Token.ofMark? c = some token) :
    isDelimiter c = true := by
  simp [isDelimiter, h]

theorem spellsWord_null : SpellsWord ['n', 'u', 'l', 'l'] [.null] :=
  spellsWord_word rfl (List.cons_ne_nil _ _) rfl

theorem spellsWord_true : SpellsWord ['t', 'r', 'u', 'e'] [.bool true] :=
  spellsWord_word rfl (List.cons_ne_nil _ _) rfl

theorem spellsWord_false : SpellsWord ['f', 'a', 'l', 's', 'e'] [.bool false] :=
  spellsWord_word rfl (List.cons_ne_nil _ _) rfl

section Parts

variable {cs ds : List Char} {between more : List Token}

/-- A mark at either end of a text adds its token there. -/
theorem SpellsWord.enclose
    {opening closing : Char} {first last : Token}
    (hfirst : Token.ofMark? opening = some first)
    (hlast : Token.ofMark? closing = some last) (h : SpellsWord cs between) :
    Spells (opening :: cs ++ [closing]) (first :: between ++ [last]) := by
  have hopened : SpellsWord (opening :: cs) (first :: between) :=
    (spells_mark hfirst).append_word h
  exact hopened.append (isDelimiter_of_mark hlast) (spells_mark hlast)

/-- What follows a member of a row is nothing, or a comma and the rest of the row. -/
theorem SpellsWord.append_rest
    (h : SpellsWord cs between) (h' : SpellsWord ds more) (atEnd : Bool) :
    SpellsWord (cs ++ if atEnd then [] else ',' :: ds)
      (between ++ if atEnd then [] else .comma :: more) := by
  cases atEnd with
  | true => simpa using h
  | false =>
      have hcomma : SpellsWord (',' :: ds) (.comma :: more) :=
        (spells_mark (c := ',') rfl).append_word h'
      exact h.append_word rfl hcomma

theorem spells_newLine (level : Nat) : Spells (newLine level) [] := by
  refine spells_spaces fun c hc => ?_
  rcases List.mem_cons.mp hc with rfl | hc
  · rfl
  · rw [List.eq_of_mem_replicate hc]
    rfl

theorem SpellsWord.append_newLine (h : SpellsWord cs between) (level : Nat) :
    Spells (cs ++ newLine level) between := by
  have hline := h.append (d := '\n') rfl (spells_newLine level)
  rwa [List.append_nil] at hline

end Parts

/-! ## The compact form -/

theorem spellsWord_compactItems
    {items : List Json} (h : ∀ v ∈ items, SpellsWord v.compactChars v.tokens) :
    SpellsWord (compactItems items) (itemTokens items) := by
  induction items with
  | nil => exact spells_nil.spellsWord
  | cons item rest ih =>
      have hrest := ih fun v hv => h v (List.mem_cons_of_mem _ hv)
      exact (h item List.mem_cons_self).append_rest hrest rest.isEmpty

theorem spellsWord_compactFields
    {fields : Fields} (h : ∀ entry ∈ fields, SpellsWord entry.2.compactChars entry.2.tokens) :
    SpellsWord (compactFields fields) (fieldTokens fields) := by
  induction fields with
  | nil => exact spells_nil.spellsWord
  | cons entry rest ih =>
      obtain ⟨key, value⟩ := entry
      have hrest := ih fun entry hentry => h entry (List.mem_cons_of_mem _ hentry)
      have hvalue := h (key, value) List.mem_cons_self
      have hmember : SpellsWord (quote key ++ ':' :: value.compactChars)
          (.text (some key) :: .colon :: value.tokens) :=
        (spells_quote key).append_word ((spells_mark (c := ':') rfl).append_word hvalue)
      exact hmember.append_rest hrest rest.isEmpty

theorem Legible.spellsWord_compactChars {v : Json} (h : v.Legible) :
    SpellsWord v.compactChars v.tokens := by
  induction h with
  | null => exact spellsWord_null
  | bool b =>
      cases b with
      | true => exact spellsWord_true
      | false => exact spellsWord_false
  | number h => exact h.spellsWord
  | string s => exact (spells_quote s).spellsWord
  | array _ ih => exact ((spellsWord_compactItems ih).enclose rfl rfl).spellsWord
  | object _ _ ih => exact ((spellsWord_compactFields ih).enclose rfl rfl).spellsWord

/-! ## The pretty form -/

theorem spellsWord_prettyItems
    {items : List Json} {level : Nat}
    (h : ∀ v ∈ items, SpellsWord (v.prettyChars level) v.tokens) :
    SpellsWord (prettyItems items level) (itemTokens items) := by
  induction items with
  | nil => exact spells_nil.spellsWord
  | cons item rest ih =>
      have hrest := ih fun v hv => h v (List.mem_cons_of_mem _ hv)
      have hitem := (spells_newLine level).append_word (h item List.mem_cons_self)
      exact hitem.append_rest hrest rest.isEmpty

theorem spellsWord_prettyFields
    {fields : Fields} {level : Nat}
    (h : ∀ entry ∈ fields, SpellsWord (entry.2.prettyChars level) entry.2.tokens) :
    SpellsWord (prettyFields fields level) (fieldTokens fields) := by
  induction fields with
  | nil => exact spells_nil.spellsWord
  | cons entry rest ih =>
      obtain ⟨key, value⟩ := entry
      have hrest := ih fun entry hentry => h entry (List.mem_cons_of_mem _ hentry)
      have hvalue := h (key, value) List.mem_cons_self
      have hkey : Spells (newLine level ++ quote key) [.text (some key)] :=
        (spells_newLine level).append (spells_quote key)
      have hafter : SpellsWord (':' :: ' ' :: value.prettyChars level)
          (.colon :: value.tokens) :=
        (spells_mark (c := ':') rfl).append_word
          ((spells_space (c := ' ') rfl).append_word hvalue)
      exact (hkey.append_word hafter).append_rest hrest rest.isEmpty

theorem Legible.spellsWord_prettyChars {v : Json} (h : v.Legible) (level : Nat) :
    SpellsWord (v.prettyChars level) v.tokens := by
  induction h generalizing level with
  | null => exact spellsWord_null
  | bool b =>
      cases b with
      | true => exact spellsWord_true
      | false => exact spellsWord_false
  | number h => exact h.spellsWord
  | string s => exact (spells_quote s).spellsWord
  | @array items _ ih =>
      cases items with
      | nil => exact (spells_nil.spellsWord.enclose rfl rfl).spellsWord
      | cons item rest =>
          have hitems := spellsWord_prettyItems fun v hv => ih v hv (level + 1)
          exact ((hitems.append_newLine level).spellsWord.enclose rfl rfl).spellsWord
  | @object fields _ _ ih =>
      cases fields with
      | nil => exact (spells_nil.spellsWord.enclose rfl rfl).spellsWord
      | cons entry rest =>
          have hfields := spellsWord_prettyFields fun entry hentry =>
            ih entry hentry (level + 1)
          exact ((hfields.append_newLine level).spellsWord.enclose rfl rfl).spellsWord

end ParamRules.Json
