import ParamRules.Json.Reader
import ParamRules.Proofs.Json.PrintedNumber
import ParamRules.Proofs.Nesting

/-!
# The tokens of a value

Printing a value fixes its tokens, whatever blanks stand between them.  Assembled, they
give the tree of the value: the assembler comes back from every array and object to the
nodes that were open before it.
-/

namespace ParamRules.Json

/-! ## Trees and tokens -/

mutual

/-- The value as it is written. -/
def concrete : Json → Concrete
  | .null => .null
  | .bool b => .bool b
  | .number n => .numeral n.numeral
  | .string s => .text (some s)
  | .array items => .array (concreteItems items)
  | .object fields => .object (concreteFields fields)

/-- The items of an array as they are written. -/
def concreteItems : List Json → List Concrete
  | [] => []
  | item :: rest => item.concrete :: concreteItems rest

/-- The fields of an object as they are written. -/
def concreteFields : List (String × Json) → List (Option String × Concrete)
  | [] => []
  | (key, value) :: rest => (some key, value.concrete) :: concreteFields rest

end

mutual

/-- The tokens of a value. -/
def tokens : Json → List Token
  | .null => [.null]
  | .bool b => [.bool b]
  | .number n => [.numeral n.numeral]
  | .string s => [.text (some s)]
  | .array items => .openArray :: itemTokens items ++ [.closeArray]
  | .object fields => .openObject :: fieldTokens fields ++ [.closeObject]

/-- The tokens of the items of an array. -/
def itemTokens : List Json → List Token
  | [] => []
  | item :: rest => item.tokens ++ if rest.isEmpty then [] else .comma :: itemTokens rest

/-- The tokens of the fields of an object. -/
def fieldTokens : List (String × Json) → List Token
  | [] => []
  | (key, value) :: rest =>
      .text (some key) :: .colon :: value.tokens ++
        if rest.isEmpty then [] else .comma :: fieldTokens rest

end

/-! ## Assembly -/

namespace Assembly

/-- Takes the tokens of a text. -/
def run (state : Assembly) (tokens : List Token) : Option Assembly :=
  tokens.foldlM step state

theorem run_cons (state : Assembly) (token : Token) (rest : List Token) :
    run state (token :: rest) = (step state token).bind fun next => run next rest :=
  List.foldlM_cons

theorem run_append (state : Assembly) (front rest : List Token) :
    run state (front ++ rest) = (run state front).bind fun next => run next rest :=
  List.foldlM_append

end Assembly

open Assembly

/-- The tokens of the value take the assembler past the value, whatever is open. -/
def Assembles (v : Json) : Prop :=
  ∀ first stack, run ⟨stack, .value first⟩ v.tokens = some (complete v.concrete stack)

theorem run_itemTokens
    {items : List Json} (hitems : ∀ v ∈ items, v.Assembles) (hne : items ≠ [])
    (first : Bool) (reversed : List Concrete) (stack : List OpenNode) :
    run ⟨.array reversed :: stack, .value first⟩ (itemTokens items) =
      some ⟨.array ((concreteItems items).reverse ++ reversed) :: stack, .separator⟩ := by
  induction items generalizing first reversed with
  | nil => exact (hne rfl).elim
  | cons item rest ih =>
      have hitem := hitems item List.mem_cons_self first (.array reversed :: stack)
      rw [itemTokens, concreteItems, run_append, hitem, Option.bind_some]
      cases rest with
      | nil => rfl
      | cons next rest =>
          have hrest := ih (fun v hv => hitems v (List.mem_cons_of_mem _ hv))
            (List.cons_ne_nil _ _) false (item.concrete :: reversed)
          have hcomma : step (complete item.concrete (.array reversed :: stack)) .comma =
              some ⟨.array (item.concrete :: reversed) :: stack, .value false⟩ := rfl
          rw [List.isEmpty_cons, if_neg Bool.false_ne_true, run_cons, hcomma,
            Option.bind_some, hrest, List.reverse_cons, List.append_assoc,
            List.singleton_append]

theorem run_fieldTokens
    {fields : Fields} (hfields : ∀ entry ∈ fields, entry.2.Assembles) (hne : fields ≠ [])
    (first : Bool) (reversed : List (Option String × Concrete)) (stack : List OpenNode) :
    run ⟨.object reversed :: stack, .key first⟩ (fieldTokens fields) =
      some ⟨.object ((concreteFields fields).reverse ++ reversed) :: stack,
        .separator⟩ := by
  induction fields generalizing first reversed with
  | nil => exact (hne rfl).elim
  | cons entry rest ih =>
      obtain ⟨key, value⟩ := entry
      have hvalue := hfields (key, value) List.mem_cons_self false
        (.member reversed (some key) :: stack)
      have hkey : step ⟨.object reversed :: stack, .key first⟩ (.text (some key)) =
          some ⟨.member reversed (some key) :: stack, .colon⟩ := by
        cases first <;> rfl
      have hcolon : step ⟨.member reversed (some key) :: stack, .colon⟩ .colon =
          some ⟨.member reversed (some key) :: stack, .value false⟩ := rfl
      rw [fieldTokens, concreteFields, List.cons_append, List.cons_append, run_cons, hkey,
        Option.bind_some, run_cons, hcolon, Option.bind_some, run_append, hvalue,
        Option.bind_some]
      cases rest with
      | nil => rfl
      | cons next rest =>
          have hrest := ih (fun entry hentry => hfields entry (List.mem_cons_of_mem _ hentry))
            (List.cons_ne_nil _ _) false ((some key, value.concrete) :: reversed)
          have hcomma :
              step (complete value.concrete (.member reversed (some key) :: stack)) .comma =
                some ⟨.object ((some key, value.concrete) :: reversed) :: stack,
                  .key false⟩ := rfl
          rw [List.isEmpty_cons, if_neg Bool.false_ne_true, run_cons, hcomma,
            Option.bind_some, hrest, List.reverse_cons, List.append_assoc,
            List.singleton_append]

theorem assembles (v : Json) : v.Assembles := by
  induction v using Json.induction with
  | null => intro first stack; cases first <;> rfl
  | bool b => intro first stack; cases first <;> rfl
  | number n => intro first stack; cases first <;> rfl
  | string s => intro first stack; cases first <;> rfl
  | array items ih =>
      intro first stack
      have hopen : step ⟨stack, .value first⟩ .openArray =
          some ⟨.array [] :: stack, .value true⟩ := by
        cases first <;> rfl
      rw [tokens, List.cons_append, run_cons, hopen, Option.bind_some]
      cases items with
      | nil => rfl
      | cons item rest =>
          rw [run_append, run_itemTokens ih (List.cons_ne_nil _ _), Option.bind_some,
            List.append_nil]
          simp [run, step, concrete]
  | object fields ih =>
      intro first stack
      have hopen : step ⟨stack, .value first⟩ .openObject =
          some ⟨.object [] :: stack, .key true⟩ := by
        cases first <;> rfl
      rw [tokens, List.cons_append, run_cons, hopen, Option.bind_some]
      cases fields with
      | nil => rfl
      | cons entry rest =>
          rw [run_append, run_fieldTokens ih (List.cons_ne_nil _ _), Option.bind_some,
            List.append_nil]
          simp [run, step, concrete]

/-- The tokens of a value are assembled to its tree. -/
theorem ofTokens?_tokens (v : Json) : Concrete.ofTokens? v.tokens = some v.concrete := by
  have hrun : v.tokens.foldlM step start = some (complete v.concrete []) :=
    v.assembles false []
  rw [Concrete.ofTokens?, hrun, Option.bind_some]
  rfl

end ParamRules.Json
