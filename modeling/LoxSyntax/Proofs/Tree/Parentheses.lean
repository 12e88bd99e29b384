import Mathlib.Data.List.Basic
import LoxSyntax.Tree.Printer

/-! # The printed form is well parenthesised

A tree prints in prefix form, each node with parts as a parenthesised group. A text is
*balanced* when no prefix closes more parentheses than it opens and the whole closes as many
as it opens (`Balanced`); it is *enclosed* when it is one group, an opening parenthesis, a
balanced text and the parenthesis that closes the first (`Enclosed`).

The printer writes some texts as they are: the lexemes of the tokens it prints and the string
literals (`Expr.printedTexts`, `Stmt.printedTexts`). Number texts hold digits, a point, a sign
or a word, and no parenthesis (`parenFree_numberText`). When the texts written as they are hold
no parenthesis either, every statement prints enclosed, and so does every expression but a
literal, a variable and `this`, which print without parentheses (`toPrefix_balanced`).

Balance is closed under joining texts (`Balanced.append`), so a parenthesised list of a
balanced head and balanced parts is enclosed (`enclosed_parenthesize`), whatever the head: a
class head holds its superclass's print, a function head its parameter list in parentheses.
The proof follows the printer: one case per node, expressions by the printer's own induction,
statements and function declarations together with their lists.
-/

namespace LoxSyntax.Tree

/-- No prefix closes more parentheses than it opens, and the whole closes as many as it
opens. -/
def Balanced (cs : List Char) : Prop :=
  (∀ k, (cs.take k).count ')' ≤ (cs.take k).count '(') ∧ cs.count ')' = cs.count '('

/-- One parenthesised group: an opening parenthesis, a balanced text, and the parenthesis
that closes the opening one. -/
def Enclosed (cs : List Char) : Prop :=
  ∃ inner, Balanced inner ∧ cs = '(' :: (inner ++ [')'])

/-- A text with no parenthesis. -/
def ParenFree (cs : List Char) : Prop := '(' ∉ cs ∧ ')' ∉ cs

/-! ## Balanced texts -/

/-- A text without parentheses is balanced. -/
theorem ParenFree.balanced {cs : List Char} (free : ParenFree cs) : Balanced cs := by
  have none : cs.count '(' = 0 ∧ cs.count ')' = 0 :=
    ⟨List.count_eq_zero.mpr free.1, List.count_eq_zero.mpr free.2⟩
  refine ⟨fun k => ?_, by omega⟩
  have closing := (List.take_prefix k cs).count_le ')'
  omega

/-- Two texts without parentheses joined have none. -/
theorem ParenFree.append {a b : List Char} (left : ParenFree a) (right : ParenFree b) :
    ParenFree (a ++ b) := by
  simp only [ParenFree, List.mem_append, not_or] at *
  exact ⟨⟨left.1, right.1⟩, ⟨left.2, right.2⟩⟩

/-- Texts without parentheses joined by a separator without any have none. -/
theorem ParenFree.intercalate {sep : List Char} (free : ParenFree sep) :
    ∀ {pieces : List (List Char)}, (∀ p ∈ pieces, ParenFree p) →
      ParenFree (sep.intercalate pieces)
  | [], _ => by simp [ParenFree]
  | [p], each => by simpa using each p List.mem_cons_self
  | p :: q :: rest, each => by
    rw [List.intercalate_cons_cons]
    exact ((each p List.mem_cons_self).append free).append
      (ParenFree.intercalate free fun r member => each r (List.mem_cons_of_mem p member))

/-- Two balanced texts joined are balanced: a prefix of the join is the first text with a
prefix of the second, or a prefix of the first. -/
theorem Balanced.append {a b : List Char} (left : Balanced a) (right : Balanced b) :
    Balanced (a ++ b) := by
  refine ⟨fun k => ?_, by simp [List.count_append, left.2, right.2]⟩
  rw [List.take_append, List.count_append, List.count_append]
  by_cases within : k ≤ a.length
  · -- the prefix ends inside `a`
    have rest : k - a.length = 0 := by omega
    have early := left.1 k
    simp [rest, early]
  · -- the prefix holds all of `a`, which closes what it opens
    rw [List.take_of_length_le (by omega)]
    have later := right.1 (k - a.length)
    have whole := left.2
    omega

/-- Balanced texts joined in order are balanced. -/
theorem balanced_flatMap {α : Type} {f : α → List Char} :
    ∀ {xs : List α}, (∀ x ∈ xs, Balanced (f x)) → Balanced (xs.flatMap f)
  | [], _ => (show ParenFree [] by simp [ParenFree]).balanced
  | x :: rest, each => by
    rw [List.flatMap_cons]
    exact (each x List.mem_cons_self).append
      (balanced_flatMap fun y member => each y (List.mem_cons_of_mem x member))

/-- An enclosed text is balanced: inside, the opening parenthesis is never closed early. -/
theorem Enclosed.balanced {cs : List Char} (enclosed : Enclosed cs) : Balanced cs := by
  obtain ⟨inner, ⟨prefixes, total⟩, rfl⟩ := enclosed
  refine ⟨fun k => ?_, by simp [total]⟩
  cases k with
  | zero => simp
  | succ k =>
    rw [List.take_succ_cons, List.take_append]
    have early := prefixes k
    by_cases within : k ≤ inner.length
    · -- the prefix stops inside the group, below the opening parenthesis
      have rest : k - inner.length = 0 := by omega
      simp [rest]
      omega
    · -- the prefix reaches the parenthesis that closes the opening one
      have closing := (List.take_prefix (k - inner.length) [')']).count_le ')'
      rw [List.take_of_length_le (by omega)]
      simp at closing ⊢
      omega

/-- A parenthesised list of a balanced head and balanced parts is one group. -/
theorem enclosed_parenthesize {head : String} {parts : List String}
    (balancedHead : Balanced head.toList) (balancedParts : ∀ p ∈ parts, Balanced p.toList) :
    Enclosed (parenthesize head parts).toList := by
  have spaced : ∀ p ∈ parts.map (" " ++ ·), Balanced p.toList := by
    intro p member
    obtain ⟨q, present, rfl⟩ := List.mem_map.mp member
    rw [String.toList_append]
    exact (show ParenFree " ".toList by simp [ParenFree]).balanced.append (balancedParts q present)
  refine ⟨head.toList ++ (parts.map (" " ++ ·)).flatMap String.toList,
    balancedHead.append (balanced_flatMap spaced), ?_⟩
  simp [parenthesize, String.toList_append]

/-- The same with the parts' balance given one part after another, as a node's printer lists
them. -/
theorem enclosed_parenthesize_of_forall {head : String} {parts : List String}
    (balancedHead : Balanced head.toList) (balancedParts : parts.Forall (Balanced ·.toList)) :
    Enclosed (parenthesize head parts).toList :=
  enclosed_parenthesize balancedHead (List.forall_iff_forall_mem.mp balancedParts)

/-! ## Texts printed as they are -/

/-- The text of a payload printed as it is: a string's own text. -/
def Literal.printedTexts : Literal → List String
  | .str s => [s]
  | _ => []

/-- The texts an expression prints as they are: the lexemes of the tokens it prints and its
string literals. A call's parenthesis and the keywords of `super` and `this` are not printed. -/
def Expr.printedTexts : Expr → List String
  | .assign name value => name.lexeme :: value.printedTexts
  | .binary left op right => op.lexeme :: left.printedTexts ++ right.printedTexts
  | .call callee _ arguments =>
    callee.printedTexts ++ arguments.attach.flatMap fun ⟨a, _⟩ => a.printedTexts
  | .get object name => name.lexeme :: object.printedTexts
  | .grouping e => e.printedTexts
  | .literal value => value.printedTexts
  | .logical left op right => op.lexeme :: left.printedTexts ++ right.printedTexts
  | .set object name value => name.lexeme :: object.printedTexts ++ value.printedTexts
  | .super _ method => [method.lexeme]
  | .this _ => []
  | .unary op right => op.lexeme :: right.printedTexts
  | .variable name => [name.lexeme]

mutual
/-- The texts a statement prints as they are. The keyword of `return` is not printed. -/
def Stmt.printedTexts : Stmt → List String
  | .block statements => Stmt.printedTextsAll statements
  | .classDecl name superclass methods =>
    name.lexeme :: (superclass.map Expr.printedTexts).getD [] ++
      FunctionDecl.printedTextsAll methods
  | .expression e => e.printedTexts
  | .function decl => decl.printedTexts
  | .ifElse condition thenBranch elseBranch =>
    match elseBranch with
    | some e => condition.printedTexts ++ thenBranch.printedTexts ++ e.printedTexts
    | none => condition.printedTexts ++ thenBranch.printedTexts
  | .print e => e.printedTexts
  | .returnValue _ value => (value.map Expr.printedTexts).getD []
  | .var name initializer => name.lexeme :: (initializer.map Expr.printedTexts).getD []
  | .whileLoop condition body => condition.printedTexts ++ body.printedTexts

def Stmt.printedTextsAll : List Stmt → List String
  | [] => []
  | s :: rest => s.printedTexts ++ Stmt.printedTextsAll rest

/-- The texts a function declaration prints as they are: its name and parameters, and its
body's. -/
def FunctionDecl.printedTexts : FunctionDecl → List String
  | .mk name params body => name.lexeme :: params.map (·.lexeme) ++ Stmt.printedTextsAll body

def FunctionDecl.printedTextsAll : List FunctionDecl → List String
  | [] => []
  | f :: rest => f.printedTexts ++ FunctionDecl.printedTextsAll rest
end

/-! ## Payloads -/

/-- A number written in positional notation holds only digits and a point. -/
theorem mem_positional {d : Decimal.Dec} {c : Char} (member : c ∈ d.positional.toList) :
    c.isDigit = true ∨ c = '.' := by
  have digit : ∀ c ∈ Decimal.digitChars d.digits, c.isDigit = true :=
    fun c present => Nat.isDigit_of_mem_toDigits (by decide) (by decide) present
  unfold Decimal.Dec.positional at member
  dsimp only at member
  split at member
  · simp only [String.toList_ofList, List.mem_append, List.mem_replicate] at member
    rcases member with present | ⟨-, rfl⟩
    · exact .inl (digit c present)
    · exact .inl (by decide)
  · split at member
    · simp only [String.toList_ofList, List.mem_append, List.mem_cons] at member
      rcases member with present | rfl | present
      · exact .inl (digit c (List.mem_of_mem_take present))
      · exact .inr rfl
      · exact .inl (digit c (List.mem_of_mem_drop present))
    · simp only [String.toList_ofList, List.mem_cons, List.mem_append,
        List.mem_replicate] at member
      rcases member with (rfl | rfl | ⟨-, rfl⟩) | present
      · exact .inl (by decide)
      · exact .inr rfl
      · exact .inl (by decide)
      · exact .inl (digit c present)

/-- Digits and points are no parentheses. -/
theorem parenFree_of_digits {cs : List Char} (each : ∀ c ∈ cs, c.isDigit = true ∨ c = '.') :
    ParenFree cs := by
  refine ⟨fun opening => ?_, fun closing => ?_⟩
  · rcases each _ opening with digit | point
    · simp [Char.isDigit] at digit
    · simp at point
  · rcases each _ closing with digit | point
    · simp [Char.isDigit] at digit
    · simp at point

/-- A number prints without parentheses: digits and a point after an optional sign, or one of
`NaN`, `inf` and `-inf`. -/
theorem parenFree_numberText (x : Float) : ParenFree (numberText x).toList := by
  unfold numberText
  dsimp only
  split
  · split
    · simp [ParenFree]
    · split <;> simp [ParenFree]
  · rw [String.toList_append]
    refine ParenFree.append ?_ (parenFree_of_digits fun c member => mem_positional member)
    split <;> simp [ParenFree]

/-- A literal is displayed without parentheses when its texts have none: numbers never do. -/
theorem Literal.parenFree_display {value : Literal}
    (plain : ∀ t ∈ value.printedTexts, ParenFree t.toList) :
    ParenFree value.display.toList := by
  cases value with
  | nil => simp [Literal.display, ParenFree]
  | bool b => cases b <;> simp [Literal.display, ParenFree]
  | number x => exact parenFree_numberText x
  | str s => exact plain s (by simp [Literal.printedTexts])

/-! ## Expressions -/

/-- One group is balanced, and it is the group asked for under any conditions. -/
theorem Enclosed.shape {cs : List Char} {A B C : Prop} (enclosed : Enclosed cs) :
    Balanced cs ∧ (A → B → C → Enclosed cs) :=
  ⟨enclosed.balanced, fun _ _ _ => enclosed⟩

mutual
/-- An expression whose texts printed as they are hold no parenthesis prints balanced, and as
one group unless it is a literal, a variable or `this`. -/
theorem Expr.toPrefix_shape : (e : Expr) → (∀ t ∈ e.printedTexts, ParenFree t.toList) →
    Balanced e.toPrefix.toList ∧
      ((∀ v, e ≠ .literal v) → (∀ t, e ≠ .variable t) → (∀ t, e ≠ .this t) →
        Enclosed e.toPrefix.toList)
  | .assign name value, plain => by
    have nameFree : ParenFree name.lexeme.toList := plain _ (by simp [Expr.printedTexts])
    have valuePlain : ∀ t ∈ value.printedTexts, ParenFree t.toList :=
      fun t member => plain t (by simp [Expr.printedTexts, member])
    rw [Expr.toPrefix]
    refine (enclosed_parenthesize_of_forall (ParenFree.balanced (by simp [ParenFree])) ?_).shape
    exact ⟨nameFree.balanced, (Expr.toPrefix_shape value valuePlain).1⟩
  | .binary left op right, plain => by
    have opFree : ParenFree op.lexeme.toList := plain _ (by simp [Expr.printedTexts])
    have leftPlain : ∀ t ∈ left.printedTexts, ParenFree t.toList :=
      fun t member => plain t (by simp [Expr.printedTexts, member])
    have rightPlain : ∀ t ∈ right.printedTexts, ParenFree t.toList :=
      fun t member => plain t (by simp [Expr.printedTexts, member])
    rw [Expr.toPrefix]
    refine (enclosed_parenthesize_of_forall opFree.balanced ?_).shape
    exact ⟨(Expr.toPrefix_shape left leftPlain).1, (Expr.toPrefix_shape right rightPlain).1⟩
  | .call callee paren arguments, plain => by
    have calleePlain : ∀ t ∈ callee.printedTexts, ParenFree t.toList :=
      fun t member => plain t (by simp [Expr.printedTexts, member])
    have argumentsPlain : ∀ a ∈ arguments, ∀ t ∈ a.printedTexts, ParenFree t.toList :=
      fun a present t member => plain t (by
        simp only [Expr.printedTexts, List.mem_append, List.mem_flatMap]
        exact .inr ⟨⟨a, present⟩, List.mem_attach _ _, member⟩)
    have arguments := Expr.balanced_toPrefixAll arguments argumentsPlain
    rw [Expr.toPrefix]
    refine (enclosed_parenthesize (ParenFree.balanced (by simp [ParenFree])) ?_).shape
    intro p member
    rcases List.mem_cons.mp member with rfl | argument
    · exact (Expr.toPrefix_shape callee calleePlain).1
    · obtain ⟨⟨a, present⟩, -, rfl⟩ := List.mem_map.mp argument
      exact arguments a present
  | .get object name, plain => by
    have nameFree : ParenFree name.lexeme.toList := plain _ (by simp [Expr.printedTexts])
    have objectPlain : ∀ t ∈ object.printedTexts, ParenFree t.toList :=
      fun t member => plain t (by simp [Expr.printedTexts, member])
    rw [Expr.toPrefix]
    refine (enclosed_parenthesize_of_forall (ParenFree.balanced (by simp [ParenFree])) ?_).shape
    exact ⟨(Expr.toPrefix_shape object objectPlain).1, nameFree.balanced⟩
  | .grouping e, plain => by
    have inner : ∀ t ∈ e.printedTexts, ParenFree t.toList :=
      fun t member => plain t (by simp [Expr.printedTexts, member])
    rw [Expr.toPrefix]
    refine (enclosed_parenthesize_of_forall (ParenFree.balanced (by simp [ParenFree])) ?_).shape
    exact (Expr.toPrefix_shape e inner).1
  | .literal value, plain => by
    have payload : ∀ t ∈ value.printedTexts, ParenFree t.toList :=
      fun t member => plain t (by simp [Expr.printedTexts, member])
    rw [Expr.toPrefix]
    exact ⟨(Literal.parenFree_display payload).balanced,
      fun bare _ _ => absurd rfl (bare value)⟩
  | .logical left op right, plain => by
    have opFree : ParenFree op.lexeme.toList := plain _ (by simp [Expr.printedTexts])
    have leftPlain : ∀ t ∈ left.printedTexts, ParenFree t.toList :=
      fun t member => plain t (by simp [Expr.printedTexts, member])
    have rightPlain : ∀ t ∈ right.printedTexts, ParenFree t.toList :=
      fun t member => plain t (by simp [Expr.printedTexts, member])
    rw [Expr.toPrefix]
    refine (enclosed_parenthesize_of_forall opFree.balanced ?_).shape
    exact ⟨(Expr.toPrefix_shape left leftPlain).1, (Expr.toPrefix_shape right rightPlain).1⟩
  | .set object name value, plain => by
    have nameFree : ParenFree name.lexeme.toList := plain _ (by simp [Expr.printedTexts])
    have objectPlain : ∀ t ∈ object.printedTexts, ParenFree t.toList :=
      fun t member => plain t (by simp [Expr.printedTexts, member])
    have valuePlain : ∀ t ∈ value.printedTexts, ParenFree t.toList :=
      fun t member => plain t (by simp [Expr.printedTexts, member])
    rw [Expr.toPrefix]
    -- the target is a group of its own inside the assignment's group
    have target : Enclosed (parenthesize "." [object.toPrefix, name.lexeme]).toList := by
      refine enclosed_parenthesize_of_forall (ParenFree.balanced (by simp [ParenFree])) ?_
      exact ⟨(Expr.toPrefix_shape object objectPlain).1, nameFree.balanced⟩
    refine (enclosed_parenthesize_of_forall (ParenFree.balanced (by simp [ParenFree])) ?_).shape
    exact ⟨target.balanced, (Expr.toPrefix_shape value valuePlain).1⟩
  | .super keyword method, plain => by
    have methodFree : ParenFree method.lexeme.toList := plain _ (by simp [Expr.printedTexts])
    rw [Expr.toPrefix]
    refine (enclosed_parenthesize_of_forall (ParenFree.balanced (by simp [ParenFree])) ?_).shape
    exact methodFree.balanced
  | .this keyword, _ => by
    rw [Expr.toPrefix]
    exact ⟨ParenFree.balanced (by simp [ParenFree]), fun _ _ bare => absurd rfl (bare keyword)⟩
  | .unary op right, plain => by
    have opFree : ParenFree op.lexeme.toList := plain _ (by simp [Expr.printedTexts])
    have rightPlain : ∀ t ∈ right.printedTexts, ParenFree t.toList :=
      fun t member => plain t (by simp [Expr.printedTexts, member])
    rw [Expr.toPrefix]
    refine (enclosed_parenthesize_of_forall opFree.balanced ?_).shape
    exact (Expr.toPrefix_shape right rightPlain).1
  | .variable name, plain => by
    have nameFree : ParenFree name.lexeme.toList := plain _ (by simp [Expr.printedTexts])
    rw [Expr.toPrefix]
    exact ⟨nameFree.balanced, fun _ bare _ => absurd rfl (bare name)⟩

/-- The prints of expressions whose texts have no parentheses are balanced. -/
theorem Expr.balanced_toPrefixAll : (es : List Expr) →
    (∀ e ∈ es, ∀ t ∈ e.printedTexts, ParenFree t.toList) →
      ∀ e ∈ es, Balanced e.toPrefix.toList
  | [], _ => by simp
  | e :: rest, plain => by
    have first := (Expr.toPrefix_shape e (plain e List.mem_cons_self)).1
    have later := Expr.balanced_toPrefixAll rest
      (fun f present => plain f (List.mem_cons_of_mem e present))
    intro f member
    rcases List.mem_cons.mp member with rfl | inRest
    · exact first
    · exact later f inRest
end

/-! ## Statements -/

/-- The head of a function declaration is balanced: its parameter list is one group. -/
theorem balanced_functionHead {name : Token} {params : List Token}
    (nameFree : ParenFree name.lexeme.toList)
    (paramsFree : ∀ p ∈ params, ParenFree p.lexeme.toList) :
    Balanced ("fun " ++ name.lexeme ++ "(" ++ " ".intercalate (params.map (·.lexeme)) ++
      ")").toList := by
  have listed : ParenFree (" ".intercalate (params.map (·.lexeme))).toList := by
    rw [String.toList_intercalate, List.map_map]
    refine ParenFree.intercalate (by simp [ParenFree]) fun p member => ?_
    obtain ⟨param, present, rfl⟩ := List.mem_map.mp member
    exact paramsFree param present
  have group : Enclosed ('(' :: ((" ".intercalate (params.map (·.lexeme))).toList ++ [')'])) :=
    ⟨_, listed.balanced, rfl⟩
  have start : ParenFree ("fun ".toList ++ name.lexeme.toList) :=
    (show ParenFree "fun ".toList by simp [ParenFree]).append nameFree
  have joined := start.balanced.append group.balanced
  simpa [String.toList_append] using joined

mutual
/-- A statement whose texts printed as they are hold no parenthesis prints as one group. -/
theorem Stmt.enclosed_toPrefix : (s : Stmt) → (∀ t ∈ s.printedTexts, ParenFree t.toList) →
    Enclosed s.toPrefix.toList
  | .block statements, plain => by
    have body := Stmt.balanced_toPrefixAll statements
      (fun t member => plain t (by simp [Stmt.printedTexts, member]))
    simp only [Stmt.toPrefix]
    exact enclosed_parenthesize (ParenFree.balanced (by simp [ParenFree])) body
  | .classDecl name (some superclass) methods, plain => by
    have nameFree : ParenFree name.lexeme.toList := plain _ (by simp [Stmt.printedTexts])
    have superPlain : ∀ t ∈ superclass.printedTexts, ParenFree t.toList :=
      fun t member => plain t (by simp [Stmt.printedTexts, member])
    have methods := FunctionDecl.balanced_toPrefixAll methods
      (fun t member => plain t (by simp [Stmt.printedTexts, member]))
    -- the head holds the superclass's print, which is balanced
    have head : Balanced ("class " ++ name.lexeme ++ " < " ++ superclass.toPrefix).toList := by
      have start : ParenFree ("class ".toList ++ name.lexeme.toList ++ " < ".toList) :=
        ((show ParenFree "class ".toList by simp [ParenFree]).append nameFree).append
          (by simp [ParenFree])
      have joined := start.balanced.append (Expr.toPrefix_shape superclass superPlain).1
      simpa [String.toList_append] using joined
    simp only [Stmt.toPrefix]
    exact enclosed_parenthesize head methods
  | .classDecl name none methods, plain => by
    have nameFree : ParenFree name.lexeme.toList := plain _ (by simp [Stmt.printedTexts])
    have methods := FunctionDecl.balanced_toPrefixAll methods
      (fun t member => plain t (by simp [Stmt.printedTexts, member]))
    have head : Balanced ("class " ++ name.lexeme).toList := by
      rw [String.toList_append]
      exact ((show ParenFree "class ".toList by simp [ParenFree]).append nameFree).balanced
    simp only [Stmt.toPrefix]
    exact enclosed_parenthesize head methods
  | .expression e, plain => by
    have inner : ∀ t ∈ e.printedTexts, ParenFree t.toList :=
      fun t member => plain t (by simp [Stmt.printedTexts, member])
    simp only [Stmt.toPrefix]
    refine enclosed_parenthesize_of_forall (ParenFree.balanced (by simp [ParenFree])) ?_
    exact (Expr.toPrefix_shape e inner).1
  | .function decl, plain => by
    simp only [Stmt.toPrefix]
    exact FunctionDecl.enclosed_toPrefix decl
      (fun t member => plain t (by simp [Stmt.printedTexts, member]))
  | .ifElse condition thenBranch (some elseBranch), plain => by
    have conditionPlain : ∀ t ∈ condition.printedTexts, ParenFree t.toList :=
      fun t member => plain t (by simp [Stmt.printedTexts, member])
    have thenPlain : ∀ t ∈ thenBranch.printedTexts, ParenFree t.toList :=
      fun t member => plain t (by simp [Stmt.printedTexts, member])
    have elsePlain : ∀ t ∈ elseBranch.printedTexts, ParenFree t.toList :=
      fun t member => plain t (by simp [Stmt.printedTexts, member])
    simp only [Stmt.toPrefix]
    refine enclosed_parenthesize_of_forall (ParenFree.balanced (by simp [ParenFree])) ?_
    exact ⟨(Expr.toPrefix_shape condition conditionPlain).1,
      (Stmt.enclosed_toPrefix thenBranch thenPlain).balanced,
      (Stmt.enclosed_toPrefix elseBranch elsePlain).balanced⟩
  | .ifElse condition thenBranch none, plain => by
    have conditionPlain : ∀ t ∈ condition.printedTexts, ParenFree t.toList :=
      fun t member => plain t (by simp [Stmt.printedTexts, member])
    have thenPlain : ∀ t ∈ thenBranch.printedTexts, ParenFree t.toList :=
      fun t member => plain t (by simp [Stmt.printedTexts, member])
    simp only [Stmt.toPrefix]
    refine enclosed_parenthesize_of_forall (ParenFree.balanced (by simp [ParenFree])) ?_
    exact ⟨(Expr.toPrefix_shape condition conditionPlain).1,
      (Stmt.enclosed_toPrefix thenBranch thenPlain).balanced⟩
  | .print e, plain => by
    have inner : ∀ t ∈ e.printedTexts, ParenFree t.toList :=
      fun t member => plain t (by simp [Stmt.printedTexts, member])
    simp only [Stmt.toPrefix]
    refine enclosed_parenthesize_of_forall (ParenFree.balanced (by simp [ParenFree])) ?_
    exact (Expr.toPrefix_shape e inner).1
  | .returnValue keyword (some value), plain => by
    have valuePlain : ∀ t ∈ value.printedTexts, ParenFree t.toList :=
      fun t member => plain t (by simp [Stmt.printedTexts, member])
    simp only [Stmt.toPrefix]
    refine enclosed_parenthesize_of_forall (ParenFree.balanced (by simp [ParenFree])) ?_
    exact (Expr.toPrefix_shape value valuePlain).1
  | .returnValue keyword none, _ => by
    simp only [Stmt.toPrefix]
    exact enclosed_parenthesize (ParenFree.balanced (by simp [ParenFree])) (by simp)
  | .var name (some initializer), plain => by
    have nameFree : ParenFree name.lexeme.toList := plain _ (by simp [Stmt.printedTexts])
    have initPlain : ∀ t ∈ initializer.printedTexts, ParenFree t.toList :=
      fun t member => plain t (by simp [Stmt.printedTexts, member])
    simp only [Stmt.toPrefix]
    refine enclosed_parenthesize_of_forall (ParenFree.balanced (by simp [ParenFree])) ?_
    exact ⟨nameFree.balanced, ParenFree.balanced (by simp [ParenFree]),
      (Expr.toPrefix_shape initializer initPlain).1⟩
  | .var name none, plain => by
    have nameFree : ParenFree name.lexeme.toList := plain _ (by simp [Stmt.printedTexts])
    simp only [Stmt.toPrefix]
    refine enclosed_parenthesize_of_forall (ParenFree.balanced (by simp [ParenFree])) ?_
    exact nameFree.balanced
  | .whileLoop condition body, plain => by
    have conditionPlain : ∀ t ∈ condition.printedTexts, ParenFree t.toList :=
      fun t member => plain t (by simp [Stmt.printedTexts, member])
    have bodyPlain : ∀ t ∈ body.printedTexts, ParenFree t.toList :=
      fun t member => plain t (by simp [Stmt.printedTexts, member])
    simp only [Stmt.toPrefix]
    refine enclosed_parenthesize_of_forall (ParenFree.balanced (by simp [ParenFree])) ?_
    exact ⟨(Expr.toPrefix_shape condition conditionPlain).1,
      (Stmt.enclosed_toPrefix body bodyPlain).balanced⟩

/-- The prints of statements whose texts have no parentheses are balanced. -/
theorem Stmt.balanced_toPrefixAll : (ss : List Stmt) →
    (∀ t ∈ Stmt.printedTextsAll ss, ParenFree t.toList) →
      ∀ p ∈ Stmt.toPrefixAll ss, Balanced p.toList
  | [], _ => by simp [Stmt.toPrefixAll]
  | s :: rest, plain => by
    have first := (Stmt.enclosed_toPrefix s
      (fun t member => plain t (by simp [Stmt.printedTextsAll, member]))).balanced
    have later := Stmt.balanced_toPrefixAll rest
      (fun t member => plain t (by simp [Stmt.printedTextsAll, member]))
    intro p member
    rw [Stmt.toPrefixAll] at member
    rcases List.mem_cons.mp member with rfl | inRest
    · exact first
    · exact later p inRest

/-- A function declaration whose texts printed as they are hold no parenthesis prints as one
group. -/
theorem FunctionDecl.enclosed_toPrefix : (f : FunctionDecl) →
    (∀ t ∈ f.printedTexts, ParenFree t.toList) → Enclosed f.toPrefix.toList
  | .mk name params body, plain => by
    have nameFree : ParenFree name.lexeme.toList := plain _ (by simp [FunctionDecl.printedTexts])
    have paramsFree : ∀ p ∈ params, ParenFree p.lexeme.toList :=
      fun p present => plain _ (by
        simp only [FunctionDecl.printedTexts]
        exact List.mem_append_left _ (List.mem_cons_of_mem _ (List.mem_map_of_mem present)))
    have statements := Stmt.balanced_toPrefixAll body
      (fun t member => plain t (by simp [FunctionDecl.printedTexts, member]))
    simp only [FunctionDecl.toPrefix]
    exact enclosed_parenthesize (balanced_functionHead nameFree paramsFree) statements

/-- The prints of function declarations whose texts have no parentheses are balanced. -/
theorem FunctionDecl.balanced_toPrefixAll : (fs : List FunctionDecl) →
    (∀ t ∈ FunctionDecl.printedTextsAll fs, ParenFree t.toList) →
      ∀ p ∈ FunctionDecl.toPrefixAll fs, Balanced p.toList
  | [], _ => by simp [FunctionDecl.toPrefixAll]
  | f :: rest, plain => by
    have first := (FunctionDecl.enclosed_toPrefix f
      (fun t member => plain t (by simp [FunctionDecl.printedTextsAll, member]))).balanced
    have later := FunctionDecl.balanced_toPrefixAll rest
      (fun t member => plain t (by simp [FunctionDecl.printedTextsAll, member]))
    intro p member
    rw [FunctionDecl.toPrefixAll] at member
    rcases List.mem_cons.mp member with rfl | inRest
    · exact first
    · exact later p inRest
end

/-- **Balanced prints.** When the lexemes a tree prints and its string literals hold no
parenthesis, every expression and every statement prints balanced: no prefix closes more
parentheses than it opens, and the whole closes as many as it opens. A statement prints as one
group, its first parenthesis closed by its last character, and so does every expression other
than a literal, a variable or `this`. -/
theorem toPrefix_balanced :
    (∀ e : Expr, (∀ t ∈ e.printedTexts, ParenFree t.toList) →
      Balanced e.toPrefix.toList ∧
        ((∀ v, e ≠ .literal v) → (∀ t, e ≠ .variable t) → (∀ t, e ≠ .this t) →
          Enclosed e.toPrefix.toList)) ∧
    (∀ s : Stmt, (∀ t ∈ s.printedTexts, ParenFree t.toList) →
      Balanced s.toPrefix.toList ∧ Enclosed s.toPrefix.toList) := by
  refine ⟨Expr.toPrefix_shape, fun s plain => ?_⟩
  have enclosed := Stmt.enclosed_toPrefix s plain
  exact ⟨enclosed.balanced, enclosed⟩

/-- A printed call, `print f("x", -y);`, whose lexemes and strings hold no parenthesis, prints
balanced as one group. -/
theorem toPrefix_balanced_printCall :
    let call := Stmt.print (.call (.variable ⟨.identifier, "f", .nil, 1⟩)
      ⟨.rightParen, ")", .nil, 1⟩
      [.literal (.str "x"), .unary ⟨.minus, "-", .nil, 1⟩
        (.variable ⟨.identifier, "y", .nil, 1⟩)])
    (∀ t ∈ call.printedTexts, ParenFree t.toList) ∧
      Balanced call.toPrefix.toList ∧ Enclosed call.toPrefix.toList := by
  intro call
  have plain : ∀ t ∈ call.printedTexts, ParenFree t.toList := by
    simp [call, Stmt.printedTexts, Expr.printedTexts, Literal.printedTexts, ParenFree]
  exact ⟨plain, toPrefix_balanced.2 call plain⟩

/-- A class head holds its superclass's print and a function head its parameter list, each
balanced inside the statement's group. -/
example :
    (Stmt.classDecl ⟨.identifier, "B", .nil, 1⟩
      (some (.variable ⟨.identifier, "A", .nil, 1⟩))
      [.mk ⟨.identifier, "me", .nil, 1⟩ [⟨.identifier, "x", .nil, 1⟩]
        [.returnValue ⟨.return, "return", .nil, 1⟩
          (some (.this ⟨.this, "this", .nil, 1⟩))]]).toPrefix =
      "(class B < A (fun me(x) (return this)))" := by
  simp [Stmt.toPrefix, Expr.toPrefix, Stmt.toPrefixAll, FunctionDecl.toPrefix,
    FunctionDecl.toPrefixAll, parenthesize]

end LoxSyntax.Tree
