import LoxSyntax.Proofs.NodeModel.Resolution
import LoxSyntax.Schema.Lox
import LoxSyntax.Tree.Node

/-! # The syntax trees are the generated node model

The Lox syntax trees are the node model that the generator emits for the Lox grammars,
read as Lean types. `HasFieldType` gives the field type that each Lean type of a node's
argument stands for: a token, a literal payload, a node of a family, a list or an
optional value, and for a function declaration the struct of the `Function` node, which
a class lists among its methods. The shape of a tree is its variant and its fields in
order, each field's identifier with the field type of the argument stored there; the
field types come from the arguments' Lean types, not from a table.

`trees_are_generated_nodes`: the Lox grammars read and resolve to the `Expr` and `Stmt`
families, which every emission of them lays out behind the imports, whatever the code
tools; the nodes of each family have, in order, the shapes of one tree of each form, and
every tree has the shape of a node of its family.
-/

namespace LoxSyntax.NodeModel

/-- A node's variant and its fields in order, each as its identifier and field type. -/
abbrev NodeShape := String × List (String × FieldType)

/-- The shapes of a family's nodes, in order. -/
def Family.shapes (f : Family) : List NodeShape :=
  f.nodes.map fun n => (n.variant, n.fields.map fun (i, t) => (i.text, t))

end LoxSyntax.NodeModel

namespace LoxSyntax.Tree

open LoxSyntax.NodeModel LoxSyntax.Schema LoxSyntax.Code

/-- The field type a Lean type stands for as the argument of a node. -/
class HasFieldType (α : Type) where
  fieldType : FieldType

instance : HasFieldType Token := ⟨.token⟩

instance : HasFieldType Literal := ⟨.literal⟩

instance : HasFieldType Expr := ⟨.node "Expr"⟩

instance : HasFieldType Stmt := ⟨.node "Stmt"⟩

/-- A function declaration is the struct of the `Function` statement node. -/
instance : HasFieldType FunctionDecl := ⟨.named (nodeTypeName "Function" "Stmt")⟩

instance {α : Type} [HasFieldType α] : HasFieldType (List α) :=
  ⟨.list (@HasFieldType.fieldType α _)⟩

instance {α : Type} [HasFieldType α] : HasFieldType (Option α) :=
  ⟨.optional (@HasFieldType.fieldType α _)⟩

/-- A field of a node: its identifier, and the field type of the argument stored there. -/
def field {α : Type} [HasFieldType α] (ident : String) (_ : α) : String × FieldType :=
  (ident, @HasFieldType.fieldType α _)

/-- The fields of a function declaration, those of the `Function` node. -/
def FunctionDecl.fields : FunctionDecl → List (String × FieldType)
  | .mk name params body => [field "name" name, field "params" params, field "body" body]

/-- The variant of an expression and its fields. -/
def Expr.shape : Expr → NodeShape
  | .assign name value => ("Assign", [field "name" name, field "value" value])
  | .binary left operator right =>
    ("Binary", [field "left" left, field "operator" operator, field "right" right])
  | .call callee paren arguments =>
    ("Call", [field "callee" callee, field "paren" paren, field "arguments" arguments])
  | .get object name => ("Get", [field "object" object, field "name" name])
  | .grouping expression => ("Grouping", [field "expression" expression])
  | .literal value => ("Literal", [field "value" value])
  | .logical left operator right =>
    ("Logical", [field "left" left, field "operator" operator, field "right" right])
  | .set object name value =>
    ("Set", [field "object" object, field "name" name, field "value" value])
  | .super keyword method => ("Super", [field "keyword" keyword, field "method" method])
  | .this keyword => ("This", [field "keyword" keyword])
  | .unary operator right => ("Unary", [field "operator" operator, field "right" right])
  | .variable name => ("Variable", [field "name" name])

/-- The variant of a statement and its fields; a function statement holds the fields of
its declaration. -/
def Stmt.shape : Stmt → NodeShape
  | .block statements => ("Block", [field "statements" statements])
  | .classDecl name superclass methods =>
    ("Class", [field "name" name, field "superclass" superclass, field "methods" methods])
  | .expression value => ("Expression", [field "expression" value])
  | .function decl => ("Function", decl.fields)
  | .ifElse condition thenBranch elseBranch =>
    ("If", [field "condition" condition, field "then_branch" thenBranch,
      field "else_branch" elseBranch])
  | .print value => ("Print", [field "expression" value])
  | .returnValue keyword value => ("Return", [field "keyword" keyword, field "value" value])
  | .var name initializer => ("Var", [field "name" name, field "initializer" initializer])
  | .whileLoop condition body => ("While", [field "condition" condition, field "body" body])

/-- One expression of each form, in the order of the grammar. -/
def Expr.forms : List Expr :=
  [.assign default default, .binary default default default, .call default default [],
    .get default default, .grouping default, .literal default,
    .logical default default default, .set default default default, .super default default,
    .this default, .unary default default, .variable default]

/-- One statement of each form, in the order of the grammar. -/
def Stmt.forms : List Stmt :=
  [.block [], .classDecl default none [], .expression default, .function (.mk default [] []),
    .ifElse default default none, .print default, .returnValue default none, .var default none,
    .whileLoop default default]

/-- A shape depends on the form of an expression only, so every expression has the shape of
one of the forms. -/
theorem Expr.shape_mem_forms (e : Expr) : e.shape ∈ Expr.forms.map Expr.shape := by
  cases e <;> simp [Expr.forms, Expr.shape, field]

/-- Every statement has the shape of one of the forms. -/
theorem Stmt.shape_mem_forms (s : Stmt) : s.shape ∈ Stmt.forms.map Stmt.shape := by
  cases s with
  | function decl =>
    cases decl
    simp [Stmt.forms, Stmt.shape, FunctionDecl.fields, field]
  | _ => simp [Stmt.forms, Stmt.shape, field]

/-- **The trees are the generated nodes.** The Lox grammars read and resolve to an `Expr`
and a `Stmt` family, which every emission of the grammars lays out behind the imports. The
nodes of each family have, in order, the shapes of the forms of its trees, and every tree
has the shape of a node of its family: its variant, and its fields in order with the field
types of its arguments. -/
theorem trees_are_generated_nodes :
    ∃ gs exprs stmts, loxGrammars = .ok gs ∧
      gs.mapM (resolveGrammar (gs.map (·.baseName))) = .ok [exprs, stmts] ∧
      (∀ tools items, emitItems tools gs {} = .ok items →
        ∃ token literal, items = importItems token literal ++ exprs.items ++ stmts.items) ∧
      exprs.shapes = Expr.forms.map Expr.shape ∧ stmts.shapes = Stmt.forms.map Stmt.shape ∧
      (∀ e : Expr, e.shape ∈ exprs.shapes) ∧ (∀ s : Stmt, s.shape ∈ stmts.shapes) := by
  -- the one computation: the grammars are read and resolved, and the shapes compared
  have computed : (loxGrammars.toOption.bind fun gs =>
      (gs.mapM (resolveGrammar (gs.map (·.baseName)))).toOption.map (·.map Family.shapes)) =
      some [Expr.forms.map Expr.shape, Stmt.forms.map Stmt.shape] := by
    decide +kernel
  obtain ⟨gs, read, resolvedShapes⟩ := Option.bind_eq_some_iff.mp computed
  obtain ⟨families, resolved, shaped⟩ := Option.map_eq_some_iff.mp resolvedShapes
  rw [Except.toOption_eq_some] at read resolved
  -- the shapes are those of two families
  rcases families with _ | ⟨exprs, _ | ⟨stmts, _ | ⟨_, _⟩⟩⟩ <;> simp at shaped
  obtain ⟨exprShapes, stmtShapes⟩ := shaped
  refine ⟨gs, exprs, stmts, read, resolved, fun tools items emitted => ?_, exprShapes,
    stmtShapes, fun e => exprShapes ▸ e.shape_mem_forms, fun s => stmtShapes ▸ s.shape_mem_forms⟩
  obtain ⟨-, -, -, token, literal, families, -, -, resolvedAgain, rfl⟩ :=
    emitItems_eq_ok_iff.mp emitted
  -- emission resolves the grammars as above
  rw [resolved] at resolvedAgain
  cases resolvedAgain
  exact ⟨token, literal, by simp⟩

end LoxSyntax.Tree
