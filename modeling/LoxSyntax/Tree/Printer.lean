import LoxSyntax.Tree.Node

/-! # Printing syntax trees

A tree is printed in prefix form: a node with parts is written as a
parenthesised list of a head and its parts, `(* (- 123) (group 45.67))`. A
literal is written as its payload, a variable as its name and `this` alone.
Statements print the same way: `(var a = 1)`, `(if a (print a))`,
`(fun f(a b) (return a))`, `(class B < A (fun m() ...))`.
-/

namespace LoxSyntax.Tree

/-- A parenthesised list of a head and its parts. -/
def parenthesize (head : String) (parts : List String) : String :=
  "(" ++ head ++ String.join (parts.map (" " ++ ·)) ++ ")"

/-- The prefix form of an expression. -/
def Expr.toPrefix : Expr → String
  | .assign name value => parenthesize "=" [name.lexeme, value.toPrefix]
  | .binary left op right => parenthesize op.lexeme [left.toPrefix, right.toPrefix]
  | .call callee _ arguments =>
    parenthesize "call" (callee.toPrefix :: arguments.attach.map fun ⟨a, _⟩ => a.toPrefix)
  | .get object name => parenthesize "." [object.toPrefix, name.lexeme]
  | .grouping e => parenthesize "group" [e.toPrefix]
  | .literal value => value.display
  | .logical left op right => parenthesize op.lexeme [left.toPrefix, right.toPrefix]
  | .set object name value => parenthesize "=" [parenthesize "." [object.toPrefix, name.lexeme], value.toPrefix]
  | .super _ method => parenthesize "super" [method.lexeme]
  | .this _ => "this"
  | .unary op right => parenthesize op.lexeme [right.toPrefix]
  | .variable name => name.lexeme

mutual
/-- The prefix form of a statement. -/
def Stmt.toPrefix : Stmt → String
  | .block statements => parenthesize "block" (Stmt.toPrefixAll statements)
  | .classDecl name superclass methods =>
    let head := match superclass with
      | some s => "class " ++ name.lexeme ++ " < " ++ s.toPrefix
      | none => "class " ++ name.lexeme
    parenthesize head (FunctionDecl.toPrefixAll methods)
  | .expression e => parenthesize ";" [e.toPrefix]
  | .function decl => decl.toPrefix
  | .ifElse condition thenBranch elseBranch =>
    match elseBranch with
    | some e => parenthesize "if" [condition.toPrefix, thenBranch.toPrefix, e.toPrefix]
    | none => parenthesize "if" [condition.toPrefix, thenBranch.toPrefix]
  | .print e => parenthesize "print" [e.toPrefix]
  | .returnValue _ value =>
    match value with
    | some v => parenthesize "return" [v.toPrefix]
    | none => parenthesize "return" []
  | .var name initializer =>
    match initializer with
    | some i => parenthesize "var" [name.lexeme, "=", i.toPrefix]
    | none => parenthesize "var" [name.lexeme]
  | .whileLoop condition body => parenthesize "while" [condition.toPrefix, body.toPrefix]

/-- The prefix forms of statements, in order. -/
def Stmt.toPrefixAll : List Stmt → List String
  | [] => []
  | s :: rest => s.toPrefix :: Stmt.toPrefixAll rest

/-- The prefix form of a function declaration. -/
def FunctionDecl.toPrefix : FunctionDecl → String
  | .mk name params body =>
    parenthesize ("fun " ++ name.lexeme ++ "(" ++ " ".intercalate (params.map (·.lexeme)) ++ ")")
      (Stmt.toPrefixAll body)

/-- The prefix forms of function declarations, in order. -/
def FunctionDecl.toPrefixAll : List FunctionDecl → List String
  | [] => []
  | f :: rest => f.toPrefix :: FunctionDecl.toPrefixAll rest
end

/-- The statements of a program, one per line. -/
def programText (program : List Stmt) : String := "\n".intercalate (Stmt.toPrefixAll program)

end LoxSyntax.Tree
