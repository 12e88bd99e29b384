import LoxSyntax.Tree.Token

/-! # Lox syntax trees

The nodes of the two Lox families, expressions and statements, with the fields
that the Lox grammars declare (`Schema.exprLines`, `Schema.stmtLines`). A class
holds its methods as function declarations. That these are the nodes the generator
emits for the Lox grammars, variant by variant and field by field, is
`trees_are_generated_nodes`.
-/

namespace LoxSyntax.Tree

/-- A Lox expression. -/
inductive Expr where
  | assign (name : Token) (value : Expr)
  | binary (left : Expr) (operator : Token) (right : Expr)
  | call (callee : Expr) (paren : Token) (arguments : List Expr)
  | get (object : Expr) (name : Token)
  | grouping (expression : Expr)
  | literal (value : Literal)
  | logical (left : Expr) (operator : Token) (right : Expr)
  | set (object : Expr) (name : Token) (value : Expr)
  | super (keyword method : Token)
  | this (keyword : Token)
  | unary (operator : Token) (right : Expr)
  | variable (name : Token)
deriving Inhabited

mutual
/-- A Lox statement. -/
inductive Stmt where
  | block (statements : List Stmt)
  | classDecl (name : Token) (superclass : Option Expr) (methods : List FunctionDecl)
  | expression (expression : Expr)
  | function (decl : FunctionDecl)
  | ifElse (condition : Expr) (thenBranch : Stmt) (elseBranch : Option Stmt)
  | print (expression : Expr)
  | returnValue (keyword : Token) (value : Option Expr)
  | var (name : Token) (initializer : Option Expr)
  | whileLoop (condition : Expr) (body : Stmt)

/-- A function declaration: its name, parameters and body. -/
inductive FunctionDecl where
  | mk (name : Token) (params : List Token) (body : List Stmt)
end

instance : Inhabited Stmt := ⟨.block []⟩

end LoxSyntax.Tree
