import LoxSyntax.Schema.Parse

/-! # The Lox grammars

The node families of the Lox language: expressions (`Expr`) and statements
(`Stmt`), written in the compact notation with the names aligned in a column.
-/

namespace LoxSyntax.Schema

/-- The expression declarations. -/
def exprLines : List String := [
  "Assign   : Token name, Expr value",
  "Binary   : Expr left, Token operator, Expr right",
  "Call     : Expr callee, Token paren, List<Expr> arguments",
  "Get      : Expr object, Token name",
  "Grouping : Expr expression",
  "Literal  : value",
  "Logical  : Expr left, Token operator, Expr right",
  "Set      : Expr object, Token name, Expr value",
  "Super    : Token keyword, Token method",
  "This     : Token keyword",
  "Unary    : Token operator, Expr right",
  "Variable : Token name"]

/-- The statement declarations. -/
def stmtLines : List String := [
  "Block      : List<Stmt> statements",
  "Class      : Token name, Option<Expr> superclass, List<FunctionStmt> methods",
  "Expression : Expr expression",
  "Function   : Token name, List<Token> params, List<Stmt> body",
  "If         : Expr condition, Stmt thenBranch, Option<Stmt> elseBranch",
  "Print      : Expr expression",
  "Return     : Token keyword, Option<Expr> value",
  "Var        : Token name, Option<Expr> initializer",
  "While      : Expr condition, Stmt body"]

/-- Both Lox grammars, expressions first. -/
def loxGrammars : Except SchemaError (List Grammar) := do
  let expr ← Grammar.parse "Expr" exprLines
  let stmt ← Grammar.parse "Stmt" stmtLines
  pure [expr, stmt]

end LoxSyntax.Schema
