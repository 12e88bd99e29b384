import LoxSyntax.Code.LiteralKind
import LoxSyntax.Text.Cut

/-! # Shapes of code read by the grammar

The grammar of code text decides whether text reads as a path, a type or an
expression; the values it returns keep only what a later rule of the grammar
looks at. A path keeps its segments and their arguments, because the imports
built from it depend on them; a type keeps whether it is a path, a bare list of
bounds or a parenthesized type; an expression keeps whether it is a range, a
comparison, a block or a macro call; a pattern keeps whether it is an open range.

The module also holds the binary operators with their binding strengths, and the
tests for literals at the start of a cursor: a minus sign and a number read as
one literal.
-/

namespace LoxSyntax.Code

/-- The arguments after a path segment. -/
inductive ArgsForm where
  | none
  /-- Arguments in angle brackets; `empty` when there are none between them. -/
  | angle (empty : Bool)
  /-- Arguments in parentheses, as in `Fn(u8) -> u8`. -/
  | parenthesized
deriving DecidableEq, Repr

/-- Whether the arguments are absent or empty angle brackets. -/
def ArgsForm.isEmpty : ArgsForm → Bool
  | .none => true
  | .angle empty => empty
  | .parenthesized => false

/-- A path segment as read: its name as written and its arguments. -/
structure SegmentForm where
  name : String
  args : ArgsForm
deriving DecidableEq, Repr

/-- A path as read: whether `::` starts it, and its segments. -/
structure PathForm where
  global : Bool
  segments : List SegmentForm
deriving DecidableEq, Repr

namespace PathForm

/-- Whether no segment has arguments, as in a module path. -/
def isModStyle (p : PathForm) : Bool := p.segments.all (·.args == .none)

/-- Whether the last segment has no arguments or empty angle brackets. -/
def lastArgsEmpty (p : PathForm) : Bool :=
  match p.segments.getLast? with
  | some s => s.args.isEmpty
  | none => false

/-- The path with `args` on its last segment. -/
def withLastArgs (p : PathForm) (args : ArgsForm) : PathForm :=
  { p with segments := match p.segments.reverse with
    | [] => []
    | s :: rest => ({ s with args } :: rest).reverse }

end PathForm

/-- A bound as read. -/
inductive BoundForm where
  | trait
  | lifetime
  /-- A capture list `use<...>`, naming what an `impl` type captures. -/
  | capture
  /-- A trait bound marked `const` or `[const]`. -/
  | constTrait
deriving DecidableEq, Repr

/-- A type as read. -/
inductive TypeForm where
  /-- A path; `qualified` when it starts with `<T as Trait>`. -/
  | path (qualified : Bool) (p : PathForm)
  /-- Bounds joined by `+` without `dyn`, with their number and whether a `+` ends them. -/
  | bareObject (bounds : Nat) (trailingPlus : Bool)
  | paren
  | other
deriving Repr

/-- An expression as read. -/
inductive ExprForm where
  | range
  /-- A binary operation; `compare` for a comparison. -/
  | binary (compare : Bool)
  /-- A block, or a control expression ending in one, as `if` or `loop`. -/
  | blockLike
  /-- A macro call; `braced` when its arguments are in braces. -/
  | macroCall (braced : Bool)
  | structLit
  | other
deriving DecidableEq, Repr

namespace ExprForm

/-- Whether the expression is a range. -/
def isRange : ExprForm → Bool
  | .range => true
  | _ => false

/-- Whether the expression is a comparison. -/
def isCompare : ExprForm → Bool
  | .binary true => true
  | _ => false

/-- Whether the expression, as a statement before another, needs a semicolon. -/
def needsSemi : ExprForm → Bool
  | .blockLike => false
  | .macroCall braced => !braced
  | _ => true

/-- Whether the expression ends with a closing brace. -/
def endsWithBrace : ExprForm → Bool
  | .blockLike | .structLit => true
  | .macroCall braced => braced
  | _ => false

end ExprForm

/-- A pattern as read. -/
inductive PatForm where
  /-- A range pattern that lacks a start or an end. -/
  | openRange
  /-- The rest pattern `..`. -/
  | rest
  | other
deriving DecidableEq, Repr

/-! ## Operators -/

/-! Binding strengths run from 1, assignment, the loosest, to 13, a cast; a
stronger operator groups first. -/

/-- The binding strength of assignments, `=` and `+=` and the like. -/
def precAssign : Nat := 1

/-- The binding strength of ranges, `..` and `..=`. -/
def precRange : Nat := 2

/-- The binding strength of comparisons, which do not chain. -/
def precCompare : Nat := 6

/-- The binding strength of a cast with `as`. -/
def precCast : Nat := 13

/-- The binary operators with their binding strengths, in the order they are
tried: compound assignments first, then longer operators before their prefixes. -/
def binaryOperators : List (String × Nat) :=
  [("+=", 1), ("-=", 1), ("*=", 1), ("/=", 1), ("%=", 1), ("^=", 1), ("&=", 1), ("|=", 1),
   ("<<=", 1), (">>=", 1), ("&&", 4), ("||", 3), ("<<", 10), (">>", 10), ("==", 6),
   ("<=", 6), ("!=", 6), (">=", 6), ("+", 11), ("-", 11), ("*", 12), ("/", 12), ("%", 12),
   ("^", 8), ("&", 9), ("|", 7), ("<", 6), (">", 6)]

namespace Cursor

/-- The binary operator that starts the cursor, with its binding strength. -/
def binaryOperator? (ts : Cursor) : Option (String × Nat) :=
  binaryOperators.find? fun (op, _) => isPunct op ts

/-- The binding strength of what starts the cursor: an operator, `=`, `..` or
`as`; zero for anything else. -/
def precedence (ts : Cursor) : Nat :=
  match binaryOperator? ts with
  | some (_, p) => p
  | none =>
    if isPunct "=" ts && !isPunct "=>" ts then precAssign
    else if isPunct ".." ts then precRange
    else if isKeyword "as" ts then precCast
    else 0

/-- The kind of the literal that starts the cursor, and the trees after it; a
minus sign before a number is part of the literal. -/
def literal? : Cursor → Option (LiteralKind × Cursor)
  | .literal t :: rest => some (LiteralKind.ofText t, rest)
  | .punct '-' _ :: .literal t :: rest =>
    let k := LiteralKind.ofText ("-" ++ t)
    if k.isNumber then some (k, rest) else none
  | _ => none

/-- Whether a literal starts the cursor: `true`, `false`, a literal token, or a
negative number. -/
def isLit : Cursor → Bool
  | .ident "true" false :: _ | .ident "false" false :: _ => true
  | ts => (literal? ts).isSome

/-- Whether a string literal starts the cursor. -/
def isLitStr (ts : Cursor) : Bool :=
  match literal? ts with
  | some (.string, _) => true
  | _ => false

/-- Whether a float literal starts the cursor. -/
def isLitFloat (ts : Cursor) : Bool :=
  match literal? ts with
  | some (.float, _) => true
  | _ => false

/-- Whether a literal and nothing else is left. -/
def isLitAlone : Cursor → Bool
  | [.ident "true" false] | [.ident "false" false] => true
  | ts => match literal? ts with
    | some (_, []) => true
    | _ => false

/-- Whether an expression may start the cursor: a name or keyword other than
`as`, a group, a literal, a prefix operator, `..`, a path start, a label or an
attribute. -/
def beginsExpr (ts : Cursor) : Bool :=
  (isAnyIdent ts && !isKeyword "as" ts) || isAnyGroup ts || isLit ts ||
  (isPunct "!" ts && !isPunct "!=" ts) ||
  (isPunct "-" ts && !isPunct "-=" ts && !isPunct "->" ts) ||
  (isPunct "*" ts && !isPunct "*=" ts) ||
  (isPunct "|" ts && !isPunct "|=" ts) ||
  (isPunct "&" ts && !isPunct "&=" ts) ||
  isPunct ".." ts ||
  (isPunct "<" ts && !isPunct "<=" ts && !isPunct "<<=" ts) ||
  isPunct "::" ts || isLifetime ts || isPunct "#" ts

/-- Whether a segment of a module path starts the cursor: an identifier or one of
the words that start paths. -/
def isModSegmentStart (ts : Cursor) : Bool :=
  isIdent ts || pathWords.any (isKeyword · ts)

end Cursor

/-- Whether a text is a tuple index: an integer without suffix below 2³². -/
def isIndexText (text : List Char) : Bool :=
  match text, integerValue text with
  | c :: _, some (value, "") => c.isDigit && value < 4294967296
  | _, _ => false

/-- For a float literal after a dot, as in `t.0.1`: whether each part between
its points is a tuple index, and then whether a point ends it. -/
def floatIndex? (text : String) : Option Bool :=
  let cs := text.toList
  let trailing := cs.getLast? == some '.'
  let body := if trailing then cs.dropLast else cs
  if (splitChars '.' body).all isIndexText then some trailing else none

end LoxSyntax.Code
