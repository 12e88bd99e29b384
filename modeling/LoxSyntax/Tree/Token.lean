import LoxSyntax.Tree.Literal

/-! # Tokens

A token of Lox source: its kind, the text it was read from (its lexeme), its
literal payload and its line. A token is written as its kind's name, its lexeme
and its payload, separated by single spaces.

The reserved words of Lox map to their own kinds; every other word is an
identifier.
-/

namespace LoxSyntax.Tree

/-- The kinds of Lox tokens. -/
inductive TokenKind where
  | leftParen | rightParen | leftBrace | rightBrace | comma | dot | minus | plus
  | semicolon | slash | star
  | bang | bangEqual | equal | equalEqual | greater | greaterEqual | less | lessEqual
  | identifier | string | number
  | and | «class» | «else» | «false» | fun | «for» | «if» | nil | or | print | «return» | super
  | this | «true» | var | «while»
  | eof
deriving DecidableEq, Repr, Inhabited

/-- Every kind, in declaration order. -/
def TokenKind.all : List TokenKind :=
  [.leftParen, .rightParen, .leftBrace, .rightBrace, .comma, .dot, .minus, .plus, .semicolon,
   .slash, .star, .bang, .bangEqual, .equal, .equalEqual, .greater, .greaterEqual, .less,
   .lessEqual, .identifier, .string, .number, .and, .class, .else, .false, .fun, .for, .if,
   .nil, .or, .print, .return, .super, .this, .true, .var, .while, .eof]

/-- The name of a kind. -/
def TokenKind.name : TokenKind → String
  | .leftParen => "LeftParen" | .rightParen => "RightParen" | .leftBrace => "LeftBrace"
  | .rightBrace => "RightBrace" | .comma => "Comma" | .dot => "Dot" | .minus => "Minus"
  | .plus => "Plus" | .semicolon => "Semicolon" | .slash => "Slash" | .star => "Star"
  | .bang => "Bang" | .bangEqual => "BangEqual" | .equal => "Equal"
  | .equalEqual => "EqualEqual" | .greater => "Greater" | .greaterEqual => "GreaterEqual"
  | .less => "Less" | .lessEqual => "LessEqual" | .identifier => "Identifier"
  | .string => "String" | .number => "Number" | .and => "And" | .class => "Class"
  | .else => "Else" | .false => "False" | .fun => "Fun" | .for => "For" | .if => "If"
  | .nil => "Nil" | .or => "Or" | .print => "Print" | .return => "Return" | .super => "Super"
  | .this => "This" | .true => "True" | .var => "Var" | .while => "While" | .eof => "Eof"

/-- The kind with a given name. -/
def TokenKind.ofName? (name : String) : Option TokenKind := TokenKind.all.find? (·.name == name)

/-- The reserved words of Lox and their kinds. -/
def keywords : List (String × TokenKind) :=
  [("and", .and), ("class", .class), ("else", .else), ("false", .false), ("fun", .fun),
   ("for", .for), ("if", .if), ("nil", .nil), ("or", .or), ("print", .print),
   ("return", .return), ("super", .super), ("this", .this), ("true", .true), ("var", .var),
   ("while", .while)]

/-- The kind of a reserved word; none for any other word. -/
def TokenKind.keyword? (lexeme : String) : Option TokenKind := (keywords.lookup lexeme)

/-- A Lox token. -/
structure Token where
  kind : TokenKind
  lexeme : String
  literal : Literal
  line : Nat
deriving Inhabited

/-- The end-of-input token of a line. -/
def Token.eof (line : Nat) : Token := ⟨.eof, "", .nil, line⟩

/-- Whether the token ends the input. -/
def Token.isEof (t : Token) : Bool := t.kind == .eof

/-- The text of a token: kind, lexeme and payload. -/
def Token.display (t : Token) : String :=
  t.kind.name ++ " " ++ t.lexeme ++ " " ++ t.literal.display

end LoxSyntax.Tree
