import LoxSyntax.Code.Lexer

/-! # Kinds of literals

A literal token is classified by how it is written: a string (`"..."` or raw
`r"..."`), a byte string, a C string, a byte, a character, an integer or a
float; a number that is neither is kept as written.

An integer is an optional `-`, a base prefix, digits of the base with
underscores, and an optional suffix identifier; a decimal point or an exponent
with digits makes it no integer. A float is an optional `-`, a digit, then
digits, underscores, at most one point before any exponent, and an exponent with
an optional sign and at least one digit; a suffix identifier may end it.
-/

namespace LoxSyntax.Code

open LoxSyntax.Code.Lexer

/-- The kinds of literals. -/
inductive LiteralKind where
  | string
  | byteString
  | cString
  | byte
  | char
  /-- An integer, with its value and suffix. -/
  | integer (value : Nat) (suffix : String)
  | float
  /-- A number that is neither an integer nor a float. -/
  | other
deriving DecidableEq, Repr

/-- Whether a text is an identifier that may end a literal. -/
def isSuffixIdent : List Char → Bool
  | [] => false
  | c :: rest => isIdentStartChar c && rest.all isIdentContinueChar

/-- The value and suffix of an integer literal, or `none` when the text is no integer. -/
def integerValue (text : List Char) : Option (Nat × String) :=
  let body := match text with
    | '-' :: rest => rest
    | _ => text
  let start : Option (Nat × List Char) := match body with
    | '0' :: 'x' :: rest => some (16, rest)
    | '0' :: 'o' :: rest => some (8, rest)
    | '0' :: 'b' :: rest => some (2, rest)
    | c :: _ => if c.isDigit then some (10, body) else none
    | [] => none
  match start with
  | none => none
  | some (base, digits) => go base 0 false digits
where
  /-- Reads digits, with the value so far and whether a digit was read. -/
  go (base value : Nat) (seen : Bool) : List Char → Option (Nat × String)
    | [] => if seen then some (value, "") else none
    | c :: rest =>
      let digit : Option Nat :=
        if c.isDigit then some (c.toNat - '0'.toNat)
        else if base > 10 && (('a' ≤ c && c ≤ 'f') || ('A' ≤ c && c ≤ 'F')) then some (hexValue c)
        else none
      match digit with
      | some d => if d ≥ base then none else go base (value * base + d) true rest
      | none =>
        if c == '_' then go base value seen rest
        else if c == '.' && base == 10 then none
        else if (c == 'e' || c == 'E') && base == 10 then
          if spoils false rest then none else finish value seen (c :: rest)
        else finish value seen (c :: rest)
  /-- The value and suffix once the digits end. -/
  finish (value : Nat) (seen : Bool) (suffix : List Char) : Option (Nat × String) :=
    if !seen then none
    else if suffix.isEmpty || isSuffixIdent suffix then some (value, String.ofList suffix)
    else none
  /-- Whether the text after an `e` spoils the integer: a sign before any other
  character but digits and underscores, or digits (seen so far when `digits`)
  that end the text or come before a suffix. Otherwise the suffix starts at the `e`. -/
  spoils (digits : Bool) : List Char → Bool
    | [] => digits
    | c :: rest =>
      if c == '_' then spoils digits rest
      else if c == '-' || c == '+' then true
      else if c.isDigit then spoils true rest
      else digits && isSuffixIdent (c :: rest)

/-- Whether a text is a float literal, its suffix aside. -/
def isFloatText (text : List Char) : Bool :=
  let body := match text with
    | '-' :: rest => rest
    | _ => text
  match body with
  | c :: _ => c.isDigit && go false false false false body
  | [] => false
where
  /-- Reads the number with what was seen: a point, an `e`, a sign, exponent digits. -/
  go (dot e sign expDigits : Bool) : List Char → Bool
    | [] => !e || expDigits
    | c :: rest =>
      if c == '_' then go dot e sign expDigits rest
      else if c.isDigit then go dot e sign (expDigits || e) rest
      else if c == '.' then
        if e || dot then false else go true e sign expDigits rest
      else if c == 'e' || c == 'E' then
        match rest.dropWhile (· == '_') with
        | d :: _ =>
          if d == '-' || d == '+' || d.isDigit then
            if e then (if expDigits then finish e expDigits (c :: rest) else false)
            else go dot true sign expDigits rest
          else finish e expDigits (c :: rest)
        | [] => finish e expDigits (c :: rest)
      else if c == '-' || c == '+' then
        if sign || expDigits || !e then false else go dot e true expDigits rest
      else finish e expDigits (c :: rest)
  /-- Whether the number may end here, before `suffix`. -/
  finish (e expDigits : Bool) (suffix : List Char) : Bool :=
    (!e || expDigits) && (suffix.isEmpty || isSuffixIdent suffix)

/-- The kind of a literal, from its text. -/
def LiteralKind.ofText (text : String) : LiteralKind :=
  match text.toList with
  | '"' :: _ | 'r' :: _ => .string
  | 'b' :: '"' :: _ | 'b' :: 'r' :: _ => .byteString
  | 'b' :: '\'' :: _ => .byte
  | 'c' :: _ => .cString
  | '\'' :: _ => .char
  | cs =>
    match cs with
    | c :: _ =>
      if c.isDigit || c == '-' then
        match integerValue cs with
        | some (value, suffix) => .integer value suffix
        | none => if isFloatText cs then .float else .other
      else .other
    | [] => .other

/-- Whether a literal is a number that a minus sign may precede. -/
def LiteralKind.isNumber : LiteralKind → Bool
  | .integer _ _ | .float => true
  | _ => false

end LoxSyntax.Code
