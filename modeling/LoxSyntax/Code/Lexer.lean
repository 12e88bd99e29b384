import LoxSyntax.Code.TokenTree
import LoxSyntax.Text.Blank
import LoxSyntax.Text.Xid

/-! # Reading code text into token trees

The text is read from the start, one token at a time, after skipping blanks and
comments; brackets open and close groups, which must pair up.

* Blanks are the Unicode `White_Space` characters and the two directional marks.
  A line comment runs to the end of its line; block comments nest. A
  documentation comment (`///`, `//!`, `/**`, `/*!`) is not skipped: it stands
  for the attribute `#[doc = "..."]` (with `!` after `#` for an inner one).
* A literal is tried first: a string (plain, raw `r#"..."#` with at most 255
  hashes, byte `b"..."`, C `c"..."`), a byte `b'x'`, a character `'x'`, a
  number. Escapes are checked: `\x` takes two hex digits (at most `7F` in
  characters and strings, not `00` in C strings), `\u{...}` one to six hex
  digits naming a character, and a backslash before a line end skips the blanks
  after it. A carriage return must come before a line feed; byte literals hold
  ASCII only and C strings no NUL. Every literal may end in a suffix, an
  identifier written right after it.
* A number is a float when it has a point or an exponent: a point followed by a
  second point or by an identifier is not part of it, and an exponent without
  digits is not either. Otherwise it is an integer, in base 2, 8, 10 or 16 by
  its prefix, whose digits must fit the base.
* Then punctuation: an apostrophe only before an identifier (a lifetime), and a
  character is joint when another punctuation character follows it.
* Then an identifier: a start character (`XID_Start` or `_`) and continuing
  characters (`XID_Continue`); `r#name` is raw, except for `_`, `super`, `self`,
  `Self` and `crate`. A text that starts like a raw or byte literal is no
  identifier.

A byte order mark at the start of the text is skipped.
-/

namespace LoxSyntax.Code

namespace Lexer

/-- The punctuation characters. -/
def punctChars : List Char :=
  ['~', '!', '@', '#', '$', '%', '^', '&', '*', '-', '=', '+', '|', ';', ':', ',', '<', '.',
   '>', '/', '?', '\'']

/-- Whether a character may start an identifier. -/
def isIdentStartChar (c : Char) : Bool := c == '_' || isXidStart c

/-- Whether a character may continue an identifier. -/
def isIdentContinueChar (c : Char) : Bool := isXidContinue c

/-- Blanks between tokens: `White_Space` and the two directional marks. -/
def isCodeBlank (c : Char) : Bool := isBlank c || c.toNat == 0x200E || c.toNat == 0x200F

/-- Whether a character is a hexadecimal digit. -/
def isHexDigit (c : Char) : Bool := c.isDigit || ('a' ≤ c && c ≤ 'f') || ('A' ≤ c && c ≤ 'F')

/-- The value of a hexadecimal digit. -/
def hexValue (c : Char) : Nat :=
  if c.isDigit then c.toNat - '0'.toNat
  else if 'a' ≤ c && c ≤ 'f' then c.toNat - 'a'.toNat + 10
  else c.toNat - 'A'.toNat + 10

/-- Whether a code point names a character. -/
def isScalar (n : Nat) : Bool := n < 0xD800 || (0xDFFF < n && n ≤ 0x10FFFF)

/-- Whether `p` starts `cs`. -/
def startsWith (cs : List Char) (p : String) : Bool := p.toList.isPrefixOf cs

/-- The identifier at the start, as its characters and the rest. -/
def identChars : List Char → Option (List Char × List Char)
  | [] => none
  | c :: rest =>
    if isIdentStartChar c then
      some (c :: rest.takeWhile isIdentContinueChar, rest.dropWhile isIdentContinueChar)
    else none

/-- The rest after a literal's suffix, if an identifier follows it. -/
def afterSuffix (cs : List Char) : List Char :=
  match identChars cs with
  | some (_, rest) => rest
  | none => cs

/-- The rest when no identifier character follows at once. -/
def wordBreak (cs : List Char) : Option (List Char) :=
  match cs with
  | c :: _ => if isIdentContinueChar c then none else some cs
  | [] => some []

/-- The rest after `\u`'s braces and one to six hex digits (underscores allowed
after the first), with the code point; the code point must name a character. -/
def unicodeEscape : List Char → Option (Nat × List Char)
  | '{' :: rest => go 0 0 rest
  | _ => none
where
  /-- Reads the digits, with the value and count read so far. -/
  go (value count : Nat) : List Char → Option (Nat × List Char)
    | [] => none
    | c :: rest =>
      if isHexDigit c then
        if count == 6 then none else go (value * 16 + hexValue c) (count + 1) rest
      else if c == '_' && count > 0 then go value count rest
      else if c == '}' && count > 0 then (if isScalar value then some (value, rest) else none)
      else none

/-- The rest after a line continuation whose backslash and line feed are read:
the spaces, tabs and line ends before the next character, a carriage return only
before a line feed. The text must go on. -/
def afterContinuation : List Char → Option (List Char)
  | [] => none
  | '\r' :: '\n' :: rest => afterContinuation rest
  | '\r' :: _ => none
  | c :: rest => if c == ' ' || c == '\t' || c == '\n' then afterContinuation rest else some (c :: rest)

/-- The rest after a line continuation whose backslash is read, from the line end. -/
def afterLineEnd : List Char → Option (List Char)
  | '\n' :: rest => afterContinuation rest
  | '\r' :: '\n' :: rest => afterContinuation rest
  | _ => none

/-- Which kind of quoted body is read. -/
inductive Quoted where
  | string
  | bytes
  | cString
deriving DecidableEq

/-- The simple escapes a quoted body of `kind` allows after a backslash. -/
def simpleEscapes : Quoted → List Char
  | .string => ['n', 'r', 't', '\\', '\'', '"', '0']
  | .bytes => ['n', 'r', 't', '\\', '0', '\'', '"']
  | .cString => ['n', 'r', 't', '\\', '\'', '"']

/-- The rest after the body of a quoted literal, its closing quote and suffix;
the opening quote is read. `fuel` bounds the characters read. -/
def afterQuoted (kind : Quoted) : Nat → List Char → Option (List Char)
  | 0, _ => none
  | _ + 1, [] => none
  | n + 1, c :: rest =>
    if c == '"' then some (afterSuffix rest)
    else if c == '\r' then
      match rest with
      | '\n' :: more => afterQuoted kind n more
      | _ => none
    else if c == '\\' then
      match rest with
      | 'x' :: a :: b :: more =>
        let ok := match kind with
          | .string => '0' ≤ a && a ≤ '7' && isHexDigit b
          | .bytes => isHexDigit a && isHexDigit b
          | .cString => isHexDigit a && isHexDigit b && !(a == '0' && b == '0')
        if ok then afterQuoted kind n more else none
      | 'u' :: more =>
        if kind == .bytes then none
        else match unicodeEscape more with
          | some (value, after) =>
            if kind == .cString && value == 0 then none else afterQuoted kind n after
          | none => none
      | e :: more =>
        if (simpleEscapes kind).contains e then afterQuoted kind n more
        else if e == '\n' || e == '\r' then
          match afterLineEnd (e :: more) with
          | some after => afterQuoted kind n after
          | none => none
        else none
      | [] => none
    else if kind == .bytes && c.toNat ≥ 0x80 then none
    else if kind == .cString && c == '\x00' then none
    else afterQuoted kind n rest

/-- The rest after a raw body closed by a quote and `hashes` hash signs, and the
suffix. -/
def afterRawBody (kind : Quoted) (hashes : Nat) : List Char → Option (List Char)
  | [] => none
  | c :: rest =>
    if c == '"' && hashes ≤ rest.length && (rest.take hashes).all (· == '#') then
      some (afterSuffix (rest.drop hashes))
    else if c == '\r' then
      match rest with
      | '\n' :: more => afterRawBody kind hashes more
      | _ => none
    else if kind == .bytes && c.toNat ≥ 0x80 then none
    else if kind == .cString && c == '\x00' then none
    else afterRawBody kind hashes rest

/-- The rest after a raw literal whose letter prefix is read: at most 255 hash
signs, a quote, the body. -/
def afterRaw (kind : Quoted) (cs : List Char) : Option (List Char) :=
  let hashes := (cs.takeWhile (· == '#')).length
  match cs.drop hashes with
  | '"' :: body => if hashes > 255 then none else afterRawBody kind hashes body
  | _ => none

/-- The rest after a byte literal whose `b'` is read: one ASCII character or
escape, then the closing quote. -/
def afterByte (cs : List Char) : Option (List Char) :=
  let body : Option (List Char) := match cs with
    | '\\' :: 'x' :: a :: b :: rest => if isHexDigit a && isHexDigit b then some rest else none
    | '\\' :: e :: rest => if (simpleEscapes .bytes).contains e then some rest else none
    | '\\' :: [] => none
    | c :: rest => if c.toNat < 0x80 then some rest else none
    | [] => none
  match body with
  | some ('\'' :: rest) => some (afterSuffix rest)
  | _ => none

/-- The rest after a character literal whose opening quote is read: one
character or escape, then the closing quote. -/
def afterChar (cs : List Char) : Option (List Char) :=
  let body : Option (List Char) := match cs with
    | '\\' :: 'x' :: a :: b :: rest => if '0' ≤ a && a ≤ '7' && isHexDigit b then some rest else none
    | '\\' :: 'u' :: rest => (unicodeEscape rest).map (·.2)
    | '\\' :: e :: rest => if (simpleEscapes .string).contains e then some rest else none
    | '\\' :: [] => none
    | _ :: rest => some rest
    | [] => none
  match body with
  | some ('\'' :: rest) => some (afterSuffix rest)
  | _ => none

/-- Scans a float's digits after its first: digits and underscores, one point not
followed by a point or an identifier, and an `e` that ends the scan. Gives the
rest (from the `e` when there is one) and whether a point and an `e` were read. -/
def floatMantissa (hasDot : Bool) : List Char → Option (List Char × Bool × Bool)
  | [] => some ([], hasDot, false)
  | c :: rest =>
    if c.isDigit || c == '_' then floatMantissa hasDot rest
    else if c == '.' then
      if hasDot then some (c :: rest, hasDot, false)
      else match rest with
        | d :: _ => if d == '.' || isIdentStartChar d then none else floatMantissa true rest
        | [] => floatMantissa true rest
    else if c == 'e' || c == 'E' then some (c :: rest, hasDot, true)
    else some (c :: rest, hasDot, false)

/-- Scans an exponent's sign, digits and underscores; `none` when it holds no
digit or a second sign comes before the digits. -/
def exponent (hasSign hasValue : Bool) : List Char → Option (List Char)
  | [] => if hasValue then some [] else none
  | c :: rest =>
    if c == '+' || c == '-' then
      if hasValue then some (c :: rest)
      else if hasSign then none
      else exponent true hasValue rest
    else if c.isDigit then exponent hasSign true rest
    else if c == '_' then exponent hasSign hasValue rest
    else if hasValue then some (c :: rest) else none

/-- The rest after the digits of a float. An exponent that does not read stays
out of the float when a point came before it, and spoils it otherwise. -/
def floatDigits : List Char → Option (List Char)
  | [] => none
  | c :: rest =>
    if !c.isDigit then none
    else match floatMantissa false rest with
      | none => none
      | some (after, hasDot, hasExp) =>
        if !(hasDot || hasExp) then none
        else if !hasExp then some after
        else match exponent false false (after.drop 1) with
          | some r => some r
          | none => if hasDot then some after else none

/-- The rest after an integer's digits in the base its prefix gives; a digit
must fit the base, and `_` cannot start a decimal. -/
def integerDigits (cs : List Char) : Option (List Char) :=
  let (base, body) : Nat × List Char := match cs with
    | '0' :: 'x' :: r => (16, r)
    | '0' :: 'o' :: r => (8, r)
    | '0' :: 'b' :: r => (2, r)
    | _ => (10, cs)
  scan base true body
where
  /-- Reads the digits; `empty` tells whether none is read yet. -/
  scan (base : Nat) (empty : Bool) : List Char → Option (List Char)
    | [] => if empty then none else some []
    | c :: rest =>
      if c.isDigit then
        if c.toNat - '0'.toNat ≥ base then none else scan base false rest
      else if ('a' ≤ c && c ≤ 'f') || ('A' ≤ c && c ≤ 'F') then
        if base ≤ 10 then (if empty then none else some (c :: rest)) else scan base false rest
      else if c == '_' then
        if empty && base == 10 then none else scan base empty rest
      else if empty then none else some (c :: rest)

/-- The rest after a number's suffix, which must end the word. -/
def afterNumberSuffix (cs : List Char) : Option (List Char) :=
  match cs with
  | c :: _ => if isIdentStartChar c then wordBreak (afterSuffix cs) else wordBreak cs
  | [] => some []

/-- The rest after a literal at the start of the text. -/
def afterLiteral (cs : List Char) : Option (List Char) :=
  let fuel := cs.length + 1
  let string : Option (List Char) := match cs with
    | '"' :: rest => afterQuoted .string fuel rest
    | 'r' :: rest => afterRaw .string rest
    | _ => none
  let byteString : Option (List Char) := match cs with
    | 'b' :: '"' :: rest => afterQuoted .bytes fuel rest
    | 'b' :: 'r' :: rest => afterRaw .bytes rest
    | _ => none
  let cString : Option (List Char) := match cs with
    | 'c' :: '"' :: rest => afterQuoted .cString fuel rest
    | 'c' :: 'r' :: rest => afterRaw .cString rest
    | _ => none
  let byte : Option (List Char) := match cs with
    | 'b' :: '\'' :: rest => afterByte rest
    | _ => none
  let char : Option (List Char) := match cs with
    | '\'' :: rest => afterChar rest
    | _ => none
  string <|> byteString <|> cString <|> byte <|> char <|>
    (floatDigits cs).bind afterNumberSuffix <|> (integerDigits cs).bind afterNumberSuffix

/-- The punctuation character at the start, unless it opens a comment. -/
def punctChar (cs : List Char) : Option (Char × List Char) :=
  if startsWith cs "//" || startsWith cs "/*" then none
  else match cs with
    | c :: rest => if punctChars.contains c then some (c, rest) else none
    | [] => none

/-- An identifier, raw when written `r#name`: its name, whether it is raw, and
the rest. -/
def anyIdent (cs : List Char) : Option (String × Bool × List Char) :=
  let raw := startsWith cs "r#"
  match identChars (if raw then cs.drop 2 else cs) with
  | some (name, rest) =>
    let name := String.ofList name
    if raw && ["_", "super", "self", "Self", "crate"].contains name then none
    else some (name, raw, rest)
  | none => none

/-- A punctuation token: an apostrophe must start a lifetime. -/
def punctToken (cs : List Char) : Option (TokenTree × List Char) :=
  match punctChar cs with
  | none => none
  | some (c, rest) =>
    if c == '\'' then
      match anyIdent rest with
      | some (_, _, after) =>
        if startsWith after "'" || (startsWith after "#" && !startsWith rest "r#") then none
        else some (.punct '\'' .joint, rest)
      | none => none
    else some (.punct c (if (punctChar rest).isSome then .joint else .alone), rest)

/-- An identifier token; a text that starts like a raw or byte literal is none. -/
def identToken (cs : List Char) : Option (TokenTree × List Char) :=
  if ["r\"", "r#\"", "r##", "b\"", "b'", "br\"", "br#", "c\"", "cr\"", "cr#"].any (startsWith cs)
  then none
  else (anyIdent cs).map fun (name, raw, rest) => (.ident name raw, rest)

/-- One token that is not a bracket: a literal, a punctuation character or an identifier. -/
def leafToken (cs : List Char) : Option (TokenTree × List Char) :=
  match afterLiteral cs with
  | some rest => some (.literal (String.ofList (cs.take (cs.length - rest.length))), rest)
  | none => punctToken cs <|> identToken cs

/-- The rest of a line from its start: up to a line feed, or a carriage return
before one; the line end stays. Gives the line and the rest. -/
def lineOf : List Char → List Char × List Char
  | [] => ([], [])
  | '\n' :: rest => ([], '\n' :: rest)
  | '\r' :: '\n' :: rest => ([], '\n' :: rest)
  | c :: rest => let (line, more) := lineOf rest; (c :: line, more)

/-- The rest after a block comment from the `/*` that opens it, comments nesting;
`depth` counts the comments open. -/
def afterBlockComment : Nat → List Char → Option (List Char)
  | _, [] => none
  | depth, '/' :: '*' :: rest => afterBlockComment (depth + 1) rest
  | depth, '*' :: '/' :: rest =>
    if depth ≤ 1 then some rest else afterBlockComment (depth - 1) rest
  | depth, _ :: rest => afterBlockComment depth rest

/-- The text after the blanks and plain comments at its start. -/
def skipTrivia : Nat → List Char → List Char
  | 0, cs => cs
  | n + 1, cs =>
    if startsWith cs "//" && (!startsWith cs "///" || startsWith cs "////") &&
        !startsWith cs "//!" then
      skipTrivia n (lineOf (cs.drop 2)).2
    else if startsWith cs "/**/" then skipTrivia n (cs.drop 4)
    else if startsWith cs "/*" && (!startsWith cs "/**" || startsWith cs "/***") &&
        !startsWith cs "/*!" then
      match afterBlockComment 0 cs with
      | some rest => skipTrivia n rest
      | none => cs
    else match cs with
      | c :: rest => if isCodeBlank c then skipTrivia n rest else cs
      | [] => []

/-- A documentation comment at the start: its text, whether it is inner, and the rest. -/
def docComment (cs : List Char) : Option (List Char × Bool × List Char) :=
  let block (inner : Bool) : Option (List Char × Bool × List Char) :=
    (afterBlockComment 0 cs).map fun rest =>
      let whole := cs.take (cs.length - rest.length)
      (((whole.drop 3).reverse.drop 2).reverse, inner, rest)
  if startsWith cs "//!" then
    let (line, rest) := lineOf (cs.drop 3)
    some (line, true, rest)
  else if startsWith cs "/*!" then block true
  else if startsWith cs "///" then
    if startsWith (cs.drop 3) "/" then none
    else
      let (line, rest) := lineOf (cs.drop 3)
      some (line, false, rest)
  else if startsWith cs "/**" && !startsWith (cs.drop 3) "*" then block false
  else none

/-- Whether a carriage return stands anywhere but before a line feed. -/
def hasBareReturn : List Char → Bool
  | [] => false
  | '\r' :: '\n' :: rest => hasBareReturn rest
  | '\r' :: _ => true
  | _ :: rest => hasBareReturn rest

/-- The trees a documentation comment stands for: `#`, `!` for an inner one, and
the bracketed `doc = "text"`. -/
def docTrees (text : List Char) (inner : Bool) : List TokenTree :=
  [.punct '#' .alone] ++ (if inner then [.punct '!' .alone] else []) ++
    [.group .bracket [.ident "doc" false, .punct '=' .alone,
      .literal ("\"" ++ String.ofList text ++ "\"")]]

/-- The delimiter a character opens. -/
def opening : Char → Option Delimiter
  | '(' => some .parenthesis
  | '[' => some .bracket
  | '{' => some .brace
  | _ => none

/-- The delimiter a character closes. -/
def closing : Char → Option Delimiter
  | ')' => some .parenthesis
  | ']' => some .bracket
  | '}' => some .brace
  | _ => none

/-- Reads trees to the end of the text. `open_` holds each open group's
delimiter and the trees before it, `done` the trees of the innermost group so
far, latest first. -/
def trees : Nat → List Char → List (Delimiter × List TokenTree) → List TokenTree →
    Option (List TokenTree)
  | 0, _, _, _ => none
  | n + 1, text, open_, done =>
    let cs := skipTrivia (text.length + 1) text
    match docComment cs with
    | some (comment, inner, rest) =>
      if hasBareReturn comment then none
      else trees n rest open_ ((docTrees comment inner).reverse ++ done)
    | none =>
      match cs with
      | [] => if open_.isEmpty then some done.reverse else none
      | c :: rest =>
        match opening c, closing c with
        | some d, _ => trees n rest ((d, done) :: open_) []
        | _, some d =>
          match open_ with
          | (d', outer) :: more =>
            if d == d' then trees n rest more (.group d done.reverse :: outer) else none
          | [] => none
        | none, none =>
          match leafToken cs with
          | some (tree, after) => trees n after open_ (tree :: done)
          | none => none

end Lexer

/-- The token trees of a text; `none` when the text is not made of tokens or its
brackets do not pair up. -/
def TokenTree.lex? (s : String) : Option (List TokenTree) :=
  let cs := s.toList
  let cs := match cs with
    | '\uFEFF' :: rest => rest
    | _ => cs
  Lexer.trees (cs.length + 1) cs [] []

end LoxSyntax.Code
