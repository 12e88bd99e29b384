import LoxSyntax.Code.Keyword

/-! # Token trees of code text

Code text is read as a sequence of token trees: identifiers, punctuation
characters, literals, and groups of trees between matching brackets. A
punctuation character is *joint* when another punctuation character follows it
at once, so that `::` is a joint colon and a colon, while `: :` is two alone
colons; a reader that looks for a multi-character operator asks for every
character but the last to be joint. A lifetime `'a` is a joint apostrophe and
the identifier after it, and counts as one tree when trees are skipped.

A `Reader` reads a value from the trees at the start of a cursor and leaves the
rest; it fails with `none`. Reading a group runs a reader on the group's trees,
which must use them all.
-/

namespace LoxSyntax.Code

/-- The brackets of a group. -/
inductive Delimiter where
  | parenthesis
  | bracket
  | brace
deriving DecidableEq, Repr

/-- Whether a punctuation character is followed at once by another. -/
inductive Spacing where
  | alone
  | joint
deriving DecidableEq, Repr

/-- A token tree. -/
inductive TokenTree where
  /-- Trees between matching brackets. -/
  | group (delimiter : Delimiter) (trees : List TokenTree)
  /-- An identifier; a raw one is written with `r#` before its name. -/
  | ident (name : String) (raw : Bool)
  | punct (c : Char) (spacing : Spacing)
  /-- A literal, as written. -/
  | literal (text : String)
deriving Repr

/-- Token trees still to read. -/
abbrev Cursor := List TokenTree

/-- A reader of token trees. -/
abbrev Reader (α : Type) := StateT Cursor Option α

/-- How an identifier is written: a raw one with `r#` before its name. -/
def identText (name : String) (raw : Bool) : String := if raw then "r#" ++ name else name

namespace Cursor

/-- The cursor after one tree, a lifetime counting as one. -/
def skip : Cursor → Option Cursor
  | [] => none
  | .punct '\'' .joint :: .ident _ _ :: rest => some rest
  | _ :: rest => some rest

/-- Whether `p` holds after skipping `n` trees. -/
def peekAt (p : Cursor → Bool) : Nat → Cursor → Bool
  | 0, ts => p ts
  | n + 1, ts => match ts.skip with
    | some rest => peekAt p n rest
    | none => false

/-- The cursor after the punctuation `s` at its start, each character but the
last joint. -/
def afterPunct : List Char → Cursor → Option Cursor
  | [], ts => some ts
  | [c], .punct d _ :: rest => if c == d then some rest else none
  | c :: more, .punct d .joint :: rest => if c == d then afterPunct more rest else none
  | _, _ => none

/-- Whether the punctuation `s` starts the cursor. -/
def isPunct (s : String) (ts : Cursor) : Bool := (afterPunct s.toList ts).isSome

/-- Whether the keyword `kw`, an identifier that is not raw, starts the cursor. -/
def isKeyword (kw : String) : Cursor → Bool
  | .ident name false :: _ => name == kw
  | _ => false

/-- Whether an identifier that is not a reserved word starts the cursor. -/
def isIdent : Cursor → Bool
  | .ident name raw :: _ => raw || !strictWords.contains name
  | _ => false

/-- Whether any identifier starts the cursor. -/
def isAnyIdent : Cursor → Bool
  | .ident _ _ :: _ => true
  | _ => false

/-- Whether a lifetime starts the cursor. -/
def isLifetime : Cursor → Bool
  | .punct '\'' .joint :: .ident _ _ :: _ => true
  | _ => false

/-- Whether a group with the delimiter `d` starts the cursor. -/
def isGroup (d : Delimiter) : Cursor → Bool
  | .group d' _ :: _ => d == d'
  | _ => false

/-- Whether any group starts the cursor. -/
def isAnyGroup : Cursor → Bool
  | .group _ _ :: _ => true
  | _ => false

/-- Whether a literal token starts the cursor. -/
def isLiteralToken : Cursor → Bool
  | .literal _ :: _ => true
  | _ => false

/-- Whether the cursor is at its end. -/
def isEnd (ts : Cursor) : Bool := ts.isEmpty

end Cursor

namespace Reader

/-- Fails. -/
def fail {α : Type} : Reader α := failure

/-- Whether `p` holds of the trees still to read. -/
def peek (p : Cursor → Bool) : Reader Bool := fun ts => some (p ts, ts)

/-- Whether `p` holds after skipping `n` trees. -/
def peekAt (n : Nat) (p : Cursor → Bool) : Reader Bool := fun ts => some (Cursor.peekAt p n ts, ts)

/-- Whether all trees are read. -/
def atEnd : Reader Bool := peek Cursor.isEnd

/-- Reads the punctuation `s`. -/
def punct (s : String) : Reader Unit := fun ts => (Cursor.afterPunct s.toList ts).map ((), ·)

/-- Reads the punctuation `s` if it comes next. -/
def punct? (s : String) : Reader Bool := fun ts =>
  match Cursor.afterPunct s.toList ts with
  | some rest => some (true, rest)
  | none => some (false, ts)

/-- Reads the keyword `kw`. -/
def keyword (kw : String) : Reader Unit := fun ts =>
  if Cursor.isKeyword kw ts then some ((), ts.drop 1) else none

/-- Reads the keyword `kw` if it comes next. -/
def keyword? (kw : String) : Reader Bool := fun ts =>
  if Cursor.isKeyword kw ts then some (true, ts.drop 1) else some (false, ts)

/-- Reads an identifier that is not a reserved word, giving its text. -/
def ident : Reader String := fun ts =>
  match ts with
  | .ident name raw :: rest =>
    if raw || !strictWords.contains name then some (identText name raw, rest) else none
  | _ => none

/-- Reads any identifier, giving its text. -/
def anyIdent : Reader String := fun ts =>
  match ts with
  | .ident name raw :: rest => some (identText name raw, rest)
  | _ => none

/-- Reads a lifetime. -/
def lifetime : Reader Unit := fun ts =>
  match ts with
  | .punct '\'' .joint :: .ident _ _ :: rest => some ((), rest)
  | _ => none

/-- Reads a literal token, giving its text. -/
def literalToken : Reader String := fun ts =>
  match ts with
  | .literal text :: rest => some (text, rest)
  | _ => none

/-- Reads any group. -/
def anyGroup : Reader Unit := fun ts =>
  match ts with
  | .group _ _ :: rest => some ((), rest)
  | _ => none

/-- Reads a group with the delimiter `d` by `r`, which must read all its trees. -/
def group {α : Type} (d : Delimiter) (r : Reader α) : Reader α := fun ts =>
  match ts with
  | .group d' inner :: rest =>
    if d == d' then
      match r inner with
      | some (a, []) => some (a, rest)
      | _ => none
    else none
  | _ => none

/-- Runs `r` without reading: its value when it succeeds, `none` when it fails. -/
def attempt {α : Type} (r : Reader α) : Reader (Option α) := fun ts =>
  match r ts with
  | some (a, rest) => some (some a, rest)
  | none => some (none, ts)

/-- Runs `r` on the whole cursor, which it must read to the end. -/
def runAll {α : Type} (r : Reader α) (ts : Cursor) : Option α :=
  match r ts with
  | some (a, []) => some a
  | _ => none

end Reader

end LoxSyntax.Code
