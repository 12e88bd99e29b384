import LoxSyntax.Code.Shape

/-! # A grammar of code text

Readers over token trees for the code grammar: paths, types and their bounds,
generic arguments, attributes, expressions, patterns, statements, and the items
that may stand in a block. A reader succeeds when the trees at the start of the
cursor read as its construct, and leaves the rest.

Every reader takes a fuel bound and fails when it runs out. Each call passes a
smaller bound on, and every repetition reads at least one tree, so a bound that
is a fixed multiple of the number of trees is never exhausted; `readPath` starts
from one.

The choice between constructs looks only a few trees ahead, and a choice once
made is kept: there is no backtracking beyond the few places that try a
construct and fall back (a method receiver, a module path before `!`).
-/

namespace LoxSyntax.Code.Grammar

open LoxSyntax.Code Reader

/-- Whether the punctuation `s` comes next. -/
def sees (s : String) : Reader Bool := peek (Cursor.isPunct s)

/-- Whether the keyword `kw` comes next. -/
def seesWord (kw : String) : Reader Bool := peek (Cursor.isKeyword kw)

/-- Whether `p` holds after skipping `k` trees. -/
def seesAt (k : Nat) (p : Cursor → Bool) : Reader Bool := peekAt k p

/-- What `f` says of the trees still to read. -/
def look {α : Type} (f : Cursor → α) : Reader α := fun ts => some (f ts, ts)

/-- Reads a literal: a literal token, `true`, `false`, or a minus sign and a number. -/
def lit : Reader Unit := fun ts =>
  match ts with
  | .ident "true" false :: rest | .ident "false" false :: rest => some ((), rest)
  | _ => (Cursor.literal? ts).map fun (_, rest) => ((), rest)

/-- Reads a string literal if one comes next. -/
def litStr? : Reader Unit := do
  if ← peek Cursor.isLitStr then lit

/-- Reads a member after a dot: a field name, or a tuple index; true for a name. -/
def member : Reader Bool := fun ts =>
  match ts with
  | .ident name raw :: rest =>
    if raw || !strictWords.contains name then some (true, rest) else none
  | .literal t :: rest => if isIndexText t.toList then some (false, rest) else none
  | _ => none

/-- Reads a group of any delimiter, giving whether it is in braces. -/
def macroGroup : Reader Bool := fun ts =>
  match ts with
  | .group d _ :: rest => some (d == .brace, rest)
  | _ => none

/-- Skips semicolons. -/
def skipSemis : Reader Unit := fun ts =>
  some ((), ts.dropWhile fun t => match t with
    | .punct ';' _ => true
    | _ => false)

/-- Reads a label, a lifetime and a colon. -/
def label : Reader Unit := do
  lifetime
  punct ":"

/-- Reads `..` or `..=`, giving whether the range is closed; `...` is refused. -/
def rangeLimits : Reader Bool := do
  if ← sees "..=" then
    punct "..="
    return true
  if (← sees "..") && !(← sees "...") then
    punct ".."
    return false
  fail

/-- Reads `..`, `..=` or `...`, giving whether the range is closed. -/
def rangeLimitsLoose : Reader Bool := do
  if ← sees "..=" then
    punct "..="
    return true
  if ← sees "..." then
    punct "..."
    return true
  punct ".."
  return false

/-- Reads the names of a module path, joined by `::`, with no arguments. -/
def modSegments : Nat → Reader Unit
  | 0 => fail
  | n + 1 => do
    if !(← peek Cursor.isModSegmentStart) then fail
    let _ ← anyIdent
    if ← punct? "::" then modSegments n

/-- Reads a module path, with an optional `::` before it. -/
def modPath (fuel : Nat) : Reader Unit := do
  let _ ← punct? "::"
  modSegments fuel

/-- Reads a visibility, `pub` with an optional restriction, giving whether there
was one. A restriction is `(crate)`, `(self)`, `(super)` or `(in path)`; other
parentheses after `pub` are left to what follows. -/
def visibility (fuel : Nat) : Reader Bool := do
  if !(← seesWord "pub") then return false
  keyword "pub"
  match ← get with
  | .group .parenthesis inner :: rest =>
    match inner with
    | [.ident w false] => if pathWords.contains w && w != "Self" then set rest
    | .ident "in" false :: path =>
      match runAll (modPath fuel) path with
      | some () => set rest
      | none => fail
    | _ => pure ()
  | _ => pure ()
  return true

/-- Reads the parameters of `use<...>`: lifetimes, names and `Self`. -/
def capturedParams : Nat → Reader Unit
  | 0 => fail
  | n + 1 => do
    if ← peek Cursor.isLifetime then lifetime
    else if (← peek Cursor.isIdent) || (← seesWord "Self") then
      let _ ← anyIdent
    else if ← sees ">" then return
    else fail
    if ← sees "," then
      punct ","
      capturedParams n
    else if !(← sees ">") then fail

/-- Reads `use<...>`, which names what an `impl` type captures. -/
def preciseCapture (fuel : Nat) : Reader Unit := do
  keyword "use"
  punct "<"
  capturedParams fuel
  punct ">"

/-- Reads the bounds of a lifetime parameter, up to `,` or `>`. -/
def lifetimeBounds : Nat → Reader Unit
  | 0 => fail
  | n + 1 => do
    if (← sees ",") || (← sees ">") then return
    lifetime
    if ← punct? "+" then lifetimeBounds n

/-- Whether the trees start where the bounds of a `where` predicate end. -/
def endsWhere (ts : Cursor) : Bool :=
  ts.isEmpty || Cursor.isGroup .brace ts || Cursor.isPunct "," ts || Cursor.isPunct ";" ts ||
    (Cursor.isPunct ":" ts && !Cursor.isPunct "::" ts) || Cursor.isPunct "=" ts

/-- Reads the bounds of a lifetime in a `where` clause. -/
def whereLifetimeBounds : Nat → Reader Unit
  | 0 => fail
  | n + 1 => do
    if (← peek endsWhere) || (← sees ":") then return
    lifetime
    if ← punct? "+" then whereLifetimeBounds n

/-- Whether a bound may follow a `+`: a name, `::`, `?`, a lifetime or
parentheses, and with `allowConst` also brackets. -/
def startsBound (allowConst : Bool) (ts : Cursor) : Bool :=
  Cursor.isAnyIdent ts || Cursor.isPunct "::" ts || Cursor.isPunct "?" ts ||
    Cursor.isLifetime ts || Cursor.isGroup .parenthesis ts ||
    (allowConst && Cursor.isGroup .bracket ts)

/-- Whether an open range expression ends before the trees. -/
def endsOpenRange (allowStruct : Bool) (ts : Cursor) : Bool :=
  ts.isEmpty || Cursor.isPunct "," ts || Cursor.isPunct ";" ts ||
    (Cursor.isPunct "." ts && !Cursor.isPunct ".." ts) || Cursor.isPunct "?" ts ||
    Cursor.isPunct "=>" ts || (!allowStruct && Cursor.isGroup .brace ts) ||
    Cursor.isPunct "=" ts || Cursor.isPunct "+" ts || Cursor.isPunct "/" ts ||
    Cursor.isPunct "%" ts || Cursor.isPunct "^" ts || Cursor.isPunct ">" ts ||
    Cursor.isPunct "<=" ts || Cursor.isPunct "!=" ts || Cursor.isPunct "-=" ts ||
    Cursor.isPunct "*=" ts || Cursor.isPunct "&=" ts || Cursor.isPunct "|=" ts ||
    Cursor.isPunct "<<=" ts || Cursor.isKeyword "as" ts

/-- Whether a bound of a range pattern is absent before the trees. -/
def endsRangeBound (ts : Cursor) : Bool :=
  ts.isEmpty || Cursor.isPunct "|" ts || Cursor.isPunct "=" ts ||
    (Cursor.isPunct ":" ts && !Cursor.isPunct "::" ts) || Cursor.isPunct "," ts ||
    Cursor.isPunct ";" ts || Cursor.isKeyword "if" ts

/-- Whether a cast is followed by what may not follow it unparenthesized: a
field or method, `?`, an index or a call. -/
def badAfterCast (ts : Cursor) : Bool :=
  (Cursor.isPunct "." ts && !Cursor.isPunct ".." ts) || Cursor.isPunct "?" ts ||
    Cursor.isGroup .bracket ts || Cursor.isGroup .parenthesis ts

/-- Whether a closure starts the trees. -/
def startsClosure (ts : Cursor) : Bool :=
  Cursor.isPunct "|" ts || Cursor.isKeyword "move" ts ||
    (Cursor.isKeyword "for" ts && Cursor.peekAt (Cursor.isPunct "<") 1 ts &&
      (Cursor.peekAt Cursor.isLifetime 2 ts || Cursor.peekAt (Cursor.isPunct ">") 2 ts)) ||
    (Cursor.isKeyword "const" ts && !Cursor.peekAt (Cursor.isGroup .brace) 1 ts) ||
    Cursor.isKeyword "static" ts ||
    (Cursor.isKeyword "async" ts &&
      (Cursor.peekAt (Cursor.isPunct "|") 1 ts || Cursor.peekAt (Cursor.isKeyword "move") 1 ts))

/-- Whether a path, a macro call or a struct literal starts the trees. -/
def startsPathExpr (ts : Cursor) : Bool :=
  Cursor.isModSegmentStart ts || Cursor.isPunct "::" ts || Cursor.isPunct "<" ts ||
    (Cursor.isKeyword "try" ts &&
      (Cursor.peekAt (Cursor.isPunct "!") 1 ts || Cursor.peekAt (Cursor.isPunct "::") 1 ts))

/-- Whether a path pattern starts the trees, rather than a binding. -/
def startsPathPat (ts : Cursor) : Bool :=
  (Cursor.isIdent ts &&
    (Cursor.peekAt (Cursor.isPunct "::") 1 ts || Cursor.peekAt (Cursor.isPunct "!") 1 ts ||
      Cursor.peekAt (Cursor.isGroup .brace) 1 ts ||
      Cursor.peekAt (Cursor.isGroup .parenthesis) 1 ts ||
      Cursor.peekAt (Cursor.isPunct "..") 1 ts)) ||
    (Cursor.isKeyword "self" ts && Cursor.peekAt (Cursor.isPunct "::") 1 ts) ||
    Cursor.isPunct "::" ts || Cursor.isPunct "<" ts || Cursor.isKeyword "Self" ts ||
    Cursor.isKeyword "super" ts || Cursor.isKeyword "crate" ts

/-- Whether another alternative of an or-pattern follows. -/
def continuesOr (ts : Cursor) : Bool :=
  Cursor.isPunct "|" ts && !Cursor.isPunct "||" ts && !Cursor.isPunct "|=" ts

/-- Whether a statement that starts the trees is a block-like expression, read
without trailing operators. -/
def startsBlockLike (ts : Cursor) : Bool :=
  Cursor.isKeyword "if" ts || Cursor.isKeyword "while" ts ||
    (Cursor.isKeyword "for" ts && !(Cursor.peekAt (Cursor.isPunct "<") 1 ts &&
      (Cursor.peekAt Cursor.isLifetime 2 ts || Cursor.peekAt (Cursor.isPunct ">") 2 ts))) ||
    Cursor.isKeyword "loop" ts || Cursor.isKeyword "match" ts ||
    (Cursor.isKeyword "try" ts && Cursor.peekAt (Cursor.isGroup .brace) 1 ts) ||
    Cursor.isKeyword "unsafe" ts ||
    (Cursor.isKeyword "const" ts && Cursor.peekAt (Cursor.isGroup .brace) 1 ts) ||
    Cursor.isGroup .brace ts || Cursor.isLifetime ts

/-- Whether a function signature starts the trees: optional `const`, `async`,
`unsafe` (or `safe` where `allowSafe`) and `extern "abi"`, then `fn`. -/
def startsSignature (allowSafe : Bool) (ts : Cursor) : Bool :=
  let ts := if Cursor.isKeyword "const" ts then ts.drop 1 else ts
  let ts := if Cursor.isKeyword "async" ts then ts.drop 1 else ts
  let ts := if Cursor.isKeyword "unsafe" ts || (allowSafe && Cursor.isKeyword "safe" ts) then
      ts.drop 1
    else ts
  let ts := if Cursor.isKeyword "extern" ts then
      (if Cursor.isLitStr (ts.drop 1) then ts.drop 2 else ts.drop 1)
    else ts
  Cursor.isKeyword "fn" ts

/-- Whether a statement that starts the trees is an item. -/
def startsItem (ts : Cursor) : Bool :=
  let k (w : String) : Bool := Cursor.isKeyword w ts
  let k2 (w : String) : Bool := Cursor.peekAt (Cursor.isKeyword w) 1 ts
  let k3 (w : String) : Bool := Cursor.peekAt (Cursor.isKeyword w) 2 ts
  k "pub" || (k "crate" && !Cursor.peekAt (Cursor.isPunct "::") 1 ts) || k "extern" ||
    k "use" ||
    (k "static" && (k2 "mut" || (Cursor.peekAt Cursor.isIdent 1 ts &&
      !(k2 "async" && (k3 "move" || Cursor.peekAt (Cursor.isPunct "|") 2 ts))))) ||
    (k "const" && !(Cursor.peekAt (Cursor.isGroup .brace) 1 ts || k2 "static" ||
      (k2 "async" && !(k3 "unsafe" || k3 "extern" || k3 "fn")) || k2 "move" ||
      Cursor.peekAt (Cursor.isPunct "|") 1 ts)) ||
    (k "unsafe" && !Cursor.peekAt (Cursor.isGroup .brace) 1 ts) ||
    (k "async" && (k2 "unsafe" || k2 "extern" || k2 "fn")) ||
    k "fn" || k "mod" || k "type" || k "struct" || k "enum" ||
    (k "union" && Cursor.peekAt Cursor.isIdent 1 ts) || (k "auto" && k2 "trait") ||
    k "trait" || (k "default" && (k2 "unsafe" || k2 "impl")) || k "impl" || k "macro"

/-- Whether a macro call that stands as an item starts the trees: a name, `self`,
`super`, `crate` or `::`. -/
def startsMacroCall (ts : Cursor) : Bool :=
  Cursor.isIdent ts || Cursor.isPunct "::" ts ||
    ["self", "super", "crate"].any (Cursor.isKeyword · ts)

/-- Whether `<` after `impl` opens generic parameters rather than a qualified
path: it does when `>`, `#` or `const` follows, or a lifetime or name followed
by `>`, `,`, `:` or `=`. -/
def choosesGenerics (ts : Cursor) : Bool :=
  Cursor.isPunct "<" ts && (Cursor.peekAt (Cursor.isPunct ">") 1 ts ||
    Cursor.peekAt (Cursor.isPunct "#") 1 ts ||
    ((Cursor.peekAt Cursor.isLifetime 1 ts || Cursor.peekAt Cursor.isIdent 1 ts) &&
      (Cursor.peekAt (Cursor.isPunct ">") 2 ts || Cursor.peekAt (Cursor.isPunct ",") 2 ts ||
        (Cursor.peekAt (Cursor.isPunct ":") 2 ts && !Cursor.peekAt (Cursor.isPunct "::") 2 ts) ||
        Cursor.peekAt (Cursor.isPunct "=") 2 ts)) ||
    Cursor.peekAt (Cursor.isKeyword "const") 1 ts)

/-- What the parentheses of a type hold. -/
inductive ParenContent where
  /-- Nothing, or types separated by commas. -/
  | tuple
  /-- Bounds that start with a lifetime. -/
  | lifetimeObject
  /-- A bound marked `?`, as in `(?Sized)`. -/
  | maybeBound
  /-- One type. -/
  | single (t : TypeForm)

mutual

/-- Reads outer attributes, `#[...]`, giving whether there was any. -/
def outerAttrs : Nat → Reader Bool
  | 0 => fail
  | n + 1 => do
    if ← sees "#" then
      punct "#"
      group .bracket (attrMeta n)
      let _ ← outerAttrs n
      return true
    return false

/-- Reads inner attributes, `#![...]`. -/
def innerAttrs : Nat → Reader Unit
  | 0 => fail
  | n + 1 => do
    if (← sees "#") && (← seesAt 1 (Cursor.isPunct "!")) then
      punct "#"
      punct "!"
      group .bracket (attrMeta n)
      innerAttrs n

/-- Reads what an attribute holds: `unsafe` or a module path, then a group, or
`=` and a value, or nothing. -/
def attrMeta : Nat → Reader Unit
  | 0 => fail
  | n + 1 => do
    if ← seesWord "unsafe" then keyword "unsafe" else modPath n
    if ← peek Cursor.isAnyGroup then anyGroup
    else if ← sees "=" then
      punct "="
      if ← peek Cursor.isLitAlone then lit
      else if (← sees "#") && (← seesAt 1 (Cursor.isGroup .bracket)) then fail
      else
        let _ ← expr true n

-- Paths

/-- Reads a path segment. In an expression (`exprStyle`) type arguments need
`::<`; elsewhere `<` opens them. -/
def segment (exprStyle : Bool) : Nat → Reader SegmentForm
  | 0 => fail
  | n + 1 => do
    if (← seesWord "super") || (← seesWord "self") || (← seesWord "crate") ||
        (← seesWord "try") then
      let name ← anyIdent
      return ⟨name, .none⟩
    let name ← if ← seesWord "Self" then anyIdent else ident
    let opens ← peek fun ts =>
      (!exprStyle && Cursor.isPunct "<" ts && !Cursor.isPunct "<=" ts &&
        !Cursor.isPunct "<<=" ts) ||
      (Cursor.isPunct "::" ts && Cursor.peekAt (Cursor.isPunct "<") 2 ts)
    if opens then
      let empty ← angleArgs n
      return ⟨name, .angle empty⟩
    return ⟨name, .none⟩

/-- Reads arguments in angle brackets, after an optional `::`, giving whether
there are none. -/
def angleArgs : Nat → Reader Bool
  | 0 => fail
  | n + 1 => do
    let _ ← punct? "::"
    punct "<"
    let empty ← sees ">"
    genericArgs n
    punct ">"
    return empty

/-- Reads generic arguments separated by commas, up to `>`. -/
def genericArgs : Nat → Reader Unit
  | 0 => fail
  | n + 1 => do
    if ← sees ">" then return
    genericArg n
    if ← sees ">" then return
    punct ","
    genericArgs n

/-- Reads a generic argument: a lifetime, a constant, a type, or a binding of
an associated item, `Name = Type` or `Name: Bounds`. -/
def genericArg : Nat → Reader Unit
  | 0 => fail
  | n + 1 => do
    if (← peek Cursor.isLifetime) && !(← seesAt 1 (Cursor.isPunct "+")) then
      lifetime
      return
    if (← peek Cursor.isLit) || (← peek (Cursor.isGroup .brace)) then
      constArg n
      return
    let t ← type true n
    match t with
    | .path false ⟨false, [s]⟩ =>
      if s.args == .parenthesized then return
      if ← punct? "=" then
        if (← peek Cursor.isLit) || (← peek (Cursor.isGroup .brace)) then constArg n
        else
          let _ ← type true n
      else if ← punct? ":" then
        constraintBounds n
    | _ => pure ()

/-- Reads a constant argument: a literal, a name or a block. -/
def constArg : Nat → Reader Unit
  | 0 => fail
  | n + 1 => do
    if ← peek Cursor.isLit then lit
    else if ← peek Cursor.isIdent then
      let _ ← ident
    else if ← peek (Cursor.isGroup .brace) then blockExpr n
    else fail

/-- Reads the bounds of `Name: Bounds` in generic arguments. -/
def constraintBounds : Nat → Reader Unit
  | 0 => fail
  | n + 1 => do
    if (← sees ",") || (← sees ">") then return
    let _ ← bound false true n
    if ← punct? "+" then constraintBounds n

/-- Reads a path: an optional `::`, then segments joined by `::`. -/
def path (exprStyle : Bool) : Nat → Reader PathForm
  | 0 => fail
  | n + 1 => do
    let global ← punct? "::"
    let first ← segment exprStyle n
    let rest ← pathRest exprStyle n
    return ⟨global, first :: rest⟩

/-- Reads further segments of a path, each after `::`, stopping before `::(`. -/
def pathRest (exprStyle : Bool) : Nat → Reader (List SegmentForm)
  | 0 => fail
  | n + 1 => do
    if (← sees "::") && !(← seesAt 2 (Cursor.isGroup .parenthesis)) then
      punct "::"
      let s ← segment exprStyle n
      let more ← pathRest exprStyle n
      return s :: more
    return []

/-- Reads a path that may be qualified, `<T as Trait>::Name`, giving whether it is. -/
def qpath (exprStyle : Bool) : Nat → Reader (Bool × PathForm)
  | 0 => fail
  | n + 1 => do
    if ← sees "<" then
      punct "<"
      let _ ← type true n
      if ← seesWord "as" then
        keyword "as"
        let _ ← path false n
      punct ">"
      punct "::"
      let segs ← qualifiedSegments exprStyle n
      return (true, ⟨true, segs⟩)
    let p ← path exprStyle n
    return (false, p)

/-- Reads the segments after a qualified self type, joined by `::`. -/
def qualifiedSegments (exprStyle : Bool) : Nat → Reader (List SegmentForm)
  | 0 => fail
  | n + 1 => do
    let s ← segment exprStyle n
    if ← sees "::" then
      punct "::"
      let more ← qualifiedSegments exprStyle n
      return s :: more
    return [s]

/-- Reads the path of a type, with parenthesized arguments on its last segment. -/
def typePath : Nat → Reader (Bool × PathForm)
  | 0 => fail
  | n + 1 => do
    let (qualified, p) ← qpath false n
    let p ← parenArgs p n
    return (qualified, p)

/-- Reads parenthesized arguments, `(A, B) -> C`, while they follow a last
segment without arguments; after those with no output type or a parenthesized
one, the path may go on. -/
def parenArgs (p : PathForm) : Nat → Reader PathForm
  | 0 => fail
  | n + 1 => do
    if p.lastArgsEmpty && ((← peek (Cursor.isGroup .parenthesis)) ||
        ((← sees "::") && (← seesAt 2 (Cursor.isGroup .parenthesis)))) then
      let _ ← punct? "::"
      let goesOn ← parenthesizedArgs n
      let p := p.withLastArgs .parenthesized
      if goesOn then
        let more ← pathRest false n
        parenArgs { p with segments := p.segments ++ more } n
      else parenArgs p n
    else return p

/-- Reads parenthesized arguments and an output type, giving whether the output
is absent or parenthesized. -/
def parenthesizedArgs : Nat → Reader Bool
  | 0 => fail
  | n + 1 => do
    group .parenthesis (typeList n)
    match ← returnType false n with
    | none | some .paren => return true
    | some _ => return false

/-- Reads types separated by commas, a final comma allowed, to the end. -/
def typeList : Nat → Reader Unit
  | 0 => fail
  | n + 1 => do
    if ← atEnd then return
    let _ ← type true n
    if ← atEnd then return
    punct ","
    typeList n

/-- Reads `-> Type` if it comes next. -/
def returnType (allowPlus : Bool) : Nat → Reader (Option TypeForm)
  | 0 => fail
  | n + 1 => do
    if ← sees "->" then
      punct "->"
      let t ← type allowPlus n
      return some t
    return none

-- Types

/-- Reads a type; with `allowPlus`, bounds joined by `+` may make it a trait object. -/
def type (allowPlus : Bool) : Nat → Reader TypeForm
  | 0 => fail
  | n + 1 => do
    let hasFor ← seesWord "for"
    if hasFor then
      boundLifetimes n
      let ok ← peek fun ts => Cursor.isIdent ts ||
        ["fn", "unsafe", "extern", "super", "self", "Self", "crate"].any (Cursor.isKeyword · ts)
      if !ok then fail
    if ← peek (Cursor.isGroup .parenthesis) then
      parenType allowPlus n
    else if (← seesWord "fn") || (← seesWord "unsafe") || (← seesWord "extern") then
      bareFn n
      return .other
    else if ← peek fun ts =>
        Cursor.isModSegmentStart ts || Cursor.isPunct "::" ts || Cursor.isPunct "<" ts then
      pathType allowPlus hasFor n
    else if ← seesWord "dyn" then
      keyword "dyn"
      let _ ← punct? "*"
      objectBounds allowPlus n
      return .other
    else if ← peek (Cursor.isGroup .bracket) then
      group .bracket (arrayType n)
      return .other
    else if ← sees "*" then
      punct "*"
      if ← seesWord "const" then keyword "const"
      else if ← seesWord "mut" then keyword "mut"
      else fail
      let _ ← type false n
      return .other
    else if ← sees "&" then
      punct "&"
      if ← peek Cursor.isLifetime then lifetime
      let _ ← keyword? "mut"
      let _ ← type false n
      return .other
    else if ← sees "!" then
      punct "!"
      return .other
    else if ← seesWord "impl" then
      keyword "impl"
      let (bs, _) ← bounds allowPlus true true n
      if !bs.any (fun b => b == .trait || b == .constTrait) then fail
      return .other
    else if ← seesWord "_" then
      keyword "_"
      return .other
    else if ← peek Cursor.isLifetime then
      let (bs, trailing) ← bounds true false false n
      if !bs.contains .trait then fail
      return .bareObject bs.length trailing
    else fail

/-- Reads a type in parentheses: a tuple, a parenthesized type, or bounds. -/
def parenType (allowPlus : Bool) : Nat → Reader TypeForm
  | 0 => fail
  | n + 1 => do
    match ← group .parenthesis (parenContent n) with
    | .tuple => return .other
    | .lifetimeObject => return .paren
    | .maybeBound =>
      let more ← plusBounds n
      return .bareObject (more + 1) false
    | .single first =>
      if allowPlus && (← sees "+") then
        let joins : Bool := match first with
          | .path false _ => true
          | .bareObject k trailing => k ≤ 1 && !trailing
          | _ => false
        if joins then
          let more ← plusBounds n
          return .bareObject (more + 1) false
      return .paren

/-- Reads what parentheses in a type hold. -/
def parenContent : Nat → Reader ParenContent
  | 0 => fail
  | n + 1 => do
    if ← atEnd then return .tuple
    if ← peek Cursor.isLifetime then
      let (bs, _) ← bounds true false false n
      if !bs.contains .trait then fail
      return .lifetimeObject
    if ← sees "?" then
      let _ ← traitBound false n
      return .maybeBound
    let first ← type true n
    if ← sees "," then
      punct ","
      typeList n
      return .tuple
    return .single first

/-- Reads `+` and a bound, as long as a `+` follows, giving how many. -/
def plusBounds : Nat → Reader Nat
  | 0 => fail
  | n + 1 => do
    if ← punct? "+" then
      let _ ← bound false false n
      let more ← plusBounds n
      return more + 1
    return 0

/-- Reads a type that starts with a path: a path type, a macro call, or a trait
object of bounds joined by `+`. -/
def pathType (allowPlus hasFor : Bool) : Nat → Reader TypeForm
  | 0 => fail
  | n + 1 => do
    let (qualified, p) ← typePath n
    if qualified then return .path true p
    if (← sees "!") && !(← sees "!=") && p.isModStyle then
      punct "!"
      let _ ← macroGroup
      return .other
    if hasFor || (allowPlus && (← sees "+")) then
      if allowPlus then
        let (more, trailing) ← looseBounds n
        return .bareObject (more + 1) trailing
      return .bareObject 1 false
    return .path false p

/-- Reads `+` and further bounds while a bound may follow each `+`, giving how
many and whether a `+` ends them. -/
def looseBounds : Nat → Reader (Nat × Bool)
  | 0 => fail
  | n + 1 => do
    if ← punct? "+" then
      if ← peek (startsBound false) then
        let _ ← bound false false n
        let (more, trailing) ← looseBounds n
        return (more + 1, trailing)
      return (0, true)
    return (0, false)

/-- Reads the bounds of a `dyn` type; one of them must be a trait. -/
def objectBounds (allowPlus : Bool) : Nat → Reader Unit
  | 0 => fail
  | n + 1 => do
    let (bs, _) ← bounds allowPlus false false n
    if !bs.contains .trait then fail

/-- Reads a slice or array type inside its brackets: a type, and `; length`. -/
def arrayType : Nat → Reader Unit
  | 0 => fail
  | n + 1 => do
    let _ ← type true n
    if ← sees ";" then
      punct ";"
      let _ ← expr true n

/-- Reads `for<...>`, lifetimes bound for what follows. -/
def boundLifetimes : Nat → Reader Unit
  | 0 => fail
  | n + 1 => do
    keyword "for"
    punct "<"
    lifetimeParams n
    punct ">"

/-- Reads lifetimes separated by commas, each after outer attributes, up to `>`. -/
def lifetimeParams : Nat → Reader Unit
  | 0 => fail
  | n + 1 => do
    if ← sees ">" then return
    let _ ← outerAttrs n
    lifetime
    if ← sees ">" then return
    punct ","
    lifetimeParams n

/-- Reads a function pointer type: `for<...>`, `unsafe`, `extern "abi"`, `fn`,
parameters and an output type. -/
def bareFn : Nat → Reader Unit
  | 0 => fail
  | n + 1 => do
    if ← seesWord "for" then boundLifetimes n
    let _ ← keyword? "unsafe"
    if ← seesWord "extern" then
      keyword "extern"
      litStr?
    keyword "fn"
    group .parenthesis (bareFnParams true n)
    let _ ← returnType false n

/-- Reads the parameters of a function pointer: types, each maybe named, and a
final `...` that may be named. -/
def bareFnParams (first : Bool) : Nat → Reader Unit
  | 0 => fail
  | n + 1 => do
    if ← atEnd then return
    let _ ← outerAttrs n
    let variadic ← peek fun ts => Cursor.isPunct "..." ts ||
      ((Cursor.isIdent ts || Cursor.isKeyword "_" ts) &&
        Cursor.peekAt (Cursor.isPunct ":") 1 ts && Cursor.peekAt (Cursor.isPunct "...") 2 ts)
    if variadic then
      if (← peek Cursor.isIdent) || (← seesWord "_") then
        let _ ← anyIdent
        punct ":"
      punct "..."
      let _ ← punct? ","
      return
    let named ← peek fun ts =>
      (Cursor.isIdent ts || Cursor.isKeyword "_" ts || (first && Cursor.isKeyword "self" ts)) &&
        Cursor.peekAt (Cursor.isPunct ":") 1 ts && !Cursor.peekAt (Cursor.isPunct "::") 1 ts
    if named then
      let _ ← anyIdent
      punct ":"
    let _ ← type true n
    if ← atEnd then return
    punct ","
    bareFnParams false n

-- Bounds

/-- Reads bounds joined by `+`, giving them and whether a `+` ends them. -/
def bounds (allowPlus allowCapture allowConst : Bool) : Nat → Reader (List BoundForm × Bool)
  | 0 => fail
  | n + 1 => do
    let b ← bound allowCapture allowConst n
    if allowPlus && (← sees "+") then
      punct "+"
      if ← peek (startsBound allowConst) then
        let (more, trailing) ← bounds allowPlus allowCapture allowConst n
        return (b :: more, trailing)
      return ([b], true)
    return ([b], false)

/-- Reads one bound: a lifetime, `use<...>` where captures are allowed, or a
trait bound, maybe in parentheses. -/
def bound (allowCapture allowConst : Bool) : Nat → Reader BoundForm
  | 0 => fail
  | n + 1 => do
    if ← peek Cursor.isLifetime then
      lifetime
      return .lifetime
    if ← seesWord "use" then
      preciseCapture n
      if allowCapture then return .capture else fail
    if ← peek (Cursor.isGroup .parenthesis) then
      group .parenthesis (traitBound allowConst n)
    else traitBound allowConst n

/-- Reads a trait bound: `for<...>`, `const` or `[const]` where allowed, `?`,
then a path, maybe with parenthesized arguments. -/
def traitBound (allowConst : Bool) : Nat → Reader BoundForm
  | 0 => fail
  | n + 1 => do
    let hasFor ← seesWord "for"
    if hasFor then boundLifetimes n
    let mut isConst := false
    if ← peek (Cursor.isGroup .bracket) then
      group .bracket (keyword "const")
      if !allowConst then fail
      isConst := true
    else if ← seesWord "const" then
      keyword "const"
      if !allowConst then fail
      isConst := true
    let maybe ← punct? "?"
    if !hasFor && maybe && (← seesWord "for") then boundLifetimes n
    let p ← path false n
    if p.lastArgsEmpty && ((← peek (Cursor.isGroup .parenthesis)) ||
        ((← sees "::") && (← seesAt 2 (Cursor.isGroup .parenthesis)))) then
      let _ ← punct? "::"
      let _ ← parenthesizedArgs n
    return if isConst then .constTrait else .trait

-- Expressions

/-- Reads an expression; without `allowStruct` a path before braces is not a
struct literal, as in the condition of `if`. -/
def expr (allowStruct : Bool) : Nat → Reader ExprForm
  | 0 => fail
  | n + 1 => do
    let lhs ← unaryExpr allowStruct n
    binaryTail allowStruct 0 lhs n

/-- Reads the operators after `lhs` that bind at least as strongly as `base`. -/
def binaryTail (allowStruct : Bool) (base : Nat) (lhs : ExprForm) : Nat → Reader ExprForm
  | 0 => fail
  | n + 1 => do
    if lhs.isRange then return lhs
    match ← look Cursor.binaryOperator? with
    | some (op, prec) =>
      if prec < base then return lhs
      if prec == precCompare && lhs.isCompare then fail
      punct op
      let _ ← binaryRhs allowStruct prec n
      binaryTail allowStruct base (.binary (prec == precCompare)) n
    | none =>
      if precAssign ≥ base && (← sees "=") && !(← sees "=>") then
        punct "="
        let _ ← binaryRhs allowStruct precAssign n
        binaryTail allowStruct base .other n
      else if precRange ≥ base && (← sees "..") then
        let closed ← rangeLimits
        rangeEnd allowStruct closed n
        binaryTail allowStruct base .range n
      else if precCast ≥ base && (← seesWord "as") then
        keyword "as"
        let _ ← type false n
        if ← peek badAfterCast then fail
        binaryTail allowStruct base .other n
      else return lhs

/-- Reads the right operand of an operator of strength `prec`, with the
operators after it that bind more strongly. -/
def binaryRhs (allowStruct : Bool) (prec : Nat) : Nat → Reader ExprForm
  | 0 => fail
  | n + 1 => do
    let rhs ← unaryExpr allowStruct n
    rhsTail allowStruct prec rhs n

/-- Extends a right operand while stronger operators follow; assignments group
to the right. -/
def rhsTail (allowStruct : Bool) (prec : Nat) (rhs : ExprForm) : Nat → Reader ExprForm
  | 0 => fail
  | n + 1 => do
    let next ← look Cursor.precedence
    if next > prec || (next == prec && prec == precAssign) then
      let before ← get
      let rhs ← binaryTail allowStruct next rhs n
      let after ← get
      if before.length == after.length then return rhs
      rhsTail allowStruct prec rhs n
    else return rhs

/-- Reads the end of a range, which an open range may lack. -/
def rangeEnd (allowStruct closed : Bool) : Nat → Reader Unit
  | 0 => fail
  | n + 1 => do
    if !closed && (← peek (endsOpenRange allowStruct)) then return
    let _ ← binaryRhs allowStruct precRange n

/-- Reads an expression with its prefix operators and attributes. -/
def unaryExpr (allowStruct : Bool) : Nat → Reader ExprForm
  | 0 => fail
  | n + 1 => do
    let attrs ← outerAttrs n
    if ← sees "&" then
      punct "&"
      let raw ← peek fun ts => Cursor.isKeyword "raw" ts &&
        (Cursor.peekAt (Cursor.isKeyword "mut") 1 ts ||
          Cursor.peekAt (Cursor.isKeyword "const") 1 ts)
      if raw then keyword "raw"
      let mutable ← keyword? "mut"
      if raw && !mutable then keyword "const"
      let _ ← unaryExpr allowStruct n
      return .other
    if (← sees "*") || (← sees "!") || (← sees "-") then
      if ← sees "*" then punct "*"
      else if ← sees "!" then punct "!"
      else punct "-"
      let _ ← unaryExpr allowStruct n
      return .other
    trailerExpr allowStruct attrs n

/-- Reads an operand with its calls, fields, methods, indexes and `?`; an
attribute may not stand before a range that starts with `..`. -/
def trailerExpr (allowStruct hasAttrs : Bool) : Nat → Reader ExprForm
  | 0 => fail
  | n + 1 => do
    let atom ← atomExpr allowStruct n
    let e ← trailers atom n
    if hasAttrs && e.isRange then fail
    return e

/-- Reads calls, fields, methods, indexes and `?` after `e`. -/
def trailers (e : ExprForm) : Nat → Reader ExprForm
  | 0 => fail
  | n + 1 => do
    if ← peek (Cursor.isGroup .parenthesis) then
      group .parenthesis (exprList n)
      trailers .other n
    else if (← sees ".") && !(← sees "..") && !e.isRange then
      punct "."
      let mut indexed := false
      if ← peek Cursor.isLitFloat then
        let text ← literalToken
        match floatIndex? text with
        | some trailingDot => indexed := !trailingDot
        | none => fail
      if indexed then
        trailers .other n
      else if ← seesWord "await" then
        keyword "await"
        trailers .other n
      else
        let named ← member
        if named && (← sees "::") then
          let _ ← angleArgs n
          group .parenthesis (exprList n)
        else if named && (← peek (Cursor.isGroup .parenthesis)) then
          group .parenthesis (exprList n)
        trailers .other n
    else if ← peek (Cursor.isGroup .bracket) then
      group .bracket (do let _ ← expr true n)
      trailers .other n
    else if (← sees "?") && !e.isRange then
      punct "?"
      trailers .other n
    else return e

/-- Reads expressions separated by commas, a final comma allowed, to the end. -/
def exprList : Nat → Reader Unit
  | 0 => fail
  | n + 1 => do
    if ← atEnd then return
    let _ ← expr true n
    if ← atEnd then return
    punct ","
    exprList n

/-- Reads an operand. -/
def atomExpr (allowStruct : Bool) : Nat → Reader ExprForm
  | 0 => fail
  | n + 1 => do
    if ← peek Cursor.isLit then
      lit
      return .other
    if (← seesWord "async") && ((← seesAt 1 (Cursor.isGroup .brace)) ||
        ((← seesAt 1 (Cursor.isKeyword "move")) && (← seesAt 2 (Cursor.isGroup .brace)))) then
      keyword "async"
      let _ ← keyword? "move"
      block n
      return .other
    if (← seesWord "try") && (← seesAt 1 (Cursor.isGroup .brace)) then
      keyword "try"
      block n
      return .blockLike
    if ← peek startsClosure then
      closure allowStruct n
      return .other
    if (← seesWord "builtin") && (← seesAt 1 (Cursor.isPunct "#")) then
      keyword "builtin"
      punct "#"
      let _ ← ident
      group .parenthesis (set ([] : Cursor))
      return .other
    if ← peek startsPathExpr then
      pathExpr allowStruct n
    else if ← peek (Cursor.isGroup .parenthesis) then
      group .parenthesis (tupleBody n)
      return .other
    else if ← seesWord "break" then
      keyword "break"
      if (← peek Cursor.isLifetime) && (← seesAt 1 (Cursor.isPunct ":")) then fail
      if ← peek Cursor.isLifetime then lifetime
      if (← peek Cursor.beginsExpr) &&
          (allowStruct || !(← peek (Cursor.isGroup .brace))) then
        let _ ← expr true n
      return .other
    else if ← seesWord "continue" then
      keyword "continue"
      if ← peek Cursor.isLifetime then lifetime
      return .other
    else if (← seesWord "return") || (← seesWord "yield") then
      let _ ← anyIdent
      if ← peek Cursor.beginsExpr then
        let _ ← expr true n
      return .other
    else if ← seesWord "become" then
      keyword "become"
      let _ ← expr true n
      return .other
    else if ← peek (Cursor.isGroup .bracket) then
      group .bracket (arrayBody n)
      return .other
    else if ← seesWord "let" then
      keyword "let"
      let _ ← multiPat true n
      punct "="
      let lhs ← unaryExpr allowStruct n
      let _ ← binaryTail allowStruct precCompare lhs n
      return .other
    else if (← seesWord "if") || (← seesWord "while") || (← seesWord "for") ||
        (← seesWord "loop") || (← seesWord "match") || (← seesWord "unsafe") ||
        (← seesWord "const") || (← peek (Cursor.isGroup .brace)) then
      blockLikeExpr n
      return .blockLike
    else if ← sees ".." then
      let closed ← rangeLimits
      rangeEnd allowStruct closed n
      return .range
    else if ← seesWord "_" then
      keyword "_"
      return .other
    else if ← peek Cursor.isLifetime then
      blockLikeExpr n
      return .blockLike
    else fail

/-- Reads a path expression, a macro call, or with `allowStruct` a struct literal. -/
def pathExpr (allowStruct : Bool) : Nat → Reader ExprForm
  | 0 => fail
  | n + 1 => do
    let (qualified, p) ← qpath true n
    if !qualified && (← sees "!") && !(← sees "!=") && p.isModStyle then
      punct "!"
      let braced ← macroGroup
      return .macroCall braced
    if allowStruct && (← peek (Cursor.isGroup .brace)) then
      group .brace (structFields n)
      return .structLit
    return .other

/-- Reads the fields of a struct literal, maybe ending with `..` and a base. -/
def structFields : Nat → Reader Unit
  | 0 => fail
  | n + 1 => do
    if ← atEnd then return
    if ← sees ".." then
      punct ".."
      if ← atEnd then return
      let _ ← expr true n
      return
    fieldValue n
    if ← atEnd then return
    punct ","
    structFields n

/-- Reads a field of a struct literal: a member, and `: value` unless it is a
name standing for itself. -/
def fieldValue : Nat → Reader Unit
  | 0 => fail
  | n + 1 => do
    let _ ← outerAttrs n
    let named ← member
    if (← sees ":") || !named then
      punct ":"
      let _ ← expr true n

/-- Reads what parentheses in an expression hold: nothing, one expression, or a tuple. -/
def tupleBody : Nat → Reader Unit
  | 0 => fail
  | n + 1 => do
    if ← atEnd then return
    let _ ← expr true n
    if ← atEnd then return
    punct ","
    exprList n

/-- Reads what brackets in an expression hold: elements, or `value; count`. -/
def arrayBody : Nat → Reader Unit
  | 0 => fail
  | n + 1 => do
    if ← atEnd then return
    let _ ← expr true n
    if ← atEnd then return
    if ← sees "," then
      punct ","
      exprList n
    else if ← sees ";" then
      punct ";"
      let _ ← expr true n
    else fail

/-- Reads a closure: binders and markers, parameters between bars, and a body,
which must be a block after an output type. -/
def closure (allowStruct : Bool) : Nat → Reader Unit
  | 0 => fail
  | n + 1 => do
    if ← seesWord "for" then boundLifetimes n
    let _ ← keyword? "const"
    let _ ← keyword? "static"
    let _ ← keyword? "async"
    let _ ← keyword? "move"
    punct "|"
    closureParams n
    punct "|"
    if ← sees "->" then
      punct "->"
      let _ ← type true n
      block n
    else
      let _ ← expr allowStruct n

/-- Reads closure parameters separated by commas, each a pattern with an
optional type, up to the closing bar. -/
def closureParams : Nat → Reader Unit
  | 0 => fail
  | n + 1 => do
    if ← sees "|" then return
    let _ ← outerAttrs n
    let _ ← singlePat n
    if ← sees ":" then
      punct ":"
      let _ ← type true n
    if ← sees "|" then return
    punct ","
    closureParams n

/-- Reads an expression that is a block or ends in one: `if`, `while`, `for`,
`loop`, `match`, `try`, `unsafe` and `const` blocks, blocks and labeled ones. -/
def blockLikeExpr : Nat → Reader Unit
  | 0 => fail
  | n + 1 => do
    let _ ← outerAttrs n
    if ← seesWord "if" then ifExpr n
    else if ← seesWord "match" then
      keyword "match"
      let _ ← expr false n
      group .brace (do innerAttrs n; arms n)
    else if ← seesWord "try" then
      keyword "try"
      block n
    else if (← seesWord "unsafe") || (← seesWord "const") then
      let _ ← anyIdent
      bracedBody n
    else
      if ← peek Cursor.isLifetime then label
      if ← seesWord "while" then
        keyword "while"
        let _ ← expr false n
        bracedBody n
      else if ← seesWord "for" then
        keyword "for"
        let _ ← multiPat true n
        keyword "in"
        let _ ← expr false n
        bracedBody n
      else if ← seesWord "loop" then
        keyword "loop"
        bracedBody n
      else if ← peek (Cursor.isGroup .brace) then bracedBody n
      else fail

/-- Reads `if`, its condition and block, and any `else` branches. -/
def ifExpr : Nat → Reader Unit
  | 0 => fail
  | n + 1 => do
    keyword "if"
    let _ ← expr false n
    block n
    if ← seesWord "else" then
      keyword "else"
      if ← seesWord "if" then ifExpr n
      else if ← peek (Cursor.isGroup .brace) then block n
      else fail

/-- Reads the arms of a `match`. -/
def arms : Nat → Reader Unit
  | 0 => fail
  | n + 1 => do
    if ← atEnd then return
    arm n
    arms n

/-- Reads a `match` arm: a pattern, a guard, `=>`, a body, and the comma that a
body other than a block needs before another arm. -/
def arm : Nat → Reader Unit
  | 0 => fail
  | n + 1 => do
    let _ ← outerAttrs n
    let _ ← multiPat true n
    if ← seesWord "if" then
      keyword "if"
      let _ ← expr true n
    punct "=>"
    let body ← statementExpr n
    if body != .blockLike && !(← atEnd) then punct ","
    else
      let _ ← punct? ","

/-- Reads a block of statements without inner attributes. -/
def block : Nat → Reader Unit
  | 0 => fail
  | n + 1 => group .brace (stmts n)

/-- Reads a block with inner attributes before its statements. -/
def bracedBody : Nat → Reader Unit
  | 0 => fail
  | n + 1 => group .brace (do innerAttrs n; stmts n)

/-- Reads a block expression: attributes, an optional label, and a block. -/
def blockExpr : Nat → Reader Unit
  | 0 => fail
  | n + 1 => do
    let _ ← outerAttrs n
    if ← peek Cursor.isLifetime then label
    bracedBody n

-- Patterns

/-- Reads a pattern with alternatives joined by `|`, and with `leadingVert` an
optional `|` before them. -/
def multiPat (leadingVert : Bool) : Nat → Reader PatForm
  | 0 => fail
  | n + 1 => do
    let vert ← if leadingVert then punct? "|" else pure false
    let p ← singlePat n
    if vert || (← peek continuesOr) then
      orPats n
      return .other
    return p

/-- Reads further alternatives of an or-pattern. -/
def orPats : Nat → Reader Unit
  | 0 => fail
  | n + 1 => do
    if ← peek continuesOr then
      punct "|"
      let _ ← singlePat n
      orPats n

/-- Reads a pattern without alternatives. -/
def singlePat : Nat → Reader PatForm
  | 0 => fail
  | n + 1 => do
    if ← peek startsPathPat then pathPat n
    else if ← seesWord "_" then
      keyword "_"
      return .other
    else if ← seesWord "box" then
      keyword "box"
      let _ ← singlePat n
      return .other
    else if (← sees "-") || (← peek Cursor.isLit) || (← seesWord "const") then
      litOrRangePat n
    else if (← seesWord "ref") || (← seesWord "mut") || (← seesWord "self") ||
        (← peek Cursor.isIdent) then
      identPat n
      return .other
    else if ← sees "&" then
      punct "&"
      let _ ← keyword? "mut"
      let _ ← singlePat n
      return .other
    else if ← peek (Cursor.isGroup .parenthesis) then
      group .parenthesis (patList n)
      return .other
    else if ← peek (Cursor.isGroup .bracket) then
      group .bracket (slicePats n)
      return .other
    else if (← sees "..") && !(← sees "...") then
      halfOpenPat n
    else fail

/-- Reads a pattern that starts with a path: a macro call, a struct or tuple
struct pattern, a range, or the path alone. -/
def pathPat : Nat → Reader PatForm
  | 0 => fail
  | n + 1 => do
    let (qualified, p) ← qpath true n
    if !qualified && (← sees "!") && !(← sees "!=") && p.isModStyle then
      punct "!"
      let _ ← macroGroup
      return .other
    if ← peek (Cursor.isGroup .brace) then
      group .brace (structPatFields n)
      return .other
    if ← peek (Cursor.isGroup .parenthesis) then
      group .parenthesis (patList n)
      return .other
    if ← sees ".." then
      let closed ← rangeLimitsLoose
      let hasEnd ← rangeBound n
      if closed && !hasEnd then fail
      return if hasEnd then .other else .openRange
    return .other

/-- Reads patterns separated by commas, a final comma allowed, to the end. -/
def patList : Nat → Reader Unit
  | 0 => fail
  | n + 1 => do
    if ← atEnd then return
    let _ ← multiPat true n
    if ← atEnd then return
    punct ","
    patList n

/-- Reads the patterns of a slice pattern; a range lacking an end must be
parenthesized there. -/
def slicePats : Nat → Reader Unit
  | 0 => fail
  | n + 1 => do
    if ← atEnd then return
    let p ← multiPat true n
    if p == .openRange then fail
    if ← atEnd then return
    punct ","
    slicePats n

/-- Reads the fields of a struct pattern, maybe ending with `..`. -/
def structPatFields : Nat → Reader Unit
  | 0 => fail
  | n + 1 => do
    if ← atEnd then return
    let _ ← outerAttrs n
    if ← sees ".." then
      punct ".."
      return
    fieldPat n
    if ← atEnd then return
    punct ","
    structPatFields n

/-- Reads a field of a struct pattern: `box`, `ref` and `mut` before a name, or
a member with `: pattern`, or a name alone. -/
def fieldPat : Nat → Reader Unit
  | 0 => fail
  | n + 1 => do
    let boxed ← keyword? "box"
    let byRef ← keyword? "ref"
    let mutable ← keyword? "mut"
    let marked := boxed || byRef || mutable
    let named ← if marked then (do let _ ← ident; pure true) else member
    if (!marked && (← sees ":")) || !named then
      punct ":"
      let _ ← multiPat true n

/-- Reads a binding: `ref`, `mut`, a name or `self`, and `@ pattern`. -/
def identPat : Nat → Reader Unit
  | 0 => fail
  | n + 1 => do
    let _ ← keyword? "ref"
    let _ ← keyword? "mut"
    if ← seesWord "self" then
      let _ ← anyIdent
    else
      let _ ← ident
    if ← sees "@" then
      punct "@"
      let _ ← singlePat n

/-- Reads a literal, a negative number or a `const` block, and a range after it. -/
def litOrRangePat : Nat → Reader PatForm
  | 0 => fail
  | n + 1 => do
    let hasStart ← rangeBound n
    if !hasStart then fail
    if ← sees ".." then
      let closed ← rangeLimitsLoose
      let hasEnd ← rangeBound n
      if closed && !hasEnd then fail
      return if hasEnd then .other else .openRange
    return .other

/-- Reads a bound of a range pattern: a literal, a path or a `const` block;
false when none stands here. -/
def rangeBound : Nat → Reader Bool
  | 0 => fail
  | n + 1 => do
    if ← peek endsRangeBound then return false
    if ← peek Cursor.isLit then
      lit
      return true
    if ← peek fun ts =>
        Cursor.isModSegmentStart ts || Cursor.isPunct "::" ts || Cursor.isPunct "<" ts then
      let _ ← qpath true n
      return true
    if ← seesWord "const" then
      keyword "const"
      bracedBody n
      return true
    fail

/-- Reads a range pattern that starts with `..`, or the rest pattern `..`. -/
def halfOpenPat : Nat → Reader PatForm
  | 0 => fail
  | n + 1 => do
    let closed ← rangeLimits
    let hasEnd ← rangeBound n
    if hasEnd then return .openRange
    if closed then fail
    return .rest

-- Statements

/-- Reads statements to the end: each but the last needs a semicolon unless it
ends in a block. -/
def stmts : Nat → Reader Unit
  | 0 => fail
  | n + 1 => do
    skipSemis
    if ← atEnd then return
    let needsSemi ← stmt n
    if ← atEnd then return
    if needsSemi then fail
    stmts n

/-- Reads a statement, giving whether it needs a semicolon before another. -/
def stmt : Nat → Reader Bool
  | 0 => fail
  | n + 1 => do
    let _ ← outerAttrs n
    let ts ← get
    let mut itemMacro := false
    match (modPath n).run ts with
    | some ((), after) =>
      if Cursor.isPunct "!" after then
        if Cursor.peekAt Cursor.isIdent 1 after ||
            Cursor.peekAt (Cursor.isKeyword "try") 1 after then
          itemMacro := true
        else if Cursor.peekAt (Cursor.isGroup .brace) 1 after &&
            !((Cursor.peekAt (Cursor.isPunct ".") 2 after &&
                !Cursor.peekAt (Cursor.isPunct "..") 2 after) ||
              Cursor.peekAt (Cursor.isPunct "?") 2 after) then
          set after
          punct "!"
          let _ ← macroGroup
          let _ ← punct? ";"
          return false
    | none => pure ()
    if ← seesWord "let" then
      localStmt n
      return false
    if itemMacro || (← peek startsItem) then
      item n
      return false
    let e ← statementExpr n
    let semi ← punct? ";"
    if semi then return false
    return e.needsSemi

/-- Reads `let`, a pattern, an optional type, an optional value with an `else`
block, and `;`. -/
def localStmt : Nat → Reader Unit
  | 0 => fail
  | n + 1 => do
    keyword "let"
    let _ ← singlePat n
    if ← sees ":" then
      punct ":"
      let _ ← type true n
    if ← punct? "=" then
      let e ← expr true n
      if !e.endsWithBrace && (← seesWord "else") then
        keyword "else"
        block n
    punct ";"

/-- Reads an expression that starts a statement: a block-like expression ends
it unless a method, field or `?` follows. -/
def statementExpr : Nat → Reader ExprForm
  | 0 => fail
  | n + 1 => do
    let _ ← outerAttrs n
    if ← peek startsBlockLike then
      blockLikeExpr n
      if ((← sees ".") && !(← sees "..")) || (← sees "?") then
        let e ← trailers .blockLike n
        binaryTail true 0 e n
      else return .blockLike
    else
      let e ← unaryExpr true n
      binaryTail true 0 e n

-- Items

/-- Reads an item after its outer attributes: a function, `extern crate`, an
`extern` block, `use`, `static`, `const`, a module, a type alias, a struct,
enum or union, a trait or trait alias, an `impl` block, a `macro`, or a macro
call. -/
def item : Nat → Reader Unit
  | 0 => fail
  | n + 1 => do
    let ts ← get
    let some (afterVis, ahead) := (visibility n).run ts | fail
    let k (w : String) : Bool := Cursor.isKeyword w ahead
    let k2 (w : String) : Bool := Cursor.peekAt (Cursor.isKeyword w) 1 ahead
    if k "fn" || startsSignature false ahead then
      let _ ← visibility n
      signature false n
      if ← sees ";" then punct ";" else bracedBody n
    else if k "extern" && k2 "crate" then
      let _ ← visibility n
      keyword "extern"
      keyword "crate"
      if ← seesWord "self" then
        let _ ← anyIdent
      else
        let _ ← ident
      if ← seesWord "as" then
        keyword "as"
        if ← seesWord "_" then keyword "_"
        else
          let _ ← ident
      punct ";"
    else if k "extern" then
      let after := ahead.drop 1
      if Cursor.isGroup .brace after ||
          (Cursor.isLitStr after && Cursor.isGroup .brace (after.drop 1)) then
        foreignMod n
      else fail
    else if k "use" then
      let _ ← visibility n
      keyword "use"
      let global ← punct? "::"
      useTree (!global) n
      punct ";"
    else if k "static" then
      let _ ← visibility n
      keyword "static"
      let _ ← keyword? "mut"
      let _ ← ident
      if ← punct? "=" then
        let _ ← expr true n
      else
        punct ":"
        let _ ← type true n
        if ← punct? "=" then
          let _ ← expr true n
      punct ";"
    else if k "const" then
      let _ ← visibility n
      constItem n
    else if k "unsafe" then
      if k2 "trait" || (k2 "auto" && Cursor.peekAt (Cursor.isKeyword "trait") 2 ahead) then
        traitDecl n
      else if k2 "impl" then implBlock n
      else if k2 "extern" then
        let _ ← visibility n
        foreignMod n
      else if k2 "mod" then moduleItem n
      else fail
    else if k "mod" then moduleItem n
    else if k "type" then flexibleType true false n
    else if k "struct" then
      let _ ← visibility n
      keyword "struct"
      let _ ← ident
      generics n
      let hasWhere ← seesWord "where"
      whereClause n
      if !hasWhere && (← peek (Cursor.isGroup .parenthesis)) then
        group .parenthesis (unnamedFields n)
        whereClause n
        punct ";"
      else if ← peek (Cursor.isGroup .brace) then group .brace (namedFields n)
      else punct ";"
    else if k "enum" then
      let _ ← visibility n
      keyword "enum"
      let _ ← ident
      generics n
      whereClause n
      group .brace (variants n)
    else if k "union" && Cursor.peekAt Cursor.isIdent 1 ahead then
      let _ ← visibility n
      keyword "union"
      let _ ← ident
      generics n
      whereClause n
      group .brace (namedFields n)
    else if k "trait" || (k "auto" && k2 "trait") then traitDecl n
    else if k "impl" || (k "default" && !Cursor.peekAt (Cursor.isPunct "!") 1 ahead) then
      implBlock n
    else if k "macro" then
      set ahead
      keyword "macro"
      let _ ← ident
      if ← peek (Cursor.isGroup .parenthesis) then anyGroup
      group .brace (set ([] : Cursor))
    else if !afterVis && startsMacroCall ahead then
      modPath n
      punct "!"
      if ← seesWord "try" then
        let _ ← anyIdent
      else if ← peek Cursor.isIdent then
        let _ ← ident
      let braced ← macroGroup
      if !braced then punct ";"
    else fail

/-- Reads a `const` item after its visibility: a name or `_`, generics, a type,
an optional value and a `where` clause. -/
def constItem : Nat → Reader Unit
  | 0 => fail
  | n + 1 => do
    keyword "const"
    if (← peek Cursor.isIdent) || (← seesWord "_") then
      let _ ← anyIdent
    else fail
    generics n
    punct ":"
    let _ ← type true n
    if ← punct? "=" then
      let _ ← expr true n
    whereClause n
    punct ";"

/-- Reads a module: `mod`, a name, and `;` or items in braces. -/
def moduleItem : Nat → Reader Unit
  | 0 => fail
  | n + 1 => do
    let _ ← visibility n
    let _ ← keyword? "unsafe"
    keyword "mod"
    if ← seesWord "try" then
      let _ ← anyIdent
    else
      let _ ← ident
    if ← sees ";" then punct ";"
    else group .brace (do innerAttrs n; items n)

/-- Reads a type item: `type`, a name, generics, bounds, an optional definition
and `;`, with a `where` clause before the definition (`whereBefore`), after it
(`whereAfter`), or in either place. -/
def flexibleType (whereBefore whereAfter : Bool) : Nat → Reader Unit
  | 0 => fail
  | n + 1 => do
    let _ ← visibility n
    keyword "type"
    let _ ← ident
    generics n
    if ← punct? ":" then typeItemBounds n
    let hadWhere ← seesWord "where"
    if whereBefore then whereClause n
    if ← punct? "=" then
      let _ ← type true n
    if whereAfter && !(whereBefore && hadWhere) then whereClause n
    punct ";"

/-- Reads a macro call that stands as an item: a module path, `!`, a group, and
`;` unless the group is in braces. -/
def macroItem : Nat → Reader Unit
  | 0 => fail
  | n + 1 => do
    modPath n
    punct "!"
    let braced ← macroGroup
    if !braced then punct ";"

/-- Reads a trait, `unsafe` and `auto` allowed, with supertraits, a `where`
clause and items; or a trait alias, `trait Name = Bounds;`. -/
def traitDecl : Nat → Reader Unit
  | 0 => fail
  | n + 1 => do
    let _ ← visibility n
    let markedUnsafe ← keyword? "unsafe"
    let isAuto ← keyword? "auto"
    keyword "trait"
    let _ ← ident
    generics n
    if !markedUnsafe && !isAuto && (← sees "=") then
      punct "="
      aliasBounds n
      whereClause n
      punct ";"
    else
      if ← punct? ":" then superBounds n
      whereClause n
      group .brace (do innerAttrs n; traitItems n)

/-- Reads the bounds of a trait alias, up to `where` or `;`. -/
def aliasBounds : Nat → Reader Unit
  | 0 => fail
  | n + 1 => do
    if (← seesWord "where") || (← sees ";") then return
    let _ ← bound false false n
    if (← seesWord "where") || (← sees ";") then return
    punct "+"
    aliasBounds n

/-- Reads the supertraits of a trait, up to `where` or its braces. -/
def superBounds : Nat → Reader Unit
  | 0 => fail
  | n + 1 => do
    if (← seesWord "where") || (← peek (Cursor.isGroup .brace)) then return
    let _ ← bound false true n
    if (← seesWord "where") || (← peek (Cursor.isGroup .brace)) then return
    punct "+"
    superBounds n

/-- Reads the items of a trait to the end. -/
def traitItems : Nat → Reader Unit
  | 0 => fail
  | n + 1 => do
    if ← atEnd then return
    traitMember n
    traitItems n

/-- Reads an item of a trait: a function with or without a body, a constant, a
type, or a macro call. -/
def traitMember : Nat → Reader Unit
  | 0 => fail
  | n + 1 => do
    let _ ← outerAttrs n
    let visible ← visibility n
    let defaulted ← keyword? "default"
    let ahead ← get
    if Cursor.isKeyword "fn" ahead || startsSignature false ahead then
      signature false n
      if ← peek (Cursor.isGroup .brace) then bracedBody n else punct ";"
    else if Cursor.isKeyword "const" ahead then
      let after := ahead.drop 1
      if !(Cursor.isIdent after || Cursor.isKeyword "_" after) then fail
      constItem n
    else if Cursor.isKeyword "type" ahead then flexibleType false true n
    else if !visible && !defaulted && startsMacroCall ahead then macroItem n
    else fail

/-- Reads an `impl` block: `default`, `unsafe`, generics, `const`, `!`, a type,
`for` and a type, a `where` clause, and items. -/
def implBlock : Nat → Reader Unit
  | 0 => fail
  | n + 1 => do
    let _ ← visibility n
    let _ ← keyword? "default"
    let _ ← keyword? "unsafe"
    keyword "impl"
    if ← peek choosesGenerics then generics n
    if (← seesWord "const") || ((← sees "?") && (← seesAt 1 (Cursor.isKeyword "const"))) then
      let _ ← punct? "?"
      keyword "const"
    let negative ← peek fun ts =>
      Cursor.isPunct "!" ts && !Cursor.peekAt (Cursor.isGroup .brace) 1 ts
    if negative then punct "!"
    let _ ← type true n
    if ← seesWord "for" then
      keyword "for"
      let _ ← type true n
    else if negative then fail
    whereClause n
    group .brace (do innerAttrs n; implItems n)

/-- Reads the items of an `impl` block to the end. -/
def implItems : Nat → Reader Unit
  | 0 => fail
  | n + 1 => do
    if ← atEnd then return
    implMember n
    implItems n

/-- Reads an item of an `impl` block: a function, with a body or not, a
constant, a type, or a macro call. -/
def implMember : Nat → Reader Unit
  | 0 => fail
  | n + 1 => do
    let _ ← outerAttrs n
    let ts ← get
    let some (afterVis, ahead) := (visibility n).run ts | fail
    let defaulted := Cursor.isKeyword "default" ahead && !Cursor.peekAt (Cursor.isPunct "!") 1 ahead
    let ahead := if defaulted then ahead.drop 1 else ahead
    if Cursor.isKeyword "fn" ahead || startsSignature false ahead then
      let _ ← visibility n
      let _ ← keyword? "default"
      signature false n
      if ← sees ";" then punct ";" else bracedBody n
    else if Cursor.isKeyword "const" ahead then
      set ahead
      constItem n
    else if Cursor.isKeyword "type" ahead then
      let _ ← visibility n
      let _ ← keyword? "default"
      flexibleType false true n
    else if !afterVis && !defaulted && startsMacroCall ahead then macroItem n
    else fail

/-- Reads an `extern` block: `unsafe`, `extern`, an optional ABI string, and
foreign items in braces. -/
def foreignMod : Nat → Reader Unit
  | 0 => fail
  | n + 1 => do
    let _ ← keyword? "unsafe"
    keyword "extern"
    litStr?
    group .brace (do innerAttrs n; foreignItems n)

/-- Reads the items of an `extern` block to the end. -/
def foreignItems : Nat → Reader Unit
  | 0 => fail
  | n + 1 => do
    if ← atEnd then return
    foreignMember n
    foreignItems n

/-- Reads a foreign item: a function, maybe marked `safe`, with a body or `;`;
a static; a type; or a macro call. -/
def foreignMember : Nat → Reader Unit
  | 0 => fail
  | n + 1 => do
    let _ ← outerAttrs n
    let ts ← get
    let some (afterVis, ahead) := (visibility n).run ts | fail
    if Cursor.isKeyword "fn" ahead || startsSignature true ahead then
      let _ ← visibility n
      signature true n
      if ← peek (Cursor.isGroup .brace) then bracedBody n else punct ";"
    else if Cursor.isKeyword "static" ahead ||
        ((Cursor.isKeyword "unsafe" ahead || Cursor.isKeyword "safe" ahead) &&
          Cursor.peekAt (Cursor.isKeyword "static") 1 ahead) then
      let _ ← visibility n
      let markedUnsafe ← keyword? "unsafe"
      if !markedUnsafe && (← seesWord "safe") && (← seesAt 1 (Cursor.isKeyword "static")) then
        keyword "safe"
      keyword "static"
      let _ ← keyword? "mut"
      let _ ← ident
      punct ":"
      let _ ← type true n
      if ← punct? "=" then
        let _ ← expr true n
      punct ";"
    else if Cursor.isKeyword "type" ahead then flexibleType true true n
    else if !afterVis && startsMacroCall ahead then macroItem n
    else fail

/-- Reads items to the end. -/
def items : Nat → Reader Unit
  | 0 => fail
  | n + 1 => do
    if ← atEnd then return
    let _ ← outerAttrs n
    item n
    items n

/-- Reads the tree of a `use` item: a name with `::` and more, or `as` a new
name; `*`; or braces holding trees, where `allowRoot` lets each start with `::`. -/
def useTree (allowRoot : Bool) : Nat → Reader Unit
  | 0 => fail
  | n + 1 => do
    if ← peek fun ts => Cursor.isIdent ts ||
        ["self", "super", "crate", "try"].any (Cursor.isKeyword · ts) then
      let _ ← anyIdent
      if ← sees "::" then
        punct "::"
        useTree false n
      else if ← seesWord "as" then
        keyword "as"
        if ← peek Cursor.isIdent then
          let _ ← ident
        else if ← seesWord "_" then keyword "_"
        else fail
    else if ← sees "*" then punct "*"
    else if ← peek (Cursor.isGroup .brace) then group .brace (useTrees allowRoot n)
    else fail

/-- Reads `use` trees separated by commas, a final comma allowed, to the end. -/
def useTrees (allowRoot : Bool) : Nat → Reader Unit
  | 0 => fail
  | n + 1 => do
    if ← atEnd then return
    let root ← if allowRoot then punct? "::" else pure false
    useTree (allowRoot && !root) n
    if ← atEnd then return
    punct ","
    useTrees allowRoot n

/-- Reads the bounds of a type alias, up to `where`, `=` or `;`. -/
def typeItemBounds : Nat → Reader Unit
  | 0 => fail
  | n + 1 => do
    if (← seesWord "where") || (← sees "=") || (← sees ";") then return
    let _ ← bound false true n
    if (← seesWord "where") || (← sees "=") || (← sees ";") then return
    punct "+"
    typeItemBounds n

/-- Reads named fields separated by commas, a final comma allowed, to the end. -/
def namedFields : Nat → Reader Unit
  | 0 => fail
  | n + 1 => do
    if ← atEnd then return
    let _ ← outerAttrs n
    let _ ← visibility n
    let unnamed ← seesWord "_"
    if unnamed then
      let _ ← anyIdent
    else
      let _ ← ident
    punct ":"
    if unnamed && ((← seesWord "struct") ||
        ((← seesWord "union") && (← seesAt 1 (Cursor.isGroup .brace)))) then
      let _ ← anyIdent
      group .brace (namedFields n)
    else
      let _ ← type true n
    if ← atEnd then return
    punct ","
    namedFields n

/-- Reads unnamed fields, types with attributes and visibility, separated by
commas, to the end. -/
def unnamedFields : Nat → Reader Unit
  | 0 => fail
  | n + 1 => do
    if ← atEnd then return
    let _ ← outerAttrs n
    let _ ← visibility n
    let _ ← type true n
    if ← atEnd then return
    punct ","
    unnamedFields n

/-- Reads the variants of an enum: a name, fields in braces or parentheses, and
an optional `= discriminant`. -/
def variants : Nat → Reader Unit
  | 0 => fail
  | n + 1 => do
    if ← atEnd then return
    let _ ← outerAttrs n
    let _ ← visibility n
    let _ ← ident
    if ← peek (Cursor.isGroup .brace) then group .brace (namedFields n)
    else if ← peek (Cursor.isGroup .parenthesis) then group .parenthesis (unnamedFields n)
    if ← punct? "=" then
      let _ ← expr true n
    if ← atEnd then return
    punct ","
    variants n

/-- Reads a function signature: qualifiers, `safe` among them where
`allowSafe`, `fn`, a name, generics, parameters, an output type and a `where`
clause. -/
def signature (allowSafe : Bool) : Nat → Reader Unit
  | 0 => fail
  | n + 1 => do
    let _ ← keyword? "const"
    let _ ← keyword? "async"
    let markedUnsafe ← keyword? "unsafe"
    if allowSafe && !markedUnsafe && (← seesWord "safe") then keyword "safe"
    if ← seesWord "extern" then
      keyword "extern"
      litStr?
    keyword "fn"
    let _ ← ident
    generics n
    group .parenthesis (fnParams true n)
    let _ ← returnType true n
    whereClause n

/-- Reads function parameters: a receiver first, patterns with types, and a
final `...` that may be named. -/
def fnParams (first : Bool) : Nat → Reader Unit
  | 0 => fail
  | n + 1 => do
    if ← atEnd then return
    let _ ← outerAttrs n
    if ← sees "..." then
      punct "..."
      if !(← atEnd) then punct ","
      return
    let ts ← get
    match (receiver n).run ts with
    | some ((), rest) =>
      if !first then fail
      set rest
    | none =>
      if (← peek Cursor.isIdent) && (← seesAt 1 (Cursor.isPunct "<")) then
        let _ ← type true n
      else
        let _ ← singlePat n
        punct ":"
        if ← sees "..." then
          punct "..."
          if !(← atEnd) then punct ","
          return
        let _ ← type true n
    if ← atEnd then return
    punct ","
    fnParams false n

/-- Reads a method receiver: `self`, `&self`, `&'a mut self`, or `self: Type`. -/
def receiver : Nat → Reader Unit
  | 0 => fail
  | n + 1 => do
    let reference ← punct? "&"
    if reference then
      if ← peek Cursor.isLifetime then lifetime
    let _ ← keyword? "mut"
    keyword "self"
    if !reference && (← sees ":") then
      punct ":"
      let _ ← type true n

/-- Reads generic parameters in angle brackets, if they come next. -/
def generics : Nat → Reader Unit
  | 0 => fail
  | n + 1 => do
    if !(← sees "<") then return
    punct "<"
    genericParams n
    punct ">"

/-- Reads generic parameters separated by commas, up to `>`: lifetimes with
bounds, types with bounds and defaults, constants, and `_`. -/
def genericParams : Nat → Reader Unit
  | 0 => fail
  | n + 1 => do
    if ← sees ">" then return
    let _ ← outerAttrs n
    if ← peek Cursor.isLifetime then
      lifetime
      if ← punct? ":" then lifetimeBounds n
    else if ← peek Cursor.isIdent then
      let _ ← ident
      if ← punct? ":" then typeParamBounds n
      if ← punct? "=" then
        let _ ← type true n
    else if ← seesWord "const" then
      keyword "const"
      let _ ← ident
      punct ":"
      let _ ← type true n
      if ← punct? "=" then constArg n
    else if ← seesWord "_" then keyword "_"
    else fail
    if ← sees ">" then return
    punct ","
    genericParams n

/-- Reads the bounds of a type parameter, up to `,`, `>` or `=`. -/
def typeParamBounds : Nat → Reader Unit
  | 0 => fail
  | n + 1 => do
    if (← sees ",") || (← sees ">") || (← sees "=") then return
    let _ ← bound false true n
    if ← punct? "+" then typeParamBounds n

/-- Reads a `where` clause, if one comes next. -/
def whereClause : Nat → Reader Unit
  | 0 => fail
  | n + 1 => do
    if !(← seesWord "where") then return
    keyword "where"
    wherePredicates n

/-- Reads `where` predicates separated by commas. -/
def wherePredicates : Nat → Reader Unit
  | 0 => fail
  | n + 1 => do
    if ← peek endsWhere then return
    wherePredicate n
    if ← punct? "," then wherePredicates n

/-- Reads a `where` predicate: a lifetime with its bounds, or a type with its
bounds, maybe after `for<...>`. -/
def wherePredicate : Nat → Reader Unit
  | 0 => fail
  | n + 1 => do
    if (← peek Cursor.isLifetime) && (← seesAt 1 (Cursor.isPunct ":")) then
      lifetime
      punct ":"
      whereLifetimeBounds n
    else
      if ← seesWord "for" then boundLifetimes n
      let _ ← type true n
      punct ":"
      predicateBounds n

/-- Reads the bounds of a type in a `where` predicate. -/
def predicateBounds : Nat → Reader Unit
  | 0 => fail
  | n + 1 => do
    if ← peek endsWhere then return
    let _ ← bound false true n
    if ← punct? "+" then predicateBounds n

end

/-- Reads trees as a path of the type grammar, all of them, with `fuel` bounding
the depth of reading. -/
def readPath (fuel : Nat) (ts : Cursor) : Option PathForm :=
  runAll (path false fuel) ts

end LoxSyntax.Code.Grammar
