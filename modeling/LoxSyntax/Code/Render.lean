import LoxSyntax.Code.Syntax
import LoxSyntax.Layout.Engine

/-! # Writing the generated code

Each syntax form becomes layout pieces (`Layout.Piece`); `Layout.layout` then
breaks the lines. The page is 89 columns wide and an indentation step is four
spaces.

The breaking rules, by form:

* items open a consistent group of one step, so their bodies always go one
  member per line;
* argument and parameter lists, type arguments and tuple fields open a
  consistent group: they stay on the line, or go one per line, each followed by
  a comma, with the closing bracket back at the opening line's indentation;
* a struct literal goes one field per line when its fields are wider than 34
  columns, even if they would fit;
* a method call breaks before the dot when the line is full, except after a
  receiver of at most four letters at the start of a line;
* a match arm whose body does not fit puts the body in braces on lines of its own.
-/

namespace LoxSyntax.Code

open LoxSyntax.Layout

/-- The page of generated code. -/
def page : Page := { margin := 89, minSpace := 60 }

/-- One step of indentation. -/
def step : Int := 4

/-- A line end taken only when needed, with `blank` spaces otherwise. -/
def space (blank : Nat := 1) : Piece := .brk { blank }

/-- A line end that is always taken. -/
def hardbreak : Piece := .brk Break.hard

/-- A line end that is always taken, dropped when the group closes right after it. -/
def hardbreakIfNonempty : Piece := .brk { Break.hard with ifNonempty := true }

/-- A break that never ends a line; it measures what follows separately. -/
def neverbreak : Piece := .brk { never := true }

/-- The separator after an element of a list: a comma and a space, and after the
last element a comma only when the list is broken. -/
def trailingComma (last : Bool) : List Piece :=
  if last then [.brk { before := some ',' }] else [.text ",", space]

/-- Like `trailingComma`, with a space after the last element when the list fits. -/
def trailingCommaOrSpace (last : Bool) : List Piece :=
  if last then [.brk { blank := 1, before := some ',' }] else [.text ",", space]

/-- Pieces for each element of a list, each followed by its separator. -/
def separated {α : Type} (xs : List α) (each : α → List Piece)
    (sep : Bool → List Piece := trailingComma) : List Piece :=
  let rec go : List α → List Piece
    | [] => []
    | [x] => each x ++ sep true
    | x :: rest => each x ++ sep false ++ go rest
  go xs

/-- A path written with its separators. -/
def pathText (segments : List String) : String := "::".intercalate segments

/-- A bracketed list that stays on the line or goes one element per line. -/
def bracketed (pieces : List Piece) : List Piece :=
  [.group step .consistent, space 0] ++ pieces ++ [.shift (-step), .close]

/-- The pieces of a type. -/
def Ty.pieces : Ty → List Piece
  | .ref mutable target => [.text "&"] ++ (if mutable then [.text "mut "] else []) ++ target.pieces
  | .path segments args =>
    [.text (pathText segments)] ++
      if args.isEmpty then []
      else [.text "<"] ++ bracketed (separated args.attach fun ⟨t, _⟩ => t.pieces) ++ [.text ">"]

/-- Whether an expression is a name of at most four letters. -/
def Expr.isShortName : Expr → Bool
  | .path [name] => name.length ≤ 4
  | _ => false

/-- The pieces of a pattern. -/
def Pat.pieces : Pat → List Piece
  | .bind name => [.text name]
  | .tuple path fields =>
    [.text (pathText path), .text "("] ++
      bracketed (separated fields.attach fun ⟨f, _⟩ => f.pieces) ++ [.text ")"]

/-- The pieces of an expression; `lineStart` tells whether it begins a line. -/
def Expr.pieces (lineStart : Bool) : Expr → List Piece
  | .path segments => [.text (pathText segments)]
  | .deref operand => [.text "*"] ++ operand.pieces false
  | .call callee args =>
    callee.pieces lineStart ++ [.text "("] ++
      bracketed (separated args.attach fun ⟨a, _⟩ => a.pieces false) ++ [.text ")"]
  | .methodCall receiver method args =>
    let tight := lineStart && receiver.isShortName
    [.group step .consistent] ++ receiver.pieces lineStart ++
      (if tight then [] else [space 0]) ++
      [.text ".", .text method, .group (if tight then -step else 0) .consistent, .text "("] ++
      bracketed (separated args.attach fun ⟨a, _⟩ => a.pieces false) ++
      [.text ")", .close, .close]
  | .record segments fields =>
    [.group step .consistent, .text (pathText segments), .text " \x7b",
      .brk { blank := 1, ifNonempty := true }] ++
      separated fields.attach (fun ⟨(name, value), _⟩ =>
        [.text name.text] ++
          (match value with
            | some v => [.text ": ", .group 0 .inconsistent] ++ v.pieces false ++ [.close]
            | none => [])) trailingCommaOrSpace ++
      [.shift (-step), .closeWithin 34, .text "\x7d"]
  | .matchOn scrutinee arms =>
    [.group 0 .inconsistent, .text "match "] ++ scrutinee.pieces false ++
      [.text " \x7b", neverbreak, .group step .consistent, hardbreakIfNonempty] ++
      (arms.attach.map fun ⟨(pat, body), _⟩ =>
        [.group 0 .inconsistent] ++ pat.pieces ++
          [.text " =>", .text " ", neverbreak, .group step .consistent,
            .brk { before := some '{' }] ++ body.pieces true ++
          [.brk { offset := -step, after := some "\x7d", instead := some ',' }, .close, .close,
            hardbreak]).flatten ++
      [.shift (-step), .close, .text "\x7d", .close]
decreasing_by
  all_goals simp_wf
  all_goals
    first
    | omega
    | (have hm := List.sizeOf_lt_of_mem ‹_ ∈ _›; simp_all; omega)

/-- The pieces of an attribute. -/
def Attr.pieces : Attr → List Piece
  | .doc text => [.text "///", .text text, hardbreak]
  | .allow lint => [.text ("#[allow(" ++ lint ++ ")]"), space]
  | .derive traits => [.text ("#[derive(" ++ ", ".intercalate traits ++ ")]"), space]

def attrsPieces (attrs : List Attr) : List Piece := (attrs.map Attr.pieces).flatten

/-- The pieces of a type parameter and its bounds. -/
def TypeParam.pieces (p : TypeParam) : List Piece :=
  let bound (first : Bool) (b : Bound) : List Piece :=
    (if first then [.text ": "] else [space, .text "+ "]) ++
      (if b.relaxed then [.text "?"] else []) ++ b.trait.pieces
  let rec bounds : Bool → List Bound → List Piece
    | _, [] => []
    | first, b :: rest => bound first b ++ bounds false rest
  [.text p.name, .group step .inconsistent] ++ bounds true p.bounds ++ [.close]

def genericsPieces (params : List TypeParam) : List Piece :=
  if params.isEmpty then []
  else
    [.text "<", .group 0 .consistent, space 0] ++ separated params TypeParam.pieces ++
      [.shift (-step), .close, .text ">"]

def Param.pieces : Param → List Piece
  | .self mutable => [.text (if mutable then "&mut self" else "&self")]
  | .typed name ty => [.text name.text, .text ": "] ++ ty.pieces

def Signature.pieces (s : Signature) : List Piece :=
  [.text "fn ", .text s.name] ++ genericsPieces s.generics ++
    [.text "(", neverbreak, .group 0 .consistent, space 0] ++ separated s.params Param.pieces ++
    [.shift (-step), .close, .text ")", .group (-step) .consistent, .text " -> "] ++
    s.output.pieces ++ [.close]

/-- A function with its body, the body being the tail expression. -/
def FnDef.pieces (f : FnDef) : List Piece :=
  (match f.doc with | some d => (Attr.doc d).pieces | none => []) ++
    [.group step .consistent] ++ (if f.isPublic then [.text "pub "] else []) ++
    f.sig.pieces ++ [.text " ", .text "\x7b", hardbreakIfNonempty] ++
    [.group 0 .inconsistent] ++ f.body.pieces true ++ [.close, hardbreak] ++
    [.shift (-step), .close, .text "\x7d", hardbreak]

/-- The opening of a braced item body after its head. -/
def openBody : List Piece := [.text " ", .text "\x7b", hardbreakIfNonempty]

/-- The closing of a braced item body. -/
def closeBody : List Piece := [.shift (-step), .close, .text "\x7d", hardbreak]

def Item.pieces : Item → List Piece
  | .importPath attrs path =>
    attrsPieces attrs ++
      [.text "use ", .text ((if path.global then "::" else "") ++
        pathText (path.segments.map (·.name))), .text ";", hardbreak]
  | .enumDecl attrs name variants =>
    attrsPieces attrs ++ [.group step .consistent, .text "pub ", .text "enum ", .text name] ++
      openBody ++
      (variants.map fun (v, ty) =>
        [.text v, .group step .consistent, .text "(", space 0] ++ ty.pieces ++ trailingComma true ++
          [.shift (-step), .text ")", .close, .text ",", hardbreak]).flatten ++
      closeBody
  | .structDecl attrs name fields =>
    attrsPieces attrs ++ [.group step .consistent, .text "pub ", .text "struct ", .text name] ++
      openBody ++
      (fields.map fun (f, ty) =>
        [.text "pub ", .text f.text, .text ": "] ++ ty.pieces ++ [.text ",", hardbreak]).flatten ++
      closeBody
  | .traitDecl attrs name assoc methods =>
    attrsPieces attrs ++ [.group step .consistent, .text "pub ", .text "trait ", .text name] ++
      openBody ++
      [.group step .consistent, .text "type ", .text assoc, .text ";", .close, hardbreak] ++
      (methods.map fun m => [.group step .consistent] ++ m.pieces ++ [.text ";", .close, hardbreak]).flatten ++
      closeBody
  | .implBlock trait selfTy fns =>
    [.group step .consistent, .group (-step) .inconsistent, .group step .consistent,
      .text "impl", .close, .text " "] ++
      (match trait with
        | some t => t.pieces ++ [space, .text "for "]
        | none => []) ++
      selfTy.pieces ++ [.close] ++ openBody ++ (fns.map FnDef.pieces).flatten ++ closeBody

/-- The text of a source file made of `items`. -/
def renderItems (items : List Item) : String :=
  layout page ([.group 0 .consistent] ++ (items.map Item.pieces).flatten ++ [.close])

end LoxSyntax.Code
