import LoxSyntax.Code.Keyword

/-! # The generated code as a syntax tree

The items of a generated source file: imports, enums, structs, traits and impl
blocks, with the types, function signatures, expressions and patterns they are
made of. Only the forms that the node model needs are here, and each has one
written form (`Code.Render`).

`Item.isAccepted` says whether the code reader accepts a file of these items: it
refuses a reserved word where it expects a plain identifier, and an import whose
path carries type arguments or goes through `Self`.
-/

namespace LoxSyntax.Code

/-- A type: a path whose last segment may take type arguments, or a reference. -/
inductive Ty where
  | path (segments : List String) (args : List Ty)
  | ref (mutable : Bool) (target : Ty)
deriving Repr, Inhabited

/-- A type named by one plain segment. -/
def Ty.named (name : String) (args : List Ty := []) : Ty := .path [name] args

/-- A bound on a type parameter: a trait, possibly relaxed (`?Sized`). -/
structure Bound where
  relaxed : Bool
  trait : Ty
deriving Repr

/-- A type parameter with its bounds. -/
structure TypeParam where
  name : String
  bounds : List Bound
deriving Repr

/-- A function parameter: the receiver by reference, or a named, typed value. -/
inductive Param where
  | self (mutable : Bool)
  | typed (name : Ident) (ty : Ty)
deriving Repr

/-- A function signature. -/
structure Signature where
  name : String
  generics : List TypeParam
  params : List Param
  output : Ty
deriving Repr

/-- A pattern: a binding, or a tuple variant with patterns for its fields. -/
inductive Pat where
  | bind (name : String)
  | tuple (path : List String) (fields : List Pat)
deriving Repr

/-- An expression. -/
inductive Expr where
  | path (segments : List String)
  | deref (operand : Expr)
  | call (callee : Expr) (args : List Expr)
  | methodCall (receiver : Expr) (method : String) (args : List Expr)
  /-- A struct literal; a field without a value is written by its name alone. -/
  | record (path : List String) (fields : List (Ident × Option Expr))
  | matchOn (scrutinee : Expr) (arms : List (Pat × Expr))
deriving Repr, Inhabited

/-- A function with a body made of one expression. -/
structure FnDef where
  doc : Option String
  isPublic : Bool
  sig : Signature
  body : Expr
deriving Repr

/-- An attribute on an item. -/
inductive Attr where
  | doc (text : String)
  | allow (lint : String)
  | derive (traits : List String)
deriving Repr

/-- A segment of an import path, and whether type arguments follow it. -/
structure ImportSegment where
  name : String
  hasArgs : Bool := false
deriving DecidableEq, Repr

/-- An import path: segments, possibly after a leading `::`. -/
structure ImportPath where
  global : Bool
  segments : List ImportSegment
deriving DecidableEq, Repr

/-- An item of a source file. Enums, structs, traits and struct fields are public. -/
inductive Item where
  | importPath (attrs : List Attr) (path : ImportPath)
  | enumDecl (attrs : List Attr) (name : String) (variants : List (String × Ty))
  | structDecl (attrs : List Attr) (name : String) (fields : List (Ident × Ty))
  | traitDecl (attrs : List Attr) (name : String) (assocType : String) (methods : List Signature)
  | implBlock (trait : Option Ty) (selfTy : Ty) (fns : List FnDef)
deriving Repr

/-! ## What the code reader accepts -/

/-- A plain name is accepted where an identifier is expected. -/
def acceptsName (name : String) : Bool := !strictWords.contains name

/-- A path segment is a plain name or one of the words that start paths. -/
def acceptsSegment (name : String) : Bool := acceptsName name || pathWords.contains name

mutual
/-- Whether every segment of a type is accepted. -/
def Ty.isAccepted : Ty → Bool
  | .path segments args => segments.all acceptsSegment && Ty.allAccepted args
  | .ref _ target => target.isAccepted

/-- Whether every type of a list is accepted. -/
def Ty.allAccepted : List Ty → Bool
  | [] => true
  | t :: ts => t.isAccepted && Ty.allAccepted ts
end

/-- A typed parameter's name is a binding or a path pattern; `self` would be a
second receiver. -/
def Param.isAccepted : Param → Bool
  | .self _ => true
  | .typed name ty =>
    (name.isAccepted || (!name.raw && ["super", "crate", "Self"].contains name.name)) &&
      ty.isAccepted

def Signature.isAccepted (s : Signature) : Bool :=
  acceptsName s.name && s.params.all Param.isAccepted && s.output.isAccepted &&
    s.generics.all fun p => acceptsName p.name && p.bounds.all (·.trait.isAccepted)

/-- An import is accepted when its path carries no type arguments and does not
go through `Self`. -/
def ImportPath.isAccepted (p : ImportPath) : Bool :=
  p.segments.all fun s => !s.hasArgs && s.name != "Self"

/-- Whether the code reader accepts an item. Expressions and patterns of the
node model only repeat names checked at their declarations, so the check looks
at declarations, signatures and types. -/
def Item.isAccepted : Item → Bool
  | .importPath _ path => path.isAccepted
  | .enumDecl _ name variants =>
    acceptsName name && variants.all fun (v, ty) => acceptsName v && ty.isAccepted
  | .structDecl _ name fields =>
    acceptsName name && fields.all fun (f, ty) => f.isAccepted && ty.isAccepted
  | .traitDecl _ name assoc methods =>
    acceptsName name && acceptsName assoc && methods.all Signature.isAccepted
  | .implBlock trait selfTy fns =>
    (trait.map Ty.isAccepted).getD true && selfTy.isAccepted &&
      fns.all fun f => f.sig.isAccepted

end LoxSyntax.Code
