/-! # Node schemas

A schema describes a family of syntax-tree nodes. A *grammar* names the family
(its base name, such as `Expr`) and lists its *variants*; a variant has a name and
fields, and a field has a name and, optionally, a declared type. Fields without a
type hold literal payloads.

Every name in a schema is an *identifier*: an ASCII letter or underscore followed
by ASCII letters, digits and underscores, other than the lone underscore.

A variant is written in the compact notation `Name : Type field, other`;
`Variant.render` writes it back in that notation, one blank around the colon and
after each comma.
-/

namespace LoxSyntax.Schema

/-- A field of a variant: its declared type, absent for literal payloads, and its name. -/
structure Field where
  declaredType : Option String
  name : String
deriving DecidableEq, Repr

/-- A variant of a node family: its name and its fields in declaration order. -/
structure Variant where
  name : String
  fields : List Field
deriving DecidableEq, Repr

/-- A node family: its base name and its variants in schema order. -/
structure Grammar where
  baseName : String
  variants : List Variant
deriving DecidableEq, Repr

/-- Whether a character may start an identifier. -/
def isIdentStart (c : Char) : Bool := c.isAlpha || c == '_'

/-- Whether a character may continue an identifier. -/
def isIdentPart (c : Char) : Bool := c.isAlphanum || c == '_'

/-- The identifier rule on characters: a start character, then continuing
characters, and not the lone underscore. -/
def isIdentifierChars : List Char → Bool
  | [] => false
  | c :: cs => isIdentStart c && cs.all isIdentPart && !(c == '_' && cs.isEmpty)

/-- Whether a text is an identifier. -/
def isIdentifier (s : String) : Bool := isIdentifierChars s.toList

/-- A field in the compact notation: `Type name`, or the name alone. -/
def Field.render (f : Field) : String :=
  match f.declaredType with
  | some t => t ++ " " ++ f.name
  | none => f.name

/-- A variant in the compact notation: `Name : Type field, other`. -/
def Variant.render (v : Variant) : String :=
  v.name ++ " : " ++ ", ".intercalate (v.fields.map Field.render)

end LoxSyntax.Schema
