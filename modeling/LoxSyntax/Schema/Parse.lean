import LoxSyntax.Schema.Basic
import LoxSyntax.Schema.Error
import LoxSyntax.Text.Blank
import LoxSyntax.Text.Cut

/-! # Reading the compact notation

A declaration `Name : Type field, other` is read after trimming its blanks: the
text before the first colon is the variant name, and the text after it is cut at
every comma into field entries. An entry, trimmed, is a name alone (a literal
payload) or a declared type, one blank, and a name; the type is everything before
the entry's first blank.

The checks run in reading order, and the first failure is the error: the colon,
the variant name (empty, then not an identifier), then each entry in turn (empty
name, name not an identifier, name already used).

A grammar checks its base name first and then reads its declarations in order,
refusing a variant name declared twice; an error inside a declaration carries the
declaration's position, counted from 1.
-/

namespace LoxSyntax.Schema

/-- Reads one trimmed field entry of `declaration`. -/
def Field.parse (declaration : String) (entry : List Char) : Except SchemaError Field :=
  let (declaredType, name) : Option String × List Char :=
    match cutChars isBlank entry with
    | some (ty, rest) => (some (String.ofList ty), trimBlankChars rest)
    | none => (none, entry)
  if name.isEmpty then .error (.emptyFieldName declaration)
  else if isIdentifierChars name then .ok ⟨declaredType, String.ofList name⟩
  else .error (.invalidIdentifier declaration (String.ofList name))

/-- Reads the field entries of `declaration` in order, refusing a name that one of
`seen` or an earlier entry already has. -/
def Field.parseEntries (declaration : String) (seen : List Field) :
    List (List Char) → Except SchemaError (List Field)
  | [] => .ok []
  | entry :: rest => do
    let field ← Field.parse declaration (trimBlankChars entry)
    if seen.any (·.name == field.name) then
      throw (.duplicateField declaration field.name)
    let more ← Field.parseEntries declaration (seen ++ [field]) rest
    pure (field :: more)

/-- Reads one declaration in the compact notation. -/
def Variant.parse (line : String) : Except SchemaError Variant := do
  let chars := trimBlankChars line.toList
  let declaration := String.ofList chars
  let some (rawName, fieldList) := cutChars (· == ':') chars
    | throw (.missingSeparator declaration)
  let name := trimBlankChars rawName
  if name.isEmpty then throw (.emptyVariantName declaration)
  unless isIdentifierChars name do throw (.invalidIdentifier declaration (String.ofList name))
  let fields ← Field.parseEntries declaration [] (splitChars ',' fieldList)
  pure ⟨String.ofList name, fields⟩

/-- Reads the declarations of grammar `base` from position `index` on, refusing a
variant name that one of `seen` or an earlier declaration already has. -/
def Grammar.parseLines (base : String) (index : Nat) (seen : List Variant) :
    List String → Except SchemaError (List Variant)
  | [] => .ok []
  | line :: rest => do
    let variant ← (Variant.parse line).mapError (.inGrammar base index)
    if seen.any (·.name == variant.name) then
      throw (.inGrammar base index (.duplicateVariant variant.name))
    let more ← Grammar.parseLines base (index + 1) (seen ++ [variant]) rest
    pure (variant :: more)

/-- Reads a grammar: its base name and its declarations, one per line. -/
def Grammar.parse (base : String) (lines : List String) : Except SchemaError Grammar := do
  unless isIdentifier base do throw (.invalidIdentifier base base)
  let variants ← Grammar.parseLines base 1 [] lines
  pure ⟨base, variants⟩

end LoxSyntax.Schema
