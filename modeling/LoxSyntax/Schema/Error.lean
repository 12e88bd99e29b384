/-! # Schema errors

Why a declaration or a grammar is refused. Each error carries the trimmed
declaration text it was found in; an error inside a grammar is wrapped with the
grammar's base name and the 1-based position of the declaration.
-/

namespace LoxSyntax.Schema

/-- The causes for refusing a declaration or a grammar. -/
inductive SchemaError where
  /-- The declaration has no colon between the variant name and the fields. -/
  | missingSeparator (declaration : String)
  /-- Nothing but blanks stands before the colon. -/
  | emptyVariantName (declaration : String)
  /-- A field entry is empty or has no name after its type. -/
  | emptyFieldName (declaration : String)
  /-- A variant, field or base name is not an identifier. -/
  | invalidIdentifier (declaration name : String)
  /-- A grammar declares a variant name twice. -/
  | duplicateVariant (variant : String)
  /-- A declaration names a field twice. -/
  | duplicateField (declaration field : String)
  /-- An error of the declaration at `index` (from 1) of the grammar `baseName`. -/
  | inGrammar (baseName : String) (index : Nat) (source : SchemaError)
deriving DecidableEq, Repr

namespace SchemaError

/-- The error with every grammar position removed. -/
def root : SchemaError → SchemaError
  | inGrammar _ _ source => source.root
  | e => e

/-- The text of an error. -/
def message : SchemaError → String
  | missingSeparator d =>
    s!"declaration '{d}' has no ':' separating the variant name from its fields"
  | emptyVariantName d => s!"declaration '{d}' has an empty variant name"
  | emptyFieldName d => s!"declaration '{d}' has an empty field name"
  | invalidIdentifier d name => s!"declaration '{d}': '{name}' is not a valid identifier"
  | duplicateVariant v => s!"variant '{v}' is declared more than once"
  | duplicateField d f => s!"declaration '{d}' declares field '{f}' more than once"
  | inGrammar base index source => s!"{base} grammar, declaration {index}: {source.message}"

/-- The name of the error's kind, with the grammar wrapper as a leading part:
`InGrammar.MissingSeparator`. -/
def kind : SchemaError → String
  | missingSeparator _ => "MissingSeparator"
  | emptyVariantName _ => "EmptyVariantName"
  | emptyFieldName _ => "EmptyFieldName"
  | invalidIdentifier _ _ => "InvalidIdentifier"
  | duplicateVariant _ => "DuplicateVariant"
  | duplicateField _ _ => "DuplicateField"
  | inGrammar _ _ source => "InGrammar." ++ source.kind

end SchemaError

end LoxSyntax.Schema
