import LoxSyntax.Schema.Error

/-! # Generation errors

Why the node model of a set of grammars cannot be generated, or cannot be
written.
-/

namespace LoxSyntax.NodeModel

open LoxSyntax.Schema

/-- A reason a file-system operation failed. -/
inductive IoFailure where
  | notFound
  | isDirectory
  | notDirectory
  | alreadyExists
  /-- A name of more than 255 bytes, or a path of 4096 bytes or more. -/
  | nameTooLong
  /-- A path holding the NUL character, which no system call accepts. -/
  | nulInPath
  /-- A file read as text whose bytes are no UTF-8. -/
  | invalidData
  /-- A failure the store never gives, such as a refused permission or a full disk, with
  the system's text. -/
  | other (message : String)
deriving DecidableEq, Repr

/-- The system's text for a failure. -/
def IoFailure.message : IoFailure → String
  | .notFound => "No such file or directory (os error 2)"
  | .isDirectory => "Is a directory (os error 21)"
  | .notDirectory => "Not a directory (os error 20)"
  | .alreadyExists => "File exists (os error 17)"
  | .nameTooLong => "File name too long (os error 36)"
  | .nulInPath => "file name contained an unexpected NUL byte"
  | .invalidData => "stream did not contain valid UTF-8"
  | .other message => message

/-- The causes for refusing to generate, or failing to write, a node model. -/
inductive GenerateError where
  /-- A grammar is refused. -/
  | schema (source : SchemaError)
  /-- A field's declared type does not resolve. -/
  | unsupportedType (variant field declared : String)
  /-- A name that the generated code cannot spell. -/
  | reservedName (variant name : String)
  /-- A generated name that an earlier item already uses. -/
  | nameCollision (variant name : String)
  /-- Two grammars share a base name. -/
  | duplicateBase (base : String)
  /-- An import path is not a path, or names another type. -/
  | invalidImport (path : String)
  /-- The code reader refuses the generated items. -/
  | unparsable
  /-- A file-system operation failed on `path`. -/
  | io (path : String) (failure : IoFailure)
deriving DecidableEq, Repr

namespace GenerateError

/-- The text of an error. -/
def message : GenerateError → String
  | schema source => let m := source.message; s!"invalid schema: {m}"
  | unsupportedType v f d => s!"variant '{v}', field '{f}': unsupported type '{d}'"
  | reservedName v n => s!"variant '{v}': '{n}' cannot be used as a Rust identifier"
  | nameCollision v n => s!"variant '{v}': generated name '{n}' is already in use"
  | duplicateBase b => s!"base name '{b}' is generated more than once"
  | invalidImport p => s!"invalid import path '{p}'"
  | unparsable => "generated code does not parse"
  | io p failure => let m := failure.message; s!"cannot access '{p}': {m}"

/-- The name of the error's kind; a schema error adds its own kind: `Schema.InGrammar.MissingSeparator`. -/
def kind : GenerateError → String
  | schema source => "Schema." ++ source.kind
  | unsupportedType _ _ _ => "UnsupportedType"
  | reservedName _ _ => "ReservedName"
  | nameCollision _ _ => "NameCollision"
  | duplicateBase _ => "DuplicateBase"
  | invalidImport _ => "InvalidImport"
  | unparsable => "Syntax"
  | io _ _ => "Io"

end GenerateError

end LoxSyntax.NodeModel
