/-! # Reserved words of the generated code

Three word lists decide how a name can appear in the generated source.

* `strictWords`: the words that the code reader refuses wherever it expects a
  plain identifier. Among them `self`, `Self`, `super` and `crate` still start
  paths, and `try` is accepted as a path segment.
* `rawWords`: the keywords that a field name may still use when written raw,
  `r#type`; `gen` is among them although the reader accepts it plain.
* `unrawableWords`: `self`, `Self`, `super` and `crate`, which no spelling makes
  a field name.

A field's identifier keeps its name (`Ident.name_of_forField?`), is raw only for one of
`rawWords` (`Ident.mem_rawWords_of_forField?`), and exists unless the name is one of
`unrawableWords` (`Ident.forField?_eq_none_iff`).
-/

namespace LoxSyntax.Code

/-- Words refused as plain identifiers. -/
def strictWords : List String :=
  ["_", "abstract", "as", "async", "await", "become", "box", "break", "const", "continue",
   "crate", "do", "dyn", "else", "enum", "extern", "false", "final", "fn", "for", "if", "impl",
   "in", "let", "loop", "macro", "match", "mod", "move", "mut", "override", "priv", "pub",
   "ref", "return", "Self", "self", "static", "struct", "super", "trait", "true", "try",
   "type", "typeof", "unsafe", "unsized", "use", "virtual", "where", "while", "yield"]

/-- Keywords that a field name takes in raw form. -/
def rawWords : List String :=
  ["abstract", "as", "async", "await", "become", "box", "break", "const", "continue", "do",
   "dyn", "else", "enum", "extern", "false", "final", "fn", "for", "gen", "if", "impl", "in",
   "let", "loop", "macro", "match", "mod", "move", "mut", "override", "priv", "pub", "ref",
   "return", "static", "struct", "trait", "true", "try", "type", "typeof", "unsafe",
   "unsized", "use", "virtual", "where", "while", "yield"]

/-- Keywords that cannot name a field in any spelling. -/
def unrawableWords : List String := ["self", "Self", "super", "crate"]

/-- The words that start a path: a path may begin with them although they are
not plain identifiers. -/
def pathWords : List String := ["self", "Self", "super", "crate"]

/-- An identifier of the generated code: a name, written raw (`r#name`) or plain. -/
structure Ident where
  name : String
  raw : Bool := false
deriving DecidableEq, Repr

/-- The identifier as it is written. -/
def Ident.text (i : Ident) : String := if i.raw then "r#" ++ i.name else i.name

/-- Whether the code reader accepts the identifier where a plain identifier is expected. -/
def Ident.isAccepted (i : Ident) : Bool := i.raw || !strictWords.contains i.name

/-- The identifier for a field named `name`: raw for a keyword that allows it,
none for a keyword that does not. -/
def Ident.forField? (name : String) : Option Ident :=
  if unrawableWords.contains name then none
  else if rawWords.contains name then some ⟨name, true⟩
  else some ⟨name, false⟩

/-- A field name has an identifier exactly when it is not a word that no spelling makes
a field name. -/
theorem Ident.forField?_eq_none_iff {name : String} :
    Ident.forField? name = none ↔ name ∈ unrawableWords := by
  by_cases reserved : name ∈ unrawableWords
  · simp [Ident.forField?, reserved]
  · by_cases raw : name ∈ rawWords <;> simp [Ident.forField?, reserved, raw]

/-- The identifier of a field keeps the field's name; only its spelling may be raw. -/
theorem Ident.name_of_forField? {name : String} {i : Ident} (spelled : Ident.forField? name = some i) :
    i.name = name := by
  unfold Ident.forField? at spelled
  split at spelled
  · cases spelled
  · split at spelled <;> (cases spelled; rfl)

/-- A field identifier is written raw only for a keyword that allows it. -/
theorem Ident.mem_rawWords_of_forField? {name : String} {i : Ident}
    (spelled : Ident.forField? name = some i) (raw : i.raw = true) : i.name ∈ rawWords := by
  unfold Ident.forField? at spelled
  split at spelled
  · cases spelled
  · split at spelled
    · rename_i keyword
      cases spelled
      simpa using keyword
    · cases spelled
      cases raw

end LoxSyntax.Code
