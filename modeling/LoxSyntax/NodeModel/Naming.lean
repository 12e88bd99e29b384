/-! # Names of generated items

Generated items take their names from the schema: the node struct of variant `V`
of base `B` is `VB`, the visitor trait is `BVisitor`, and the visitor method of
that node is `visit_v_b`, with both parts in snake case.

Snake case lowercases the ASCII capitals and puts an underscore before a capital
that follows a lowercase letter or a digit, or that follows a capital and comes
before a lowercase letter, unless the text written so far ends in an underscore:
`IfStmt` becomes `if_stmt`, `HTTPServer` becomes `http_server`, `thenBranch` becomes
`then_branch`. Nothing else changes.
-/

namespace LoxSyntax.NodeModel

/-- Snake case of a character list, given the character before it, `prev`, and the last
character written so far, `written`. An underscore goes before a capital only when the text
written so far does not end in one. -/
def snakeCaseChars : Option Char → Option Char → List Char → List Char
  | _, _, [] => []
  | prev, written, c :: rest =>
    if c.isUpper then
      let boundary := match prev with
        | some p => p.isLower || p.isDigit || (p.isUpper && (rest.head?.map Char.isLower).getD false)
        | none => false
      (if boundary && written != some '_' then ['_'] else []) ++
        c.toLower :: snakeCaseChars (some c) (some c.toLower) rest
    else c :: snakeCaseChars (some c) (some c) rest

/-- The snake-case form of a name. -/
def snakeCase (name : String) : String := String.ofList (snakeCaseChars none none name.toList)

/-- The name of a variant's node struct. -/
def nodeTypeName (variant base : String) : String := variant ++ base

/-- The name of a family's visitor trait. -/
def visitorName (base : String) : String := base ++ "Visitor"

/-- The name of the visitor method for a variant. -/
def visitMethodName (variant base : String) : String :=
  "visit_" ++ snakeCase variant ++ "_" ++ snakeCase base

end LoxSyntax.NodeModel
