import LoxSyntax.Code.ImportPath
import LoxSyntax.NodeModel.Error
import LoxSyntax.NodeModel.FieldType
import LoxSyntax.NodeModel.Naming
import LoxSyntax.Schema.Basic

/-! # The node model as items

The node model of a list of grammars is a list of items: three imports (the
shared pointer, the token type and the literal payload type), then for each
grammar in order

* the base enum, one tuple variant per schema variant wrapping its node struct,
  and an `accept` method dispatching on the variant;
* the visitor trait, with an `Output` type and one method per variant;
* for each variant in order, its node struct with its fields in declaration
  order, an impl with a constructor `new` and an `accept` calling the variant's
  own visitor method, and a conversion from the node struct to the base enum.

Before any item is built, names are checked in this order; the first failure is
the error:

1. a base name used by an earlier grammar;
2. a type name already claimed, scanning the imported `Rc`, `Token` and
   `LiteralValue` and then, per grammar, the base, its visitor trait and the node
   structs;
3. the token import, then the literal import: each must be a path whose last
   segment names the expected type;
4. per grammar, per variant in order: the variant name `Self`, then per field in
   order its type, its snake-case name (a keyword that cannot be written raw) and
   a name already used in the variant; after all variants of the grammar, a
   visitor method name used twice.

The generator reads import paths, checks and prints code with libraries of its own;
they enter here as parameters (`CodeTools`), so that everything proved of emission
holds whichever tools it is given.
-/

namespace LoxSyntax.NodeModel

open LoxSyntax.Schema LoxSyntax.Code

/-- What the generator takes from its code libraries. -/
structure CodeTools where
  /-- Reads an import path from text; `none` when the text is no path. -/
  readImportPath : String → Option ImportPath
  /-- Whether the code reader accepts a file of these items. -/
  accepts : List Item → Bool
  /-- The text of a source file of these items. -/
  render : List Item → String

variable (tools : CodeTools)

/-- Where the generated file imports its shared types from. -/
structure Imports where
  token : String := "crate::token::Token"
  literal : String := "crate::value::LiteralValue"
deriving Repr

/-- A variant resolved for emission. -/
structure Node where
  variant : String
  typeName : String
  method : String
  fields : List (Ident × FieldType)
  declaration : String
deriving Repr

/-- The first name of the list that an earlier one repeats. -/
def firstRepeat : List String → List String → Option String
  | _, [] => none
  | seen, name :: rest => if seen.contains name then some name else firstRepeat (name :: seen) rest

/-- The first claim, as owner and name, of a name already taken. -/
def firstCollision : List String → List (String × String) → Option (String × String)
  | _, [] => none
  | taken, (owner, name) :: rest =>
    if taken.contains name then some (owner, name) else firstCollision (name :: taken) rest

/-- The type names a grammar claims, each with its owner: the base and its
visitor trait for the base, the node struct for each variant. -/
def Grammar.typeClaims (g : Grammar) : List (String × String) :=
  (g.baseName, g.baseName) :: (g.baseName, visitorName g.baseName) ::
    g.variants.map fun v => (v.name, nodeTypeName v.name g.baseName)

/-- The type names claimed before any grammar: the imported types. -/
def importedTypes : List String := ["Rc", "Token", "LiteralValue"]

/-- Reads an import path that must name `expected`. -/
def readImport (text expected : String) : Except GenerateError ImportPath :=
  match tools.readImportPath text with
  | some path => if path.lastName == expected then .ok path else .error (.invalidImport text)
  | none => .error (.invalidImport text)

/-- Resolves the fields of `variant` in order; `taken` holds the field
identifiers already used. -/
def resolveFields (bases : List String) (variant : String) (taken : List String) :
    List Field → Except GenerateError (List (Ident × FieldType))
  | [] => .ok []
  | f :: rest => do
    let some ty := FieldType.resolve f.declaredType bases
      | throw (.unsupportedType variant f.name (f.declaredType.getD ""))
    let some ident := Ident.forField? (snakeCase f.name)
      | throw (.reservedName variant f.name)
    if taken.contains ident.text then throw (.nameCollision variant ident.text)
    let more ← resolveFields bases variant (ident.text :: taken) rest
    pure ((ident, ty) :: more)

/-- Resolves a variant of the grammar with base `base`. -/
def resolveNode (bases : List String) (base : String) (v : Variant) : Except GenerateError Node := do
  if v.name == "Self" then throw (.reservedName v.name v.name)
  let fields ← resolveFields bases v.name [] v.fields
  pure { variant := v.name, typeName := nodeTypeName v.name base,
         method := visitMethodName v.name base, fields, declaration := v.render }

/-- The derived traits of generated types. -/
def derived : Attr := .derive ["Debug", "Clone", "PartialEq"]

/-- The signature of `accept` for the visitor trait `visitor`. -/
def acceptSignature (visitor : String) : Signature where
  name := "accept"
  generics := [⟨"V", [⟨false, .named visitor⟩, ⟨true, .named "Sized"⟩]⟩]
  params := [.self false, .typed ⟨"visitor", false⟩ (.ref true (.named "V"))]
  output := .path ["V", "Output"] []

/-- The base enum of a family and its dispatching impl. -/
def baseItems (base : String) (nodes : List Node) : List Item :=
  let visitor := visitorName base
  let scrutinee : Expr := if nodes.isEmpty then .deref (.path ["self"]) else .path ["self"]
  let arms := nodes.map fun n =>
    (Pat.tuple [base, n.variant] [.bind "node"], Expr.methodCall (.path ["node"]) "accept" [.path ["visitor"]])
  [.enumDecl
      [.doc s!" A `{base}` node. The set of variants is closed; behavior lives in [`{visitor}`] implementations.",
        derived]
      base (nodes.map fun n => (n.variant, .named n.typeName)),
    .implBlock none (.named base)
      [{ doc := some " Dispatches to the visitor method matching this node's variant.",
         isPublic := true, sig := acceptSignature visitor, body := .matchOn scrutinee arms }]]

/-- The visitor trait of a family. -/
def visitorItem (base : String) (nodes : List Node) : Item :=
  .traitDecl [.doc s!" One operation over `{base}` trees: a method per variant."] (visitorName base)
    "Output"
    (nodes.map fun n =>
      { name := n.method, generics := [],
        params := [.self true, .typed ⟨snakeCase base, false⟩ (.ref false (.named n.typeName))],
        output := .path ["Self", "Output"] [] })

/-- The struct of a node, its impl and its conversion to the base enum. -/
def nodeItems (base : String) (n : Node) : List Item :=
  let d := n.declaration
  [.structDecl [.doc s!" `{d}`", derived] n.typeName (n.fields.map fun (i, t) => (i, t.storage)),
    .implBlock none (.named n.typeName)
      [{ doc := some " Builds the node from its fields in declaration order.", isPublic := true,
         sig := { name := "new", generics := [],
                  params := n.fields.map fun (i, t) => .typed i t.parameter,
                  output := .named "Self" },
         body := .record ["Self"] (n.fields.map fun (i, t) =>
           (i, if t.isBoxed then some (t.initializer i.text) else none)) },
       { doc := some " Calls the matching visitor method and returns its result.", isPublic := true,
         sig := acceptSignature (visitorName base),
         body := .methodCall (.path ["visitor"]) n.method [.path ["self"]] }],
    .implBlock (some (.named "From" [.named n.typeName])) (.named base)
      [{ doc := none, isPublic := false,
         sig := { name := "from", generics := [], params := [.typed ⟨"node", false⟩ (.named n.typeName)],
                  output := .named "Self" },
         body := .call (.path [base, n.variant]) [.path ["node"]] }]]

/-- The items of one grammar, after resolving its variants and checking its
visitor method names. -/
def grammarItems (bases : List String) (g : Grammar) : Except GenerateError (List Item) := do
  let nodes ← g.variants.mapM (resolveNode bases g.baseName)
  if let some (owner, name) := firstCollision [] (nodes.map fun n => (n.variant, n.method)) then
    throw (.nameCollision owner name)
  pure (baseItems g.baseName nodes ++ visitorItem g.baseName nodes :: (nodes.map (nodeItems g.baseName)).flatten)

/-- The imports of the generated file. -/
def importItems (token literal : ImportPath) : List Item :=
  let allow : List Attr := [.allow "unused_imports"]
  [.importPath allow ⟨false, [⟨"std", false⟩, ⟨"rc", false⟩, ⟨"Rc", false⟩]⟩,
    .importPath allow token, .importPath allow literal]

/-- The items of the node model of `grammars`, or the first failed check. -/
def emitItems (grammars : List Grammar) (imports : Imports) : Except GenerateError (List Item) := do
  if let some base := firstRepeat [] (grammars.map (·.baseName)) then throw (.duplicateBase base)
  if let some (owner, name) := firstCollision importedTypes (grammars.flatMap Grammar.typeClaims) then
    throw (.nameCollision owner name)
  let token ← readImport tools imports.token "Token"
  let literal ← readImport tools imports.literal "LiteralValue"
  let bases := grammars.map (·.baseName)
  let blocks ← grammars.mapM (grammarItems bases)
  pure (importItems token literal ++ blocks.flatten)

end LoxSyntax.NodeModel
