import LoxSyntax.Code.Render
import LoxSyntax.NodeModel.Items
import LoxSyntax.Schema.Lox
import LoxSyntax.Schema.Parse

/-! # The generated source

The source of a node model is a header line, a blank line and the rendered
items. Generation fails when a check of `emitItems` fails, and then when the
code reader refuses the items. Generating from schema text first reads every
grammar, in order.

The program's own code tools (`CodeTools.standard`) are the code grammar's path
reader, the code reader's checks of each item and the layout engine's printer.
-/

namespace LoxSyntax.NodeModel

open LoxSyntax.Schema LoxSyntax.Code

/-- The first line of every generated file. -/
def header : String :=
  "// @generated by generate-ast from the Lox grammar schema. Do not edit by hand."

/-- The code tools of the program. -/
def CodeTools.standard : CodeTools where
  readImportPath := ImportPath.read?
  accepts items := items.all Item.isAccepted
  render := renderItems

variable (tools : CodeTools)

/-- The source of the node model of `grammars`. -/
def generate (grammars : List Grammar) (imports : Imports) : Except GenerateError String := do
  let items ← emitItems tools grammars imports
  unless tools.accepts items do throw .unparsable
  pure (header ++ "\n\n" ++ tools.render items)

/-- Reads grammars given as base names and declaration lines, then generates. -/
def generateFromText (inputs : List (String × List String)) (imports : Imports) :
    Except GenerateError String := do
  let grammars ← inputs.mapM fun (base, lines) => (Grammar.parse base lines).mapError .schema
  generate tools grammars imports

/-- The source of the Lox node model with the default imports. -/
def generateLox : Except GenerateError String := do
  let grammars ← loxGrammars.mapError .schema
  generate tools grammars {}

end LoxSyntax.NodeModel
