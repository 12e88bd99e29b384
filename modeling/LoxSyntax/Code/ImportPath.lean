import LoxSyntax.Code.Grammar
import LoxSyntax.Code.Syntax

/-! # Reading an import path

An import path is text that reads, to its end, as one path of the code's type
grammar: an optional leading `::`, then segments joined by `::`, each of which
may carry arguments in angle brackets. The text is first cut into token trees,
so comments and spacing between tokens do not count, and a text that does not
cut is no path.

Arguments only decide whether the text is a path: the import built from it is
refused by the code reader when a segment has any (`ImportPath.isAccepted`).
-/

namespace LoxSyntax.Code

/-- The import path that a path of the grammar names. -/
def ImportPath.ofForm (p : PathForm) : ImportPath :=
  { global := p.global
    segments := p.segments.map fun s => { name := s.name, hasArgs := s.args != .none } }

/-- Reads an import path from text; `none` when the whole text is not a path.
The fuel is a multiple of the text's length, which bounds the number of trees. -/
def ImportPath.read? (s : String) : Option ImportPath := do
  let ts ← TokenTree.lex? s
  let p ← Grammar.readPath (64 * (s.length + 1)) ts
  pure (ImportPath.ofForm p)

/-- The name of the last segment. -/
def ImportPath.lastName (p : ImportPath) : String := (p.segments.getLast?.map (·.name)).getD ""

end LoxSyntax.Code
