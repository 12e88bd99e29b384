import LoxSyntax.Code.Compact
import LoxSyntax.Code.Grammar
import LoxSyntax.Code.ImportPath
import LoxSyntax.Code.Keyword
import LoxSyntax.Code.Lexer
import LoxSyntax.Code.LiteralKind
import LoxSyntax.Code.Render
import LoxSyntax.Code.Shape
import LoxSyntax.Code.Syntax
import LoxSyntax.Code.TokenTree
import LoxSyntax.Command
import LoxSyntax.Decimal.Positional
import LoxSyntax.Decimal.Shortest
import LoxSyntax.Diagnostics.Diagnostic
import LoxSyntax.Diagnostics.Reporter
import LoxSyntax.Files.Store
import LoxSyntax.Files.Sync
import LoxSyntax.Layout.Engine
import LoxSyntax.Layout.Piece
import LoxSyntax.Main
import LoxSyntax.NodeModel.Error
import LoxSyntax.NodeModel.FieldType
import LoxSyntax.NodeModel.Items
import LoxSyntax.NodeModel.Naming
import LoxSyntax.NodeModel.Source
import LoxSyntax.Proofs.Checks
import LoxSyntax.Proofs.Diagnostics.Session
import LoxSyntax.Proofs.Files.Persistence
import LoxSyntax.Proofs.NodeModel.CheckOrder
import LoxSyntax.Proofs.NodeModel.Identifiers
import LoxSyntax.Proofs.NodeModel.Layout
import LoxSyntax.Proofs.NodeModel.Names
import LoxSyntax.Proofs.NodeModel.Reordering
import LoxSyntax.Proofs.NodeModel.SnakeCase
import LoxSyntax.Proofs.NodeModel.Storage
import LoxSyntax.Proofs.NodeModel.TypeGrammar
import LoxSyntax.Proofs.Schema.Declaration
import LoxSyntax.Proofs.Schema.Listing
import LoxSyntax.Proofs.NodeModel.Resolution
import LoxSyntax.Proofs.Schema.RoundTrip
import LoxSyntax.Proofs.Tree.Generated
import LoxSyntax.Proofs.Tree.Parentheses
import LoxSyntax.Schema.Basic
import LoxSyntax.Schema.Error
import LoxSyntax.Schema.Lox
import LoxSyntax.Schema.Parse
import LoxSyntax.Text.Blank
import LoxSyntax.Text.Cut
import LoxSyntax.Text.Xid
import LoxSyntax.Tree.Literal
import LoxSyntax.Tree.Node
import LoxSyntax.Tree.Printer
import LoxSyntax.Tree.Token
