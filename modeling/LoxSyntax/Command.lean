import LoxSyntax.Files.Sync
import LoxSyntax.NodeModel.Source

/-! # The command line of the generator

`generate-ast [--output <PATH>] [--check] [--verbose]` writes the Lox node model
to `PATH` (by default `ast.rs`), or with `--check` only compares the file with a
fresh generation. `-o` and `-v` are short for `--output` and `--verbose`, and
`--output=PATH` gives the path in one argument.

A run generates the model and syncs it with whatever code tools and file operations
it is given (`Options.run`); its exit code is 0 on success and 1 on a failed check or an error.
-/

namespace LoxSyntax.Command

open LoxSyntax.Files LoxSyntax.NodeModel

/-- The settings of a run. -/
structure Options where
  output : String := "ast.rs"
  check : Bool := false
  verbose : Bool := false
deriving Repr, DecidableEq

/-- Reads the arguments of a run; the error names what was not understood. -/
def Options.parse : List String → Except String Options
  | [] => .ok {}
  | "--check" :: rest => (Options.parse rest).map ({ · with check := true })
  | "--verbose" :: rest | "-v" :: rest => (Options.parse rest).map ({ · with verbose := true })
  | "--output" :: path :: rest | "-o" :: path :: rest =>
    (Options.parse rest).map ({ · with output := path })
  | ["--output"] | ["-o"] => .error "a value is required for '--output <OUTPUT>' but none was supplied"
  | arg :: rest =>
    if arg.startsWith "--output=" then
      (Options.parse rest).map ({ · with output := (arg.drop 9).toString })
    else .error s!"unexpected argument '{arg}' found"

/-- A run of the program with the code tools `tools` and the file operations `ops`: the
Lox node model is generated and synced to the output path. -/
def Options.run {m : Type → Type} [Monad m] (tools : CodeTools) (ops : FileOps m)
    (options : Options) : m (Except GenerateError SyncOutcome) :=
  match generateLox tools with
  | .error e => pure (.error e)
  | .ok source => syncGenerated ops options.output source options.check

/-- The exit code of a run: 0 for a success, 1 for a failed check or an error. -/
def exitCode : Except GenerateError SyncOutcome → UInt32
  | .ok outcome => if outcome.isSuccess then 0 else 1
  | .error _ => 1

end LoxSyntax.Command
