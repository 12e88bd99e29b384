import LoxSyntax.Command

/-! # The `generate-ast` program

Generates the Lox node model and writes it to the output file, or in check mode
compares the file with it, by running the modelled writer with the program's code
tools on the system's files (`systemFiles`). The exit code is 0 on success, 1 when
the check finds the file missing or different or when an error occurs, and 2 for
arguments that cannot be read.
-/

section

open LoxSyntax LoxSyntax.Command LoxSyntax.Files LoxSyntax.NodeModel

/-- The failure a system error stands for, read from its error number. -/
def ioFailureOf (e : IO.Error) : IoFailure :=
  let byCode (code : UInt32) : IoFailure :=
    match code with
    | 2 => .notFound
    | 17 => .alreadyExists
    | 20 => .notDirectory
    | 21 => .isDirectory
    | 36 => .nameTooLong
    | _ => .other (toString e)
  match e with
  | .noFileOrDirectory _ code _ | .alreadyExists _ code _ | .inappropriateType _ code _
  | .invalidArgument _ code _ | .otherError code _ => byCode code
  | _ => .other (toString e)

/-- The system's files, as the writer's operations. -/
def systemFiles : FileOps IO where
  create path bytes := do
    try
      IO.FS.writeBinFile path bytes
      pure (.ok ())
    catch e => pure (.error (ioFailureOf e))
  readToString path := do
    try
      let bytes ← IO.FS.readBinFile path
      pure (match String.fromUTF8? bytes with
        | some text => .ok text
        | none => .error .invalidData)
    catch e => pure (.error (ioFailureOf e))

def main (args : List String) : IO UInt32 := do
  match Options.parse args with
  | .error message =>
    IO.eprintln s!"error: {message}"
    return 2
  | .ok options =>
    let result ← options.run CodeTools.standard systemFiles
    match result with
    | .ok .outOfDate => IO.eprintln s!"{options.output} is out of date; rerun without --check"
    | .error e => IO.eprintln e.message
    | .ok _ => pure ()
    return exitCode result

end
