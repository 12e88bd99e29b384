import LoxSyntax.Diagnostics.Diagnostic

/-! # The reporter

A reporter collects the diagnostics of a session. Each report writes the
diagnostic's text and a newline to the reporter's sink and records the
diagnostic; a sink that fails to write loses the text, but the diagnostic is
still recorded. Reading errors and running errors each raise a flag.

The exit code is 65 after a reading error, otherwise 70 after a running error,
otherwise 0. Resetting clears the flags and the record; taking the diagnostics
returns the record and clears it, leaving the flags.
-/

namespace LoxSyntax.Diagnostics

open LoxSyntax.Tree

/-- Where diagnostic texts go: a buffer holding what was written, or a sink on
which every write fails. -/
inductive Sink where
  | buffer (text : String)
  | broken
deriving DecidableEq, Repr

/-- The state of a reporter. -/
structure Reporter where
  sink : Sink
  hadError : Bool := false
  hadRuntimeError : Bool := false
  diagnostics : List Diagnostic := []
deriving Repr

namespace Reporter

/-- A fresh reporter writing to `sink`. -/
def withSink (sink : Sink) : Reporter := { sink }

/-- Writes a diagnostic's line to the sink and records the diagnostic. -/
def emit (r : Reporter) (d : Diagnostic) : Reporter :=
  let sink := match r.sink with
    | .buffer text => .buffer (text ++ d.display ++ "\n")
    | .broken => .broken
  { r with sink, diagnostics := r.diagnostics ++ [d] }

/-- Reports a reading error at a line and a location. -/
def report (r : Reporter) (line : Nat) (location message : String) : Reporter :=
  { r with hadError := true }.emit (.ofError line location message)

/-- Reports a reading error at a line. -/
def error (r : Reporter) (line : Nat) (message : String) : Reporter := r.report line "" message

/-- Reports a reading error at a token: at the end of input, or at its lexeme. -/
def errorAt (r : Reporter) (token : Token) (message : String) : Reporter :=
  if token.isEof then r.report token.line " at end" message
  else r.report token.line (" at '" ++ token.lexeme ++ "'") message

/-- Reports a running error. -/
def runtimeError (r : Reporter) (e : RuntimeError) : Reporter :=
  { r with hadRuntimeError := true }.emit (.ofRuntime e.line e.message)

/-- Reports a warning. -/
def warning (r : Reporter) (message : String) : Reporter := r.emit (.ofWarning message)

/-- Clears the flags and the record. -/
def reset (r : Reporter) : Reporter :=
  { r with hadError := false, hadRuntimeError := false, diagnostics := [] }

/-- The process exit code for the session so far. -/
def exitCode (r : Reporter) : Nat :=
  if r.hadError then 65 else if r.hadRuntimeError then 70 else 0

/-- Returns the record and clears it. -/
def takeDiagnostics (r : Reporter) : List Diagnostic × Reporter :=
  (r.diagnostics, { r with diagnostics := [] })

/-- The text written to the sink so far; nothing for a broken sink. -/
def written (r : Reporter) : String :=
  match r.sink with
  | .buffer text => text
  | .broken => ""

end Reporter

/-- One operation on a reporter. -/
inductive Step where
  | error (line : Nat) (message : String)
  | errorAt (token : Token) (message : String)
  | report (line : Nat) (location message : String)
  | runtimeError (e : RuntimeError)
  | warning (message : String)
  | reset
  | takeDiagnostics
  /-- Changes nothing. -/
  | observe

/-- What a step did besides changing the reporter: the text it wrote, and the
diagnostics it took. -/
structure Outcome where
  written : String
  taken : Option (List Diagnostic)

/-- Runs a step. -/
def Reporter.step (r : Reporter) : Step → Reporter × Outcome
  | .takeDiagnostics =>
    let (taken, r') := r.takeDiagnostics
    (r', ⟨"", some taken⟩)
  | s =>
    let r' := match s with
      | .error line message => r.error line message
      | .errorAt token message => r.errorAt token message
      | .report line location message => r.report line location message
      | .runtimeError e => r.runtimeError e
      | .warning message => r.warning message
      | .reset => r.reset
      | _ => r
    (r', ⟨r'.written.drop r.written.length |>.toString, none⟩)

/-- Runs steps in order, giving the last reporter and the outcome of each step. -/
def Reporter.run (r : Reporter) : List Step → Reporter × List Outcome
  | [] => (r, [])
  | s :: rest =>
    let later := (r.step s).1.run rest
    (later.1, (r.step s).2 :: later.2)

end LoxSyntax.Diagnostics
