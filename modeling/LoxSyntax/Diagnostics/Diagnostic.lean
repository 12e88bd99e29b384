import LoxSyntax.Tree.Token

/-! # Diagnostics

A diagnostic is an error found while reading a program (with its line and a
location such as ` at 'foo'`), an error found while running it (with its line),
or a warning (with no line). Its text starts with `[line N] ` when it has a
line, then reads `Error<location>: <message>`, the message alone, or
`WARNING: <message>`.
-/

namespace LoxSyntax.Diagnostics

open LoxSyntax.Tree

/-- The kinds of diagnostics. -/
inductive Severity where
  | error
  | runtimeError
  | warning
deriving DecidableEq, Repr

/-- The name of a severity. -/
def Severity.name : Severity → String
  | .error => "Error"
  | .runtimeError => "RuntimeError"
  | .warning => "Warning"

/-- A diagnostic. -/
structure Diagnostic where
  severity : Severity
  line : Option Nat
  location : String
  message : String
deriving DecidableEq, Repr

/-- An error found while reading, at a line and a location. -/
def Diagnostic.ofError (line : Nat) (location message : String) : Diagnostic :=
  ⟨.error, some line, location, message⟩

/-- An error found while running, at a line. -/
def Diagnostic.ofRuntime (line : Nat) (message : String) : Diagnostic :=
  ⟨.runtimeError, some line, "", message⟩

/-- A warning, with no line. -/
def Diagnostic.ofWarning (message : String) : Diagnostic := ⟨.warning, none, "", message⟩

/-- The text of a diagnostic. -/
def Diagnostic.display (d : Diagnostic) : String :=
  let prefix_ := match d.line with
    | some n => "[line " ++ toString n ++ "] "
    | none => ""
  prefix_ ++ match d.severity with
    | .error => "Error" ++ d.location ++ ": " ++ d.message
    | .runtimeError => d.message
    | .warning => "WARNING: " ++ d.message

/-- An error raised while running a program, at a token. -/
structure RuntimeError where
  token : Token
  message : String

/-- The line of a runtime error: its token's. -/
def RuntimeError.line (e : RuntimeError) : Nat := e.token.line

/-- The text of a runtime error: its message. -/
def RuntimeError.display (e : RuntimeError) : String := e.message

end LoxSyntax.Diagnostics
