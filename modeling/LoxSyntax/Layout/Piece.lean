/-! # Layout pieces

A document to lay out is a stream of pieces: texts, places where a line may end
(breaks), and groups that open and close around them. A group that fits on the
rest of the line keeps all its breaks as blanks. A group that does not fit
breaks in one of two ways: a *consistent* group ends a line at every one of its
breaks, an *inconsistent* group only at a break whose following text, up to the
next break, would not fit.

A break can print a character at the end of the line it ends (a trailing comma)
or a text at the start of the next one, and a different character when it does
not end a line.
-/

namespace LoxSyntax.Layout

/-- How the breaks of a group that does not fit behave. -/
inductive Breaks where
  /-- Every break of the group ends a line. -/
  | consistent
  /-- A break ends a line only when the text up to the next break does not fit. -/
  | inconsistent
deriving DecidableEq, Repr

/-- A place where a line may end. -/
structure Break where
  /-- Indentation added to the group's for the line this break starts. -/
  offset : Int := 0
  /-- Spaces printed when no line ends here. -/
  blank : Nat := 0
  /-- Printed at the end of the line when a line ends here. -/
  before : Option Char := none
  /-- Printed at the start of the next line when a line ends here. -/
  after : Option String := none
  /-- Printed when no line ends here. -/
  instead : Option Char := none
  /-- Dropped when the group closes right after it. -/
  ifNonempty : Bool := false
  /-- No line ever ends here. -/
  never : Bool := false
deriving DecidableEq, Repr

/-- An instruction to the layout engine. -/
inductive Piece where
  /-- Text printed as it is. -/
  | text (s : String)
  /-- A place where a line may end. -/
  | brk (b : Break)
  /-- Opens a group whose broken lines are indented by `indent` more. -/
  | group (indent : Int) (breaks : Breaks)
  /-- Closes the innermost open group. -/
  | close
  /-- Closes the innermost open group, which must break when its content so far
  is wider than `width`. -/
  | closeWithin (width : Nat)
  /-- Adds `delta` to the offset of the break just given. -/
  | shift (delta : Int)
deriving Repr

/-- A line end that is always taken. -/
def Break.hard : Break := { blank := 0xffff }

end LoxSyntax.Layout
