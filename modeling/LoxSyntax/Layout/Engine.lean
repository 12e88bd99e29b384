import LoxSyntax.Layout.Piece

/-! # The layout engine

A streaming line breaker in the manner of Oppen's pretty printer. Pieces are
scanned into a buffer while the engine measures them: the size of a group is the
width of its content up to the next break after it, and the size of a break is
the width up to the next break at its level. A piece leaves the buffer for the
output as soon as its size is known, or as soon as the pending text is wider than
the line and the piece can no longer fit.

A group is broken when its size exceeds the room left on the line. The room of a
fresh line is the margin less the indentation, but never less than a minimum, so
deeply indented code still gets lines of useful length. Spaces are held back
until text follows them, so no line ends in blanks.

Every loop of the engine is bounded by the pieces it has buffered.
-/

namespace LoxSyntax.Layout

/-- The page: lines hold `margin` columns, and a line starts with at least
`minSpace` columns of room whatever its indentation. -/
structure Page where
  margin : Int
  minSpace : Int
deriving Repr

/-- The size given to a piece that must not fit: wider than any page. -/
def infinity : Int := 0xffff

/-- A buffered piece. -/
inductive Token where
  | text (s : String)
  | brk (b : Break)
  | begin (indent : Int) (breaks : Breaks)
  | finish
deriving Repr

/-- A buffered piece and its size; a negative size is still being measured. -/
structure Entry where
  token : Token
  size : Int
deriving Repr

/-- How an open group is being printed. -/
inductive Frame where
  | fits (breaks : Breaks)
  | broken (indent : Int) (breaks : Breaks)
deriving Repr

/-- The state of the engine. -/
structure Printer where
  page : Page
  out : String := ""
  /-- Room left on the current line. -/
  space : Int
  /-- Scanned pieces; those before `head` have been printed. -/
  buf : Array Entry := #[]
  head : Nat := 0
  /-- Width of everything printed, and of everything scanned. -/
  leftTotal : Int := 0
  rightTotal : Int := 0
  /-- Buffer positions of the groups and breaks still being measured; those
  before `scanHead` are done. -/
  scan : Array Nat := #[]
  scanHead : Nat := 0
  /-- The open groups being printed, innermost first. -/
  frames : List Frame := []
  indent : Int := 0
  /-- Spaces owed before the next text. -/
  pending : Nat := 0

namespace Printer

/-- A printer at the start of an empty page. -/
def start (page : Page) : Printer := { page, space := page.margin }

def bufEmpty (p : Printer) : Bool := p.buf.size ≤ p.head

def scanEmpty (p : Printer) : Bool := p.scan.size ≤ p.scanHead

def entry (p : Printer) (i : Nat) : Entry := p.buf[i]?.getD ⟨.finish, 0⟩

def setSize (p : Printer) (i : Nat) (size : Int) : Printer :=
  { p with buf := p.buf.modify i fun e => { e with size } }

def scanBack? (p : Printer) : Option Nat := if p.scanEmpty then none else p.scan.back?

def scanFront? (p : Printer) : Option Nat := if p.scanEmpty then none else p.scan[p.scanHead]?

def scanPop (p : Printer) : Printer := { p with scan := p.scan.pop }

/-- Appends an entry to the buffer and puts its position on the scan stack. -/
def pushScanned (p : Printer) (e : Entry) : Printer :=
  { p with buf := p.buf.push e, scan := p.scan.push p.buf.size }

/-- Empties the buffer when nothing is being measured. -/
def restart (p : Printer) : Printer :=
  { p with leftTotal := 1, rightTotal := 1, buf := #[], head := 0, scan := #[], scanHead := 0 }

/-- Writes the spaces owed. -/
def flushIndent (p : Printer) : Printer :=
  { p with out := p.out.pushn ' ' p.pending, pending := 0 }

def printText (p : Printer) (s : String) : Printer :=
  let p := p.flushIndent
  { p with out := p.out ++ s, space := p.space - s.utf8ByteSize }

def printBegin (p : Printer) (indent : Int) (breaks : Breaks) (size : Int) : Printer :=
  if size > p.space then
    { p with frames := .broken p.indent breaks :: p.frames, indent := p.indent + indent }
  else
    { p with frames := .fits breaks :: p.frames }

def printEnd (p : Printer) : Printer :=
  match p.frames with
  | .broken indent _ :: rest => { p with frames := rest, indent }
  | _ :: rest => { p with frames := rest }
  | [] => p

def printBreak (p : Printer) (b : Break) (size : Int) : Printer :=
  let fits := b.never ||
    match p.frames with
    | .fits _ :: _ => true
    | .broken _ .consistent :: _ => false
    | _ => size ≤ p.space
  if fits then
    let p := { p with pending := p.pending + b.blank, space := p.space - b.blank }
    match b.instead with
    | some c => p.printText (String.singleton c)
    | none => p
  else
    let p := match b.before with
      | some c => let p := p.flushIndent; { p with out := p.out.push c }
      | none => p
    let indent := p.indent + b.offset
    let p := { p with out := p.out.push '\n', pending := indent.toNat,
                      space := max (p.page.margin - indent) p.page.minSpace }
    match b.after with
    | some s => let p := p.flushIndent; { p with out := p.out ++ s, space := p.space - s.utf8ByteSize }
    | none => p

/-- Prints buffered pieces from the front while their sizes are known. -/
def advanceLeft : Nat → Printer → Printer
  | 0, p => p
  | fuel + 1, p =>
    match p.buf[p.head]? with
    | none => p
    | some e =>
      if e.size < 0 then p
      else
        let p := { p with head := p.head + 1 }
        let p := match e.token with
          | .text s => { p with leftTotal := p.leftTotal + e.size }.printText s
          | .brk b => { p with leftTotal := p.leftTotal + b.blank }.printBreak b e.size
          | .begin indent breaks => p.printBegin indent breaks e.size
          | .finish => p.printEnd
        advanceLeft fuel p

/-- While the pending text is wider than the room on the line, the oldest piece
being measured cannot fit: it gets an infinite size and is printed. -/
def checkStream : Nat → Printer → Printer
  | 0, p => p
  | fuel + 1, p =>
    if p.rightTotal - p.leftTotal > p.space then
      let p := if p.scanFront? == some p.head then
          { p.setSize p.head infinity with scanHead := p.scanHead + 1 }
        else p
      let p := p.advanceLeft p.buf.size
      if p.bufEmpty then p else checkStream fuel p
    else p

/-- Settles the sizes of the pieces measured since the last break at the current
level: closed groups, their last breaks, and that break itself. -/
def checkStack : Nat → Nat → Printer → Printer
  | _, 0, p => p
  | depth, fuel + 1, p =>
    match p.scanBack? with
    | none => p
    | some i =>
      let e := p.entry i
      match e.token with
      | .begin _ _ =>
        if depth == 0 then p
        else checkStack (depth - 1) fuel (p.scanPop.setSize i (e.size + p.rightTotal))
      | .finish => checkStack (depth + 1) fuel (p.scanPop.setSize i 1)
      | .brk _ =>
        let p := p.scanPop.setSize i (e.size + p.rightTotal)
        if depth == 0 then p else checkStack depth fuel p
      | .text _ => p

def scanBegin (p : Printer) (indent : Int) (breaks : Breaks) : Printer :=
  let p := if p.scanEmpty then p.restart else p
  p.pushScanned ⟨.begin indent breaks, -p.rightTotal⟩

/-- The last two live entries of the buffer. -/
def lastTwo (p : Printer) : Option Entry × Option Entry :=
  let n := p.buf.size
  (if p.head < n then p.buf[n - 1]? else none, if p.head + 1 < n then p.buf[n - 2]? else none)

def scanEnd (p : Printer) : Printer :=
  if p.scanEmpty then p.printEnd
  else
    let pushEnd (p : Printer) := p.pushScanned ⟨.finish, -1⟩
    match p.lastTwo with
    | (some ⟨.brk b, _⟩, some ⟨.begin _ _, _⟩) =>
      -- an empty group disappears with its only break
      { p with buf := p.buf.pop.pop, scan := p.scan.pop.pop, rightTotal := p.rightTotal - b.blank }
    | (some ⟨.brk b, _⟩, _) =>
      if b.ifNonempty then
        pushEnd { p with buf := p.buf.pop, scan := p.scan.pop, rightTotal := p.rightTotal - b.blank }
      else pushEnd p
    | _ => pushEnd p

def scanBreak (p : Printer) (b : Break) : Printer :=
  let p := if p.scanEmpty then p.restart else p.checkStack 0 p.scan.size
  { p.pushScanned ⟨.brk b, -p.rightTotal⟩ with rightTotal := p.rightTotal + b.blank }

def scanText (p : Printer) (s : String) : Printer :=
  if p.scanEmpty then p.printText s
  else
    let size : Int := s.utf8ByteSize
    let p := { p with buf := p.buf.push ⟨.text s, size⟩, rightTotal := p.rightTotal + size }
    p.checkStream (p.buf.size + 1)

/-- Adds to the offset of the last buffered break. -/
def shift (p : Printer) (delta : Int) : Printer :=
  match p.lastTwo.1 with
  | some ⟨.brk b, size⟩ =>
    { p with buf := p.buf.set! (p.buf.size - 1) ⟨.brk { b with offset := b.offset + delta }, size⟩ }
  | _ => p

/-- The size so far of the innermost open group still being measured, counted
back through the scan stack. -/
def openGroupSize? (p : Printer) : Option Int :=
  let rec go : Nat → List Nat → Option Int
    | _, [] => none
    | depth, i :: rest =>
      let e := p.entry i
      match e.token with
      | .begin _ _ => if depth == 0 then some e.size else go (depth - 1) rest
      | .finish => go (depth + 1) rest
      | _ => go depth rest
  go 0 (p.scan.extract p.scanHead p.scan.size).toList.reverse

def closeWithin (p : Printer) (width : Nat) : Printer :=
  let p := match p.openGroupSize? with
    | some size =>
      if size < 0 && size + p.rightTotal > width then
        { p with buf := p.buf.push ⟨.text "", infinity⟩, rightTotal := p.rightTotal + infinity }
      else p
    | none => p
  p.scanEnd

/-- Scans one piece. -/
def feed (p : Printer) : Piece → Printer
  | .text s => p.scanText s
  | .brk b => p.scanBreak b
  | .group indent breaks => p.scanBegin indent breaks
  | .close => p.scanEnd
  | .closeWithin width => p.closeWithin width
  | .shift delta => p.shift delta

/-- Prints what is still buffered and returns the output. -/
def finish (p : Printer) : String :=
  if p.scanEmpty then p.out
  else ((p.checkStack 0 p.scan.size).advanceLeft p.buf.size).out

end Printer

/-- Lays out a stream of pieces on a page. -/
def layout (page : Page) (pieces : List Piece) : String :=
  (pieces.foldl Printer.feed (Printer.start page)).finish

end LoxSyntax.Layout
