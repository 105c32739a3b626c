import StagedLoad.Text.Numeral
import StagedLoad.Yaml.Cursor

/-!
# Block scalars

A literal or folded scalar: a header with the chomping and the indentation, and the lines that are
indented at least so far.  Folding joins two lines by a space if neither begins with a blank.
-/

namespace StagedLoad.Yaml

/-- What happens to the breaks at the end. -/
inductive Chomping where
  | clip
  | strip
  | keep
deriving DecidableEq, Repr

/-- The chomping of a sign. -/
def chompingOf? (c : Char) : Option Chomping :=
  if c == '+' then some .keep else if c == '-' then some .strip else none

/-- The increment of a digit; zero is refused. -/
def incrementOf (c : Char) : Except DocumentFault Nat :=
  if c == '0' then .error .malformed else .ok (c.toNat - 48)

/-- The chomping and the indentation of a header, in either order. -/
def blockHeader (c : Cursor) : Except DocumentFault (Chomping × Option Nat × Cursor) := do
  let digitAt (c : Cursor) : Except DocumentFault (Option Nat × Cursor) :=
    match c.rest with
    | x :: _ =>
      if x.isDigit then do
        let n ← incrementOf x
        return (some n, c.next)
      else return (none, c)
    | [] => return (none, c)
  let signAt (c : Cursor) : Option Chomping × Cursor :=
    match c.rest.head?.bind chompingOf? with
    | some x => (some x, c.next)
    | none => (none, c)
  let (sign, c) := signAt c
  let (increment, c) ← digitAt c
  let (sign, c) := if sign.isNone && increment.isSome then signAt c else (sign, c)
  if atSpaceOrBreak c.rest then return (sign.getD .clip, increment, c)
  else .error .malformed

/-- The place behind the rest of a line that may hold a comment only. -/
def ignoredLine (c : Cursor) : Except DocumentFault Cursor :=
  let c := c.skipSpaces.skipComment
  if atLineEnd c.rest then .ok c.lineBreak.2 else .error .malformed

/-- The breaks of blank lines before the text, and the greatest indentation among them. -/
def leadingBreaks : Nat → Nat → Cursor → List Char × Nat × Cursor
  | 0, deepest, c => ([], deepest, c)
  | fuel + 1, deepest, c =>
    let c := c.skipSpaces
    let deepest := max deepest c.column
    match c.lineBreak with
    | ([], c) => ([], deepest, c)
    | (br, c) =>
      let (more, deepest, c) := leadingBreaks fuel deepest c
      (br ++ more, deepest, c)

/-- The place behind the spaces of the indentation. -/
def skipIndent (indent : Nat) : Nat → Cursor → Cursor
  | 0, c => c
  | fuel + 1, c =>
    if c.column < indent && c.rest.head? == some ' ' then skipIndent indent fuel c.next else c

/-- The breaks of blank lines, each behind at most the spaces of the indentation. -/
def blockBreaks (indent : Nat) : Nat → Cursor → List Char × Cursor
  | 0, c => ([], c)
  | fuel + 1, c =>
    let c := skipIndent indent indent c
    match c.lineBreak with
    | ([], c) => ([], c)
    | (br, c) =>
      let (more, c) := blockBreaks indent fuel c
      (br ++ more, c)

/-- Whether a line that begins here is taken as it is when lines are folded. -/
def beginsWithBlank (cs : List Char) : Bool := cs.head?.any fun c => c == ' ' || c == '\t'

/-- The lines of a block scalar from here on, with the breaks that came before. -/
def blockLines (folded : Bool) (indent : Nat) (chomping : Chomping) :
    Nat → List Char → Cursor → List Char × Cursor
  | 0, _, c => ([], c)
  | fuel + 1, breaks, c =>
    let blank := beginsWithBlank c.rest
    let (run, c) := c.span fun x => !isBreak x
    let (br, c) := c.lineBreak
    let (more, c) := blockBreaks indent (c.left + 1) c
    if c.column = indent && !c.rest.isEmpty then
      let joint :=
        if folded && br == ['\n'] && !blank && !beginsWithBlank c.rest then
          (if more.isEmpty then [' '] else [])
        else br
      let (tail, c) := blockLines folded indent chomping fuel more c
      (breaks ++ run ++ joint ++ tail, c)
    else
      let tail := match chomping with
        | .strip => []
        | .clip => br
        | .keep => br ++ more
      (breaks ++ run ++ tail, c)

/-- The block scalar whose mark stands here, inside a block of the given indentation. -/
def blockScalar (folded : Bool) (parent : Int) (c : Cursor) :
    Except DocumentFault (List Char × Cursor) := do
  let (chomping, increment, c) ← blockHeader c.next
  let c ← ignoredLine c
  let least := max 1 (parent + 1).toNat
  let (breaks, indent, c) := match increment with
    | none =>
      let (breaks, deepest, c) := leadingBreaks (c.left + 1) 0 c
      (breaks, max least deepest, c)
    | some n =>
      let indent := least + n - 1
      let (breaks, c) := blockBreaks indent (c.left + 1) c
      (breaks, indent, c)
  if c.column = indent && !c.rest.isEmpty then
    return blockLines folded indent chomping (c.left + 1) breaks c
  else
    return (if chomping = .keep then breaks else [], c)

end StagedLoad.Yaml
