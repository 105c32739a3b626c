import StagedLoad.Yaml.Token

/-!
# Reading positions

A cursor is what is left of a text, with the number of characters before it, its line and its
column.  A line ends at a line feed, a carriage return, the two together, a next-line character and
the two Unicode separators; a byte order mark takes no column.
-/

namespace StagedLoad.Yaml

/-- Whether the character ends a line. -/
def isBreak (c : Char) : Bool :=
  c == '\n' || c == '\r' || c == '\u0085' || c == '\u2028' || c == '\u2029'

/-- Whether the character is a space, a tab or the end of a line. -/
def isGap (c : Char) : Bool := c == ' ' || c == '\t' || isBreak c

/-- Whether the text ends here or goes on with the end of a line. -/
def atLineEnd (cs : List Char) : Bool := cs.head?.all isBreak

/-- Whether the text ends here or goes on with a gap. -/
def atGap (cs : List Char) : Bool := cs.head?.all isGap

/-- Whether the text ends here or goes on with a space or the end of a line. -/
def atSpaceOrBreak (cs : List Char) : Bool := cs.head?.all fun c => c == ' ' || isBreak c

/-- The characters of names of anchors, directives and tag handles. -/
def isNameChar (c : Char) : Bool := c.isAlphanum || c == '-' || c == '_'

/-- The characters that a document may hold. -/
def isDocumentChar (c : Char) : Bool :=
  let n := c.toNat
  n == 9 || n == 10 || n == 13 || (0x20 ≤ n && n ≤ 0x7E) || n == 0x85 ||
    (0xA0 ≤ n && n ≤ 0xD7FF) || (0xE000 ≤ n && n ≤ 0xFFFD) || 0x10000 ≤ n

/-- A place in a text. -/
structure Cursor where
  rest : List Char
  index : Nat := 0
  line : Nat := 0
  column : Nat := 0
  /-- The number of characters that are left, which bounds every run of steps from here. -/
  left : Nat := rest.length

namespace Cursor

/-- The place behind the next character. -/
def next (c : Cursor) : Cursor :=
  match c.rest with
  | [] => c
  | x :: rest =>
    if isBreak x && !(x == '\r' && rest.head? == some '\n') then
      ⟨rest, c.index + 1, c.line + 1, 0, c.left - 1⟩
    else if x == '\uFEFF' then ⟨rest, c.index + 1, c.line, c.column, c.left - 1⟩
    else ⟨rest, c.index + 1, c.line, c.column + 1, c.left - 1⟩

/-- The place behind the next characters. -/
def skip : Nat → Cursor → Cursor
  | 0, c => c
  | n + 1, c => skip n c.next

/-- The characters that satisfy the condition, and the place behind them. -/
def span (p : Char → Bool) (c : Cursor) : List Char × Cursor :=
  let taken := c.rest.takeWhile p
  (taken, c.skip taken.length)

/-- The place behind the characters that satisfy the condition. -/
def skipWhile (p : Char → Bool) (c : Cursor) : Cursor := (c.span p).2

/-- The place behind spaces. -/
def skipSpaces (c : Cursor) : Cursor := c.skipWhile (· == ' ')

/-- The place behind a comment, if there is one here. -/
def skipComment (c : Cursor) : Cursor :=
  if c.rest.head? == some '#' then c.skipWhile fun x => !isBreak x else c

/-- The end of a line as it is read: the separators stay, all others are line feeds. -/
def lineBreak (c : Cursor) : List Char × Cursor :=
  match c.rest with
  | '\r' :: '\n' :: _ => (['\n'], c.skip 2)
  | x :: _ =>
    if x == '\u2028' || x == '\u2029' then ([x], c.next)
    else if isBreak x then (['\n'], c.next)
    else ([], c)
  | [] => ([], c)

/-- Whether a line with three hyphens or three dots begins here. -/
def atSeparator (c : Cursor) : Bool :=
  match c.rest with
  | '-' :: '-' :: '-' :: rest => atGap rest
  | '.' :: '.' :: '.' :: rest => atGap rest
  | _ => false

end Cursor

end StagedLoad.Yaml
