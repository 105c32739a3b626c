import StagedLoad.Yaml.Token.Block
import StagedLoad.Yaml.Token.Plain
import StagedLoad.Yaml.Token.Property

/-!
# The tokens of a text

A text is read from left to right.  The columns of the open blocks are kept on a stack: a line that
is indented less closes the blocks to its right.  A key without a mark of its own is known as a key
only when the colon behind it is reached, so each place where one may have begun is remembered, one
for each level of brackets, and the key token is put there afterwards.

* `Scan.broken_of_no_mark` : where no key can have begun, a fault comes behind all tokens.
-/

namespace StagedLoad.Yaml

/-- A place where a key without a mark may have begun. -/
structure KeyMark where
  /-- The number of tokens before it. -/
  number : Nat
  /-- Whether something other than a key would be an error there. -/
  required : Bool
  index : Nat
  line : Nat
  column : Nat

/-- A text that is partly read. -/
structure Scan where
  cursor : Cursor
  /-- The tokens so far, the last one first. -/
  tokens : List Token := []
  /-- The number of these tokens. -/
  count : Nat := 0
  /-- The columns of the open blocks, the innermost first. -/
  blocks : List Nat := []
  /-- Whether a key may begin here. -/
  keyAllowed : Bool := true
  /-- The mark inside the innermost brackets. -/
  mark : Option KeyMark := none
  /-- The marks outside of them, level by level. -/
  outer : List (Option KeyMark) := []

namespace Scan

/-- Whether the place is inside brackets. -/
def inFlow (s : Scan) : Bool := !s.outer.isEmpty

/-- The column of the innermost block; outside of all blocks it is left of the margin. -/
def indent (s : Scan) : Int :=
  match s.blocks with
  | [] => -1
  | column :: _ => column

/-- Adds a token. -/
def emit (t : Token) (s : Scan) : Scan := { s with tokens := t :: s.tokens, count := s.count + 1 }

/-- Puts a token at the given number, in front of those from there on. -/
def insert (number : Nat) (t : Token) (s : Scan) : Scan :=
  let later := s.count - number
  { s with tokens := s.tokens.take later ++ t :: s.tokens.drop later, count := s.count + 1 }

/-- Closes the blocks to the right of the column. -/
def unwind (column : Int) (s : Scan) : Scan :=
  if s.inFlow then s
  else
    let closed := s.blocks.takeWhile fun b : Nat => decide (column < (b : Int))
    closed.foldl (fun s _ => s.emit .blockEnd) { s with blocks := s.blocks.drop closed.length }

/-- Opens a block at the column, unless one is open there or further to the right. -/
def openBlock (column : Nat) (start : Scan → Scan) (s : Scan) : Scan :=
  if !s.inFlow && s.indent < (column : Int) then start { s with blocks := column :: s.blocks }
  else s

/-- Gives up the mark; a required one must not be given up. -/
def dropMark (s : Scan) : Except DocumentFault Scan :=
  if s.mark.any (·.required) then .error .malformed else .ok { s with mark := none }

/-- Marks the place as one where a key may begin. -/
def setMark (s : Scan) : Except DocumentFault Scan :=
  if s.keyAllowed then do
    let c := s.cursor
    let required := !s.inFlow && s.indent = (c.column : Int)
    let s ← s.dropMark
    return { s with mark := some ⟨s.count, required, c.index, c.line, c.column⟩ }
  else .ok s

/-- Whether a key that began at the mark must have ended by now: it stays on its line and is not
longer than 1024 characters. -/
def isStale (s : Scan) (k : KeyMark) : Bool :=
  k.line != s.cursor.line || s.cursor.index - k.index > 1024

/-- Gives up the marks of keys that must have ended. -/
def dropStale (s : Scan) : Except DocumentFault Scan :=
  if (s.mark :: s.outer).any (·.any fun k => s.isStale k && k.required) then .error .malformed
  else
    let fresh := Option.filter fun k => !s.isStale k
    .ok { s with mark := fresh s.mark, outer := s.outer.map fresh }

/-- Skips spaces, comments and line ends; outside of brackets a key may begin on a new line. -/
def skipBlankLines : Nat → Scan → Scan
  | 0, s => s
  | fuel + 1, s =>
    let c := s.cursor.skipSpaces.skipComment
    match c.lineBreak with
    | ([], c) => { s with cursor := c }
    | (_, c) => skipBlankLines fuel { s with cursor := c, keyAllowed := s.keyAllowed || !s.inFlow }

/-- Goes on to the place of the next token and closes what ends before it. -/
def advance (s : Scan) : Except DocumentFault Scan := do
  let c := s.cursor
  let c := if c.index = 0 && c.rest.head? == some '\uFEFF' then c.next else c
  let s ← (skipBlankLines (c.left + 1) { s with cursor := c }).dropStale
  return s.unwind s.cursor.column

/-- A token at the margin that ends all blocks. -/
def atMargin (t : Token) (after : Cursor) (s : Scan) : Except DocumentFault Scan := do
  let s ← (s.unwind (-1)).dropMark
  return { s with cursor := after, keyAllowed := false }.emit t

/-- An opening bracket. -/
def openBracket (t : Token) (s : Scan) : Except DocumentFault Scan := do
  let s ← s.setMark
  return { s with
    cursor := s.cursor.next, keyAllowed := true, mark := none, outer := s.mark :: s.outer }.emit t

/-- A closing bracket. -/
def closeBracket (t : Token) (s : Scan) : Except DocumentFault Scan := do
  let s ← s.dropMark
  match s.outer with
  | [] => .error .malformed
  | mark :: outer =>
    return { s with cursor := s.cursor.next, keyAllowed := false, mark, outer }.emit t

/-- A mark of one character; behind it a key may begin or not. -/
def indicator (t : Token) (keyAllowed : Bool) (s : Scan) : Except DocumentFault Scan := do
  let s ← s.dropMark
  return { s with cursor := s.cursor.next, keyAllowed }.emit t

/-- The mark of a member or a key, which opens a block outside of brackets. -/
def blockMark (start t : Token) (keyAllowed : Bool) (s : Scan) : Except DocumentFault Scan :=
  if !s.inFlow && !s.keyAllowed then .error .malformed
  else (s.openBlock s.cursor.column (emit start)).indicator t keyAllowed

/-- The mark of a value.  If a key may have begun before it, there was one. -/
def valueMark (s : Scan) : Except DocumentFault Scan :=
  match s.mark with
  | none => s.blockMark .blockMappingStart .value !s.inFlow
  | some k =>
    let s := { s with mark := none }.insert k.number .key
    (s.openBlock k.column (insert k.number .blockMappingStart)).indicator .value false

/-- A token that may be the beginning of a key. -/
def keyStart (read : Cursor → Except DocumentFault (Token × Cursor)) (s : Scan) :
    Except DocumentFault Scan := do
  let s ← s.setMark
  let (t, c) ← read s.cursor
  return { s with cursor := c, keyAllowed := false }.emit t

/-- A plain scalar.  If a line ended behind it, a key may begin there. -/
def plain (s : Scan) : Except DocumentFault Scan := do
  let s ← s.setMark
  let p := plainScalar s.inFlow (s.indent + 1) s.cursor
  return { s with cursor := p.cursor, keyAllowed := p.broken }.emit
    (.scalar true (.ofChars p.text))

/-- A block scalar. -/
def block (folded : Bool) (s : Scan) : Except DocumentFault Scan := do
  let s ← s.dropMark
  let (text, c) ← blockScalar folded s.indent s.cursor
  return { s with cursor := c, keyAllowed := true }.emit (.scalar false (.ofChars text))

/-- Whether a plain scalar may begin with the character in front of the text. -/
def beginsPlain (inFlow : Bool) (c : Char) (rest : List Char) : Bool :=
  !(isGap c || "-?:,[]\x7b\x7d#&*!|>\x27\x22%@\x60".toList.contains c) ||
    (!atGap rest && (c == '-' || (!inFlow && (c == '?' || c == ':'))))

/-- Reads the token that begins with the character in front of the text. -/
def tokenAt (c : Char) (rest : List Char) (s : Scan) : Except DocumentFault Scan :=
  let apart := atGap rest
  if c == '%' && s.cursor.column = 0 then do
    let (t, after) ← directiveToken s.cursor
    s.atMargin t after
  else if s.cursor.column = 0 && s.cursor.atSeparator then
    s.atMargin (if c == '-' then .documentStart else .documentEnd) (s.cursor.skip 3)
  else if c == '[' then s.openBracket .flowSequenceStart
  else if c == '\x7b' then s.openBracket .flowMappingStart
  else if c == ']' then s.closeBracket .flowSequenceEnd
  else if c == '\x7d' then s.closeBracket .flowMappingEnd
  else if c == ',' then s.indicator .flowEntry true
  else if c == '-' && apart then s.blockMark .blockSequenceStart .blockEntry true
  else if c == '?' && (s.inFlow || apart) then s.blockMark .blockMappingStart .key !s.inFlow
  else if c == ':' && (s.inFlow || apart) then s.valueMark
  else if c == '*' then s.keyStart fun c => (nodeName c).map fun (name, c) => (.alias name, c)
  else if c == '&' then s.keyStart fun c => (nodeName c).map fun (name, c) => (.anchor name, c)
  else if c == '!' then s.keyStart tagToken
  else if !s.inFlow && (c == '|' || c == '>') then s.block (c == '>')
  else if c == '\x27' || c == '\x22' then
    s.keyStart fun place =>
      (quotedScalar (c == '\x22') place).map fun (text, c) => (.scalar false text, c)
  else if beginsPlain s.inFlow c rest then s.plain
  else .error .malformed

/-- The number of the first token that may still turn out to begin a key, or else of the next one.
-/
def unsettled (s : Scan) : Nat :=
  let live := (s.mark :: s.outer).filterMap fun m => m.filter fun k => !s.isStale k
  live.foldl (fun n k => min n k.number) s.count

/-- The tokens that are settled, and the fault that ended them.  Nothing can be made of a token that
may begin a key before what is behind it is read, so that the fault comes in its place. -/
def broken (f : DocumentFault) (s : Scan) : List Token :=
  s.tokens.reverse.take s.unsettled ++ [.broken f]

/-- Where no key is awaited the tokens break off behind those that were read. -/
theorem broken_of_no_mark {f : DocumentFault} {s : Scan} (h : s.count = s.tokens.length)
    (hm : s.mark = none) (ho : s.outer = []) :
    s.broken f = s.tokens.reverse ++ [.broken f] := by
  have : s.tokens.reverse.take s.tokens.length = s.tokens.reverse :=
    List.take_of_length_le (by simp)
  simp [broken, unsettled, hm, ho, h, this]

/-- All tokens, from the ones so far to the end of the text. -/
def run : Nat → Scan → List Token
  | 0, s => s.broken .malformed
  | fuel + 1, s =>
    match s.advance with
    | .error f => s.broken f
    | .ok ready =>
      match ready.cursor.rest with
      | [] =>
        match (ready.unwind (-1)).dropMark with
        | .error f => s.broken f
        | .ok done => done.tokens.reverse
      | c :: rest =>
        match ready.tokenAt c rest with
        | .error f => s.broken f
        | .ok s => run fuel s

end Scan

/-- The tokens of a text.  Each but those of the layout takes a character at least, so that the
length of the text bounds the steps. -/
def tokensOf (cs : List Char) : List Token := Scan.run (cs.length + 1) { cursor := { rest := cs } }

end StagedLoad.Yaml
