import StagedLoad.Yaml.Token.Quoted

/-!
# Plain scalars

A plain scalar goes on over spaces and lines until a comment, the mark of a value, a line that is
not indented far enough, or, inside brackets, a mark of the flow style.  A tab ends it.
-/

namespace StagedLoad.Yaml

/-- The marks of the flow style that end a plain scalar inside brackets. -/
def isFlowMark (c : Char) : Bool :=
  c == ',' || c == '?' || c == '[' || c == ']' || c == '\x7b' || c == '\x7d'

/-- Whether a colon followed by this text is the mark of a value. -/
def valueMarkBefore (flow : Bool) (rest : List Char) : Bool :=
  rest.head?.all fun c => isGap c || (flow && c != '?' && isFlowMark c)

/-- The length of the part of a plain scalar that begins here. -/
def plainRun (flow : Bool) : List Char → Nat
  | [] => 0
  | c :: cs =>
    if isGap c || (c == ':' && valueMarkBefore flow cs) || (flow && isFlowMark c) then 0
    else plainRun flow cs + 1

/-- The breaks of blank lines inside a plain scalar; nothing, if a document separator comes first.
-/
def plainBreaks : Nat → Cursor → Option (List Char) × Cursor
  | 0, c => (some [], c)
  | fuel + 1, c =>
    let c := c.skipSpaces
    match c.lineBreak with
    | ([], c) => (some [], c)
    | (br, c) =>
      if c.atSeparator then (none, c)
      else
        match plainBreaks fuel c with
        | (some more, c) => (some (br ++ more), c)
        | r => r

/-- What may join two parts of a plain scalar. -/
structure Joint where
  /-- What stands for the spaces and breaks; nothing if the scalar cannot go on. -/
  text : List Char
  /-- Whether there was a line break. -/
  broken : Bool
  cursor : Cursor

/-- The spaces and breaks behind a part of a plain scalar. -/
def plainJoint (c : Cursor) : Joint :=
  let (blanks, c) := c.span (· == ' ')
  match c.lineBreak with
  | ([], c) => ⟨blanks, false, c⟩
  | (br, c) =>
    if c.atSeparator then ⟨[], true, c⟩
    else
      match plainBreaks (c.left + 1) c with
      | (some more, c) => ⟨foldedBreak br more, true, c⟩
      | (none, c) => ⟨[], true, c⟩

/-- A plain scalar with the place behind it, and whether a line ended behind its last part. -/
structure Plain where
  text : List Char
  broken : Bool
  cursor : Cursor

/-- The parts of a plain scalar from here on; `joint` is what joins them to the part before. -/
def plainRest (flow : Bool) (indent : Int) : Nat → Joint → Plain
  | 0, j => ⟨[], j.broken, j.cursor⟩
  | fuel + 1, j =>
    let c := j.cursor
    let n := if c.rest.head? == some '#' then 0 else plainRun flow c.rest
    if n = 0 then ⟨[], j.broken, c⟩
    else
      let run := j.text ++ c.rest.take n
      let j := plainJoint (c.skip n)
      if j.text.isEmpty || j.cursor.rest.head? == some '#' ||
          (!flow && (j.cursor.column : Int) < indent) then ⟨run, j.broken, j.cursor⟩
      else
        let more := plainRest flow indent fuel j
        ⟨run ++ more.text, more.broken, more.cursor⟩

/-- The plain scalar that begins here. -/
def plainScalar (flow : Bool) (indent : Int) (c : Cursor) : Plain :=
  plainRest flow indent (c.left + 1) ⟨[], false, c⟩

end StagedLoad.Yaml
