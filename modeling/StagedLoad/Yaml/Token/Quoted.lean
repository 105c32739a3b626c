import StagedLoad.Text.Numeral
import StagedLoad.Yaml.Cursor
import StagedLoad.Yaml.Token

/-!
# Quoted scalars

Between apostrophes only the doubled apostrophe is special; between double quotes a backslash begins
an escape.  A line break folds to a space, breaks behind it are kept, and the blanks around it are
dropped.  An escape can stand for a half of a surrogate pair, as well as for a character.
-/

namespace StagedLoad.Yaml

/-- The character of an escape of one letter. -/
def escapeLetter? (c : Char) : Option Char :=
  match c with
  | '0' => some '\x00'
  | 'a' => some '\x07'
  | 'b' => some '\x08'
  | 't' => some '\t'
  | '\t' => some '\t'
  | 'n' => some '\n'
  | 'v' => some '\x0b'
  | 'f' => some '\x0c'
  | 'r' => some '\r'
  | 'e' => some '\x1b'
  | ' ' => some ' '
  | '\x22' => some '\x22'
  | '\\' => some '\\'
  | '/' => some '/'
  | 'N' => some '\u0085'
  | '_' => some '\u00A0'
  | 'L' => some '\u2028'
  | 'P' => some '\u2029'
  | _ => none

/-- The number of digits of an escape by code point. -/
def escapeWidth? (c : Char) : Option Nat :=
  match c with
  | 'x' => some 2
  | 'u' => some 4
  | 'U' => some 8
  | _ => none

/-- The code point of an escape with this many digits. -/
def escapeCode? (width : Nat) (cs : List Char) : Option Nat :=
  let ds := cs.take width
  if ds.length < width then none else (ds.mapM hexDigit?).map (digitsValue 16 0)

/-- The symbol of an escape with this many digits, if there is such a symbol. -/
def escapedSymbol (width : Nat) (cs : List Char) : Except DocumentFault Symbol :=
  match escapeCode? width cs with
  | none => .error .malformed
  | some n =>
    if 0x80000000 ≤ n then .error .overflow
    else if 0x110000 ≤ n then .error .noSuchValue
    else .ok (.ofCode n)

/-- The breaks of blank lines inside a quoted scalar; a document separator may not stand there. -/
def quotedBreaks : Nat → Cursor → Except DocumentFault (List Char × Cursor)
  | 0, _ => .error .malformed
  | fuel + 1, c =>
    if c.atSeparator then .error .malformed
    else
      let c := c.skipWhile fun x => x == ' ' || x == '\t'
      match c.lineBreak with
      | ([], c) => .ok ([], c)
      | (br, c) => do
        let (more, c) ← quotedBreaks fuel c
        return (br ++ more, c)

/-- What a break stands for, with the breaks behind it. -/
def foldedBreak (br more : List Char) : List Char :=
  if br != ['\n'] then br ++ more else if more.isEmpty then [' '] else more

/-- Blanks inside a quoted scalar, with a line break among them or without. -/
def quotedSpaces (c : Cursor) : Except DocumentFault (List Char × Cursor) :=
  let (blanks, c) := c.span fun x => x == ' ' || x == '\t'
  match c.rest with
  | [] => .error .malformed
  | x :: _ =>
    if isBreak x then do
      let (br, c) := c.lineBreak
      let (more, c) ← quotedBreaks (c.left + 1) c
      return (foldedBreak br more, c)
    else .ok (blanks, c)

/-- Whether the character stands for itself in every quoted scalar. -/
def isQuotedChar (c : Char) : Bool := !(c == '\x27' || c == '\x22' || c == '\\' || isGap c)

/-- The symbols up to the next blank or closing quote. -/
def quotedWord (double : Bool) : Nat → Cursor → Except DocumentFault (Text × Cursor)
  | 0, _ => .error .malformed
  | fuel + 1, c => do
    let (taken, c) := c.span isQuotedChar
    let run := Text.ofChars taken
    let goOn (out : Text) (c : Cursor) : Except DocumentFault (Text × Cursor) := do
      let (more, c) ← quotedWord double fuel c
      return (run ++ out ++ more, c)
    match c.rest with
    | '\x27' :: rest =>
      if double then goOn [.char '\x27'] c.next
      else if rest.head? == some '\x27' then goOn [.char '\x27'] (c.skip 2)
      else return (run, c)
    | '\x22' :: _ => if double then return (run, c) else goOn [.char '\x22'] c.next
    | '\\' :: rest =>
      if !double then goOn [.char '\\'] c.next
      else
        let c := c.next
        match rest with
        | [] => .error .malformed
        | e :: digits =>
          match escapeLetter? e, escapeWidth? e with
          | some x, _ => goOn [.char x] c.next
          | none, some width =>
            let x ← escapedSymbol width digits
            goOn [x] (c.skip (width + 1))
          | none, none =>
            if isBreak e then
              let (_, c) := c.lineBreak
              let (breaks, c) ← quotedBreaks (c.left + 1) c
              goOn (.ofChars breaks) c
            else .error .malformed
    | _ => return (run, c)

/-- The words and blanks up to the closing quote. -/
def quotedRest (double : Bool) : Nat → Cursor → Except DocumentFault (Text × Cursor)
  | 0, _ => .error .malformed
  | fuel + 1, c => do
    let (word, c) ← quotedWord double (c.left + 1) c
    if c.rest.head? == some (if double then '\x22' else '\x27') then return (word, c.next)
    else
      let (blanks, c) ← quotedSpaces c
      let (more, c) ← quotedRest double fuel c
      return (word ++ Text.ofChars blanks ++ more, c)

/-- The text of the quoted scalar that begins here. -/
def quotedScalar (double : Bool) (c : Cursor) : Except DocumentFault (Text × Cursor) :=
  quotedRest double (c.left + 1) c.next

end StagedLoad.Yaml
