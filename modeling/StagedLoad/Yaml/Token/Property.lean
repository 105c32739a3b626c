import StagedLoad.Text.Bytes
import StagedLoad.Text.Numeral
import StagedLoad.Yaml.Cursor
import StagedLoad.Yaml.Token

/-!
# Anchors, tags and directives

The names that are put before nodes and the lines that are put before documents.
-/

namespace StagedLoad.Yaml

/-- Whether a name may end before this text. -/
def nameEndsBefore (rest : List Char) : Bool :=
  rest.head?.all fun c => isGap c || "?:,]\x7d%@\x60".toList.contains c

/-- The name behind the mark of an anchor or an alias. -/
def nodeName (c : Cursor) : Except DocumentFault (String × Cursor) :=
  let (name, c) := c.next.span isNameChar
  if name.isEmpty || !nameEndsBefore c.rest then .error .malformed
  else .ok (String.ofList name, c)

/-- The characters of tag addresses. -/
def isAddressChar (c : Char) : Bool :=
  c.isAlphanum || "-;/?:@&=+$,_.!~*\x27()[]".toList.contains c

/-- The bytes of consecutive escapes. -/
def escapedBytes : Nat → Cursor → Except DocumentFault (List UInt8 × Cursor)
  | 0, _ => .error .malformed
  | fuel + 1, c =>
    match c.rest with
    | '%' :: a :: b :: _ =>
      match hexDigit? a, hexDigit? b with
      | some high, some low => do
        let (more, c) ← escapedBytes fuel (c.skip 3)
        return (UInt8.ofNat (high * 16 + low) :: more, c)
      | _, _ => .error .malformed
    | '%' :: _ => .error .malformed
    | _ => .ok ([], c)

/-- The parts of an address. -/
def addressParts : Nat → Cursor → Except DocumentFault (List Char × Cursor)
  | 0, _ => .error .malformed
  | fuel + 1, c =>
    let (run, c) := c.span isAddressChar
    if c.rest.head? == some '%' then do
      let (bytes, c) ← escapedBytes (c.left + 1) c
      match (utf8Text? bytes).bind Text.chars? with
      | none => .error .malformed
      | some cs =>
        let (more, c) ← addressParts fuel c
        return (run ++ cs ++ more, c)
    else .ok (run, c)

/-- An address of at least one character. -/
def address (c : Cursor) : Except DocumentFault (String × Cursor) := do
  let (cs, after) ← addressParts (c.left + 1) c
  if c.index = after.index then .error .malformed else return (String.ofList cs, after)

/-- A tag handle: an exclamation mark, or a name between two of them. -/
def tagHandle (c : Cursor) : Except DocumentFault (String × Cursor) :=
  match c.rest with
  | '!' :: ' ' :: _ => .ok ("!", c.next)
  | '!' :: rest =>
    let name := rest.takeWhile isNameChar
    if (rest.drop name.length).head? == some '!' then
      .ok (String.ofList ('!' :: name ++ ['!']), c.skip (name.length + 2))
    else .error .malformed
  | _ => .error .malformed

/-- Whether an exclamation mark comes before the next space or line end. -/
def hasHandle (rest : List Char) : Bool :=
  (rest.takeWhile fun c => c != ' ' && !isBreak c).contains '!'

/-- The tag that begins here. -/
def tagToken (c : Cursor) : Except DocumentFault (Token × Cursor) := do
  let (token, c) ← match c.rest with
    | '!' :: '<' :: _ => do
      let (suffix, c) ← address (c.skip 2)
      if c.rest.head? == some '>' then pure (Token.tag none suffix, c.next) else .error .malformed
    | '!' :: rest =>
      if atGap rest then pure (Token.tag none "!", c.next)
      else do
        let (handle, c) ← if hasHandle rest then tagHandle c else pure ("!", c.next)
        let (suffix, c) ← address c
        pure (Token.tag (some handle) suffix, c)
    | _ => .error .malformed
  if atSpaceOrBreak c.rest then return (token, c) else .error .malformed

/-- A non-empty run of digits. -/
def versionNumber (c : Cursor) : Except DocumentFault (Nat × Cursor) :=
  let (ds, c) := c.span Char.isDigit
  match natInBase? 10 ds with
  | some n => if ds.length > maxDecimalDigits then .error .noSuchValue else .ok (n, c)
  | none => .error .malformed

/-- The directive behind its name. -/
def directiveOf (name : String) (c : Cursor) : Except DocumentFault (Directive × Cursor) :=
  if name = "YAML" then do
    let (major, c) ← versionNumber c.skipSpaces
    if c.rest.head? == some '.' then
      let (_, c) ← versionNumber c.next
      if atSpaceOrBreak c.rest then return (.version major, c) else .error .malformed
    else .error .malformed
  else if name = "TAG" then do
    let (handle, c) ← tagHandle c.skipSpaces
    if c.rest.head? == some ' ' then
      let (target, c) ← address c.skipSpaces
      if atSpaceOrBreak c.rest then return (.tag handle target, c) else .error .malformed
    else .error .malformed
  else .ok (.unknown, c.skipWhile fun x => !isBreak x)

/-- The directive that begins here. -/
def directiveToken (c : Cursor) : Except DocumentFault (Token × Cursor) := do
  let (name, c) := c.next.span isNameChar
  if name.isEmpty || !atSpaceOrBreak c.rest then .error .malformed
  else
    let (d, c) ← directiveOf (String.ofList name) c
    let c := c.skipSpaces.skipComment
    if atLineEnd c.rest then return (.directive d, c.lineBreak.2) else .error .malformed

end StagedLoad.Yaml
