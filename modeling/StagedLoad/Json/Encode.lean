import StagedLoad.Value.Display

/-!
# Writing JSON

Values are written on one line in printable ASCII: members are separated by `", "`, a key is
followed by `": "`, and every character outside the range from space to tilde is escaped, one beyond
the basic plane as two surrogates; a half of a surrogate pair is one escape.  Bytes, dates and
moments have no JSON form and are written as the text that shows them.
-/

namespace StagedLoad

namespace Json

/-- An escape of one sixteen-bit unit. -/
def unitEscape (n : Nat) : List Char := '\\' :: 'u' :: lowerHex 4 n

/-- One character inside a JSON string. -/
def encodeChar (c : Char) : List Char :=
  let n := c.toNat
  if n = 0x22 || n = 0x5C then ['\\', c]
  else if 0x20 ≤ n && n ≤ 0x7E then [c]
  else if n = 0x0A then ['\\', 'n']
  else if n = 0x0D then ['\\', 'r']
  else if n = 0x09 then ['\\', 't']
  else if n = 0x08 then ['\\', 'b']
  else if n = 0x0C then ['\\', 'f']
  else if n < 0x10000 then unitEscape n
  else unitEscape (0xD800 + (n - 0x10000) / 0x400) ++ unitEscape (0xDC00 + (n - 0x10000) % 0x400)

/-- One symbol inside a JSON string. -/
def encodeSymbol : Symbol → List Char
  | .char c => encodeChar c
  | .half n => unitEscape (Symbol.half n).code

/-- A JSON string. -/
def encodeText (t : Text) : List Char := '\x22' :: t.flatMap encodeSymbol ++ ['\x22']

/-- A key as JSON, which is always a string. -/
def encodeKey : Value → List Char
  | .null => encodeText "null"
  | .bool b => encodeText (if b then "true" else "false")
  | v => encodeText v.display

/-- Members with commas between them. -/
def separated (members : List (List Char)) : List Char :=
  (members.intersperse [',', ' ']).flatten

mutual

/-- A value as JSON. -/
def encode : Value → List Char
  | .null => "null".toList
  | .bool b => (if b then "true" else "false").toList
  | .int n => (toString n).toList
  | .float x => (x.textWith "Infinity" "NaN").toList
  | .list xs => '[' :: separated (encodeList xs) ++ [']']
  | .map es => '\x7b' :: separated (encodeEntries es) ++ ['\x7d']
  | .text t => encodeText t
  | .knot cells n => encodeText (Value.knot cells n).display
  | .bytes bs => encodeText (quotedBytes bs)
  | .date d => encodeText d.isoText
  | .moment t => encodeText (t.isoWith " ")

/-- The members of a list as JSON. -/
def encodeList : List Value → List (List Char)
  | [] => []
  | x :: xs => encode x :: encodeList xs

/-- The entries of a map as JSON. -/
def encodeEntries : List (Value × Value) → List (List Char)
  | [] => []
  | (k, v) :: es => (encodeKey k ++ ':' :: ' ' :: encode v) :: encodeEntries es

end

end Json

end StagedLoad
