import StagedLoad.Text.Quoted
import StagedLoad.Value

/-!
# The text of a value

A value is shown bare in a message: a text as it is, a moment with a space in the middle.  Inside a
list or a map it is shown as a literal: texts quoted, dates as the calls that build them, three dots
for what may be inside itself.
-/

namespace StagedLoad

namespace Value

/-- The word of a truth value. -/
def truthWord (b : Bool) : Text := if b then "True" else "False"

mutual

/-- The value as a literal. -/
def literal : Value → Text
  | null => "None"
  | bool b => truthWord b
  | int n => toString n
  | float x => x.text
  | text t => quotedText t
  | bytes bs => quotedBytes bs
  | date d => d.literal
  | moment t => t.literal
  | list xs => "[" ++ Text.join ", " (literals xs) ++ "]"
  | map es => "\x7b" ++ Text.join ", " (entryLiterals es) ++ "\x7d"
  | knot _ _ => "..."

/-- The literals of the members of a list. -/
def literals : List Value → List Text
  | [] => []
  | x :: xs => x.literal :: literals xs

/-- The literals of entries, key and value with a colon between them. -/
def entryLiterals : List (Value × Value) → List Text
  | [] => []
  | (k, v) :: es => (k.literal ++ ": " ++ v.literal) :: entryLiterals es

end

/-- The value as it is shown in a message. -/
def display : Value → Text
  | text t => t
  | date d => d.isoText
  | moment t => t.isoWith " "
  | v => v.literal

end Value

end StagedLoad
