import StagedLoad.Text.Quoted

/-!
# Severities and thresholds

A message has a severity, a logger has a threshold, and a message whose severity is below the
threshold is not logged.  A threshold is given by a word in letters of any case; a word that is none
of the known ones means the threshold of information.  Two words name something else of the log and
cannot be used.

* `thresholdOf_of_plain` : every other word gives a threshold.
-/

namespace StagedLoad

/-- How grave a message is. -/
inductive Severity where
  | debug
  | info
  | warning
  | error
deriving DecidableEq, Repr

namespace Severity

/-- The place of the severity among the thresholds. -/
def rank : Severity → Nat
  | debug => 10
  | info => 20
  | warning => 30
  | error => 40

/-- The name of the severity. -/
def name : Severity → String
  | debug => "DEBUG"
  | info => "INFO"
  | warning => "WARNING"
  | error => "ERROR"

/-- What a plain message of the severity begins with. -/
def lead : Severity → String
  | debug => "[DEBUG] "
  | info => ""
  | warning => "[WARN] "
  | error => "[ERROR] "

end Severity

/-- The words for thresholds. -/
def thresholdWords : List (Text × Nat) := [
  ("CRITICAL", 50), ("FATAL", 50), ("ERROR", 40), ("WARNING", 30), ("WARN", 30), ("INFO", 20),
  ("DEBUG", 10), ("NOTSET", 0)
]

/-- What a word can name that is no threshold. -/
inductive LevelFault where
  /-- The layout of plain messages. -/
  | layout
  /-- The table of the kinds of layouts. -/
  | layoutTable
deriving DecidableEq, Repr

namespace LevelFault

/-- The layout of plain messages that is in force without another one. -/
def layoutText : Text := "%(levelname)s:%(name)s:%(message)s"

/-- What is said of a word that names no threshold. -/
def message? : LevelFault → Option Text
  | layout => some ("Unknown level: " ++ quotedText layoutText)
  | layoutTable => none

end LevelFault

/-- The words for what is no threshold. -/
def otherWords : List (Text × LevelFault) :=
  [("BASIC_FORMAT", .layout), ("_STYLES", .layoutTable)]

/-- The capitals of a letter.  Of the letters beyond ASCII only the dotless i, the long s and the
two ligatures of s and t have capitals that are letters of the words. -/
def capitals (c : Char) : List Char :=
  if c = '\u0131' then ['I']
  else if c = '\u017F' then ['S']
  else if c = '\uFB05' || c = '\uFB06' then ['S', 'T']
  else [c.toUpper]

/-- The word in capitals. -/
def inCapitals (word : Text) : Text :=
  word.flatMap fun
    | .char c => Text.ofChars (capitals c)
    | half => [half]

/-- The threshold that a word stands for. -/
def thresholdOf (word : Text) : Except LevelFault Nat :=
  match otherWords.lookup (inCapitals word) with
  | some f => .error f
  | none => .ok ((thresholdWords.lookup (inCapitals word)).getD 20)

/-- A word that is no other level name sets a threshold, 20 unless it is known. -/
theorem thresholdOf_of_plain {word : Text} (h : otherWords.lookup (inCapitals word) = none) :
    thresholdOf word = .ok ((thresholdWords.lookup (inCapitals word)).getD 20) := by
  simp [thresholdOf, h]

end StagedLoad
