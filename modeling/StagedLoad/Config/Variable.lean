import StagedLoad.Text

/-!
# Variables in texts

A text refers to a variable by a dollar sign and the name in braces, with or without `env:` before
the name.  A name has ASCII letters, digits and underscores.  All references are found first and
then replaced, so what a variable holds is never looked at again.
-/

namespace StagedLoad

/-- The characters of names of variables. -/
def isVariableChar (c : Char) : Bool := c.isAlphanum || c == '_'

/-- The name and the closing brace at the beginning of the text, and what is behind them. -/
def closedName? (t : Text) : Option (Text × Text) :=
  let name := t.takeWhile (Symbol.isChar isVariableChar)
  match t.drop name.length with
  | .char '\x7d' :: rest => if name.isEmpty then none else some (name, rest)
  | _ => none

/-- A closed name has its brace behind it. -/
theorem closedName?_eq_some {t name rest : Text} (h : closedName? t = some (name, rest)) :
    t = name ++ .char '\x7d' :: rest := by
  simp only [closedName?] at h
  split at h
  · rename_i rest' hd
    split at h
    · simp at h
    · simp only [Option.some.injEq, Prod.mk.injEq] at h
      obtain ⟨rfl, rfl⟩ := h
      have hbegin : t.takeWhile (Symbol.isChar isVariableChar) <+: t := List.takeWhile_prefix _
      have hsplit := List.prefix_iff_eq_append.1 hbegin
      rw [hd] at hsplit
      exact hsplit.symm
  · simp at h

/-- A piece of a text. -/
inductive Piece where
  | symbol (s : Symbol)
  /-- A reference, and whether `env:` is before the name. -/
  | reference (marked : Bool) (name : Text)
deriving DecidableEq, Repr

namespace Piece

/-- The piece as it is written. -/
def written : Piece → Text
  | symbol s => [s]
  | reference marked name =>
    .char '$' :: .char '\x7b' ::
      ((if marked then ['e', 'n', 'v', ':'].map .char else []) ++ name ++ [.char '\x7d'])

end Piece

/-- The piece at the beginning of a text that is not empty, and what is behind it. -/
def pieceAt (s : Symbol) (t : Text) : Piece × Text :=
  match s, t with
  | .char '$', .char '\x7b' :: inner =>
    let marked := match inner with
      | .char 'e' :: .char 'n' :: .char 'v' :: .char ':' :: name => closedName? name
      | _ => none
    match marked, closedName? inner with
    | some (name, rest), _ => (.reference true name, rest)
    | none, some (name, rest) => (.reference false name, rest)
    | none, none => (.symbol s, t)
  | _, _ => (.symbol s, t)

/-- A piece and what follows it make up the text. -/
theorem pieceAt_written (s : Symbol) (t : Text) :
    (pieceAt s t).1.written ++ (pieceAt s t).2 = s :: t := by
  unfold pieceAt
  split
  · rename_i inner
    dsimp only
    split
    · rename_i name rest hm
      split at hm
      · rename_i name'
        simp [Piece.written, closedName?_eq_some hm]
      · simp at hm
    · rename_i name rest _ hm
      simp [Piece.written, closedName?_eq_some hm]
    · simp [Piece.written]
  · simp [Piece.written]

/-- What follows a piece is shorter than the text. -/
theorem pieceAt_length (s : Symbol) (t : Text) : (pieceAt s t).2.length < t.length + 1 := by
  have h := congrArg List.length (pieceAt_written s t)
  simp only [List.length_append, List.length_cons] at h
  have : 0 < (pieceAt s t).1.written.length := by
    cases (pieceAt s t).1 <;> simp [Piece.written]
  omega

/-- The pieces of a text. -/
def piecesOf : Text → List Piece
  | [] => []
  | s :: t => (pieceAt s t).1 :: piecesOf (pieceAt s t).2
termination_by t => t.length
decreasing_by
  simpa using pieceAt_length s t

/-- The variables that are set, with what they hold. -/
abbrev Variables := List (Text × Text)

/-- What the pieces stand for, or the first variable that is not set. -/
def Piece.fill (vars : Variables) : List Piece → Except Text Text
  | [] => .ok []
  | symbol s :: ps => (fill vars ps).map (s :: ·)
  | reference _ name :: ps =>
    match vars.lookup name with
    | none => .error name
    | some held => (fill vars ps).map (held ++ ·)

/-- The text with what its variables hold, or the first of them that is not set. -/
def substitute (vars : Variables) (text : Text) : Except Text Text :=
  Piece.fill vars (piecesOf text)

end StagedLoad
