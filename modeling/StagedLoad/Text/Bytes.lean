import StagedLoad.Text

/-!
# Texts as bytes

A text of characters has a form in UTF-8, and bytes in UTF-8 stand for a text.  The names of files
are bytes of any kind: in a path a half of a surrogate pair from U+DC80 to U+DCFF stands for a byte
that is no part of a character, and every other half stands for nothing.

Bytes are also written in base 64, with four characters for three bytes.  Characters outside of the
alphabet are ignored, and so is a pad where no group can end; a group that ends early ends the text.

* `utf8Text?_utf8Bytes` : characters are what their bytes stand for.
-/

namespace StagedLoad

/-! ## Characters and paths -/

/-- The text that bytes in UTF-8 stand for. -/
def utf8Text? (bs : List UInt8) : Option Text :=
  (String.fromUTF8? ⟨bs.toArray⟩).map Text.ofString

/-- The bytes of characters in UTF-8. -/
def utf8Bytes (cs : List Char) : List UInt8 := cs.flatMap String.utf8EncodeChar

/-- Characters are read back from their bytes. -/
theorem utf8Text?_utf8Bytes (cs : List Char) : utf8Text? (utf8Bytes cs) = some (.ofChars cs) := by
  have hbytes : (⟨(utf8Bytes cs).toArray⟩ : ByteArray) = cs.utf8Encode := by
    ext1
    simp [utf8Bytes, List.utf8Encode]
  have hvalid : cs.utf8Encode.IsValidUTF8 := ⟨cs, rfl⟩
  rw [utf8Text?, hbytes, String.fromUTF8?, dif_pos hvalid]
  have hstring : String.fromUTF8 cs.utf8Encode hvalid = String.ofList cs := rfl
  rw [hstring, Option.map_some, Text.ofString, String.toList_ofList]

/-- The number among all halves of the one that stands for the byte zero. -/
def byteHalf : Nat := 0x400

/-- The bytes of a symbol of a path, if it has bytes. -/
def pathSymbolBytes? : Symbol → Option (List UInt8)
  | .char c => some (String.utf8EncodeChar c)
  | .half n =>
    if byteHalf + 0x80 ≤ n.val && n.val < byteHalf + 0x100 then some [UInt8.ofNat (n - byteHalf)]
    else none

/-- The bytes of a path, if it has bytes. -/
def pathBytes? (path : Text) : Option (List UInt8) :=
  (path.mapM pathSymbolBytes?).map List.flatten

/-- The character that the bytes begin with, and the number of its bytes. -/
def leadingChar? (bs : List UInt8) : Option (Char × Nat) :=
  [1, 2, 3, 4].findSome? fun n =>
    match (String.fromUTF8? ⟨(bs.take n).toArray⟩).map String.toList with
    | some [c] => some (c, n)
    | _ => none

/-- The path with these bytes. -/
def pathText : List UInt8 → Text
  | [] => []
  | b :: bs =>
    match leadingChar? (b :: bs) with
    | some (c, n) => .char c :: pathText (bs.drop (n - 1))
    | none => .half (Fin.ofNat 2048 (byteHalf + b.toNat)) :: pathText bs
termination_by bs => bs.length

/-! ## Base 64 -/

namespace Base64

/-- The six bits of a character. -/
def sextet? (c : Char) : Option Nat :=
  let n := c.toNat
  if 65 ≤ n ∧ n ≤ 90 then some (n - 65)
  else if 97 ≤ n ∧ n ≤ 122 then some (n - 71)
  else if 48 ≤ n ∧ n ≤ 57 then some (n + 4)
  else if n = 43 then some 62
  else if n = 47 then some 63
  else none

/-- The whole bytes of a group of at most four characters. -/
def groupBytes (group : List Nat) : List UInt8 :=
  match group with
  | [a, b] => [UInt8.ofNat (a * 4 + b / 16)]
  | [a, b, c] => [UInt8.ofNat (a * 4 + b / 16), UInt8.ofNat (b % 16 * 16 + c / 4)]
  | [a, b, c, d] =>
    [UInt8.ofNat (a * 4 + b / 16), UInt8.ofNat (b % 16 * 16 + c / 4), UInt8.ofNat (c % 4 * 64 + d)]
  | _ => []

/-- The bytes of the text behind the first characters of a group and the pads after them; nothing if
the text ends inside a group. -/
def decodeFrom (group : List Nat) (pads : Nat) : List Char → Option (List UInt8)
  | [] => if group.isEmpty then some [] else none
  | c :: cs =>
    if c = '=' then
      if group.length < 2 then decodeFrom group pads cs
      else if group.length + pads + 1 < 4 then decodeFrom group (pads + 1) cs
      else some (groupBytes group)
    else
      match sextet? c with
      | none => decodeFrom group pads cs
      | some v =>
        let group := group ++ [v]
        if group.length < 4 then decodeFrom group 0 cs
        else (decodeFrom [] 0 cs).map (groupBytes group ++ ·)

/-- The bytes of a text. -/
def decode? (cs : List Char) : Option (List UInt8) := decodeFrom [] 0 cs

end Base64

end StagedLoad
