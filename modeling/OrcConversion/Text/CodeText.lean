/-! Texts of code points, and the bytes of a text. -/

namespace OrcConversion.Text

/-- A code point is a character, or else one half of a pair that stands for a character outside the
basic plane. Halves are counted from U+D800. -/
inductive CodePoint where
  | char (c : Char)
  | half (offset : Fin 0x800)
deriving DecidableEq, Repr

namespace CodePoint

def char? : CodePoint → Option Char
  | char c => some c
  | half _ => none

/-- The replacement character stands for whatever is no character. -/
def shown : CodePoint → Char
  | char c => c
  | half _ => '\uFFFD'

def ofCode (code : Nat) : CodePoint :=
  if h : 0xD800 ≤ code ∧ code < 0xE000 then half ⟨code - 0xD800, by omega⟩
  else char (Char.ofNat code)

theorem ofCode_toNat (c : Char) : ofCode c.toNat = char c := by
  have hvalid : c.toNat < 0xD800 ∨ 0xDFFF < c.toNat ∧ c.toNat < 0x110000 := c.valid
  rw [ofCode, dif_neg (by omega), Char.ofNat_toNat]

end CodePoint

/-- The code points of characters. -/
def points (chars : List Char) : List CodePoint := chars.map .char

@[simp] theorem points_nil : points [] = [] := rfl

@[simp] theorem points_cons (c : Char) (rest : List Char) :
    points (c :: rest) = .char c :: points rest := rfl

@[simp] theorem points_append (front back : List Char) :
    points (front ++ back) = points front ++ points back := List.map_append

@[simp] theorem length_points (chars : List Char) : (points chars).length = chars.length :=
  List.length_map _

/-- A text in which halves of pairs may stand by themselves. -/
structure CodeText where
  points : List CodePoint
deriving DecidableEq, Repr

namespace CodeText

def ofString (text : String) : CodeText := ⟨Text.points text.toList⟩

instance : Coe String CodeText := ⟨ofString⟩

def isEmpty (text : CodeText) : Bool := text.points.isEmpty

/-- The same text, if it holds nothing but characters. -/
def toString? (text : CodeText) : Option String :=
  (text.points.mapM CodePoint.char?).map String.ofList

def shown (text : CodeText) : String := String.ofList (text.points.map CodePoint.shown)

end CodeText

/-- Texts of characters, and texts of code points. -/
class Textual (τ : Type) where
  coded : τ → CodeText

export Textual (coded)

instance : Textual String := ⟨.ofString⟩

instance : Textual CodeText := ⟨id⟩

theorem fromUTF8?_toUTF8 (text : String) : String.fromUTF8? text.toUTF8 = some text := by
  rw [String.fromUTF8?, String.toUTF8_eq_toByteArray, dif_pos text.isValidUTF8]
  rfl

end OrcConversion.Text
