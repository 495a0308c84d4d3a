/-! Blank characters and trimming. -/

namespace OrcConversion.Text

/-- White space in the sense of the Unicode standard. -/
def isSpace (c : Char) : Bool :=
  let code := c.toNat
  (0x09 ≤ code && code ≤ 0x0D) || code == 0x20 || code == 0x85 || code == 0xA0 ||
    code == 0x1680 || (0x2000 ≤ code && code ≤ 0x200A) || code == 0x2028 ||
    code == 0x2029 || code == 0x202F || code == 0x205F || code == 0x3000

/-- White space or an information separator. -/
def isBlank (c : Char) : Bool :=
  isSpace c || (0x1C ≤ c.toNat && c.toNat ≤ 0x1F)

def stripBy (drop : Char → Bool) (text : List Char) : List Char :=
  ((text.dropWhile drop).reverse.dropWhile drop).reverse

def trim (text : String) : String :=
  String.ofList (stripBy isBlank text.toList)

def isBlankText (text : String) : Bool :=
  text.toList.all isBlank

@[simp] theorem stripBy_nil (drop : Char → Bool) : stripBy drop [] = [] := rfl

theorem toList_trim (text : String) :
    (trim text).toList = stripBy isBlank text.toList := by
  simp [trim]

end OrcConversion.Text
