import OrcConversion.Text.PrintableTable

/-! Texts as they are shown inside messages: quoted, with everything escaped that does not print. -/

namespace OrcConversion.Text

def hexDigits (width : Nat) (code : Nat) : List Char :=
  let digits := Nat.toDigits 16 code
  List.replicate (width - digits.length) '0' ++ digits

def quoteFor (text : List Char) : Char :=
  if text.contains '\'' && !text.contains '"' then '"' else '\''

/-- A character as it is shown between two quotes, given those that stand for themselves. -/
def showChar (isPlain : Char → Bool) (quote c : Char) : List Char :=
  if c == quote || c == '\\' then ['\\', c]
  else if c == '\n' then ['\\', 'n']
  else if c == '\r' then ['\\', 'r']
  else if c == '\t' then ['\\', 't']
  else if isPlain c then [c]
  else if c.toNat ≤ 0xFF then '\\' :: 'x' :: hexDigits 2 c.toNat
  else if c.toNat ≤ 0xFFFF then '\\' :: 'u' :: hexDigits 4 c.toNat
  else '\\' :: 'U' :: hexDigits 8 c.toNat

def quotedBy (isPlain : Char → Bool) (text : String) : String :=
  let quote := quoteFor text.toList
  String.ofList (quote :: text.toList.flatMap (showChar isPlain quote) ++ [quote])

def quoted : String → String := quotedBy isPrintable

def quotedNarrowly : String → String := quotedBy fun c => isPrintable c && c.toNat < 0x80

def quotedList (texts : List String) : String :=
  "[" ++ ", ".intercalate (texts.map quoted) ++ "]"

/-- A fixed sequence of texts as it is shown in messages; a single one is followed by a comma. -/
def quotedTuple : List String → String
  | [text] => "(" ++ quoted text ++ ",)"
  | texts => "(" ++ ", ".intercalate (texts.map quoted) ++ ")"

def quotedPairs (entries : List (String × String)) : String :=
  "\x7b" ++ ", ".intercalate (entries.map fun (key, value) => quoted key ++ ": " ++ quoted value) ++
    "\x7d"

end OrcConversion.Text
