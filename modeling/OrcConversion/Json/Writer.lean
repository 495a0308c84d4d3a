import OrcConversion.Json.Basic
import OrcConversion.Text.Quoted

/-! Writing JSON text. -/

namespace OrcConversion.Json

open Number Text

def codeEscape (code : Nat) : List Char :=
  '\\' :: 'u' :: hexDigits 4 code

def writeChar (c : Char) : List Char :=
  if c == '"' then ['\\', '"']
  else if c == '\\' then ['\\', '\\']
  else if c == '\n' then ['\\', 'n']
  else if c == '\r' then ['\\', 'r']
  else if c == '\t' then ['\\', 't']
  else if c == '\x08' then ['\\', 'b']
  else if c == '\x0C' then ['\\', 'f']
  else if ' ' ≤ c && c ≤ '~' then [c]
  else if c.toNat < 0x10000 then codeEscape c.toNat
  else
    let offset := c.toNat - 0x10000
    codeEscape (0xD800 + offset / 0x400) ++ codeEscape (0xDC00 + offset % 0x400)

def writePoint : CodePoint → List Char
  | .char c => writeChar c
  | .half offset => codeEscape (0xD800 + offset)

def writeText (text : CodeText) : List Char :=
  '"' :: text.points.flatMap writePoint ++ ['"']

mutual

def write : Json → List Char
  | null => "null".toList
  | bool true => "true".toList
  | bool false => "false".toList
  | integer value => (toString value).toList
  | decimal value => (toString value.mantissa).toList ++ 'e' :: (toString value.exponent).toList
  | notANumber => "NaN".toList
  | infinity false => "Infinity".toList
  | infinity true => "-Infinity".toList
  | string value => writeText value
  | array items => '[' :: writeItems items ++ [']']
  | object members => '\x7b' :: writeMembers members ++ ['\x7d']

def writeItems : List Json → List Char
  | [] => []
  | [item] => write item
  | item :: items => write item ++ ',' :: ' ' :: writeItems items

def writeMembers : List (CodeText × Json) → List Char
  | [] => []
  | [(name, value)] => writeText name ++ ':' :: ' ' :: write value
  | (name, value) :: members =>
      writeText name ++ ':' :: ' ' :: write value ++ ',' :: ' ' :: writeMembers members

end

def render (value : Json) : String :=
  String.ofList value.write

end OrcConversion.Json
