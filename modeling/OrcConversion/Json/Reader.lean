import OrcConversion.Json.Basic
import OrcConversion.OrderedMap
import OrcConversion.Text.Numeral

/-! Reading JSON text. -/

namespace OrcConversion.Json

open Number Text

inductive SyntaxFault where
  | expectedValue
  | extraData
  | expectedName
  | expectedColon
  | expectedComma
  | unterminatedText
  | controlCharacter
  | unknownEscape
  | malformedCodeEscape
  | byteOrderMark
deriving DecidableEq, Repr

inductive ReadFault where
  | malformed (fault : SyntaxFault) (offset line column : Nat)
  | integerTooLong
  | nestedTooDeep
deriving DecidableEq, Repr

inductive Stop where
  | malformed (fault : SyntaxFault) (left : Nat)
  | integerTooLong
  | nestedTooDeep
deriving DecidableEq, Repr

def isJsonSpace : CodePoint → Bool
  | .char c => c == ' ' || c == '\t' || c == '\n' || c == '\r'
  | .half _ => false

def skipSpace (text : List CodePoint) : List CodePoint :=
  text.dropWhile isJsonSpace

/-! ## Texts -/

def hexDigit? : CodePoint → Option Nat
  | .char c =>
      if '0' ≤ c && c ≤ '9' then some (c.toNat - '0'.toNat)
      else if 'a' ≤ c && c ≤ 'f' then some (c.toNat - 'a'.toNat + 10)
      else if 'A' ≤ c && c ≤ 'F' then some (c.toNat - 'A'.toNat + 10)
      else none
  | .half _ => none

def hexCode? (a b c d : CodePoint) : Option Nat := do
  return (((← hexDigit? a) * 16 + (← hexDigit? b)) * 16 + (← hexDigit? c)) * 16 + (← hexDigit? d)

def isHighSurrogate (code : Nat) : Bool := 0xD800 ≤ code && code ≤ 0xDBFF

def isLowSurrogate (code : Nat) : Bool := 0xDC00 ≤ code && code ≤ 0xDFFF

/-- A code point of a written text: itself, or a code of sixteen bits. -/
inductive WrittenUnit where
  | plain (point : CodePoint)
  | code (value : Nat)
deriving DecidableEq, Repr

def joinSurrogates (high low : Nat) : Char :=
  Char.ofNat (0x10000 + (high - 0xD800) * 0x400 + (low - 0xDC00))

/-- Code points of a written text, given the code of a first half of a surrogate pair that still
waits for its second half. Only halves that are both written by code make a pair. -/
def joinUnits : Option Nat → List WrittenUnit → List CodePoint
  | none, [] => []
  | some high, [] => [.ofCode high]
  | none, .plain point :: rest => point :: joinUnits none rest
  | some high, .plain point :: rest => .ofCode high :: point :: joinUnits none rest
  | none, .code value :: rest =>
      if isHighSurrogate value then joinUnits (some value) rest
      else .ofCode value :: joinUnits none rest
  | some high, .code value :: rest =>
      if isLowSurrogate value then .char (joinSurrogates high value) :: joinUnits none rest
      else if isHighSurrogate value then .ofCode high :: joinUnits (some value) rest
      else .ofCode high :: .ofCode value :: joinUnits none rest

def shortEscape? : Char → Option Char
  | '"' => some '"'
  | '\\' => some '\\'
  | '/' => some '/'
  | 'b' => some '\x08'
  | 'f' => some '\x0C'
  | 'n' => some '\n'
  | 'r' => some '\r'
  | 't' => some '\t'
  | _ => none

def consUnit (unit : WrittenUnit) : Except Stop (List WrittenUnit × List CodePoint) →
    Except Stop (List WrittenUnit × List CodePoint)
  | .ok (units, rest) => .ok (unit :: units, rest)
  | .error stop => .error stop

/-- Units up to the closing quote, and what follows it. `opened` is the whole text after the opening
quote. An escape by code has to be followed by something. -/
def takeUnits (opened : List CodePoint) :
    List CodePoint → Except Stop (List WrittenUnit × List CodePoint)
  | [] => .error (.malformed .unterminatedText (opened.length + 1))
  | .char '"' :: rest => .ok ([], rest)
  | [.char '\\'] => .error (.malformed .unterminatedText (opened.length + 1))
  | .char '\\' :: .char 'u' :: a :: b :: c :: d :: rest =>
      match hexCode? a b c d, rest with
      | some code, _ :: _ => consUnit (.code code) (takeUnits opened rest)
      | _, _ => .error (.malformed .malformedCodeEscape (rest.length + 5))
  | .char '\\' :: .char 'u' :: rest => .error (.malformed .malformedCodeEscape (rest.length + 1))
  | .char '\\' :: point :: rest =>
      match point.char?.bind shortEscape? with
      | some escaped => consUnit (.plain (.char escaped)) (takeUnits opened rest)
      | none => .error (.malformed .unknownEscape (rest.length + 2))
  | .char c :: rest =>
      if c.toNat < 0x20 then .error (.malformed .controlCharacter (rest.length + 1))
      else consUnit (.plain (.char c)) (takeUnits opened rest)
  | .half offset :: rest => consUnit (.plain (.half offset)) (takeUnits opened rest)

def takeText (rest : List CodePoint) : Except Stop (CodeText × List CodePoint) :=
  (takeUnits rest rest).map fun (units, after) => (⟨joinUnits none units⟩, after)

/-! ## Numbers -/

def isDigit : CodePoint → Bool
  | .char c => c.isDigit
  | .half _ => false

def digitValue : CodePoint → Nat
  | .char c => c.toNat - '0'.toNat
  | .half _ => 0

def takeDigits (text : List CodePoint) : List Nat × List CodePoint :=
  (text.takeWhile isDigit |>.map digitValue, text.dropWhile isDigit)

def takeFraction : List CodePoint → List Nat × List CodePoint
  | .char '.' :: rest =>
      match takeDigits rest with
      | ([], _) => ([], .char '.' :: rest)
      | (digits, after) => (digits, after)
  | text => ([], text)

def takeExponent? : List CodePoint → Option (Int × List CodePoint)
  | .char c :: rest =>
      if c == 'e' || c == 'E' then
        match rest with
        | .char '-' :: later => signed (-1) later
        | .char '+' :: later => signed 1 later
        | later => signed 1 later
      else none
  | _ => none
where
  signed (sign : Int) (text : List CodePoint) : Option (Int × List CodePoint) :=
    match takeDigits text with
    | ([], _) => none
    | (digits, after) => some (sign * ofDigits digits, after)

/-- Digits before the point: a lone zero, or digits that do not begin with one. -/
def takeWhole? : List CodePoint → Option (List Nat × List CodePoint)
  | .char '0' :: rest => some ([0], rest)
  | text =>
      match takeDigits text with
      | ([], _) => none
      | (digits, after) => some (digits, after)

def takeNumber? (text : List CodePoint) : Option (Except Stop (Json × List CodePoint)) := do
  let (sign, unsigned) : Int × List CodePoint :=
    match text with
    | .char '-' :: rest => (-1, rest)
    | rest => (1, rest)
  let (whole, afterWhole) ← takeWhole? unsigned
  let (fraction, afterFraction) := takeFraction afterWhole
  match fraction, takeExponent? afterFraction with
  | [], none =>
      if digitLimit < whole.length then return .error .integerTooLong
      else return .ok (integer (sign * ofDigits whole), afterFraction)
  | digits, none =>
      return .ok (decimal ⟨sign * ofDigits (whole ++ digits), -digits.length⟩, afterFraction)
  | digits, some (exponent, after) =>
      return .ok (decimal ⟨sign * ofDigits (whole ++ digits), exponent - digits.length⟩, after)

/-! ## Values -/

def afterWord? (word : String) (text : List CodePoint) : Option (List CodePoint) :=
  if (CodeText.ofString word).points.isPrefixOf text then some (text.drop word.length) else none

def takeScalar (text : List CodePoint) : Except Stop (Json × List CodePoint) :=
  let words : List (String × Json) :=
    [("null", null), ("true", bool true), ("false", bool false), ("NaN", notANumber),
      ("Infinity", infinity false), ("-Infinity", infinity true)]
  let read (word : String × Json) := (afterWord? word.1 text).map fun rest => (word.2, rest)
  match words.findSome? read with
  | some found => .ok found
  | none =>
      match takeNumber? text with
      | some found => found
      | none => .error (.malformed .expectedValue text.length)

/-- How many arrays and objects may stand inside each other: what the stack has left for them, which
is at least one. -/
structure Nesting where
  limit : Nat
  pos : 0 < limit

mutual

/-- The value at the front of a text, and what follows it. `room` counts the arrays and objects that
may still be entered. -/
def takeValue : Nat → Nat → List CodePoint → Except Stop (Json × List CodePoint)
  | 0, _, text => .error (.malformed .expectedValue text.length)
  | _ + 1, _, .char '"' :: rest => do
      let (value, after) ← takeText rest
      return (string value, after)
  | _ + 1, 0, .char '[' :: _ => .error .nestedTooDeep
  | fuel + 1, room + 1, .char '[' :: rest => do
      match skipSpace rest with
      | .char ']' :: after => return (array [], after)
      | first =>
          let (items, after) ← takeItems fuel room first
          return (array items, after)
  | _ + 1, 0, .char '\x7b' :: _ => .error .nestedTooDeep
  | fuel + 1, room + 1, .char '\x7b' :: rest => do
      match skipSpace rest with
      | .char '\x7d' :: after => return (object [], after)
      | first => takeMembers fuel room [] first
  | _ + 1, _, text => takeScalar text

def takeItems : Nat → Nat → List CodePoint → Except Stop (List Json × List CodePoint)
  | 0, _, text => .error (.malformed .expectedValue text.length)
  | fuel + 1, room, text => do
      let (item, rest) ← takeValue fuel room text
      match skipSpace rest with
      | .char ']' :: after => return ([item], after)
      | .char ',' :: later =>
          let (items, after) ← takeItems fuel room (skipSpace later)
          return (item :: items, after)
      | other => .error (.malformed .expectedComma other.length)

/-- One or more members up to the closing brace, added to those before them. -/
def takeMembers :
    Nat → Nat → List (CodeText × Json) → List CodePoint → Except Stop (Json × List CodePoint)
  | 0, _, _, text => .error (.malformed .expectedName text.length)
  | fuel + 1, room, members, .char '"' :: text => do
      let (name, rest) ← takeText text
      match skipSpace rest with
      | .char ':' :: later =>
          let (value, after) ← takeValue fuel room (skipSpace later)
          let members := Entries.insert name value members
          match skipSpace after with
          | .char '\x7d' :: after => return (object members, after)
          | .char ',' :: later => takeMembers fuel room members (skipSpace later)
          | other => .error (.malformed .expectedComma other.length)
      | other => .error (.malformed .expectedColon other.length)
  | _ + 1, _, _, text => .error (.malformed .expectedName text.length)

end

def takeDocument (nesting : Nesting) (text : List CodePoint) : Except Stop Json :=
  match text with
  | .char '\ufeff' :: _ => .error (.malformed .byteOrderMark text.length)
  | _ => do
      let (value, rest) ← takeValue (2 * text.length + 2) nesting.limit (skipSpace text)
      match skipSpace rest with
      | [] => return value
      | extra => .error (.malformed .extraData extra.length)

/-- Line and column of a place, both counted from one. -/
def lineAndColumn (before : List CodePoint) : Nat × Nat :=
  (before.count (.char '\n') + 1, (before.reverse.takeWhile (· != .char '\n')).length + 1)

def Stop.locate (text : List CodePoint) : Stop → ReadFault
  | .malformed fault left =>
      let offset := text.length - left
      let (line, column) := lineAndColumn (text.take offset)
      .malformed fault offset line column
  | .integerTooLong => .integerTooLong
  | .nestedTooDeep => .nestedTooDeep

def read (nesting : Nesting) (text : CodeText) : Except ReadFault Json :=
  (takeDocument nesting text.points).mapError (Stop.locate text.points)

def SyntaxFault.message : SyntaxFault → String
  | .expectedValue => "Expecting value"
  | .extraData => "Extra data"
  | .expectedName => "Expecting property name enclosed in double quotes"
  | .expectedColon => "Expecting ':' delimiter"
  | .expectedComma => "Expecting ',' delimiter"
  | .unterminatedText => "Unterminated string starting at"
  | .controlCharacter => "Invalid control character at"
  | .unknownEscape => "Invalid \\escape"
  | .malformedCodeEscape => "Invalid \\uXXXX escape"
  | .byteOrderMark => "Unexpected UTF-8 BOM (decode using utf-8-sig)"

end OrcConversion.Json
