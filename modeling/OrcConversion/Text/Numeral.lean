import OrcConversion.Text.Blank
import OrcConversion.Text.DigitTable

/-! Integers read from text, and written. -/

namespace OrcConversion.Text

def digitLimit : Nat := 4300

/-- An integer with no more digits than are written. -/
structure Numeral where
  value : Int
  short : (Nat.toDigits 10 value.natAbs).length ≤ digitLimit
deriving DecidableEq

namespace Numeral

def ofInt? (value : Int) : Option Numeral :=
  if short : (Nat.toDigits 10 value.natAbs).length ≤ digitLimit then some ⟨value, short⟩ else none

def text (numeral : Numeral) : String := toString numeral.value

end Numeral

def ofDigits (digits : List Nat) : Nat :=
  digits.foldl (fun value digit => 10 * value + digit) 0

def latinDigit? (c : Char) : Option Nat :=
  if '0' ≤ c && c ≤ '9' then some (c.toNat - '0'.toNat) else none

/-- Digits with single underscores between them. -/
def groupedDigits? (digit? : Char → Option Nat) : List Char → Option (List Nat)
  | [] => none
  | [c] => (digit? c).map fun digit => [digit]
  | c :: '_' :: rest => do return (← digit? c) :: (← groupedDigits? digit? rest)
  | c :: rest => do return (← digit? c) :: (← groupedDigits? digit? rest)

def grouped? (text : List Char) : Option Nat := do
  let digits ← groupedDigits? digitValue? text
  if digits.length ≤ digitLimit then some (ofDigits digits) else none

def integer? (text : String) : Option Int :=
  match stripBy isSpace text.toList with
  | '-' :: digits => (grouped? digits).map fun value => -(value : Int)
  | '+' :: digits => (grouped? digits).map Int.ofNat
  | digits => (grouped? digits).map Int.ofNat

/-! ## Integers in raw records -/

inductive NumeralFault where
  | malformed
  | tooLong
deriving DecidableEq, Repr

def leadingDigits : List Char → List Nat
  | [] => []
  | c :: rest =>
      match latinDigit? c with
      | some digit => digit :: leadingDigits rest
      | none => []

/-- A numeral in its strict form: a minus sign at most, no leading zero, nothing else. Digits are
counted before anything is said about what follows them. -/
def strictInteger (text : List Char) : Except NumeralFault Int :=
  let (negative, numeral) :=
    match text with
    | '-' :: numeral => (true, numeral)
    | numeral => (false, numeral)
  match leadingDigits numeral with
  | [] => .error .malformed
  | 0 :: _ :: _ => .error .malformed
  | digits =>
      if digitLimit < digits.length then .error .tooLong
      else if digits.length < numeral.length then .error .malformed
      else
        let value : Int := ofDigits digits
        .ok (if negative then -value else value)

/-- Leading zeros dropped, with the underscores among them; the last zero stays where a point or
nothing follows, and a minus sign may stand after them. None where no numeral can begin like this.
-/
def dropLeadingZeros? : List Char → Option (List Char)
  | '0' :: rest => afterZero '0' rest
  | c :: rest => if '1' ≤ c && c ≤ '9' then some (c :: rest) else none
  | [] => none
where
  afterZero (last : Char) : List Char → Option (List Char)
    | [] => some [last]
    | c :: rest =>
        if c == '0' || c == '_' then afterZero c rest
        else if ('1' ≤ c && c ≤ '9') || c == '-' then some (c :: rest)
        else if c == '.' then some (last :: c :: rest)
        else none

def dropZeroFraction (text : List Char) : List Char :=
  match text.dropWhile (· != '.') with
  | _ :: '0' :: zeros =>
      if zeros.all (· == '0') then text.takeWhile (· != '.') else text
  | _ => text

def hasDoubleUnderscore : List Char → Bool
  | '_' :: '_' :: _ => true
  | _ :: rest => hasDoubleUnderscore rest
  | [] => false

def dropUnderscores (text : List Char) : List Char :=
  if text.head? == some '_' || text.getLast? == some '_' || hasDoubleUnderscore text then text
  else text.filter (· != '_')

def tidyDigits? (text : List Char) : Option (List Char) :=
  (dropLeadingZeros? text).map fun digits => dropUnderscores (dropZeroFraction digits)

def tidyNumeral? (text : List Char) : Option (List Char) :=
  match stripBy isSpace text with
  | '-' :: digits => (tidyDigits? digits).map ('-' :: ·)
  | '+' :: digits => tidyDigits? digits
  | digits => tidyDigits? digits

/-- Integer written as a text in a raw record. Only of a text that needs no tidying it is said that
it is too long. -/
def looseInteger (text : String) : Except NumeralFault Int :=
  match strictInteger text.toList with
  | .ok value => .ok value
  | .error .tooLong => .error .tooLong
  | .error .malformed =>
      match (tidyNumeral? text.toList).map strictInteger with
      | some (.ok value) => .ok value
      | _ => .error .malformed

end OrcConversion.Text
