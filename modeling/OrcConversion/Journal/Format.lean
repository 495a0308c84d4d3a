import OrcConversion.Text.DigitTable
import OrcConversion.Text.Quoted
import OrcConversion.Text.WordTable

/-! Formats of log lines. -/

namespace OrcConversion.Journal

open Text

abbrev Level := Int

def levelNames : List (Level × String) :=
  [(0, "NOTSET"), (10, "DEBUG"), (20, "INFO"), (30, "WARNING"), (40, "ERROR"), (50, "CRITICAL")]

def levelName (level : Level) : String :=
  match levelNames.find? (·.1 == level) with
  | some (_, name) => name
  | none => "Level " ++ toString level

/-! ## Accepted formats -/

/-- Characters that ask for signs, blanks and zeros; only the one that aligns to the left matters
for texts. -/
def isFlag (c : Char) : Bool := "#0+ -".toList.contains c

def conversions : List Char := "diouxefgcrsa%".toList

def isConversion (c : Char) : Bool :=
  conversions.contains c.toLower || "İıſ".toList.contains c

/-- What follows a count: a star, or decimal digits of any script. -/
def afterCount? : List Char → Option (List Char)
  | '*' :: rest => some rest
  | c :: rest =>
      if (digitValue? c).isSome then some (rest.dropWhile fun c => (digitValue? c).isSome) else none
  | [] => none

/-- Whether the rest of a directive follows its name: flags, a width, a point with a precision, and
a conversion. -/
def endsDirective (text : List Char) : Bool :=
  let counted := text.dropWhile isFlag
  match (afterCount? counted).getD counted with
  | '.' :: rest => ((afterCount? rest).bind List.head?).any isConversion
  | rest => rest.head?.any isConversion

def startsField : List Char → Bool
  | '%' :: '(' :: rest =>
      match rest.takeWhile isWordChar, rest.dropWhile isWordChar with
      | _ :: _, ')' :: rest => endsDirective rest
      | _, _ => false
  | _ => false

def hasField : List Char → Bool
  | [] => false
  | c :: rest => startsField (c :: rest) || hasField rest

/-- Whether a format has a field; others are refused. An empty format is that of the bare message.
-/
def isValidFormat (format : String) : Bool :=
  format.isEmpty || hasField format.toList

/-! ## Directives -/

/-- A field of a format: which one, and how its text is shown, cut, and filled up to a width. -/
structure Directive where
  name : String
  alignsLeft : Bool := false
  width : Nat := 0
  precision : Option Nat := none
  conversion : Char
deriving DecidableEq, Repr

def takeNumber (text : List Char) : Option Nat × List Char :=
  match text.takeWhile Char.isDigit with
  | [] => (none, text)
  | digits =>
      let number := digits.foldl (fun number c => 10 * number + (c.toNat - '0'.toNat)) 0
      (some number, text.dropWhile Char.isDigit)

def dropLength : List Char → List Char
  | 'h' :: rest => rest
  | 'l' :: rest => rest
  | 'L' :: rest => rest
  | text => text

/-- What follows the percent sign and the name of a field: flags, a width, a precision after a
point, a length, and the letter of a conversion. -/
def directiveTail? (name : String) (text : List Char) : Option (Directive × List Char) :=
  let flags := text.takeWhile isFlag
  let (width, rest) := takeNumber (text.dropWhile isFlag)
  let (precision, rest) := match rest with
    | '.' :: digits => (takeNumber digits).map (fun n => some (n.getD 0)) id
    | _ => (none, rest)
  match dropLength rest with
  | conversion :: rest =>
      some (⟨name, flags.contains '-', width.getD 0, precision, conversion⟩, rest)
  | [] => none

/-- The directive that follows a percent sign, and what follows it. A directive without a name has
the empty one. -/
def directive? (text : List Char) : Option (Directive × List Char) :=
  match text with
  | '(' :: rest =>
      match rest.dropWhile (· != ')') with
      | _ :: after => directiveTail? (String.ofList (rest.takeWhile (· != ')'))) after
      | [] => none
  | _ => directiveTail? "" text

/-- A text as a conversion shows it; none if the conversion takes no texts, or not this one. -/
def shown? (conversion : Char) (text : String) : Option String :=
  match conversion with
  | 's' => some text
  | 'r' => some (quoted text)
  | 'a' => some (quotedNarrowly text)
  | 'c' => if text.length = 1 then some text else none
  | _ => none

/-- Text of a field as its directive asks for it. A text that is a single character is never cut. -/
def Directive.fit (directive : Directive) (text : String) : String :=
  let kept := match directive.precision with
    | some most => if directive.conversion = 'c' then text.toList else text.toList.take most
    | none => text.toList
  let blanks := List.replicate (directive.width - kept.length) ' '
  String.ofList (if directive.alignsLeft then kept ++ blanks else blanks ++ kept)

/-! ## Lines -/

abbrev Fields := List (String × String)

def Directive.text? (fields : Fields) (directive : Directive) : Option String :=
  if directive.conversion = '%' then some "%"
  else do
    let text ← fields.lookup directive.name
    return directive.fit (← shown? directive.conversion text)

/-- A text with its directives replaced. `skip` counts the characters that belong to the directive
before. -/
def expand (fields : Fields) (skip : Nat) : List Char → String
  | [] => ""
  | c :: rest =>
      match skip with
      | skip + 1 => expand fields skip rest
      | 0 =>
          let found := do
            let (directive, after) ← if c = '%' then directive? rest else none
            return (← directive.text? fields, rest.length - after.length)
          match found with
          | some (text, length) => text ++ expand fields length rest
          | none => String.singleton c ++ expand fields 0 rest

def defaultFormat : String := "%(levelname)s [%(name)s] %(message)s"

def formatLine (format : String) (level : Level) (logger message : String) : String :=
  let format := if format.isEmpty then "%(message)s" else format
  expand [("levelname", levelName level), ("name", logger), ("message", message)] 0 format.toList ++
    "\n"

end OrcConversion.Journal
