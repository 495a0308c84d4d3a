import OrcConversion.Text.CaseTable

/-! Lower-case form of a text, by the full mapping of the Unicode standard. -/

namespace OrcConversion.Text

/-- Offset from a capital to its small form; none if the character is its own small form. -/
def lowercaseShift? (code : Nat) : Option Int :=
  (lowercaseRuns.find? fun run =>
    run.first ≤ code && code ≤ run.last && (code - run.first) % run.step == 0).map (·.shift)

def lowerChar (c : Char) : List Char :=
  if c.toNat == 0x130 then ['i', Char.ofNat 0x307]
  else
    match lowercaseShift? c.toNat with
    | some shift => [Char.ofNat (c.toNat + shift).toNat]
    | none => [c]

def startsCased (text : List Char) : Bool :=
  match text.dropWhile fun c => inRanges caseIgnorableRanges c.toNat with
  | [] => false
  | c :: _ => inRanges casedRanges c.toNat

/-- Small forms of a text, given the characters before it, nearest first. -/
def lowerAfter (before : List Char) : List Char → List Char
  | [] => []
  | c :: rest =>
      let small :=
        if c.toNat == 0x3A3 then
          if startsCased before && !startsCased rest then
            [Char.ofNat 0x3C2]
          else
            [Char.ofNat 0x3C3]
        else
          lowerChar c
      small ++ lowerAfter (c :: before) rest

def lowercase (text : String) : String :=
  String.ofList (lowerAfter [] text.toList)

end OrcConversion.Text
