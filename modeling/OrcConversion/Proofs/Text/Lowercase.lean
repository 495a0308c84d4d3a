import OrcConversion.Text.Lowercase

/-! Lower-case forms of joined texts. -/

namespace OrcConversion.Text

theorem startsCased_cons (c : Char) (text : List Char) :
    startsCased (c :: text) =
      if inRanges caseIgnorableRanges c.toNat then startsCased text
      else inRanges casedRanges c.toNat := by
  rw [startsCased, List.dropWhile_cons]
  cases inRanges caseIgnorableRanges c.toNat with
  | true => rfl
  | false => rfl

theorem startsCased_append_underscore (text rest : List Char) :
    startsCased (text ++ '_' :: rest) = startsCased text := by
  induction text with
  | nil =>
      have hseen : inRanges caseIgnorableRanges '_'.toNat = false := by decide +kernel
      have hcaseless : inRanges casedRanges '_'.toNat = false := by decide +kernel
      rw [List.nil_append, startsCased_cons, hseen, hcaseless]
      rfl
  | cons c text ih => rw [List.cons_append, startsCased_cons, startsCased_cons, ih]

theorem lowerAfter_append_underscore (front back rest : List Char) :
    lowerAfter (front ++ '_' :: back) rest = lowerAfter front rest := by
  induction rest generalizing front with
  | nil => rfl
  | cons c rest ih =>
      rw [lowerAfter, lowerAfter, startsCased_append_underscore, ← List.cons_append, ih]

theorem lowerAfter_underscore (before text rest : List Char) :
    lowerAfter before (text ++ '_' :: rest) =
      lowerAfter before text ++ '_' :: lowerAfter [] rest := by
  induction text generalizing before with
  | nil =>
      have hsmall : lowerChar '_' = ['_'] := by decide +kernel
      change lowerChar '_' ++ lowerAfter ('_' :: before) rest = _
      rw [hsmall, ← lowerAfter_append_underscore [] before]
      rfl
  | cons c text ih =>
      rw [List.cons_append, lowerAfter, lowerAfter, startsCased_append_underscore, ih,
        List.append_assoc]

theorem lowercase_underscore (left right : String) :
    lowercase (left ++ "_" ++ right) = lowercase left ++ "_" ++ lowercase right := by
  have hchars : (left ++ "_" ++ right).toList = left.toList ++ '_' :: right.toList := by
    simp
  apply String.toList_injective
  simp only [lowercase, hchars, lowerAfter_underscore, String.toList_append, String.toList_ofList]
  simp

theorem lowercase_underscores (left right : String) :
    lowercase (left ++ "__" ++ right) = lowercase left ++ "__" ++ lowercase right := by
  have hsplit : ∀ left right : String,
      left ++ "__" ++ right = left ++ "_" ++ ("" ++ "_" ++ right) := by
    intro left right
    apply String.toList_injective
    simp
  have hempty : lowercase "" = "" := rfl
  rw [hsplit, lowercase_underscore, lowercase_underscore, hempty, hsplit]

end OrcConversion.Text
