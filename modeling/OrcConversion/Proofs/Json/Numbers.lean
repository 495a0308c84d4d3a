import OrcConversion.Json.Reader
import OrcConversion.Json.Writer
import Mathlib.Data.List.TakeWhile

/-! Natural numbers in JSON: they are read back unless they have more digits than are read. -/

namespace OrcConversion.Json

open Text

theorem ofDigits_toDigits (number : Nat) :
    ofDigits ((Nat.toDigits 10 number).map fun c => c.toNat - '0'.toNat) = number := by
  rw [ofDigits, List.foldl_map]
  exact Nat.ofDigitChars_ten_toDigits

theorem isDigit_of_mem_toDigits {number : Nat} {c : Char} (h : c ∈ Nat.toDigits 10 number) :
    c.isDigit = true :=
  Nat.isDigit_of_mem_toDigits (by decide) (by decide) h

theorem ne_of_isDigit {c other : Char} (hc : c.isDigit = true) (hother : other.isDigit = false) :
    CodePoint.char c ≠ .char other := by
  rintro ⟨⟩
  rw [hc] at hother
  cases hother

theorem takeDigits_points {text : List Char} (h : ∀ c ∈ text, c.isDigit = true) :
    takeDigits (points text) = (text.map fun c => c.toNat - '0'.toNat, []) := by
  have hdigits : ∀ point ∈ points text, isDigit point = true := List.forall_mem_map.mpr h
  rw [takeDigits, List.takeWhile_eq_self_iff.mpr hdigits, List.dropWhile_eq_nil_iff.mpr hdigits,
    points, List.map_map]
  rfl

theorem digitChar_ne_zero : ∀ digit < 10, 0 < digit → Nat.digitChar digit ≠ '0' := by
  decide

/-- Only the number zero begins with a zero. -/
theorem toDigits_ne_zero_cons {number : Nat} (h : 0 < number) (rest : List Char) :
    Nat.toDigits 10 number ≠ '0' :: rest := by
  induction number using Nat.strongRecOn generalizing rest with
  | ind number ih =>
      rcases Nat.lt_or_ge number 10 with hsmall | hlarge
      · rw [Nat.toDigits_of_lt_base hsmall]
        intro heq
        exact digitChar_ne_zero number hsmall h (List.cons.inj heq).1
      · rw [Nat.toDigits_of_base_le (by decide) hlarge]
        intro heq
        obtain ⟨c, more, hfront⟩ :=
          List.exists_cons_of_ne_nil (@Nat.toDigits_ne_nil (number / 10) 10)
        rw [hfront, List.cons_append] at heq
        rw [(List.cons.inj heq).1] at hfront
        exact ih (number / 10) (by omega) (by omega) more hfront

theorem takeWhole?_toDigits (number : Nat) :
    takeWhole? (points (Nat.toDigits 10 number)) =
      some ((Nat.toDigits 10 number).map fun c => c.toNat - '0'.toNat, []) := by
  rcases Nat.eq_zero_or_pos number with rfl | hpos
  · rfl
  · unfold takeWhole?
    split
    · rename_i rest heq
      obtain ⟨c, digits, hdigits, hc, -⟩ := List.map_eq_cons_iff.mp heq
      cases hc
      exact absurd hdigits (toDigits_ne_zero_cons hpos digits)
    · rw [takeDigits_points fun c => isDigit_of_mem_toDigits]
      split
      · rename_i heq
        have hnil := List.map_eq_nil_iff.mp (Prod.mk.inj heq).1
        exact absurd hnil Nat.toDigits_ne_nil
      · rename_i heq
        cases heq
        rfl

/-- The sign and the words of JSON do not begin like a natural number. -/
theorem exists_toDigits (number : Nat) :
    ∃ c rest, Nat.toDigits 10 number = c :: rest ∧ c.isDigit = true := by
  obtain ⟨c, rest, heq⟩ := List.exists_cons_of_ne_nil (@Nat.toDigits_ne_nil number 10)
  have hmem : c ∈ Nat.toDigits 10 number := by
    rw [heq]
    exact List.mem_cons_self
  exact ⟨c, rest, heq, isDigit_of_mem_toDigits hmem⟩

theorem takeNumber?_toDigits (number : Nat) :
    takeNumber? (points (Nat.toDigits 10 number)) =
      some (if digitLimit < (Nat.toDigits 10 number).length then .error .integerTooLong
        else .ok (integer number, [])) := by
  obtain ⟨c, rest, heq, hc⟩ := exists_toDigits number
  have hwhole := takeWhole?_toDigits number
  have hdigits := ofDigits_toDigits number
  rw [heq] at hwhole hdigits ⊢
  rw [points_cons] at hwhole ⊢
  unfold takeNumber?
  split
  rename_i sign unsigned hunsigned
  split at hunsigned
  · rename_i heq
    exact absurd (List.cons.inj heq).1 (ne_of_isDigit hc rfl)
  · cases hunsigned
    rw [hwhole]
    change (if digitLimit < ((c :: rest).map _).length then some (Except.error _)
      else some (Except.ok (integer (1 * (ofDigits _ : Nat)), []))) = _
    rw [List.length_map, hdigits, Int.one_mul]
    split
    · rfl
    · rfl

theorem afterWord?_of_digit {c : Char} (hc : c.isDigit = true) {word : String}
    (hword : word.toList.head?.map Char.isDigit = some false) (rest : List CodePoint) :
    afterWord? word (.char c :: rest) = none := by
  obtain ⟨first, hfirst, hdigit⟩ := Option.map_eq_some_iff.mp hword
  obtain ⟨more, hmore⟩ := List.head?_eq_some_iff.mp hfirst
  have hne : (CodePoint.char first == .char c) = false :=
    beq_eq_false_iff_ne.mpr (ne_of_isDigit hc hdigit).symm
  simp [afterWord?, CodeText.ofString, hmore, List.isPrefixOf, hne]

theorem takeScalar_toDigits (number : Nat) :
    takeScalar (points (Nat.toDigits 10 number)) =
      if digitLimit < (Nat.toDigits 10 number).length then .error .integerTooLong
      else .ok (integer number, []) := by
  have hnumber := takeNumber?_toDigits number
  obtain ⟨c, rest, heq, hc⟩ := exists_toDigits number
  rw [heq] at hnumber ⊢
  rw [points_cons] at hnumber ⊢
  have hword : ∀ word : String, word.toList.head?.map Char.isDigit = some false →
      afterWord? word (.char c :: points rest) = none :=
    fun _ h => afterWord?_of_digit hc h (points rest)
  unfold takeScalar
  simp only [List.findSome?_cons, List.findSome?_nil, hword "null" rfl, hword "true" rfl,
    hword "false" rfl, hword "NaN" rfl, hword "Infinity" rfl, hword "-Infinity" rfl,
    Option.map_none]
  rw [hnumber]

end OrcConversion.Json
