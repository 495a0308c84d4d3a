import OrcConversion.Json.Reader
import OrcConversion.Json.Writer

/-! Texts in JSON are read back as they were written, whatever characters they hold. -/

namespace OrcConversion.Json

open Text

/-! ## Hexadecimal codes -/

theorem hexDigit?_digitChar :
    ∀ digit < 16, hexDigit? (.char (Nat.digitChar digit)) = some digit := by
  decide

theorem hexDigits_one {code : Nat} (h : code < 16) : hexDigits 1 code = [Nat.digitChar code] := by
  simp [hexDigits, Nat.toDigits_of_lt_base h]

theorem hexDigits_succ {width : Nat} (hwidth : 0 < width) (code : Nat) :
    hexDigits (width + 1) code = hexDigits width (code / 16) ++ [Nat.digitChar (code % 16)] := by
  rcases Nat.lt_or_ge code 16 with hcode | hcode
  · obtain ⟨rest, rfl⟩ : ∃ rest, width = rest + 1 := ⟨width - 1, by omega⟩
    rw [Nat.div_eq_of_lt hcode, Nat.mod_eq_of_lt hcode]
    simp [hexDigits, Nat.toDigits_of_lt_base hcode, List.replicate_succ']
  · simp [hexDigits, Nat.toDigits_of_base_le (by decide) hcode]

/-- A code of sixteen bits is written with four digits. -/
theorem hexDigits_four {code : Nat} (h : code < 0x10000) :
    hexDigits 4 code =
      [Nat.digitChar (code / 0x1000), Nat.digitChar (code / 0x100 % 16),
        Nat.digitChar (code / 16 % 16), Nat.digitChar (code % 16)] := by
  rw [hexDigits_succ (by decide), hexDigits_succ (by decide), hexDigits_succ (by decide),
    hexDigits_one (by omega)]
  simp [Nat.div_div_eq_div_mul]

theorem hexCode?_digitChars {code : Nat} (h : code < 0x10000) :
    hexCode? (.char (Nat.digitChar (code / 0x1000))) (.char (Nat.digitChar (code / 0x100 % 16)))
      (.char (Nat.digitChar (code / 16 % 16))) (.char (Nat.digitChar (code % 16))) =
        some code := by
  rw [hexCode?, hexDigit?_digitChar _ (by omega), hexDigit?_digitChar _ (by omega),
    hexDigit?_digitChar _ (by omega), hexDigit?_digitChar _ (by omega)]
  simp only [Option.bind_eq_bind, Option.bind_some, Option.pure_def, Option.some.injEq]
  omega

/-! ## Characters -/

variable {opened rest after : List CodePoint} {units : List WrittenUnit}

theorem takeUnits_codeEscape {code : Nat} (hcode : code < 0x10000)
    (h : takeUnits opened rest = .ok (units, after)) :
    takeUnits opened (points (codeEscape code) ++ rest) = .ok (.code code :: units, after) := by
  rw [codeEscape, hexDigits_four hcode]
  cases rest with
  | nil => cases h
  | cons c rest =>
      simp only [points_cons, points_nil, List.cons_append, List.nil_append]
      rw [takeUnits, h]
      · rfl
      · exact hexCode?_digitChars hcode

theorem takeUnits_shortEscape {c escaped : Char} (hc : shortEscape? c = some escaped)
    (h : takeUnits opened rest = .ok (units, after)) :
    takeUnits opened (.char '\\' :: .char c :: rest) =
      .ok (.plain (.char escaped) :: units, after) := by
  have hcode : CodePoint.char c ≠ .char 'u' := by
    rintro ⟨⟩
    cases hc
  have hpoint : (CodePoint.char c).char?.bind shortEscape? = some escaped := hc
  rw [takeUnits, hpoint, h]
  · rfl
  · intro _ _ _ _ _ heq
    exact absurd heq hcode
  · exact hcode

theorem takeUnits_plain {c : Char} (hquote : c ≠ '"') (hmark : c ≠ '\\') (hcode : 0x20 ≤ c.toNat)
    (h : takeUnits opened rest = .ok (units, after)) :
    takeUnits opened (.char c :: rest) = .ok (.plain (.char c) :: units, after) := by
  rw [takeUnits, if_neg (by omega), h]
  · rfl
  · exact hquote
  all_goals simp [hmark]

/-- Units that stand for a character, whatever comes after them. -/
def StandFor (units : List WrittenUnit) (c : Char) : Prop :=
  ∀ more, joinUnits none (units ++ more) = .char c :: joinUnits none more

theorem standFor_plain (c : Char) : StandFor [.plain (.char c)] c :=
  fun _ => rfl

/-- A character is no half of a surrogate pair. -/
theorem not_surrogate (c : Char) :
    isHighSurrogate c.toNat = false ∧ isLowSurrogate c.toNat = false := by
  have hvalid : c.toNat < 0xD800 ∨ 0xDFFF < c.toNat ∧ c.toNat < 0x110000 := c.valid
  simp only [isHighSurrogate, isLowSurrogate, Bool.and_eq_false_iff, decide_eq_false_iff_not]
  omega

theorem standFor_code (c : Char) : StandFor [.code c.toNat] c := by
  intro more
  simp [joinUnits, not_surrogate c, CodePoint.ofCode_toNat]

theorem standFor_surrogates {c : Char} (h : 0x10000 ≤ c.toNat) :
    StandFor [.code (0xD800 + (c.toNat - 0x10000) / 0x400),
      .code (0xDC00 + (c.toNat - 0x10000) % 0x400)] c := by
  intro more
  have hvalid : c.toNat < 0xD800 ∨ 0xDFFF < c.toNat ∧ c.toNat < 0x110000 := c.valid
  have hhigh : isHighSurrogate (0xD800 + (c.toNat - 0x10000) / 0x400) = true := by
    simp only [isHighSurrogate, Bool.and_eq_true, decide_eq_true_eq]
    omega
  have hlow : isLowSurrogate (0xDC00 + (c.toNat - 0x10000) % 0x400) = true := by
    simp only [isLowSurrogate, Bool.and_eq_true, decide_eq_true_eq]
    omega
  have hjoin : joinSurrogates (0xD800 + (c.toNat - 0x10000) / 0x400)
      (0xDC00 + (c.toNat - 0x10000) % 0x400) = c := by
    have hcode : 0x10000 + (0xD800 + (c.toNat - 0x10000) / 0x400 - 0xD800) * 0x400 +
        (0xDC00 + (c.toNat - 0x10000) % 0x400 - 0xDC00) = c.toNat := by omega
    rw [joinSurrogates, hcode, Char.ofNat_toNat]
  simp [joinUnits, hhigh, hlow, hjoin]

/-- What is written is read as units that stand for a character. -/
def ReadAs (written : List Char) (c : Char) : Prop :=
  ∃ front, StandFor front c ∧
    ∀ {opened rest after : List CodePoint} {units : List WrittenUnit},
      takeUnits opened rest = .ok (units, after) →
      takeUnits opened (points written ++ rest) = .ok (front ++ units, after)

theorem readAs_shortEscape {c escaped : Char} (h : shortEscape? c = some escaped) :
    ReadAs ['\\', c] escaped :=
  ⟨_, standFor_plain escaped, takeUnits_shortEscape h⟩

theorem readAs_plain {c : Char} (hquote : c ≠ '"') (hmark : c ≠ '\\') (hcode : 0x20 ≤ c.toNat) :
    ReadAs [c] c :=
  ⟨_, standFor_plain c, takeUnits_plain hquote hmark hcode⟩

theorem readAs_code {c : Char} (h : c.toNat < 0x10000) : ReadAs (codeEscape c.toNat) c :=
  ⟨_, standFor_code c, takeUnits_codeEscape h⟩

theorem readAs_surrogates {c : Char} (h : 0x10000 ≤ c.toNat) :
    ReadAs (codeEscape (0xD800 + (c.toNat - 0x10000) / 0x400) ++
      codeEscape (0xDC00 + (c.toNat - 0x10000) % 0x400)) c := by
  have hvalid : c.toNat < 0xD800 ∨ 0xDFFF < c.toNat ∧ c.toNat < 0x110000 := c.valid
  refine ⟨_, standFor_surrogates h, fun hrest => ?_⟩
  rw [points_append, List.append_assoc]
  exact takeUnits_codeEscape (by omega) (takeUnits_codeEscape (by omega) hrest)

theorem readAs_special {c special escape : Char} {written : List Char}
    (hspecial : shortEscape? escape = some special) (h : c ≠ special → ReadAs written c) :
    ReadAs (if c == special then ['\\', escape] else written) c := by
  split
  · rename_i hc
    rw [eq_of_beq hc]
    exact readAs_shortEscape hspecial
  · rename_i hc
    exact h fun heq => hc (beq_iff_eq.mpr heq)

theorem readAs_writeChar (c : Char) : ReadAs (writeChar c) c := by
  apply readAs_special rfl
  intro hquote
  apply readAs_special rfl
  intro hmark
  apply readAs_special rfl
  intro _
  apply readAs_special rfl
  intro _
  apply readAs_special rfl
  intro _
  apply readAs_special rfl
  intro _
  apply readAs_special rfl
  intro _
  split
  · rename_i hplain
    rw [Bool.and_eq_true, decide_eq_true_eq] at hplain
    exact readAs_plain hquote hmark (Char.le_def.mp hplain.1)
  · split
    · rename_i hcode
      exact readAs_code hcode
    · rename_i hcode
      exact readAs_surrogates (by omega)

/-! ## Texts -/

theorem takeUnits_flatMap_writeChar (opened : List CodePoint) (text : List Char)
    (rest : List CodePoint) :
    ∃ units, joinUnits none units = points text ∧
      takeUnits opened (points (text.flatMap writeChar) ++ .char '"' :: rest) =
        .ok (units, rest) := by
  induction text with
  | nil => exact ⟨[], rfl, rfl⟩
  | cons c text ih =>
      obtain ⟨units, hunits, hrest⟩ := ih
      obtain ⟨front, hfront, hc⟩ := readAs_writeChar c
      refine ⟨front ++ units, ?_, ?_⟩
      · rw [hfront, hunits, points_cons]
      · rw [List.flatMap_cons, points_append, List.append_assoc]
        exact hc hrest

/-- A text that holds nothing but characters. -/
def HasChars (text : CodeText) : Prop := ∃ chars : String, text = .ofString chars

theorem takeText_writePoint {text : CodeText} (h : HasChars text) (rest : List CodePoint) :
    takeText (points (text.points.flatMap writePoint) ++ .char '"' :: rest) =
      .ok (text, rest) := by
  obtain ⟨chars, rfl⟩ := h
  have hwrite : (points chars.toList).flatMap writePoint = chars.toList.flatMap writeChar :=
    List.flatMap_map _ _ _
  obtain ⟨units, hunits, htake⟩ := takeUnits_flatMap_writeChar
    (points (chars.toList.flatMap writeChar) ++ .char '"' :: rest) chars.toList rest
  rw [CodeText.ofString, hwrite, takeText, htake]
  simp [Except.map, hunits]

end OrcConversion.Json
