import OrcConversion.Proofs.Text.Words

/-! Texts that are joined at a separator and split there again. -/

namespace OrcConversion.Text

/-! ## Joining -/

section

variable {separator : String} {parts : List String}

theorem toList_intercalate_cons (separator part : String) (h : parts ≠ []) :
    (separator.intercalate (part :: parts)).toList =
      part.toList ++ separator.toList ++ (separator.intercalate parts).toList := by
  rw [String.intercalate_cons_of_ne_nil h, String.toList_append, String.toList_append]

theorem not_mem_intercalate {c : Char} (hseparator : c ∉ separator.toList)
    (hfree : ∀ part ∈ parts, c ∉ part.toList) : c ∉ (separator.intercalate parts).toList := by
  induction parts with
  | nil => simp
  | cons part parts ih =>
      have hfirst := hfree part List.mem_cons_self
      have hrest := ih fun other hother => hfree other (List.mem_cons_of_mem part hother)
      cases parts with
      | nil => simpa using hfirst
      | cons next parts =>
          rw [toList_intercalate_cons separator part (List.cons_ne_nil _ _), List.mem_append,
            List.mem_append]
          rintro ((hmem | hmem) | hmem)
          · exact hfirst hmem
          · exact hseparator hmem
          · exact hrest hmem

end

/-! ## Numbers -/

/-- The text of a number holds nothing but digits and a sign. -/
theorem not_mem_toString_nat {c : Char} (hdigit : c.isDigit = false) (number : Nat) :
    c ∉ (toString number).toList := by
  intro hmem
  rw [Nat.toString_eq_repr, Nat.toList_repr] at hmem
  rw [Nat.isDigit_of_mem_toDigits (by decide) (by decide) hmem] at hdigit
  cases hdigit

theorem toList_toString_negSucc (number : Nat) :
    (toString (Int.negSucc number)).toList = '-' :: (toString (number + 1)).toList := by
  change ("-" ++ toString (number + 1)).toList = _
  rw [String.toList_append]
  rfl

theorem not_mem_toString_int {c : Char} (hdigit : c.isDigit = false) (hsign : c ≠ '-')
    (number : Int) : c ∉ (toString number).toList := by
  cases number with
  | ofNat number => exact not_mem_toString_nat hdigit number
  | negSucc number =>
      rw [toList_toString_negSucc]
      exact List.not_mem_cons_of_ne_of_not_mem hsign (not_mem_toString_nat hdigit _)

theorem toString_nat_inj {left right : Nat}
    (h : (toString left).toList = (toString right).toList) : left = right := by
  rw [Nat.toString_eq_repr, Nat.toString_eq_repr, Nat.toList_repr, Nat.toList_repr] at h
  have hread : Nat.ofDigitChars 10 (Nat.toDigits 10 left) 0 = left :=
    Nat.ofDigitChars_ten_toDigits
  rw [← hread, h, Nat.ofDigitChars_ten_toDigits]

theorem length_toString_digit {digit : Nat} (h : digit < 10) :
    (toString digit).toList.length = 1 := by
  rw [Nat.toString_eq_repr, Nat.toList_repr, Nat.toDigits_of_lt_base h]
  rfl

theorem toString_int_inj {left right : Int}
    (h : (toString left).toList = (toString right).toList) : left = right := by
  have hsign : ∀ number rest, (toString (Int.ofNat number)).toList ≠ '-' :: rest := by
    intro number rest hchars
    apply not_mem_toString_nat (c := '-') rfl number
    exact hchars ▸ List.mem_cons_self
  cases left with
  | ofNat left =>
      cases right with
      | ofNat right => exact congrArg Int.ofNat (toString_nat_inj h)
      | negSucc right => exact absurd (h.trans (toList_toString_negSucc right)) (hsign _ _)
  | negSucc left =>
      rw [toList_toString_negSucc] at h
      cases right with
      | ofNat right => exact absurd h.symm (hsign _ _)
      | negSucc right =>
          rw [toList_toString_negSucc] at h
          have hnext := toString_nat_inj (List.cons.inj h).2
          rw [Nat.succ.inj hnext]

/-! ## Splitting -/

/-- Two texts that go on behind a separator with a text of their own are equal only if they are
equal on both sides of it. -/
theorem append_separator_inj {c : Char} {front other back rest : List Char} (hfront : c ∉ front)
    (hother : c ∉ other) (h : front ++ c :: back = other ++ c :: rest) :
    front = other ∧ back = rest := by
  have hcut : cutAt? c (front ++ c :: back) = some (front, back) := cutAt?_append hfront
  rw [h, cutAt?_append hother] at hcut
  cases hcut
  exact ⟨rfl, rfl⟩

/-- The same of texts that go on without the separator, and may have it anywhere before. -/
theorem append_last_separator_inj {c : Char} {front other back rest : List Char} (hback : c ∉ back)
    (hrest : c ∉ rest) (h : front ++ c :: back = other ++ c :: rest) :
    front = other ∧ back = rest := by
  have hreverse : back.reverse ++ c :: front.reverse = rest.reverse ++ c :: other.reverse := by
    simpa using congrArg List.reverse h
  obtain ⟨hbacks, hfronts⟩ := append_separator_inj (mt List.mem_reverse.mp hback)
    (mt List.mem_reverse.mp hrest) hreverse
  exact ⟨List.reverse_inj.mp hfronts, List.reverse_inj.mp hbacks⟩

section

variable {separator : String} {c : Char} {parts : List String}

theorem splitOn_intercalate (hseparator : separator.toList = [c]) (hparts : parts ≠ [])
    (hfree : ∀ part ∈ parts, c ∉ part.toList) :
    (separator.intercalate parts).toList.splitOn c = parts.map String.toList := by
  rw [String.toList_intercalate, hseparator]
  apply List.splitOn_intercalate
  · intro chars hchars
    obtain ⟨part, hpart, rfl⟩ := List.mem_map.mp hchars
    exact hfree part hpart
  · exact fun hnil => hparts (List.map_eq_nil_iff.mp hnil)

theorem splitAt_intercalate (hseparator : separator.toList = [c]) (hparts : parts ≠ [])
    (hfree : ∀ part ∈ parts, c ∉ part.toList) :
    splitAt c (separator.intercalate parts) = parts := by
  rw [splitAt, splitOn_intercalate hseparator hparts hfree, List.map_map]
  simp

end

/-! ## Words -/

/-- A text that is not empty and has no blanks around it. -/
structure Solid (text : String) : Prop where
  filled : text ≠ ""
  trimmed : trim text = text

instance (text : String) : Decidable (Solid text) :=
  decidable_of_iff (text ≠ "" ∧ trim text = text)
    ⟨fun h => ⟨h.1, h.2⟩, fun h => ⟨h.filled, h.trimmed⟩⟩

section

variable {text left right : String}

theorem trim_eq_self_iff : trim text = text ↔
    (∀ c, text.toList.head? = some c → isBlank c = false) ∧
      ∀ c, text.toList.getLast? = some c → isBlank c = false := by
  constructor
  · intro h
    have hchars := toList_trim text
    rw [h] at hchars
    constructor
    · intro c hc
      rw [hchars] at hc
      exact head?_stripBy hc
    · intro c hc
      rw [hchars] at hc
      exact getLast?_stripBy hc
  · rintro ⟨hhead, hlast⟩
    rw [trim, stripBy_eq_self hhead hlast, String.ofList_toList]

theorem Solid.toList_ne_nil (h : Solid text) : text.toList ≠ [] :=
  fun hnil => h.filled (String.toList_eq_nil_iff.mp hnil)

theorem Solid.not_blank (h : Solid text) : isBlankText text = false := by
  obtain ⟨c, rest, htext⟩ := List.exists_cons_of_ne_nil h.toList_ne_nil
  have hfirst := (trim_eq_self_iff.mp h.trimmed).1 c (by rw [htext]; rfl)
  rw [isBlankText, htext, List.all_cons, hfirst, Bool.false_and]

theorem Solid.join (hleft : Solid left) (middle : String) (hright : Solid right) :
    Solid (left ++ middle ++ right) := by
  obtain ⟨first, front, hfront⟩ := List.exists_cons_of_ne_nil hleft.toList_ne_nil
  constructor
  · intro hempty
    have hchars := congrArg String.toList hempty
    simp [hfront] at hchars
  · rw [trim_eq_self_iff]
    constructor
    · intro c hc
      apply (trim_eq_self_iff.mp hleft.trimmed).1
      simpa [hfront] using hc
    · intro c hc
      have hlast := List.getLast?_eq_some_getLast hright.toList_ne_nil
      apply (trim_eq_self_iff.mp hright.trimmed).2
      rw [String.toList_append, List.getLast?_append, hlast] at hc
      rw [hlast]
      exact hc

variable {separator : String} {c : Char} {parts : List String}

theorem Solid.intercalate (separator : String) (hparts : parts ≠ [])
    (hsolid : ∀ part ∈ parts, Solid part) : Solid (separator.intercalate parts) := by
  induction parts with
  | nil => exact absurd rfl hparts
  | cons part parts ih =>
      have hfirst := hsolid part List.mem_cons_self
      cases parts with
      | nil => rwa [String.intercalate_singleton]
      | cons next parts =>
          rw [String.intercalate_cons_cons]
          apply hfirst.join
          exact ih (List.cons_ne_nil _ _) fun other hother =>
            hsolid other (List.mem_cons_of_mem part hother)

theorem words_intercalate (hseparator : separator.toList = [c])
    (hsolid : ∀ part ∈ parts, Solid part) (hfree : ∀ part ∈ parts, c ∉ part.toList) :
    words (· == c) (separator.intercalate parts) = parts := by
  by_cases hparts : parts = []
  · subst hparts
    simp [words]
  · have htrimmed : (parts.map String.toList).map
        (fun piece => String.ofList (stripBy isBlank piece)) = parts := by
      rw [List.map_map]
      calc parts.map ((fun piece => String.ofList (stripBy isBlank piece)) ∘ String.toList)
        _ = parts.map id := List.map_congr_left fun part hpart => (hsolid part hpart).trimmed
        _ = parts := List.map_id parts
    rw [words, ← List.splitOn_eq_splitOnP, splitOn_intercalate hseparator hparts hfree, htrimmed,
      List.filter_eq_self]
    exact fun part hpart => bne_iff_ne.mpr (hsolid part hpart).filled

end

end OrcConversion.Text
