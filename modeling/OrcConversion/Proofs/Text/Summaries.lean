import OrcConversion.Proofs.Text.Words
import OrcConversion.Text.Lines

/-! The summary of a text is one line that fits its width. -/

namespace OrcConversion.Text

/-! ## Ends of lines -/

/-- Characters that end a line. -/
def lineBreaks : List Char :=
  ['\n', '\x0b', '\x0c', '\r', '\x1c', '\x1d', '\x1e', '\u0085', '\u2028', '\u2029']

/-- What ends a line: one of these characters, or two of them together. -/
def lineEnds : List (List Char) :=
  ['\r', '\n'] :: lineBreaks.map fun c => [c]

/-- A text that is one line, or nothing. -/
def Unbroken (text : List Char) : Prop :=
  ∀ c ∈ text, c ∉ lineBreaks

instance (text : List Char) : Decidable (Unbroken text) :=
  List.decidableBAll (· ∉ lineBreaks) text

section

variable {c : Char} {text front back line ending rest : List Char}

theorem isLineBreak_iff : isLineBreak c = true ↔ c ∈ lineBreaks := by
  simp only [isLineBreak, lineBreaks, List.mem_cons, List.not_mem_nil, or_false, ← Char.toNat_inj,
    Bool.or_eq_true, Bool.and_eq_true, decide_eq_true_eq, beq_iff_eq]
  change _ ↔ c.toNat = 10 ∨ c.toNat = 11 ∨ c.toNat = 12 ∨ c.toNat = 13 ∨ c.toNat = 28 ∨
    c.toNat = 29 ∨ c.toNat = 30 ∨ c.toNat = 0x85 ∨ c.toNat = 0x2028 ∨ c.toNat = 0x2029
  omega

theorem unbroken_iff : Unbroken text ↔ ∀ c ∈ text, isLineBreak c = false := by
  simp only [Unbroken, ← isLineBreak_iff, Bool.not_eq_true]

theorem Unbroken.append (hfront : Unbroken front) (hback : Unbroken back) :
    Unbroken (front ++ back) :=
  List.forall_mem_append.mpr ⟨hfront, hback⟩

theorem Unbroken.subset (h : Unbroken text) (hsubset : front ⊆ text) : Unbroken front :=
  fun c hc => h c (hsubset hc)

/-! ## Cutting -/

/-- How a text is cut into lines: each ends where it is first broken. A carriage return does not end
a line without the line feed behind it, and what stands behind the last end is a line only if it is
not empty. -/
inductive CutInto : List Char → List (List Char) → Prop
  | nil : CutInto [] []
  | last {line : List Char} : line ≠ [] → Unbroken line → CutInto line [line]
  | ended {line ending rest : List Char} {more : List (List Char)} :
      Unbroken line → ending ∈ lineEnds → (ending = ['\r'] → rest.head? ≠ some '\n') →
      CutInto rest more → CutInto (line ++ ending ++ rest) (line :: more)

theorem lines_cons_break (hc : isLineBreak c = true) (h : c = '\r' → rest.head? ≠ some '\n') :
    lines (c :: rest) = [] :: lines rest := by
  rw [lines, if_pos hc]
  rintro after hreturn rfl
  exact h hreturn rfl

/-- Lines with a character put in front of the first of them. -/
def consFirst (c : Char) : List (List Char) → List (List Char)
  | [] => [[c]]
  | line :: more => (c :: line) :: more

theorem lines_cons_free (hc : isLineBreak c = false) (rest : List Char) :
    lines (c :: rest) = consFirst c (lines rest) := by
  rw [lines, if_neg (Bool.eq_false_iff.mp hc)]
  · cases lines rest with
    | nil => rfl
    | cons line more => rfl
  · rintro after rfl
    cases hc

theorem lines_end (hending : ending ∈ lineEnds)
    (hfeed : ending = ['\r'] → rest.head? ≠ some '\n') :
    lines (ending ++ rest) = [] :: lines rest := by
  rcases List.mem_cons.mp hending with rfl | hending
  · rfl
  · obtain ⟨c, hc, rfl⟩ := List.mem_map.mp hending
    exact lines_cons_break (isLineBreak_iff.mpr hc) fun hreturn => hfeed (hreturn ▸ rfl)

theorem lines_ended (hline : Unbroken line) (hending : ending ∈ lineEnds)
    (hfeed : ending = ['\r'] → rest.head? ≠ some '\n') :
    lines (line ++ ending ++ rest) = line :: lines rest := by
  induction line with
  | nil => exact lines_end hending hfeed
  | cons c line ih =>
      obtain ⟨hc, hline⟩ := List.forall_mem_cons.mp (unbroken_iff.mp hline)
      rw [List.cons_append, List.cons_append, lines_cons_free hc, ih (unbroken_iff.mpr hline),
        consFirst]

theorem lines_unbroken (hline : Unbroken line) (hfilled : line ≠ []) : lines line = [line] := by
  induction line with
  | nil => exact absurd rfl hfilled
  | cons c line ih =>
      obtain ⟨hc, hline⟩ := List.forall_mem_cons.mp (unbroken_iff.mp hline)
      rw [lines_cons_free hc]
      cases line with
      | nil => rfl
      | cons d line => rw [ih (unbroken_iff.mpr hline) (List.cons_ne_nil d line), consFirst]

theorem CutInto.lines_eq {found : List (List Char)} (h : CutInto text found) :
    lines text = found := by
  induction h with
  | nil => rfl
  | last hfilled hline => exact lines_unbroken hline hfilled
  | ended hline hending hfeed _ ih => rw [lines_ended hline hending hfeed, ih]

theorem CutInto.cons {found : List (List Char)} (hc : c ∉ lineBreaks) (h : CutInto rest found) :
    CutInto (c :: rest) (consFirst c found) := by
  cases h with
  | nil => exact .last (List.cons_ne_nil c []) (List.forall_mem_singleton.mpr hc)
  | last _ hline => exact .last (List.cons_ne_nil c _) (List.forall_mem_cons.mpr ⟨hc, hline⟩)
  | ended hline hending hfeed hmore =>
      exact .ended (List.forall_mem_cons.mpr ⟨hc, hline⟩) hending hfeed hmore

theorem CutInto.behind_end {more : List (List Char)} (hending : ending ∈ lineEnds)
    (hfeed : ending = ['\r'] → rest.head? ≠ some '\n') (hmore : CutInto rest more) :
    CutInto (ending ++ rest) ([] :: more) :=
  .ended (List.forall_mem_nil _) hending hfeed hmore

theorem cutInto_lines (text : List Char) : CutInto text (lines text) := by
  fun_induction lines text with
  | case1 => exact .nil
  | case2 rest ih =>
      exact CutInto.behind_end List.mem_cons_self (absurd · (by decide)) ih
  | case3 c rest hfeed hc ih =>
      have hending : [c] ∈ lineEnds :=
        List.mem_cons_of_mem _ (List.mem_map_of_mem (isLineBreak_iff.mp hc))
      refine CutInto.behind_end hending ?_ ih
      intro hreturn hnext
      obtain ⟨after, rfl⟩ := List.head?_eq_some_iff.mp hnext
      exact hfeed after (List.singleton_inj.mp hreturn) rfl
  | case4 c rest _ hc hlines ih =>
      rw [hlines] at ih
      exact ih.cons (mt isLineBreak_iff.mpr hc)
  | case5 c rest _ hc line more hlines ih =>
      rw [hlines] at ih
      exact ih.cons (mt isLineBreak_iff.mpr hc)

theorem cutInto_iff {found : List (List Char)} : CutInto text found ↔ lines text = found :=
  ⟨CutInto.lines_eq, fun h => h ▸ cutInto_lines text⟩

end

/-! ## The first line that is not blank -/

def Blank (line : List Char) : Prop :=
  ∀ c ∈ line, isBlank c = true

instance (line : List Char) : Decidable (Blank line) :=
  List.decidableBAll (isBlank · = true) line

/-- The first of some lines that is not blank. -/
inductive FirstFilled : List (List Char) → List Char → Prop
  | here {line : List Char} {more : List (List Char)} :
      ¬ Blank line → FirstFilled (line :: more) line
  | later {blank line : List Char} {more : List (List Char)} :
      Blank blank → FirstFilled more line → FirstFilled (blank :: more) line

section

variable {line text : List Char} {found : List (List Char)}

theorem FirstFilled.mem (h : FirstFilled found line) : line ∈ found := by
  induction h with
  | here => exact List.mem_cons_self
  | later _ _ ih => exact List.mem_cons_of_mem _ ih

theorem FirstFilled.not_blank (h : FirstFilled found line) : ¬ Blank line := by
  induction h with
  | here hfilled => exact hfilled
  | later _ _ ih => exact ih

theorem blank_or_firstFilled (found : List (List Char)) :
    (∀ line ∈ found, Blank line) ∨ ∃ line, FirstFilled found line := by
  induction found with
  | nil => exact .inl (List.forall_mem_nil _)
  | cons first more ih =>
      by_cases hfirst : Blank first
      · rcases ih with hblank | ⟨line, hline⟩
        · exact .inl (List.forall_mem_cons.mpr ⟨hfirst, hblank⟩)
        · exact .inr ⟨line, .later hfirst hline⟩
      · exact .inr ⟨first, .here hfirst⟩

theorem isEmpty_stripBy_iff : (stripBy isBlank line).isEmpty = true ↔ Blank line := by
  rw [List.isEmpty_iff, stripBy_eq_nil_iff, Blank]

theorem headline_of_blank (h : ∀ line ∈ lines text, Blank line) : headline text = [] := by
  have hnone : ((lines text).map (stripBy isBlank)).find? (fun line => !line.isEmpty) = none := by
    rw [List.find?_eq_none, List.forall_mem_map]
    intro line hline
    simp [isEmpty_stripBy_iff.mpr (h line hline)]
  rw [headline, hnone, Option.getD_none]

theorem FirstFilled.find?_eq (h : FirstFilled found line) :
    (found.map (stripBy isBlank)).find? (fun line => !line.isEmpty) =
      some (stripBy isBlank line) := by
  induction h with
  | here hfilled =>
      rw [List.map_cons, List.find?_cons_of_pos]
      rwa [Bool.not_eq_true', Bool.eq_false_iff, Ne, isEmpty_stripBy_iff]
  | later hblank _ ih =>
      rw [List.map_cons, List.find?_cons_of_neg, ih]
      simp [isEmpty_stripBy_iff.mpr hblank]

theorem FirstFilled.headline_eq (h : FirstFilled (lines text) line) :
    headline text = stripBy isBlank line := by
  rw [headline, h.find?_eq, Option.getD_some]

theorem unbroken_headline (text : List Char) : Unbroken (headline text) := by
  rcases blank_or_firstFilled (lines text) with hblank | ⟨line, hline⟩
  · rw [headline_of_blank hblank]
    exact List.forall_mem_nil _
  · rw [hline.headline_eq, unbroken_iff]
    exact fun c hc => unbroken_of_mem_lines hline.mem c (mem_of_mem_stripBy hc)

end

/-! ## Width -/

section

variable {width : Int} {line : List Char}

theorem length_abridge_of_lt (hwidth : 3 ≤ width) (h : width < line.length) :
    ((abridge width line).length : Int) = width := by
  rw [abridge_of_lt hwidth h, List.length_append, List.length_take]
  simp only [List.length_cons, List.length_nil]
  omega

theorem unbroken_abridge (hwidth : 3 ≤ width) (h : Unbroken line) :
    Unbroken (abridge width line) := by
  by_cases hlong : width < line.length
  · rw [abridge_of_lt hwidth hlong]
    exact (h.subset (List.take_subset _ line)).append (by decide)
  · rwa [abridge_of_le (Int.not_lt.mp hlong)]

theorem abridge_eq_nil_iff (hwidth : 3 ≤ width) : abridge width line = [] ↔ line = [] := by
  by_cases hlong : width < line.length
  · have hfilled : line ≠ [] := by
      rintro rfl
      rw [List.length_nil] at hlong
      omega
    rw [abridge_of_lt hwidth hlong]
    exact iff_of_false (List.append_ne_nil_of_right_ne_nil _ (List.cons_ne_nil _ _)) hfilled
  · rw [abridge_of_le (Int.not_lt.mp hlong)]

end

/-! ## Summaries -/

/-- A text that stands for some lines: one line that fits a width, taken from the first of them that
is not blank. If that is too long, three dots stand for its end. -/
structure Summarizes (width : Int) (found : List (List Char)) (summary : String) : Prop where
  fits : (summary.length : Int) ≤ width
  unbroken : Unbroken summary.toList
  eq_empty_iff : summary = "" ↔ ∀ line ∈ found, Blank line
  whole : ∀ line, FirstFilled found line → ((stripBy isBlank line).length : Int) ≤ width →
    summary = String.ofList (stripBy isBlank line)
  abridged : ∀ line, FirstFilled found line → width < (stripBy isBlank line).length →
    (summary.length : Int) = width ∧
      summary = String.ofList ((stripBy isBlank line).take (width - 3).toNat) ++ "..."

section

variable {width : Int}

theorem headline_eq_nil_iff {text : List Char} :
    headline text = [] ↔ ∀ line ∈ lines text, Blank line := by
  constructor
  · intro h
    rcases blank_or_firstFilled (lines text) with hblank | ⟨line, hline⟩
    · exact hblank
    · rw [hline.headline_eq, stripBy_eq_nil_iff] at h
      exact absurd h hline.not_blank
  · exact headline_of_blank

theorem summarizes_summary (hwidth : 3 ≤ width) (text : String) :
    Summarizes width (lines text.toList) (summary width text) where
  fits := by
    rw [summary, String.length_ofList]
    exact length_abridge_le hwidth _
  unbroken := by
    rw [summary, String.toList_ofList]
    exact unbroken_abridge hwidth (unbroken_headline _)
  eq_empty_iff := by
    rw [summary, String.ofList_eq_empty_iff, abridge_eq_nil_iff hwidth, headline_eq_nil_iff]
  whole := by
    intro line hline hshort
    rw [summary, hline.headline_eq, abridge_of_le hshort]
  abridged := by
    intro line hline hlong
    constructor
    · rw [summary, hline.headline_eq, String.length_ofList, length_abridge_of_lt hwidth hlong]
    · rw [summary, hline.headline_eq, abridge_of_lt hwidth hlong, String.ofList_append]

/-- A text is cut into lines in one way, and a summary of at least three characters is one line of
no more than its width: nothing if all lines are blank, else the first line that is not blank, as it
is without the blanks around it or, if it is too long, with three dots for its end. -/
theorem summary_of_first_line (hwidth : 3 ≤ width) (text : String) :
    ∃ found, (∀ other, CutInto text.toList other ↔ other = found) ∧
      Summarizes width found (summary width text) :=
  ⟨lines text.toList, fun _ => cutInto_iff.trans eq_comm, summarizes_summary hwidth text⟩

end

theorem summary_of_first_line_insertion :
    let text := "\r\n\t\x1f\r INSERT OVERWRITE \u2028SELECT"
    (3 : Int) ≤ 10 ∧ ∃ found, CutInto text.toList found ∧ found.length = 4 ∧
      FirstFilled found " INSERT OVERWRITE ".toList ∧ Summarizes 10 found (summary 10 text) ∧
      summary 10 text = "INSERT ..." := by
  intro text
  obtain ⟨found, hcut, hsummary⟩ := summary_of_first_line (by decide : (3 : Int) ≤ 10) text
  obtain rfl : [[], ['\t', '\x1f'], " INSERT OVERWRITE ".toList, "SELECT".toList] = found := by
    have hlines : lines text.toList = found := (hcut _).mp (cutInto_lines _)
    rw [← hlines]
    decide
  have hfirst : FirstFilled [[], ['\t', '\x1f'], " INSERT OVERWRITE ".toList, "SELECT".toList]
      " INSERT OVERWRITE ".toList :=
    .later (by decide) (.later (by decide) (.here (by decide)))
  obtain ⟨-, habridged⟩ := hsummary.abridged _ hfirst (by decide)
  exact ⟨by decide, _, (hcut _).mpr rfl, rfl, hfirst, hsummary, habridged.trans (by decide)⟩

end OrcConversion.Text
