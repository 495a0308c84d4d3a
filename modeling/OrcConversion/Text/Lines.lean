import OrcConversion.Text.Blank

/-! Lines of a text and its one-line summary. -/

namespace OrcConversion.Text

def isLineBreak (c : Char) : Bool :=
  let code := c.toNat
  (0x0A ≤ code && code ≤ 0x0D) || (0x1C ≤ code && code ≤ 0x1E) || code == 0x85 ||
    code == 0x2028 || code == 0x2029

/-- Lines in order, without their ends. A boundary at the very end opens no further line. -/
def lines : List Char → List (List Char)
  | [] => []
  | '\r' :: '\n' :: rest => [] :: lines rest
  | c :: rest =>
      if isLineBreak c then
        [] :: lines rest
      else
        match lines rest with
        | [] => [[c]]
        | line :: more => (c :: line) :: more

def unifyLineEnds : List Char → List Char
  | [] => []
  | '\r' :: '\n' :: rest => '\n' :: unifyLineEnds rest
  | '\r' :: rest => '\n' :: unifyLineEnds rest
  | c :: rest => c :: unifyLineEnds rest

theorem unbroken_of_mem_lines {text line : List Char} (h : line ∈ lines text) :
    ∀ c ∈ line, isLineBreak c = false := by
  fun_induction lines text generalizing line with
  | case1 => simp at h
  | case2 rest ih =>
      rcases List.mem_cons.mp h with rfl | h
      · simp
      · exact ih h
  | case3 c rest _ hc ih =>
      rcases List.mem_cons.mp h with rfl | h
      · simp
      · exact ih h
  | case4 c rest _ hc _ _ =>
      intro d hd
      simp only [List.mem_singleton] at h
      subst h
      simp only [List.mem_singleton] at hd
      subst hd
      simpa using hc
  | case5 c rest _ hc first more hlines ih =>
      rcases List.mem_cons.mp h with rfl | h
      · intro d hd
        rcases List.mem_cons.mp hd with rfl | hd
        · simpa using hc
        · exact ih (by rw [hlines]; simp) d hd
      · exact ih (by rw [hlines]; exact List.mem_cons_of_mem _ h)

/-- The first line that is not blank, trimmed; empty if every line is blank. -/
def headline (text : List Char) : List Char :=
  ((lines text).map (stripBy isBlank)).find? (fun line => !line.isEmpty) |>.getD []

/-- The first characters of a line; a negative count says how many to leave off the end. -/
def cut (count : Int) (line : List Char) : List Char :=
  if 0 ≤ count then line.take count.toNat
  else line.take (line.length - count.natAbs)

/-- A headline longer than the width is cut to make room for three dots. -/
def abridge (width : Int) (line : List Char) : List Char :=
  if width < line.length then cut (width - 3) line ++ ['.', '.', '.'] else line

def summary (width : Int) (text : String) : String :=
  String.ofList (abridge width (headline text.toList))

def summaryWidth : Int := 120

theorem abridge_of_le {width : Int} {line : List Char} (h : (line.length : Int) ≤ width) :
    abridge width line = line := by
  simp [abridge, Int.not_lt.mpr h]

theorem abridge_of_lt {width : Int} {line : List Char} (hwidth : 3 ≤ width)
    (h : width < line.length) :
    abridge width line = line.take (width - 3).toNat ++ ['.', '.', '.'] := by
  have hcut : (0 : Int) ≤ width - 3 := Int.sub_nonneg_of_le hwidth
  simp only [abridge, if_pos h, cut, if_pos hcut]

theorem length_abridge_le {width : Int} (hwidth : 3 ≤ width) (line : List Char) :
    ((abridge width line).length : Int) ≤ width := by
  by_cases h : width < line.length
  · rw [abridge_of_lt hwidth h]
    simp only [List.length_append, List.length_take, List.length_cons, List.length_nil]
    omega
  · rw [abridge_of_le (Int.not_lt.mp h)]
    exact Int.not_lt.mp h

end OrcConversion.Text
