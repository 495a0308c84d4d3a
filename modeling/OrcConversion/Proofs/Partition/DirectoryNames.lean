import OrcConversion.Partition.Directory
import OrcConversion.Proofs.Text.Joining

/-! Directories of different partitions have different names. -/

namespace OrcConversion.Partition

open Text

/-- A hint that stands somewhere in a location, without regard to case. -/
def HintOccurs (hint location : String) : Prop :=
  (lowercase hint).toList <:+: (lowercase location).toList

instance (hint location : String) : Decidable (HintOccurs hint location) :=
  decidable_of_iff (occursIn (lowercase hint).toList (lowercase location).toList = true)
    occursIn_iff

/-- Small forms of the hints that occur in a location, in order. -/
def occurringHints (hints : List String) (location : String) : List String :=
  (hints.map lowercase).filter fun hint => occursIn hint.toList (lowercase location).toList

/-! ## Marks -/

section

variable {marks others : List String}

theorem join_marks (marks : List String) :
    String.join (marks.map (· ++ "_")) = "_".intercalate (marks ++ [""]) := by
  induction marks with
  | nil => rfl
  | cons mark marks ih =>
      have hrest : marks ++ [""] ≠ [] := List.append_ne_nil_of_right_ne_nil _ (List.cons_ne_nil _ _)
      rw [List.map_cons, String.join_cons, ih, List.cons_append,
        String.intercalate_cons_of_ne_nil hrest]

theorem splitAt_join_marks (hfree : ∀ mark ∈ marks, '_' ∉ mark.toList) :
    splitAt '_' (String.join (marks.map (· ++ "_"))) = marks ++ [""] := by
  rw [join_marks]
  apply splitAt_intercalate rfl
  · exact List.append_ne_nil_of_right_ne_nil _ (List.cons_ne_nil _ _)
  · intro part hpart
    rcases List.mem_append.mp hpart with hpart | hpart
    · exact hfree part hpart
    · cases List.mem_singleton.mp hpart
      exact List.not_mem_nil

theorem join_marks_inj (hmarks : ∀ mark ∈ marks, '_' ∉ mark.toList)
    (hothers : ∀ mark ∈ others, '_' ∉ mark.toList)
    (h : String.join (marks.map (· ++ "_")) = String.join (others.map (· ++ "_"))) :
    marks = others := by
  have hended : marks ++ [""] = others ++ [""] := by
    rw [← splitAt_join_marks hmarks, ← splitAt_join_marks hothers, h]
  exact List.append_cancel_right hended

theorem not_mem_join_marks {c : Char} (hc : c ≠ '_') (hfree : ∀ mark ∈ marks, c ∉ mark.toList) :
    c ∉ (String.join (marks.map (· ++ "_"))).toList := by
  rw [join_marks]
  apply not_mem_intercalate
  · exact fun hmem => hc (List.mem_singleton.mp hmem)
  · intro part hpart
    rcases List.mem_append.mp hpart with hpart | hpart
    · exact hfree part hpart
    · cases List.mem_singleton.mp hpart
      exact List.not_mem_nil

end

/-! ## Hints -/

section

variable {hints : List String} {location : String}

theorem hintMarks_eq (hints : List String) (location : String) :
    hintMarks hints location = String.join ((occurringHints hints location).map (· ++ "_")) := rfl

theorem exists_hint_of_mem {mark : String} (h : mark ∈ occurringHints hints location) :
    ∃ hint ∈ hints, lowercase hint = mark :=
  List.mem_map.mp (List.mem_filter.mp h).1

theorem lowercase_mem_occurringHints {hint : String} (h : hint ∈ hints) :
    lowercase hint ∈ occurringHints hints location ↔ HintOccurs hint location := by
  rw [occurringHints, List.mem_filter, occursIn_iff]
  exact and_iff_right (List.mem_map_of_mem h)

theorem occurringHints_eq_iff {other : String} :
    occurringHints hints location = occurringHints hints other ↔
      ∀ hint ∈ hints, (HintOccurs hint location ↔ HintOccurs hint other) := by
  constructor
  · intro h hint hmem
    rw [← lowercase_mem_occurringHints hmem, h, lowercase_mem_occurringHints hmem]
  · intro h
    apply List.filter_congr
    intro mark hmark
    obtain ⟨hint, hmem, rfl⟩ := List.mem_map.mp hmark
    rw [Bool.eq_iff_iff, occursIn_iff, occursIn_iff]
    exact h hint hmem

theorem hintMarks_eq_iff {other : String}
    (hfree : ∀ hint ∈ hints, '_' ∉ (lowercase hint).toList) :
    hintMarks hints location = hintMarks hints other ↔
      ∀ hint ∈ hints, (HintOccurs hint location ↔ HintOccurs hint other) := by
  have hmarks : ∀ location, ∀ mark ∈ occurringHints hints location, '_' ∉ mark.toList := by
    intro location mark hmark
    obtain ⟨hint, hmem, rfl⟩ := exists_hint_of_mem hmark
    exact hfree hint hmem
  rw [← occurringHints_eq_iff, hintMarks_eq, hintMarks_eq]
  exact ⟨join_marks_inj (hmarks location) (hmarks other), fun h => by rw [h]⟩

theorem not_mem_hintMarks {c : Char} (hc : c ≠ '_')
    (hfree : ∀ hint ∈ hints, c ∉ (lowercase hint).toList) :
    c ∉ (hintMarks hints location).toList := by
  rw [hintMarks_eq]
  apply not_mem_join_marks hc
  intro mark hmark
  obtain ⟨hint, hmem, rfl⟩ := exists_hint_of_mem hmark
  exact hfree hint hmem

end

/-! ## Names -/

/-- Partitions with the same first key have directories of one name just when they have one name
themselves and the same hints occur in their locations. -/
theorem directoryName_eq_iff {hints : List String} {left right : SourcePartition}
    {key leftRest rightRest : String}
    (hunderscore : ∀ hint ∈ hints, '_' ∉ (lowercase hint).toList)
    (hequals : ∀ hint ∈ hints, '=' ∉ (lowercase hint).toList)
    (hkey : '=' ∉ key.toList) (hleft : left.name = key ++ "=" ++ leftRest)
    (hright : right.name = key ++ "=" ++ rightRest) :
    directoryName hints (some left) = directoryName hints (some right) ↔
      left.name = right.name ∧
        ∀ hint ∈ hints,
          (HintOccurs hint left.dataLocation ↔ HintOccurs hint right.dataLocation) := by
  rw [← hintMarks_eq_iff hunderscore]
  constructor
  · intro h
    have hopening : ∀ location, '=' ∉ (hintMarks hints location).toList ++ key.toList := by
      intro location hmem
      exact (List.mem_append.mp hmem).elim (not_mem_hintMarks (by decide) hequals) hkey
    have hchars := congrArg String.toList h
    simp only [directoryName, hleft, hright, String.toList_append] at hchars
    obtain ⟨hmarks, hrest⟩ := append_separator_inj (hopening left.dataLocation)
      (hopening right.dataLocation) (by simpa using hchars)
    refine ⟨?_, String.toList_injective (List.append_cancel_right hmarks)⟩
    rw [hleft, hright, String.toList_injective hrest]
  · rintro ⟨hname, hmarks⟩
    simp only [directoryName, hmarks, hname]

/-- The first hour of a day, read from some location. -/
def Sample.readFrom (location : String) : SourcePartition where
  name := "ds=1-00"
  values := ["1-00"]
  dataLocation := location
  columnTypes := ""

/-- One partition gets two directories when it is read from hourly and from daily data, and one when
only the case of the location differs. -/
theorem directoryName_eq_iff_readFrom :
    let directory := fun location =>
      directoryName ["Hourly", "daily"] (some (Sample.readFrom location))
    directory "/in/hourly/1" ≠ directory "/in/daily/1" ∧
      directory "/in/hourly/1" = directory "/IN/HOURLY/2" := by
  intro directory
  have hiff : ∀ location other, directory location = directory other ↔ _ := fun location other =>
    @directoryName_eq_iff ["Hourly", "daily"] (Sample.readFrom location) (Sample.readFrom other)
      "ds" "1-00" "1-00" (by decide +kernel) (by decide +kernel) (by decide) rfl rfl
  constructor
  · intro hsame
    have hhints := ((hiff _ _).mp hsame).2 "Hourly" List.mem_cons_self
    exact absurd hhints (by decide +kernel)
  · apply (hiff _ _).mpr
    decide +kernel

end OrcConversion.Partition
