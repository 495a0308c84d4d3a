import OrcConversion.Text.Blank

/-! Splitting text at separators. -/

namespace OrcConversion.Text

/-- The trimmed pieces of a text, blank ones left out. -/
def words (separator : Char → Bool) (text : String) : List String :=
  ((text.toList.splitOnP separator).map fun piece =>
    String.ofList (stripBy isBlank piece)).filter (· != "")

def splitAt (separator : Char) (text : String) : List String :=
  (text.toList.splitOn separator).map String.ofList

def cutAt? (separator : Char) : List Char → Option (List Char × List Char)
  | [] => none
  | c :: rest =>
      if c == separator then some ([], rest)
      else (cutAt? separator rest).map fun (before, later) => (c :: before, later)

theorem cutAt?_append {separator : Char} {before after : List Char} (h : separator ∉ before) :
    cutAt? separator (before ++ separator :: after) = some (before, after) := by
  induction before with
  | nil => simp [cutAt?]
  | cons c before ih =>
      have hc : c ≠ separator := fun hc => h (by simp [hc])
      have hbefore : separator ∉ before := fun hmem => h (by simp [hmem])
      simp [cutAt?, hc, ih hbefore]

theorem cutAt?_eq_some {separator : Char} {text before after : List Char}
    (h : cutAt? separator text = some (before, after)) :
    text = before ++ separator :: after ∧ separator ∉ before := by
  induction text generalizing before with
  | nil => simp [cutAt?] at h
  | cons c rest ih =>
      simp only [cutAt?] at h
      split at h
      · rename_i hc
        simp only [Option.some.injEq, Prod.mk.injEq] at h
        obtain ⟨rfl, rfl⟩ := h
        simp [beq_iff_eq.mp hc]
      · rename_i hc
        obtain ⟨⟨front, later⟩, hcut, heq⟩ := Option.map_eq_some_iff.mp h
        simp only [Prod.mk.injEq] at heq
        obtain ⟨rfl, rfl⟩ := heq
        obtain ⟨rfl, hfree⟩ := ih hcut
        refine ⟨rfl, ?_⟩
        simp only [beq_iff_eq] at hc
        simp [hfree, Ne.symm hc]

def occursIn (part : List Char) : List Char → Bool
  | [] => part.isEmpty
  | c :: rest => part.isPrefixOf (c :: rest) || occursIn part rest

theorem occursIn_iff {part text : List Char} : occursIn part text = true ↔ part <:+: text := by
  induction text with
  | nil => simp [occursIn]
  | cons c rest ih =>
      simp [occursIn, ih, List.infix_cons_iff]

end OrcConversion.Text
