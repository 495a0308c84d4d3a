import OrcConversion.Json.Reader
import OrcConversion.Proofs.Result

/-! Names of the members of an object that is read from a text are distinct. -/

namespace OrcConversion.Json

open Text

/-- An object that names no member twice, or a value of another kind. -/
def NamesOnce : Json → Prop
  | object members => (Entries.keys members).Nodup
  | _ => True

section

variable {text after : List CodePoint} {value : Json}

theorem namesOnce_takeNumber? {result : Except Stop (Json × List CodePoint)}
    (h : takeNumber? text = some result) (hresult : result = .ok (value, after)) :
    value.NamesOnce := by
  obtain ⟨⟨whole, afterWhole⟩, -, h⟩ := Option.bind_eq_some_iff.mp h
  dsimp only at h
  split at h
  · split at h
    · cases h
      cases hresult
    · cases h
      cases hresult
      trivial
  · cases h
    cases hresult
    trivial
  · cases h
    cases hresult
    trivial

theorem namesOnce_takeScalar (h : takeScalar text = .ok (value, after)) : value.NamesOnce := by
  unfold takeScalar at h
  dsimp only at h
  split at h
  · rename_i found hfound
    cases h
    obtain ⟨word, hword, hread⟩ := List.exists_of_findSome?_eq_some hfound
    obtain ⟨rest, -, hvalue⟩ := Option.map_eq_some_iff.mp hread
    cases hvalue
    simp only [List.mem_cons, List.not_mem_nil, or_false] at hword
    rcases hword with rfl | rfl | rfl | rfl | rfl | rfl <;> trivial
  · split at h
    · rename_i hnumber
      exact namesOnce_takeNumber? hnumber h
    · cases h

theorem namesOnce_takeMembers {fuel room : Nat} {members : List (CodeText × Json)}
    (hmembers : (Entries.keys members).Nodup)
    (h : takeMembers fuel room members text = .ok (value, after)) : value.NamesOnce := by
  induction fuel generalizing members text with
  | zero => cases h
  | succ fuel ih =>
      unfold takeMembers at h
      split at h
      · cases h
      · rename_i hfuel
        cases hfuel
        obtain ⟨⟨name, rest⟩, -, h⟩ := Except.bind_eq_ok.mp h
        dsimp only at h
        split at h
        · obtain ⟨⟨member, behind⟩, -, h⟩ := Except.bind_eq_ok.mp h
          dsimp only at h
          have hinsert := @Entries.nodup_keys_insert _ _ _ name member _ hmembers
          split at h
          · cases h
            exact hinsert
          · exact ih hinsert h
          · cases h
        · cases h
      · cases h

theorem namesOnce_takeValue {fuel room : Nat}
    (h : takeValue fuel room text = .ok (value, after)) : value.NamesOnce := by
  unfold takeValue at h
  split at h
  · cases h
  · obtain ⟨⟨found, rest⟩, -, h⟩ := Except.bind_eq_ok.mp h
    cases h
    trivial
  · cases h
  · split at h
    · cases h
      trivial
    · obtain ⟨⟨items, rest⟩, -, h⟩ := Except.bind_eq_ok.mp h
      cases h
      trivial
  · cases h
  · split at h
    · cases h
      exact List.nodup_nil
    · have hnone : (Entries.keys ([] : List (CodeText × Json))).Nodup := List.nodup_nil
      exact namesOnce_takeMembers hnone h
  · exact namesOnce_takeScalar h

theorem namesOnce_read {nesting : Nesting} {text : CodeText}
    (h : read nesting text = .ok value) : value.NamesOnce := by
  have hdocument := Except.mapError_eq_ok.mp h
  unfold takeDocument at hdocument
  split at hdocument
  · cases hdocument
  · obtain ⟨⟨found, rest⟩, hfound, hends⟩ := Except.bind_eq_ok.mp hdocument
    dsimp only at hends
    split at hends
    · cases hends
      exact namesOnce_takeValue hfound
    · cases hends

end

end OrcConversion.Json
