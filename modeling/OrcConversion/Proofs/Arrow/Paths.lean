import Mathlib.Data.List.Basic
import OrcConversion.Arrow.Schema
import OrcConversion.Hive.Quoting
import OrcConversion.Proofs.Text.Joining

/-! Paths of fields, and their dotted text. -/

namespace OrcConversion.Arrow

open Hive Text

/-! ## Resolution -/

/-- A field that alone has its name among some fields. -/
structure OnlyOne (fields : List Field) (name : String) (field : Field) : Prop where
  named : field.name = name
  alone : ∃ before after, fields = before ++ field :: after ∧
    ∀ other ∈ before ++ after, other.name ≠ name

/-- Paths that lead to a field by names that occur once, all but the last those of structs. -/
inductive Resolves : List Field → List String → Prop where
  | last {fields : List Field} {name : String} {field : Field} :
      OnlyOne fields name field → Resolves fields [name]
  | through {fields inner : List Field} {name : String} {field : Field} {path : List String} :
      OnlyOne fields name field → field.type = .struct inner → Resolves inner path →
      Resolves fields (name :: path)

section

variable {fields : List Field} {name : String} {field : Field} {path : List String}

theorem Resolves.ne_nil (h : Resolves fields path) : path ≠ [] := by
  cases h with
  | last => exact List.cons_ne_nil _ _
  | through => exact List.cons_ne_nil _ _

theorem field?_sound (h : field? name fields = some field) : OnlyOne fields name field := by
  refine ⟨(mem_of_field? h).2, ?_⟩
  unfold field? at h
  split at h
  · rename_i only heq
    cases h
    obtain ⟨before, after, hfields, hbefore, -, hafter⟩ := List.filter_eq_cons_iff.mp heq
    refine ⟨before, after, hfields, ?_⟩
    intro other hother hname
    rcases List.mem_append.mp hother with hother | hother
    · exact hbefore other hother (beq_iff_eq.mpr hname)
    · exact List.filter_eq_nil_iff.mp hafter other hother (beq_iff_eq.mpr hname)
  · cases h

theorem field?_complete (h : OnlyOne fields name field) : field? name fields = some field := by
  obtain ⟨hname, before, after, rfl, hothers⟩ := h
  have hnone : ∀ others : List Field, (∀ other ∈ others, other.name ≠ name) →
      others.filter (·.name == name) = [] := by
    intro others h
    exact List.filter_eq_nil_iff.mpr fun other hother heq => h other hother (beq_iff_eq.mp heq)
  have hbefore := hnone before fun other hmem => hothers other (List.mem_append_left _ hmem)
  have hafter := hnone after fun other hmem => hothers other (List.mem_append_right _ hmem)
  have hself : (field.name == name) = true := beq_iff_eq.mpr hname
  rw [field?, List.filter_append, hbefore, List.filter_cons, if_pos hself, hafter]
  rfl

theorem DataType.fields?_eq_some {type : DataType} {inner : List Field} :
    type.fields? = some inner ↔ type = .struct inner := by
  cases type <;> simp [fields?]

theorem resolves_sound (h : resolves fields path = true) (hpath : path ≠ []) :
    Resolves fields path := by
  induction path generalizing fields with
  | nil => exact absurd rfl hpath
  | cons name path ih =>
      rw [resolves.eq_def] at h
      cases hfield : field? name fields with
      | none => simp [hfield] at h
      | some field =>
          cases path with
          | nil => exact .last (field?_sound hfield)
          | cons next path =>
              cases htype : field.type.fields? with
              | none => simp [hfield, htype] at h
              | some inner =>
                  simp only [hfield, htype] at h
                  exact .through (field?_sound hfield) (DataType.fields?_eq_some.mp htype)
                    (ih h (List.cons_ne_nil _ _))

theorem resolves_complete (h : Resolves fields path) : resolves fields path = true := by
  induction h with
  | last honly => simp [resolves, field?_complete honly]
  | @through fields inner name field path honly htype hinner ih =>
      cases path with
      | nil => exact absurd rfl hinner.ne_nil
      | cons next path =>
          rw [resolves.eq_def]
          simp only [field?_complete honly, DataType.fields?_eq_some.mpr htype]
          exact ih

end

/-! ## Dotted text -/

section

variable {path : List String}

theorem pathSteps_dotted (hpath : path ≠ []) (hfree : ∀ name ∈ path, '.' ∉ name.toList) :
    pathSteps (".".intercalate path) = path :=
  splitAt_intercalate rfl hpath hfree

theorem sourceExpression_dotted (hpath : path ≠ []) (hfree : ∀ name ∈ path, '.' ∉ name.toList) :
    sourceExpression (".".intercalate path) = ".".intercalate (path.map quoteIdentifier) := by
  rw [sourceExpression, splitAt_intercalate rfl hpath hfree]

theorem hasPath_dotted {schema : Schema} (hpath : path ≠ [])
    (hfree : ∀ name ∈ path, '.' ∉ name.toList) :
    schema.hasPath (".".intercalate path) = true ↔ Resolves schema path := by
  rw [Schema.hasPath, pathSteps_dotted hpath hfree]
  exact ⟨fun h => resolves_sound h hpath, resolves_complete⟩

end

end OrcConversion.Arrow
