import Mathlib.Data.List.Forall2
import OrcConversion.Hive.Selection
import OrcConversion.Proofs.Arrow.Paths
import OrcConversion.Proofs.Result

/-! How the source of a column has to be spelled. -/

namespace OrcConversion.Hive

open Arrow Text

/-! ## Names -/

/-- Name under which the source of a column is looked for: that of the last target field with the
name of the column, in whatever case, and else the name of the column. -/
inductive Spelled (target : Schema) (column : Column) : String → Prop where
  | asTarget {before after : List Field} {field : Field} :
      target = before ++ field :: after →
      lowercase field.name = lowercase column.name →
      (∀ other ∈ after, lowercase other.name ≠ lowercase column.name) →
      Spelled target column field.name
  | asColumn : (∀ field ∈ target, lowercase field.name ≠ lowercase column.name) →
      Spelled target column column.name

/-- A field that alone has the name of a column among some fields, in whatever case. -/
structure OnlyAlike (fields : List Field) (column : Column) (field : Field) : Prop where
  alike : lowercase field.name = lowercase column.name
  alone : ∃ before after, fields = before ++ field :: after ∧
    ∀ other ∈ before ++ after, lowercase other.name ≠ lowercase column.name

section

variable {source target : Schema} {column : Column} {field : Field} {name : String}

theorem Spelled.lowercase_eq (h : Spelled target column name) :
    lowercase name = lowercase column.name := by
  cases h with
  | asTarget _ halike _ => exact halike
  | asColumn _ => rfl

theorem Spelled.dotFree (h : Spelled target column name)
    (htarget : ∀ field ∈ target, '.' ∉ field.name.toList) (hcolumn : '.' ∉ column.name.toList) :
    '.' ∉ name.toList := by
  cases h with
  | asTarget hsplit _ _ => exact htarget _ (hsplit ▸ List.mem_append_right _ List.mem_cons_self)
  | asColumn _ => exact hcolumn

theorem OnlyAlike.onlyOne (h : OnlyAlike source column field) :
    OnlyOne source field.name field := by
  obtain ⟨halike, before, after, hsource, hothers⟩ := h
  refine ⟨rfl, before, after, hsource, ?_⟩
  intro other hother hname
  exact hothers other hother (hname ▸ halike)

theorem OnlyAlike.not_onlyOne (h : OnlyAlike source column field)
    (hlower : lowercase name = lowercase column.name) (hname : field.name ≠ name) (other : Field) :
    ¬ OnlyOne source name other := by
  obtain ⟨-, before, after, hsource, hothers⟩ := h
  rintro ⟨rfl, front, back, hsplit, -⟩
  have hmem : other ∈ before ++ field :: after := by
    rw [← hsource, hsplit]
    exact List.mem_append_right front List.mem_cons_self
  rcases List.mem_cons.mp (List.perm_middle.subset hmem) with rfl | hmem
  · exact hname rfl
  · exact hothers other hmem hlower

theorem targetField?_sound (h : targetField? target column = some field) :
    field ∈ target ∧ Spelled target column field.name := by
  obtain ⟨halike, after, before, hsplit, hothers⟩ := List.find?_eq_some_iff_append.mp h
  have htarget : target = before.reverse ++ field :: after.reverse := by
    rw [← List.reverse_reverse target, hsplit, List.reverse_append, List.reverse_cons,
      List.append_assoc]
    rfl
  refine ⟨htarget ▸ List.mem_append_right _ List.mem_cons_self, ?_⟩
  refine .asTarget htarget (beq_iff_eq.mp halike) fun other hother heq => ?_
  have hother := hothers other (List.mem_reverse.mp hother)
  rw [heq] at hother
  simp at hother

theorem targetField?_eq_none_iff : targetField? target column = none ↔
    ∀ field ∈ target, lowercase field.name ≠ lowercase column.name := by
  rw [targetField?, List.find?_eq_none]
  simp

theorem spelled_columnPath
    (htop : ∀ field ∈ target, field.metadata.lookup? sourcePathKey = none) :
    ∃ name, columnPath target column = some name ∧ Spelled target column name := by
  unfold columnPath
  cases hfield : targetField? target column with
  | none => exact ⟨column.name, rfl, .asColumn (targetField?_eq_none_iff.mp hfield)⟩
  | some field =>
      obtain ⟨hmem, hspelled⟩ := targetField?_sound hfield
      refine ⟨field.name, ?_, hspelled⟩
      simp only [Field.sourcePath, htop field hmem]

end

/-! ## Expressions -/

/-- Expressions that read a source field into a column. -/
inductive Reads (field : Field) (column : Column) : String → Prop where
  | own : field.name = column.name → Reads field column (quoteIdentifier field.name)
  | renamed : field.name ≠ column.name →
      Reads field column (quoteIdentifier field.name ++ " AS " ++ quoteIdentifier column.name)

/-- What stands in the place of a column that nothing is read into. -/
def typedNull (column : Column) : String :=
  "CAST(NULL AS " ++ column.type ++ ") AS " ++ quoteIdentifier column.name

/-- A column is filled from the source field of one spelling, and else with a null. So the only
source field with its name, in whatever case, is read if it is spelled so, and is lost if it is
not. -/
structure FilledBySpelling (source : Schema) (column : Column) (name expression : String) :
    Prop where
  read : ∀ field, OnlyOne source name field → Reads field column expression
  null : (∀ field, ¬ OnlyOne source name field) → expression = typedNull column
  kept : ∀ field, OnlyAlike source column field → field.name = name →
    Reads field column expression
  lost : ∀ field, OnlyAlike source column field → field.name ≠ name →
    expression = typedNull column

section

variable {source target : Schema} {column : Column} {name : String}

theorem hasPath_name (hfree : '.' ∉ name.toList) :
    source.hasPath name = true ↔ ∃ field, OnlyOne source name field := by
  have hpath := @hasPath_dotted [name] source (List.cons_ne_nil _ _)
    (List.forall_mem_singleton.mpr hfree)
  rw [String.intercalate_singleton] at hpath
  rw [hpath]
  constructor
  · intro h
    cases h with
    | last honly => exact ⟨_, honly⟩
    | through _ _ hinner => exact absurd rfl hinner.ne_nil
  · rintro ⟨field, honly⟩
    exact .last honly

theorem sourceExpression_name (hfree : '.' ∉ name.toList) :
    sourceExpression name = quoteIdentifier name := by
  have hpath := @sourceExpression_dotted [name] (List.cons_ne_nil _ _)
    (List.forall_mem_singleton.mpr hfree)
  rwa [String.intercalate_singleton, List.map_singleton, String.intercalate_singleton] at hpath

theorem filledBySpelling_selectPath (hfree : '.' ∉ name.toList)
    (hlower : lowercase name = lowercase column.name) :
    FilledBySpelling source column name (selectPath source true column name) := by
  have hread : ∀ field, OnlyOne source name field →
      Reads field column (selectPath source true column name) := by
    intro field honly
    simp only [selectPath, if_pos ((hasPath_name hfree).mpr ⟨field, honly⟩),
      sourceExpression_name hfree]
    obtain ⟨rfl, -⟩ := honly
    split
    · rename_i hsame
      exact .own hsame
    · rename_i hother
      exact .renamed hother
  have hnull : (∀ field, ¬ OnlyOne source name field) →
      selectPath source true column name = typedNull column := by
    intro hnone
    have hlost : ¬ source.hasPath name = true := by
      rw [hasPath_name hfree]
      exact not_exists.mpr hnone
    simp only [selectPath, if_neg hlost]
    rfl
  refine ⟨hread, hnull, ?_, ?_⟩
  · rintro field honly rfl
    exact hread field honly.onlyOne
  · intro field honly hother
    exact hnull (honly.not_onlyOne hlower hother)

/-- Every column is filled from the source field that is spelled like its target field, or like the
column itself if the target has no such field. Where the only source field with the name of the
column differs from that in case, the column is filled with a null. -/
theorem selection_reads_same_spelling {columns : List Column}
    (htop : ∀ field ∈ target, field.metadata.lookup? sourcePathKey = none)
    (htarget : ∀ field ∈ target, '.' ∉ field.name.toList)
    (hcolumns : ∀ column ∈ columns, '.' ∉ column.name.toList) :
    ∃ expressions, selection source target true columns = some expressions ∧
      List.Forall₂
        (fun column expression => ∃ name, Spelled target column name ∧
          FilledBySpelling source column name expression)
        columns expressions := by
  have hselects : ∀ column ∈ columns, ∃ expression,
      selectColumn source target true column = some expression ∧
        ∃ name, Spelled target column name ∧
          FilledBySpelling source column name expression := by
    intro column hcolumn
    obtain ⟨name, hname, hspelled⟩ := spelled_columnPath htop
    have hfree := hspelled.dotFree htarget (hcolumns column hcolumn)
    refine ⟨selectPath source true column name, ?_, name, hspelled,
      filledBySpelling_selectPath hfree hspelled.lowercase_eq⟩
    rw [selectColumn, hname, Option.map_some]
  obtain ⟨expressions, hboth⟩ := exists_forall₂_iff.mpr hselects
  exact ⟨expressions, Option.mapM_eq_some.mpr (hboth.imp fun _ _ h => h.1),
    hboth.imp fun _ _ h => h.2⟩

end

namespace Sample

def people : Schema :=
  [.mk "id" (.scalar .int64) true .empty, .mk "name" (.scalar .string) true .empty]

/-- The same people, one of whose fields is written in capitals. -/
def peopleInCapitals : Schema :=
  [.mk "id" (.scalar .int64) true .empty, .mk "NAME" (.scalar .string) true .empty]

end Sample

open Sample in
theorem selection_reads_same_spelling_people :
    List.Forall₂
      (fun column expression => ∃ name, Spelled peopleInCapitals column name ∧
        FilledBySpelling people column name expression)
      [⟨"ID", "bigint"⟩, ⟨"Name", "string"⟩]
      ["`id` AS `ID`", "CAST(NULL AS string) AS `Name`"] := by
  obtain ⟨expressions, hselection, hfilled⟩ :=
    @selection_reads_same_spelling people peopleInCapitals [⟨"ID", "bigint"⟩, ⟨"Name", "string"⟩]
      (by decide) (by decide) (by decide)
  cases hselection
  exact hfilled

open Sample in
/-- The only source field with the name of a column, in whatever case, is not read into it. -/
theorem selection_loses_other_case :
    OnlyAlike people ⟨"Name", "string"⟩ (.mk "name" (.scalar .string) true .empty) ∧
      selection people peopleInCapitals true [⟨"Name", "string"⟩] =
        some ["CAST(NULL AS string) AS `Name`"] ∧
      ¬ Reads (.mk "name" (.scalar .string) true .empty) ⟨"Name", "string"⟩
        "CAST(NULL AS string) AS `Name`" := by
  refine ⟨⟨by decide, [.mk "id" (.scalar .int64) true .empty], [], rfl, by decide⟩, by decide, ?_⟩
  intro hreads
  generalize hexpression : "CAST(NULL AS string) AS `Name`" = expression at hreads
  cases hreads with
  | own _ => exact absurd hexpression (by decide)
  | renamed _ => exact absurd hexpression (by decide)

end OrcConversion.Hive
