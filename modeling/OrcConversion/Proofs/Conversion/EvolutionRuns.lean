import Mathlib.Data.List.Nodup
import OrcConversion.Proofs.Conversion.ColumnAlignment

/-! A table that evolves again and again. -/

namespace OrcConversion

open Hive Text Workflow

/-- A table with the columns that a run of evolution leaves it. -/
def TableRecord.evolveTo (table : TableRecord) (target : List Column) : TableRecord :=
  { table with columns := Destination.align { table := some table } true target }

/-- A table after one run for each target. -/
def TableRecord.evolveToAll (table : TableRecord) (targets : List (List Column)) : TableRecord :=
  targets.foldl TableRecord.evolveTo table

/-- Columns whose names differ by more than their case. -/
def DistinctNames (columns : List Column) : Prop :=
  (columns.map fun column => lowercase column.name).Nodup

instance (columns : List Column) : Decidable (DistinctNames columns) :=
  inferInstanceAs (Decidable (List.Nodup _))

/-- Columns with every name of a target. -/
def Covers (columns target : List Column) : Prop :=
  ∀ column ∈ target, ∃ other ∈ columns, sameName other column = true

section

variable {table : TableRecord} {columns later target : List Column}

/-! ## One run -/

theorem align_of_table {destination : Destination} (h : destination.table = some table)
    (target : List Column) :
    destination.align true target = (table.evolveTo target).columns := by
  rw [Destination.align, h]
  rfl

theorem columns_evolveTo (table : TableRecord) (target : List Column) :
    (table.evolveTo target).columns = table.columns ++ missingColumns target table.columns := rfl

theorem prefix_evolveTo (table : TableRecord) (target : List Column) :
    table.columns <+: (table.evolveTo target).columns :=
  List.prefix_append _ _

theorem distinctNames_evolveTo (htable : DistinctNames table.columns)
    (htarget : DistinctNames target) : DistinctNames (table.evolveTo target).columns := by
  rw [DistinctNames, columns_evolveTo, List.map_append]
  apply List.Nodup.append htable
  · exact htarget.sublist (List.filter_sublist.map _)
  · intro name hold hnew
    obtain ⟨other, hother, rfl⟩ := List.mem_map.mp hold
    obtain ⟨column, hcolumn, hname⟩ := List.mem_map.mp hnew
    have hdiffers := (mem_missingColumns.mp hcolumn).2 other hother
    exact Bool.false_ne_true (hdiffers.symm.trans (beq_iff_eq.mpr hname.symm))

theorem covers_evolveTo (table : TableRecord) (target : List Column) :
    Covers (table.evolveTo target).columns target :=
  fun _ => exists_sameName_of_mem

theorem Covers.mono (h : Covers columns target) (hlater : columns <+: later) :
    Covers later target := by
  intro column hcolumn
  obtain ⟨other, hother, hsame⟩ := h column hcolumn
  exact ⟨other, hlater.subset hother, hsame⟩

theorem Covers.missingColumns_eq_nil (h : Covers columns target) :
    missingColumns target columns = [] := by
  apply List.eq_nil_iff_forall_not_mem.mpr
  intro column hmissing
  obtain ⟨hcolumn, hdiffers⟩ := mem_missingColumns.mp hmissing
  obtain ⟨other, hother, hsame⟩ := h column hcolumn
  exact Bool.false_ne_true ((hdiffers other hother).symm.trans hsame)

/-! ## All runs -/

theorem prefix_evolveToAll (table : TableRecord) (targets : List (List Column)) :
    table.columns <+: (table.evolveToAll targets).columns := by
  induction targets generalizing table with
  | nil => exact List.prefix_rfl
  | cons target targets ih => exact (prefix_evolveTo table target).trans (ih _)

theorem prefix_evolveToAll_of_prefix {earlier targets : List (List Column)}
    (h : earlier <+: targets) (table : TableRecord) :
    (table.evolveToAll earlier).columns <+: (table.evolveToAll targets).columns := by
  obtain ⟨more, rfl⟩ := h
  rw [TableRecord.evolveToAll, TableRecord.evolveToAll, List.foldl_append]
  exact prefix_evolveToAll _ more

theorem distinctNames_evolveToAll {targets : List (List Column)}
    (htable : DistinctNames table.columns) (htargets : ∀ target ∈ targets, DistinctNames target) :
    DistinctNames (table.evolveToAll targets).columns := by
  induction targets generalizing table with
  | nil => exact htable
  | cons target targets ih =>
      rw [List.forall_mem_cons] at htargets
      exact ih (distinctNames_evolveTo htable htargets.1) htargets.2

theorem covers_evolveToAll {targets : List (List Column)} (table : TableRecord)
    (h : target ∈ targets) : Covers (table.evolveToAll targets).columns target := by
  induction targets generalizing table with
  | nil => cases h
  | cons first targets ih =>
      rcases List.mem_cons.mp h with rfl | h
      · exact (covers_evolveTo table target).mono (prefix_evolveToAll _ targets)
      · exact ih _ h

/-! ## What is planned -/

variable {destination : Destination}

theorem newColumns_of_table (h : destination.table = some table) (evolves : Bool)
    (target : List Column) :
    destination.newColumns evolves target =
      if evolves then missingColumns target table.columns else [] := by
  rw [Destination.newColumns, h]

theorem Covers.settles_evolve (h : Covers table.columns target)
    (htable : destination.table = some table) (evolves : Bool) (name : TableName) :
    Settles (evolve target destination evolves name) (.ok []) ∧
      destination.align evolves target = table.columns := by
  have hmissing := h.missingColumns_eq_nil
  constructor
  · have hsettles := OrcConversion.settles_evolve target destination evolves name
    rwa [newColumns_of_table htable, hmissing, ite_self] at hsettles
  · rw [Destination.align, htable]
    simp only [hmissing, List.append_nil, ite_self]

end

/-- The columns of a table after some runs of evolution, and what further runs would plan. -/
structure AdditiveRuns (table : TableRecord) (targets : List (List Column))
    (current : TableRecord) : Prop where
  kept : ∀ earlier, earlier <+: targets →
    (table.evolveToAll earlier).columns <+: current.columns
  distinct : DistinctNames current.columns
  covered : ∀ target ∈ targets, Covers current.columns target
  announced : ∀ target destination name, destination.table = some current →
    destination.align true target = (current.evolveTo target).columns ∧
    ∃ added, (current.evolveTo target).columns = current.columns ++ added ∧
      (added = [] → Settles (evolve target destination true name) (.ok [])) ∧
      (added ≠ [] → Settles (evolve target destination true name)
        (.ok [(Statement.addColumns name added).text]))
  settled : ∀ target ∈ targets, ∀ destination evolves name, destination.table = some current →
    Settles (evolve target destination evolves name) (.ok []) ∧
      destination.align evolves target = current.columns

/-- Whatever the targets of evolution are, one after another, a table only gets new columns, those
that each run announces, and planning for one of the targets again finds nothing to do. -/
theorem evolution_runs_additive {table : TableRecord} {targets : List (List Column)}
    (htable : DistinctNames table.columns) (htargets : ∀ target ∈ targets, DistinctNames target) :
    AdditiveRuns table targets (table.evolveToAll targets) := by
  constructor
  · exact fun earlier hearlier => prefix_evolveToAll_of_prefix hearlier table
  · exact distinctNames_evolveToAll htable htargets
  · exact fun target => covers_evolveToAll table
  · intro target destination name hcurrent
    have hsettles := settles_evolve target destination true name
    rw [newColumns_of_table hcurrent, if_pos rfl] at hsettles
    refine ⟨align_of_table hcurrent target, _, columns_evolveTo _ target, ?_, ?_⟩
    · intro hnone
      rwa [hnone] at hsettles
    · intro hsome
      rwa [additions_of_ne_nil hsome] at hsettles
  · intro target htarget destination evolves name hcurrent
    exact (covers_evolveToAll table htarget).settles_evolve hcurrent evolves name

namespace Sample

/-- Targets of the table of visits, of which the last one spells the names in its own way. -/
def namings : List (List Column) :=
  [[⟨"id", "int"⟩, ⟨"name", "string"⟩], [⟨"name", "string"⟩],
    [⟨"NAME", "binary"⟩, ⟨"Id", "bigint"⟩, ⟨"url", "string"⟩]]

end Sample

open Sample in
theorem evolution_runs_additive_namings :
    let current := unnamed.evolveToAll namings
    current.columns = [⟨"ID", "bigint"⟩, ⟨"name", "string"⟩, ⟨"url", "string"⟩] ∧
      AdditiveRuns unnamed namings current ∧
      Settles (evolve [⟨"NAME", "binary"⟩, ⟨"Id", "bigint"⟩, ⟨"url", "string"⟩]
        { table := some current } true ⟨"dw", "visits"⟩) (.ok []) := by
  intro current
  have hruns := @evolution_runs_additive unnamed namings (by decide +kernel) (by decide +kernel)
  refine ⟨by decide +kernel, hruns, ?_⟩
  exact (hruns.settled _ (by simp [namings]) _ true _ rfl).1

end OrcConversion
