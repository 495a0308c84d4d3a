import OrcConversion.Proofs.Hive.Statements

/-! Statements about partitions, and those that drop a table, are read back from their texts. -/

namespace OrcConversion.Hive

namespace Statement

variable (name : TableName) (values : OrderedMap String) (location : String)

def addPartitionTokens (name : TableName) (entries : List (String × String)) (location : String) :
    List Token :=
  plainTokens "ALTER TABLE " ++ nameTokens name ++ plainTokens " ADD IF NOT EXISTS " ++
    clauseTokens entries ++ plainTokens " LOCATION " ++ [.literal location]

def dropPartitionTokens (name : TableName) (entries : List (String × String)) : List Token :=
  plainTokens "ALTER TABLE " ++ nameTokens name ++ plainTokens " DROP IF EXISTS " ++
    clauseTokens entries

def dropTableTokens (name : TableName) : List Token :=
  plainTokens "DROP TABLE IF EXISTS " ++ nameTokens name

/-- The fixed part of the statements with so many partition keys. -/
def addPartitionSkeleton (count : Nat) : List Token :=
  addPartitionTokens ⟨"", ""⟩ (List.replicate count ("", "")) ""

def dropPartitionSkeleton (count : Nat) : List Token :=
  dropPartitionTokens ⟨"", ""⟩ (List.replicate count ("", ""))

def dropTableSkeleton : List Token := dropTableTokens ⟨"", ""⟩

theorem addPartition_readsAs :
    ReadsAs (addPartition name values location).text (addPartitionSkeleton values.entries.length)
      (nameParts name ++ (values.entries.flatMap entryParts ++ [.literal location])) := by
  have hfront : IsPlain "ALTER TABLE " := by decide
  have hadd : IsPlain " ADD IF NOT EXISTS " := by decide
  have hlocation : IsPlain " LOCATION " := by decide
  refine ⟨addPartitionTokens name values.entries location, ?_, ?_, ?_⟩
  · rw [← List.append_nil (addPartition name values location).text.toList, addPartition_text]
    simp only [alteration, String.toList_append, List.append_assoc]
    rw [scan_plain hfront, scan_name name (by simp [identifierMark]), scan_plain hadd,
      scan_partitionClause, scan_plain hlocation, scan_quoteLiteral]
    simp [scan, addPartitionTokens]
  · simp only [addPartitionTokens, addPartitionSkeleton, List.map_append, erase_plainTokens,
      erase_clauseTokens]
    rfl
  · simp only [addPartitionTokens, List.filter_append, filter_plainTokens, filter_clauseTokens,
      List.nil_append, List.append_assoc]
    rfl

theorem dropPartition_readsAs :
    ReadsAs (dropPartition name values).text (dropPartitionSkeleton values.entries.length)
      (nameParts name ++ (values.entries.flatMap entryParts ++ [])) := by
  have hfront : IsPlain "ALTER TABLE " := by decide
  have hdrop : IsPlain " DROP IF EXISTS " := by decide
  refine ⟨dropPartitionTokens name values.entries, ?_, ?_, ?_⟩
  · rw [← List.append_nil (dropPartition name values).text.toList, dropPartition_text]
    simp only [alteration, String.toList_append, List.append_assoc]
    rw [scan_plain hfront, scan_name name (by simp [identifierMark]), scan_plain hdrop,
      scan_partitionClause]
    simp [scan, dropPartitionTokens]
  · simp only [dropPartitionTokens, dropPartitionSkeleton, List.map_append, erase_plainTokens,
      erase_clauseTokens]
    rfl
  · simp only [dropPartitionTokens, List.filter_append, filter_plainTokens, filter_clauseTokens,
      List.nil_append, List.append_nil]
    rfl

theorem dropTable_readsAs : ReadsAs (dropTable name).text dropTableSkeleton (nameParts name) := by
  have hfront : IsPlain "DROP TABLE IF EXISTS " := by decide
  refine ⟨dropTableTokens name, ?_, ?_, ?_⟩
  · have htext : (dropTable name).text = "DROP TABLE IF EXISTS " ++ name.text := rfl
    rw [← List.append_nil (dropTable name).text.toList, htext, String.toList_append,
      List.append_assoc, scan_plain hfront, scan_name name (by simp)]
    simp [scan, dropTableTokens]
  · rw [dropTableTokens, dropTableSkeleton, List.map_append, erase_plainTokens]
    rfl
  · rw [dropTableTokens, List.filter_append, filter_plainTokens]
    rfl

theorem addPartition_text_inj {left right : TableName} {values others : OrderedMap String}
    {location place : String}
    (h : (addPartition left values location).text = (addPartition right others place).text) :
    left = right ∧ values = others ∧ location = place := by
  have hparts := (addPartition_readsAs left values location).parts_unique
    (addPartition_readsAs right others place) h
  obtain ⟨hname, hrest⟩ := nameParts_append_inj hparts
  obtain ⟨hentries, hlocation⟩ := flatMap_entryParts_append_inj (by simp) (by simp) hrest
  refine ⟨hname, OrderedMap.ext hentries, ?_⟩
  simpa using hlocation

theorem dropPartition_text_inj {left right : TableName} {values others : OrderedMap String}
    (h : (dropPartition left values).text = (dropPartition right others).text) :
    left = right ∧ values = others := by
  have hparts := (dropPartition_readsAs left values).parts_unique
    (dropPartition_readsAs right others) h
  obtain ⟨hname, hrest⟩ := nameParts_append_inj hparts
  obtain ⟨hentries, -⟩ := flatMap_entryParts_append_inj (by simp) (by simp) hrest
  exact ⟨hname, OrderedMap.ext hentries⟩

theorem dropTable_text_inj {left right : TableName}
    (h : (dropTable left).text = (dropTable right).text) : left = right := by
  have hparts := (dropTable_readsAs left).parts_unique (dropTable_readsAs right) h
  have hnil : nameParts left ++ [] = nameParts right ++ [] := by rw [hparts]
  exact (nameParts_append_inj hnil).1

/-- Statements about partitions, and those that drop a table, are read back from their texts,
whatever characters their arguments hold: the words around the quoted parts depend on the number of
partition keys only, and the quoted parts are the arguments in order. So texts of one kind are equal
just when all arguments are. -/
theorem partition_statements_read_back :
    (∀ name values location,
      ReadsAs (addPartition name values location).text
        (addPartitionSkeleton values.entries.length)
        (nameParts name ++ (values.entries.flatMap entryParts ++ [.literal location]))) ∧
    (∀ name values,
      ReadsAs (dropPartition name values).text (dropPartitionSkeleton values.entries.length)
        (nameParts name ++ (values.entries.flatMap entryParts ++ []))) ∧
    (∀ name, ReadsAs (dropTable name).text dropTableSkeleton (nameParts name)) ∧
    (∀ left right values others location place,
      (addPartition left values location).text = (addPartition right others place).text ↔
        left = right ∧ values = others ∧ location = place) ∧
    (∀ left right values others,
      (dropPartition left values).text = (dropPartition right others).text ↔
        left = right ∧ values = others) ∧
    (∀ left right, (dropTable left).text = (dropTable right).text ↔ left = right) := by
  refine ⟨addPartition_readsAs, dropPartition_readsAs, dropTable_readsAs, ?_, ?_, ?_⟩
  · intro left right values others location place
    refine ⟨addPartition_text_inj, ?_⟩
    rintro ⟨rfl, rfl, rfl⟩
    rfl
  · intro left right values others
    refine ⟨dropPartition_text_inj, ?_⟩
    rintro ⟨rfl, rfl⟩
    rfl
  · intro left right
    exact ⟨dropTable_text_inj, congrArg fun name => (dropTable name).text⟩

end Statement

end OrcConversion.Hive
