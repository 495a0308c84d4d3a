import OrcConversion.Conversion.Planning
import OrcConversion.Proofs.Result

/-! What is wrong with an entity or a schema is a fault of their configuration. -/

namespace OrcConversion

/-- Failures are those of the configuration. -/
abbrev BlamesConfiguration {α : Type} (result : Except Failure α) : Prop :=
  Except.Blames (fun failure => failure.kind? = some .configuration) result

theorem blames_parseToken (token : String) : BlamesConfiguration (Partition.parseToken token) := by
  unfold Partition.parseToken
  split
  · exact .ok _
  · exact .error rfl

theorem blames_readTokens (spec : PartitionSpec) (items : List (String × String)) :
    BlamesConfiguration (Partition.readTokens spec items) := by
  induction items generalizing spec with
  | nil => exact .ok spec
  | cons item rest ih =>
      apply (blames_parseToken item.1).bind
      intro token
      exact ih _

theorem blames_spec (partition : Option SourcePartition) :
    BlamesConfiguration (SourcePartition.spec partition) := by
  cases partition with
  | none => exact .ok _
  | some partition =>
      change BlamesConfiguration (Partition.readSpec partition.name partition.columnTypes)
      unfold Partition.readSpec
      simp only
      split
      · exact .ok _
      · split
        · exact .error rfl
        · split
          · exact .error rfl
          · exact blames_readTokens _ _

theorem blames_decodeSegment (keys current : List String) (segment : String) :
    BlamesConfiguration (Partition.decodeSegment keys current segment) := by
  apply Except.Blames.bind
  · apply Except.Blames.mapM
    intro token
    exact (blames_parseToken token).map _
  · intro values
    split
    · exact .error rfl
    · exact .ok _

theorem blames_decode (encoded : Option String) (keys current : List String) :
    BlamesConfiguration (Partition.decode encoded keys current) := by
  unfold Partition.decode
  split
  · exact .ok []
  · split
    · exact .error rfl
    · apply (Except.Blames.mapM (blames_decodeSegment keys current) _).bind
      intro segments
      exact .ok _

theorem blames_replacedBy (partition : Option SourcePartition) :
    BlamesConfiguration (Partition.replacedBy partition) := by
  cases partition with
  | none => exact .ok []
  | some partition =>
      simp only [Partition.replacedBy]
      split
      · exact .ok []
      · apply (Except.Blames.mapM blames_parseToken _).bind
        intro tokens
        exact blames_decode _ _ _

/-- An entity or a schema is refused for its configuration only. -/
theorem blames_checkEntity (entity : Entity) (schema : Arrow.Schema) :
    BlamesConfiguration (checkEntity entity schema) := by
  apply (blames_spec _).bind
  intro _
  apply (blames_replacedBy _).bind
  intro _
  apply Except.Blames.mapError
  intro type
  rfl

end OrcConversion
