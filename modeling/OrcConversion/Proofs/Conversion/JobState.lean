import OrcConversion.Conversion.JobState
import OrcConversion.Proofs.Json.Values
import OrcConversion.Proofs.Raw.Accepted

/-! A publish plan survives the state of a job. -/

namespace OrcConversion

open Text

namespace Raw

open Json

theorem properties_stringMembers (map : OrderedMap CodeText CodeText) :
    properties (Json.stringMembers map.entries) = .valid map := by
  have hnames : (Json.stringMembers map.entries).NamesOnce := by
    change (Entries.keys (stringEntries map.entries)).Nodup
    rw [keys_stringEntries]
    exact map.nodup
  exact (properties_eq_valid hnames).mpr rfl

end Raw

/-- A plan whose texts hold nothing but characters. -/
structure PublishPlan.HasChars (plan : PublishPlan CodeText) : Prop where
  publishStatements : ∀ text ∈ plan.publishStatements, Json.HasChars text
  publishDirectories : ∀ entry ∈ plan.publishDirectories.entries,
    Json.HasChars entry.1 ∧ Json.HasChars entry.2
  cleanupStatements : ∀ text ∈ plan.cleanupStatements, Json.HasChars text
  cleanupDirectories : ∀ text ∈ plan.cleanupDirectories, Json.HasChars text

namespace JobState

open Raw

/-- The state that keeps a plan. -/
def keeping (plan : PublishPlan CodeText) : Found :=
  .ofList ((ofPlan plan).map fun (key, value) => (key, .string value))

section

variable {nesting : Json.Nesting} {state : Found} {key : String} {text : CodeText} {value : Json}

theorem readKey_of_lookup (hlookup : state.lookup? key = some (.string text))
    (hread : Json.read nesting text = .ok value) (absent : Json) :
    readKey nesting state key absent = .ok value := by
  rw [readKey, hlookup]
  change (Json.read nesting text).mapError Failure.ofReadFault = _
  rw [hread]
  rfl

theorem readList_of_lookup {values : List Json} (hlookup : state.lookup? key = some (.string text))
    (hread : Json.read nesting text = .ok (.array values)) :
    readList nesting state key = .ok values := by
  rw [readList, readKey_of_lookup hlookup hread]
  rfl

theorem readMoveAfter_of_lookup (hlookup : state.lookup? moveAfterKey = some (.string text))
    (count : Nat) :
    readMoveAfter nesting state count = (Json.read nesting text).mapError Failure.ofReadFault := by
  rw [readMoveAfter, hlookup]
  rfl

theorem rawPlan_of_reads {publishStatements cleanupStatements cleanupDirectories : List Json}
    {publishDirectories : Json} {moveAfter : Except Failure Json}
    (hstatements : readList nesting state publishStatementsKey = .ok publishStatements)
    (hdirectories :
      readKey nesting state publishDirectoriesKey (.object []) = .ok publishDirectories)
    (hcleanup : readList nesting state cleanupStatementsKey = .ok cleanupStatements)
    (hdeleted : readList nesting state cleanupDirectoriesKey = .ok cleanupDirectories)
    (hmove : readMoveAfter nesting state publishStatements.length = moveAfter) :
    rawPlan nesting state = moveAfter.map fun moveAfter => .object [
      ("publish_statements", .array publishStatements),
      ("publish_directories", publishDirectories),
      ("cleanup_statements", .array cleanupStatements),
      ("cleanup_directories", .array cleanupDirectories),
      ("move_after", moveAfter)] := by
  rw [rawPlan, hstatements, hdirectories, hcleanup, hdeleted]
  change (readMoveAfter nesting state publishStatements.length >>= _) = _
  rw [hmove]
  cases moveAfter with
  | ok value => rfl
  | error failure => rfl

end

variable {nesting : Json.Nesting} {plan : PublishPlan CodeText}

/-- Raw record of a plan. -/
def rawRecord (plan : PublishPlan CodeText) : Json :=
  .object [
    ("publish_statements", Json.strings plan.publishStatements),
    ("publish_directories", Json.stringMembers plan.publishDirectories.entries),
    ("cleanup_statements", Json.strings plan.cleanupStatements),
    ("cleanup_directories", Json.strings plan.cleanupDirectories),
    ("move_after", .integer plan.moveAfter)]

theorem rawPlan_keeping (hchars : plan.HasChars) :
    rawPlan nesting (keeping plan) =
      if plan.moveAfter < 10 ^ Text.digitLimit then .ok (rawRecord plan)
      else .error (.ofReadFault .integerTooLong) := by
  have hmove : readMoveAfter nesting (keeping plan) _ = _ :=
    readMoveAfter_of_lookup rfl (plan.publishStatements.map Json.string).length
  rw [Json.read_render_natural] at hmove
  rw [rawPlan_of_reads
    (readList_of_lookup rfl (Json.read_render_strings nesting hchars.publishStatements))
    (readKey_of_lookup rfl (Json.read_render_stringMembers nesting plan.publishDirectories.nodup
      hchars.publishDirectories) _)
    (readList_of_lookup rfl (Json.read_render_strings nesting hchars.cleanupStatements))
    (readList_of_lookup rfl (Json.read_render_strings nesting hchars.cleanupDirectories)) hmove]
  split
  · rfl
  · rfl

theorem readPublishPlan_rawRecord (plan : PublishPlan CodeText) :
    readPublishPlan (rawRecord plan) = .ok plan := by
  apply readPublishPlan_eq_ok.mpr
  refine ⟨?_, ?_, ?_, ?_, ?_⟩
  · exact (withDefault_eq_valid rfl).mpr (texts_eq_valid.mpr rfl)
  · exact (withDefault_eq_valid rfl).mpr (properties_stringMembers plan.publishDirectories)
  · exact (withDefault_eq_valid rfl).mpr (texts_eq_valid.mpr rfl)
  · exact (withDefault_eq_valid rfl).mpr (texts_eq_valid.mpr rfl)
  · exact (withDefault_eq_valid rfl).mpr rfl

theorem toPlan_keeping_iff (hchars : plan.HasChars) :
    toPlan nesting (keeping plan) = .ok plan ↔ plan.moveAfter < 10 ^ Text.digitLimit := by
  rw [toPlan, Except.mapError_eq_ok, rawPlan_keeping hchars]
  by_cases h : plan.moveAfter < 10 ^ Text.digitLimit
  · rw [if_pos h]
    exact ⟨fun _ => h, fun _ => readPublishPlan_rawRecord plan⟩
  · rw [if_neg h]
    constructor
    · intro herror
      cases herror
    · exact fun hshort => absurd hshort h

/-- No list has more items: their number is a signed word of 64 bits. -/
def lengthLimit : Nat := 9223372036854775807

theorem lengthLimit_lt_pow_digitLimit : lengthLimit < 10 ^ Text.digitLimit :=
  calc
    lengthLimit < 10 ^ 19 := by decide
    _ ≤ 10 ^ Text.digitLimit := Nat.pow_le_pow_right (by decide) (by decide)

/-- A plan of texts of characters is read back from the state that keeps it. Only a point of the
move with more digits than are read would prevent that, and no list of statements is that long. -/
theorem toPlan_keeping (nesting : Json.Nesting) (plan : PublishPlan CodeText)
    (hchars : plan.HasChars) :
    (toPlan nesting (keeping plan) = .ok plan ↔ plan.moveAfter < 10 ^ Text.digitLimit) ∧
    (plan.publishStatements.length ≤ lengthLimit →
      toPlan nesting (keeping plan) = .ok plan) := by
  refine ⟨toPlan_keeping_iff hchars, ?_⟩
  intro hlength
  apply (toPlan_keeping_iff hchars).mpr
  calc
    plan.moveAfter ≤ plan.publishStatements.length := plan.moveAfter_le
    _ ≤ lengthLimit := hlength
    _ < 10 ^ Text.digitLimit := lengthLimit_lt_pow_digitLimit

/-- Statements between which a directory is moved, with characters that are escaped. -/
def Sample.moving : PublishPlan CodeText where
  publishStatements := ["say \"é\"", "back\\slash 😀"]
  publishDirectories := .ofList [("/staging/a", "/final/a")]
  cleanupStatements := ["tab\t"]
  cleanupDirectories := ["/staging"]
  moveAfter := 1
  moveAfter_le := by decide

theorem toPlan_keeping_moving :
    Sample.moving.HasChars ∧
      toPlan Json.Sample.nesting (keeping Sample.moving) = .ok Sample.moving := by
  have hchars : Sample.moving.HasChars := by
    constructor
    · simp [Sample.moving, Json.HasChars]
    · intro entry hmem
      obtain rfl := List.mem_singleton.mp (OrderedMap.mem_of_mem_ofList hmem)
      exact ⟨⟨_, rfl⟩, ⟨_, rfl⟩⟩
    · simp [Sample.moving, Json.HasChars]
    · simp [Sample.moving, Json.HasChars]
  exact ⟨hchars, (toPlan_keeping Json.Sample.nesting Sample.moving hchars).2 (by decide)⟩

end JobState

end OrcConversion
