import OrcConversion.Proofs.Conversion.JobState
import OrcConversion.Proofs.Workflow.Halting

/-! Which states of a job are read as publish plans, and how the others are refused. -/

namespace OrcConversion

open Text

namespace Json

/-- Values that are taken for lists of texts: arrays of texts, but also texts, for the list of their
code points, and objects, for the list of their names. -/
inductive TakenForTexts : Json → List CodeText → Prop where
  | items (texts : List CodeText) : TakenForTexts (strings texts) texts
  | points (text : CodeText) :
      TakenForTexts (.string text) (text.points.map fun point => ⟨[point]⟩)
  | names (entries : List (CodeText × Json)) :
      TakenForTexts (.object entries) (Entries.keys entries)

/-- Values other than arrays that are taken for lists. -/
def PosesAsList : Json → Prop
  | .string _ => True
  | .object _ => True
  | _ => False

section

variable {value : Json} {texts : List CodeText}

theorem takenForTexts_of_areTexts (h : AreTexts value texts) : TakenForTexts value texts := by
  cases h
  exact .items texts

theorem areTexts_of_takenForTexts (hposes : ¬ value.PosesAsList)
    (h : TakenForTexts value texts) : AreTexts value texts := by
  cases h with
  | items => rfl
  | points text => exact absurd trivial hposes
  | names entries => exact absurd trivial hposes

end

end Json

namespace Raw

open Json

theorem map_string_injective : Function.Injective (List.map Json.string) :=
  List.map_injective_iff.mpr fun _ _ => Json.string.inj

/-- What is taken for a list of texts is a list of texts once its elements are taken. -/
theorem takenForTexts_iff {value : Json} {texts : List CodeText} :
    TakenForTexts value texts ↔ elements value = .ok (texts.map .string) := by
  constructor
  · intro h
    cases h with
    | items => rfl
    | points text => simp [elements]
    | names entries => simp [elements, Entries.keys]
  · intro h
    cases value with
    | array values =>
        cases h
        exact .items texts
    | string text =>
        have hpoints : text.points.map (fun point => (⟨[point]⟩ : CodeText)) = texts := by
          apply map_string_injective
          rw [List.map_map]
          exact Except.ok.inj h
        exact hpoints ▸ .points text
    | object entries =>
        have hnames : Entries.keys entries = texts := by
          apply map_string_injective
          rw [Entries.keys, List.map_map]
          exact Except.ok.inj h
        exact hnames ▸ .names entries
    | _ => cases h

end Raw

namespace JobState

open Json Raw

/-- A state of texts, as it is found. -/
def ofTexts (state : OrderedMap CodeText) : Found where
  entries := state.entries.map fun entry => (entry.1, .string entry.2)
  nodup := by simpa [Entries.keys, Function.comp_def] using state.nodup

/-- The value that an entry of a state holds: its text is JSON for the value. An entry that is
absent counts as holding some value. -/
def Holds (nesting : Nesting) (state : OrderedMap CodeText) (key : String)
    (absent value : Json) : Prop :=
  match state.lookup? key with
  | none => value = absent
  | some text => Json.read nesting text = .ok value

/-- A state that holds all of a plan, with some way of writing lists of texts. -/
structure Keeps (Writes : Json → List CodeText → Prop) (nesting : Nesting)
    (state : OrderedMap CodeText) (plan : PublishPlan CodeText) : Prop where
  publishStatements : ∃ value, Holds nesting state publishStatementsKey (.array []) value ∧
    Writes value plan.publishStatements
  publishDirectories : ∃ value, Holds nesting state publishDirectoriesKey (.object []) value ∧
    IsTextMap value plan.publishDirectories
  cleanupStatements : ∃ value, Holds nesting state cleanupStatementsKey (.array []) value ∧
    Writes value plan.cleanupStatements
  cleanupDirectories : ∃ value, Holds nesting state cleanupDirectoriesKey (.array []) value ∧
    Writes value plan.cleanupDirectories
  moveAfter : ∃ value,
    Holds nesting state moveAfterKey (.integer plan.publishStatements.length) value ∧
    integer value = .valid plan.moveAfter

section

variable {nesting : Nesting} {state : OrderedMap CodeText} {key : String} {absent value : Json}

theorem lookup?_ofTexts (state : OrderedMap CodeText) (key : String) :
    (ofTexts state).lookup? key = (state.lookup? key).map Json.string := by
  change Option.map _ (List.find? _ (List.map _ _)) = _
  rw [List.find?_map, Option.map_map, OrderedMap.lookup?, Entries.lookup?, Option.map_map]
  rfl

theorem readKey_eq_ok : readKey nesting (ofTexts state) key absent = .ok value ↔
    Holds nesting state key absent value := by
  rw [readKey, lookup?_ofTexts, Holds]
  cases state.lookup? key with
  | none => exact ⟨fun h => (Except.ok.inj h).symm, fun h => h ▸ rfl⟩
  | some text => exact Except.mapError_eq_ok

theorem readMoveAfter_eq_ok {count : Nat} :
    readMoveAfter nesting (ofTexts state) count = .ok value ↔
      Holds nesting state moveAfterKey (.integer count) value := by
  rw [readMoveAfter, lookup?_ofTexts, Holds]
  cases state.lookup? moveAfterKey with
  | none => exact ⟨fun h => (Except.ok.inj h).symm, fun h => h ▸ rfl⟩
  | some text => exact Except.mapError_eq_ok

theorem readList_eq_ok {texts : List CodeText} :
    readList nesting (ofTexts state) key = .ok (texts.map .string) ↔
      ∃ value, Holds nesting state key (.array []) value ∧ TakenForTexts value texts := by
  simp only [readList, Except.bind_eq_ok, readKey_eq_ok, takenForTexts_iff]

theorem namesOnce_of_holds (habsent : absent.NamesOnce) (h : Holds nesting state key absent value) :
    value.NamesOnce := by
  unfold Holds at h
  split at h
  · rwa [h]
  · exact namesOnce_read h

end

/-! ## States that are accepted -/

theorem rawPlan_eq_ok {nesting : Nesting} {found : Found} {raw : Json} :
    rawPlan nesting found = .ok raw ↔
      ∃ publishStatements publishDirectories cleanupStatements cleanupDirectories moveAfter,
        readList nesting found publishStatementsKey = .ok publishStatements ∧
        readKey nesting found publishDirectoriesKey (.object []) = .ok publishDirectories ∧
        readList nesting found cleanupStatementsKey = .ok cleanupStatements ∧
        readList nesting found cleanupDirectoriesKey = .ok cleanupDirectories ∧
        readMoveAfter nesting found publishStatements.length = .ok moveAfter ∧
        raw = .object [
          ("publish_statements", .array publishStatements),
          ("publish_directories", publishDirectories),
          ("cleanup_statements", .array cleanupStatements),
          ("cleanup_directories", .array cleanupDirectories),
          ("move_after", moveAfter)] := by
  constructor
  · intro h
    obtain ⟨statements, hstatements, h⟩ := Except.bind_eq_ok.mp h
    obtain ⟨directories, hdirectories, h⟩ := Except.bind_eq_ok.mp h
    obtain ⟨cleanup, hcleanup, h⟩ := Except.bind_eq_ok.mp h
    obtain ⟨deleted, hdeleted, h⟩ := Except.bind_eq_ok.mp h
    obtain ⟨move, hmove, h⟩ := Except.bind_eq_ok.mp h
    exact ⟨statements, directories, cleanup, deleted, move, hstatements, hdirectories, hcleanup,
      hdeleted, hmove, (Except.ok.inj h).symm⟩
  · rintro ⟨statements, directories, cleanup, deleted, move, hstatements, hdirectories, hcleanup,
      hdeleted, hmove, rfl⟩
    rw [rawPlan_of_reads hstatements hdirectories hcleanup hdeleted hmove]
    rfl

theorem toPlan_ofTexts_eq_ok {nesting : Nesting} {state : OrderedMap CodeText}
    {plan : PublishPlan CodeText} :
    toPlan nesting (ofTexts state) = .ok plan ↔ Keeps TakenForTexts nesting state plan := by
  rw [toPlan, Except.mapError_eq_ok, Except.bind_eq_ok]
  have hnone : (Json.object []).NamesOnce := List.nodup_nil
  constructor
  · rintro ⟨raw, hraw, hplan⟩
    obtain ⟨statements, directories, cleanup, deleted, move, hstatements, hdirectories, hcleanup,
      hdeleted, hmove, rfl⟩ := rawPlan_eq_ok.mp hraw
    obtain ⟨hexecuted, hmoved, hdropped, hgone, hpoint⟩ := readPublishPlan_eq_ok.mp hplan
    cases texts_eq_valid.mp ((withDefault_eq_valid rfl).mp hexecuted)
    cases texts_eq_valid.mp ((withDefault_eq_valid rfl).mp hdropped)
    cases texts_eq_valid.mp ((withDefault_eq_valid rfl).mp hgone)
    have hholds := readKey_eq_ok.mp hdirectories
    have hmoves := readMoveAfter_eq_ok.mp hmove
    rw [List.length_map] at hmoves
    constructor
    · exact readList_eq_ok.mp hstatements
    · exact ⟨directories, hholds, (properties_eq_valid (namesOnce_of_holds hnone hholds)).mp
        ((withDefault_eq_valid rfl).mp hmoved)⟩
    · exact readList_eq_ok.mp hcleanup
    · exact readList_eq_ok.mp hdeleted
    · exact ⟨move, hmoves, (withDefault_eq_valid rfl).mp hpoint⟩
  · intro hkeeps
    have hstatements := readList_eq_ok.mpr hkeeps.publishStatements
    obtain ⟨directories, hdirectories, hmoved⟩ := hkeeps.publishDirectories
    have hcleanup := readList_eq_ok.mpr hkeeps.cleanupStatements
    have hdeleted := readList_eq_ok.mpr hkeeps.cleanupDirectories
    obtain ⟨move, hmove, hpoint⟩ := hkeeps.moveAfter
    rw [← List.length_map Json.string] at hmove
    refine ⟨_, rawPlan_eq_ok.mpr ⟨_, directories, _, _, move, hstatements,
      readKey_eq_ok.mpr hdirectories, hcleanup, hdeleted, readMoveAfter_eq_ok.mpr hmove, rfl⟩,
      readPublishPlan_eq_ok.mpr ⟨?_, ?_, ?_, ?_, ?_⟩⟩
    · exact (withDefault_eq_valid rfl).mpr (texts_eq_valid.mpr rfl)
    · exact (withDefault_eq_valid rfl).mpr
        ((properties_eq_valid (namesOnce_of_holds hnone hdirectories)).mpr hmoved)
    · exact (withDefault_eq_valid rfl).mpr (texts_eq_valid.mpr rfl)
    · exact (withDefault_eq_valid rfl).mpr (texts_eq_valid.mpr rfl)
    · exact (withDefault_eq_valid rfl).mpr hpoint

/-! ## States that are refused -/

/-- Keys of the entries that are read. -/
def stateKeys : List String :=
  [publishStatementsKey, publishDirectoriesKey, cleanupStatementsKey, cleanupDirectoriesKey,
    moveAfterKey]

/-- The text of an entry cannot be read. -/
def UnreadableEntry (nesting : Nesting) (state : OrderedMap CodeText) (fault : ReadFault) : Prop :=
  ∃ key ∈ stateKeys, ∃ text, state.lookup? key = some text ∧ Json.read nesting text = .error fault

section

variable {nesting : Nesting} {state : OrderedMap CodeText} {key : String}

/-- Failures before the record of a plan is put together. -/
def RawFailure (nesting : Nesting) (state : OrderedMap CodeText) (failure : Failure) : Prop :=
  failure = .foreign .wrongType ∨
    ∃ fault, UnreadableEntry nesting state fault ∧ failure = .ofReadFault fault

theorem blames_readEntry (hkey : key ∈ stateKeys) {text : CodeText}
    (h : state.lookup? key = some text) :
    Except.Blames (RawFailure nesting state) (readEntry nesting (.string text)) := by
  change Except.Blames _ ((Json.read nesting text).mapError _)
  cases hread : Json.read nesting text with
  | ok value => exact .ok value
  | error fault => exact .error (.inr ⟨fault, ⟨key, hkey, text, h, hread⟩, rfl⟩)

theorem blames_readKey (hkey : key ∈ stateKeys) (absent : Json) :
    Except.Blames (RawFailure nesting state) (readKey nesting (ofTexts state) key absent) := by
  rw [readKey, lookup?_ofTexts]
  cases hlookup : state.lookup? key with
  | none => exact .ok absent
  | some text => exact blames_readEntry hkey hlookup

theorem blames_readMoveAfter (count : Nat) :
    Except.Blames (RawFailure nesting state) (readMoveAfter nesting (ofTexts state) count) := by
  rw [readMoveAfter, lookup?_ofTexts]
  cases hlookup : state.lookup? moveAfterKey with
  | none => exact .ok _
  | some text => exact blames_readEntry (by simp [stateKeys]) hlookup

theorem blames_readList (hkey : key ∈ stateKeys) :
    Except.Blames (RawFailure nesting state) (readList nesting (ofTexts state) key) := by
  apply (blames_readKey hkey _).bind
  intro value
  cases value with
  | array values => exact .ok _
  | string text => exact .ok _
  | object entries => exact .ok _
  | _ => exact .error (.inl rfl)

theorem blames_rawPlan (nesting : Nesting) (state : OrderedMap CodeText) :
    Except.Blames (RawFailure nesting state) (rawPlan nesting (ofTexts state)) := by
  apply (blames_readList (by simp [stateKeys])).bind
  intro publishStatements
  apply (blames_readKey (by simp [stateKeys]) _).bind
  intro publishDirectories
  apply (blames_readList (by simp [stateKeys])).bind
  intro cleanupStatements
  apply (blames_readList (by simp [stateKeys])).bind
  intro cleanupDirectories
  apply (blames_readMoveAfter _).bind
  intro moveAfter
  exact .ok _

theorem isKind_wrapFailure_or {failure : Failure} (h : RawFailure nesting state failure) :
    (wrapFailure failure).IsKind .publishing ∨
      ∃ fault, UnreadableEntry nesting state fault ∧
        (fault = .integerTooLong ∨ fault = .nestedTooDeep) ∧
        wrapFailure failure = .ofReadFault fault := by
  rcases h with rfl | ⟨fault, hfault, rfl⟩
  · exact .inl rfl
  · cases fault with
    | malformed found offset line column => exact .inl rfl
    | integerTooLong => exact .inr ⟨_, hfault, .inl rfl, rfl⟩
    | nestedTooDeep => exact .inr ⟨_, hfault, .inr rfl, rfl⟩

theorem blames_toPlan (nesting : Nesting) (state : OrderedMap CodeText) :
    Except.Blames
      (fun failure => failure.IsKind .publishing ∨
        ∃ fault, UnreadableEntry nesting state fault ∧
          (fault = .integerTooLong ∨ fault = .nestedTooDeep) ∧ failure = .ofReadFault fault)
      (toPlan nesting (ofTexts state)) := by
  have hplan := ((blames_rawPlan nesting state).imp fun _ => Or.inl).bind fun raw =>
    (blames_readPublishPlan raw).imp fun _ => Or.inr
  refine hplan.mapError_of ?_
  rintro failure (hread | ⟨problems, rfl⟩ | ⟨fault, rfl⟩)
  · exact isKind_wrapFailure_or hread
  · exact .inl rfl
  · exact .inl rfl

end

/-- Keys of the entries that hold lists. -/
def listKeys : List String :=
  [publishStatementsKey, cleanupStatementsKey, cleanupDirectoriesKey]

theorem Keeps.imp {nesting : Nesting} {Writes Other : Json → List CodeText → Prop}
    {state : OrderedMap CodeText} {plan : PublishPlan CodeText} (h : Keeps Writes nesting state plan)
    (himp : ∀ key ∈ listKeys, ∀ value, Holds nesting state key (.array []) value →
      ∀ texts, Writes value texts → Other value texts) : Keeps Other nesting state plan := by
  have hlist : ∀ key ∈ listKeys, ∀ texts,
      (∃ value, Holds nesting state key (.array []) value ∧ Writes value texts) →
      ∃ value, Holds nesting state key (.array []) value ∧ Other value texts := by
    rintro key hkey texts ⟨value, hholds, hwrites⟩
    exact ⟨value, hholds, himp key hkey value hholds texts hwrites⟩
  constructor
  · exact hlist _ (by simp [listKeys]) _ h.publishStatements
  · exact h.publishDirectories
  · exact hlist _ (by simp [listKeys]) _ h.cleanupStatements
  · exact hlist _ (by simp [listKeys]) _ h.cleanupDirectories
  · exact h.moveAfter

/-- A state of texts is accepted just when it holds a plan, where texts and objects are taken for
lists as well; so every state that is well formed is accepted, and, unless an entry for a list holds
a text or an object, no other. States are refused with a failure to publish, unless an entry is too
long or too deep to be read. -/
theorem toPlan_ofTexts (nesting : Nesting) (state : OrderedMap CodeText) :
    (∀ plan, toPlan nesting (ofTexts state) = .ok plan ↔ Keeps TakenForTexts nesting state plan) ∧
    (∀ plan, Keeps AreTexts nesting state plan → toPlan nesting (ofTexts state) = .ok plan) ∧
    ((∀ key ∈ listKeys, ∀ value, Holds nesting state key (.array []) value → ¬ value.PosesAsList) →
      ∀ plan, toPlan nesting (ofTexts state) = .ok plan → Keeps AreTexts nesting state plan) ∧
    ∀ failure, toPlan nesting (ofTexts state) = .error failure →
      failure.IsKind .publishing ∨
        ∃ fault, UnreadableEntry nesting state fault ∧
          (fault = .integerTooLong ∨ fault = .nestedTooDeep) ∧ failure = .ofReadFault fault := by
  refine ⟨fun plan => toPlan_ofTexts_eq_ok, ?_, ?_, blames_toPlan nesting state⟩
  · intro plan hkeeps
    exact toPlan_ofTexts_eq_ok.mpr
      (hkeeps.imp fun _ _ _ _ _ htexts => takenForTexts_of_areTexts htexts)
  · intro hlists plan hplan
    apply (toPlan_ofTexts_eq_ok.mp hplan).imp
    intro key hkey value hholds texts htexts
    exact areTexts_of_takenForTexts (hlists key hkey value hholds) htexts

/-- The state of a plan with one statement, which runs before its directories are moved. -/
def Sample.kept : OrderedMap CodeText :=
  .ofList [(publishStatementsKey, "[\"A\"]"), (moveAfterKey, "\"1\"")]

theorem toPlan_ofTexts_kept :
    ∃ plan, toPlan Json.Sample.nesting (ofTexts Sample.kept) = .ok plan ∧
      plan.publishStatements = [.ofString "A"] ∧
      Keeps AreTexts Json.Sample.nesting Sample.kept plan := by
  have hlists : ∀ key ∈ listKeys, ∀ value,
      Holds Json.Sample.nesting Sample.kept key (.array []) value → ¬ value.PosesAsList := by
    simp only [listKeys, List.forall_mem_cons]
    refine ⟨?_, ?_, ?_, by simp⟩
    · intro value hholds
      have hread : Json.read Json.Sample.nesting "[\"A\"]" = .ok (.array [.string "A"]) := rfl
      cases hread.symm.trans hholds
      exact id
    · rintro value rfl
      exact id
    · rintro value rfl
      exact id
  obtain ⟨plan, hplan, hstatements⟩ : ∃ plan,
      toPlan Json.Sample.nesting (ofTexts Sample.kept) = .ok plan ∧
        plan.publishStatements = [.ofString "A"] := ⟨_, rfl, rfl⟩
  exact ⟨plan, hplan, hstatements,
    (toPlan_ofTexts Json.Sample.nesting Sample.kept).2.2.1 hlists plan hplan⟩

/-- A point of the move with too many digits is not refused as a broken state. -/
theorem toPlan_ofTexts_integerTooLong {nesting : Nesting} {text : CodeText}
    (h : Json.read nesting text = .error .integerTooLong) :
    toPlan nesting (ofTexts (.ofList [(moveAfterKey, text)])) = .error (.foreign .wrongValue) := by
  have hlookup : (ofTexts (.ofList [(moveAfterKey, text)])).lookup? moveAfterKey =
      some (.string text) := rfl
  have hmove := @readMoveAfter_of_lookup nesting _ _ hlookup 0
  have hlist : ∀ key ∈ listKeys,
      readList nesting (ofTexts (.ofList [(moveAfterKey, text)])) key = .ok [] := by
    simp only [listKeys, List.forall_mem_cons]
    exact ⟨rfl, rfl, rfl, by simp⟩
  rw [h] at hmove
  rw [toPlan, rawPlan_of_reads (hlist _ (by simp [listKeys])) rfl (hlist _ (by simp [listKeys]))
    (hlist _ (by simp [listKeys])) hmove]
  rfl

/-- A text where a list of statements belongs. -/
def Sample.posing : OrderedMap CodeText :=
  .ofList [(publishStatementsKey, "\"ab\"")]

/-- A point of the move with one digit more than are read. -/
def Sample.overlong : OrderedMap CodeText :=
  .ofList [(moveAfterKey, (Json.integer (10 ^ Text.digitLimit : Nat)).render)]

/-- A text is taken for the list of its characters, though no plan is written that way, and a number
with too many digits fails with a fault of its own. -/
theorem toPlan_ofTexts_misled :
    (∃ plan, toPlan Json.Sample.nesting (ofTexts Sample.posing) = .ok plan ∧
      plan.publishStatements = [.ofString "a", .ofString "b"]) ∧
    (∀ plan, ¬ Keeps AreTexts Json.Sample.nesting Sample.posing plan) ∧
    ∃ failure, toPlan Json.Sample.nesting (ofTexts Sample.overlong) = .error failure ∧
      ¬ failure.IsKind .publishing := by
  refine ⟨⟨_, rfl, rfl⟩, ?_, .foreign .wrongValue, ?_, ?_⟩
  · intro plan hkeeps
    obtain ⟨value, hholds, htexts⟩ := hkeeps.publishStatements
    have hread : Json.read Json.Sample.nesting "\"ab\"" = .ok (.string "ab") := rfl
    cases hread.symm.trans hholds
    cases htexts
  · apply toPlan_ofTexts_integerTooLong
    rw [Json.read_render_natural, if_neg (Nat.lt_irrefl _)]
  · intro hkind
    cases hkind

end JobState

end OrcConversion
