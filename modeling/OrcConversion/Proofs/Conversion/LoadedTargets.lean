import OrcConversion.Proofs.Conversion.PropertyLists
import OrcConversion.Proofs.Workflow.Halting

/-! Targets read from the properties of a job. -/

namespace OrcConversion

open Text

theorem Target.fault?_eq_none {target : Target} : target.fault? = none ↔
    (target.clusterBy ≠ [] → target.bucketCount.isSome = true) ∧
      (∀ count, target.bucketCount = some count → 0 < count) ∧
      ∀ limit, target.rowLimit = some limit → 0 < limit := by
  have hpositive : ∀ number : Option Int,
      number.filter (· ≤ 0) = none ↔ ∀ value, number = some value → 0 < value := by
    intro number
    rw [Option.filter_eq_none_iff]
    simp
  rw [← hpositive, ← hpositive, Target.fault?]
  split
  · rename_i hcount
    simp only [Bool.and_eq_true, Bool.not_eq_true', List.isEmpty_eq_false_iff,
      Option.isNone_iff_eq_none] at hcount
    simp [hcount]
  · rename_i hcount
    have hbuckets : target.clusterBy ≠ [] → target.bucketCount.isSome = true := by
      intro hcluster
      simpa [hcluster, Option.isSome_iff_ne_none] using hcount
    rw [and_iff_right hbuckets]
    cases target.bucketCount.filter (· ≤ 0) <;> cases target.rowLimit.filter (· ≤ 0) <;> simp

namespace Properties

def setting? (properties : OrderedMap String) (format : OutputFormat) (setting : String) :
    Option String :=
  properties.lookup? (settingKey format setting)

/-! ## Texts of settings -/

section

variable {value : Option String} {text : String}

theorem nonempty_eq_some : nonempty value = some text ↔ value = some text ∧ text ≠ "" := by
  rw [nonempty, Option.filter_eq_some_iff]
  simp

theorem nonempty_getD_ne_empty (h : text ≠ "") : (nonempty value).getD text ≠ "" := by
  cases hvalue : nonempty value with
  | none => exact h
  | some found => exact (nonempty_eq_some.mp hvalue).2

/-- A setting that says something. -/
def Present (value : Option String) : Prop :=
  ∃ text, value = some text ∧ isBlankText text = false

/-- A setting that is a positive number if it says something. -/
def IsCount (value : Option String) : Prop :=
  ∀ text, value = some text → isBlankText text = false →
    ∃ number, integer? text = some number ∧ 0 < number

/-- A setting of which every item has a key in front of its first equals sign. -/
def IsPropertyList (value : Option String) : Prop :=
  ∀ item ∈ readList value, ∃ key rest,
    item = key ++ "=" ++ rest ∧ '=' ∉ key.toList ∧ isBlankText key = false

/-- A setting that is one of the words for a truth value. -/
def IsFlag (value : Option String) : Prop :=
  lowercase (trim (value.getD "")) ∈ ["true", "yes", "1", "false", "no", "0", ""]

theorem of_mem_readList {word : String} (h : word ∈ readList value) :
    Solid word ∧ ',' ∉ word.toList := by
  refine ⟨solid_of_mem_words h, fun hcomma => ?_⟩
  have hfree := ((of_mem_words h).2 ',' hcomma).1
  simp at hfree

end

/-! ## Readers of settings -/

section

variable {value : Option String} {key : String}

theorem readInteger_of_blank (h : ¬ Present value) : readInteger key value = .ok none := by
  have hnone : value.filter (!isBlankText ·) = none := by
    rw [Option.filter_eq_none_iff]
    intro text htext hfilled
    exact h ⟨text, htext, by simpa using hfilled⟩
  rw [readInteger, hnone]

theorem readInteger_of_filled {text : String} (hvalue : value = some text)
    (hfilled : isBlankText text = false) {count : Option Int} :
    readInteger key value = .ok count ↔ ∃ number, integer? text = some number ∧
      count = some number := by
  have hsome : value.filter (!isBlankText ·) = some text := by
    rw [Option.filter_eq_some_iff]
    exact ⟨hvalue, by simp [hfilled]⟩
  rw [readInteger, hsome]
  cases hnumber : integer? text <;> simp [hnumber, eq_comm]

theorem isSome_iff_of_readInteger {count : Option Int} (h : readInteger key value = .ok count) :
    count.isSome = true ↔ Present value := by
  by_cases hpresent : Present value
  · obtain ⟨text, hvalue, hfilled⟩ := hpresent
    obtain ⟨number, -, rfl⟩ := (readInteger_of_filled hvalue hfilled).mp h
    exact ⟨fun _ => ⟨text, hvalue, hfilled⟩, fun _ => rfl⟩
  · rw [readInteger_of_blank hpresent] at h
    cases h
    simp [hpresent]

theorem exists_readInteger_iff :
    (∃ count, readInteger key value = .ok count ∧ ∀ number, count = some number → 0 < number) ↔
      IsCount value := by
  constructor
  · rintro ⟨count, hcount, hpositive⟩ text hvalue hfilled
    obtain ⟨number, hnumber, rfl⟩ := (readInteger_of_filled hvalue hfilled).mp hcount
    exact ⟨number, hnumber, hpositive number rfl⟩
  · intro h
    by_cases hpresent : Present value
    · obtain ⟨text, hvalue, hfilled⟩ := hpresent
      obtain ⟨number, hnumber, hpositive⟩ := h text hvalue hfilled
      refine ⟨some number, (readInteger_of_filled hvalue hfilled).mpr ⟨number, hnumber, rfl⟩, ?_⟩
      intro other hother
      exact Option.some.inj hother ▸ hpositive
    · exact ⟨none, readInteger_of_blank hpresent, by simp⟩

theorem readEntry_eq_ok {item : String} {entry : String × String} :
    readEntry key item = .ok entry ↔ ∃ name rest, item = name ++ "=" ++ rest ∧
      '=' ∉ name.toList ∧ isBlankText name = false ∧ entry = (trim name, trim rest) := by
  rw [readEntry]
  constructor
  · intro h
    split at h
    · rename_i name rest hcut
      obtain ⟨hitem, hfree⟩ := cutAt?_eq_some hcut
      dsimp only at h
      split at h
      · cases h
      · rename_i hname
        cases h
        refine ⟨String.ofList name, String.ofList rest, ?_, ?_, ?_, rfl⟩
        · apply String.toList_injective
          simpa using hitem
        · rwa [String.toList_ofList]
        · rw [String.isEmpty_iff, trim_eq_empty_iff] at hname
          exact Bool.eq_false_iff.mpr hname
    · cases h
  · rintro ⟨name, rest, rfl, hfree, hfilled, rfl⟩
    have hcut : cutAt? '=' (name ++ "=" ++ rest).toList = some (name.toList, rest.toList) := by
      rw [String.toList_append, String.toList_append, List.append_assoc]
      exact cutAt?_append hfree
    have hname : (trim name).isEmpty = false := by
      rw [Bool.eq_false_iff, Ne, String.isEmpty_iff, trim_eq_empty_iff]
      exact Bool.eq_false_iff.mp hfilled
    rw [hcut]
    simp only [String.ofList_toList, hname, Bool.false_eq_true, if_false]

theorem exists_readEntries_iff :
    (∃ map, readEntries key value = .ok map) ↔ IsPropertyList value := by
  have hentries : (∃ map, readEntries key value = .ok map) ↔
      ∃ entries, List.Forall₂ (fun item entry => readEntry key item = .ok entry)
        (readList value) entries := by
    simp only [readEntries, Except.bind_eq_ok, Except.mapM_eq_ok]
    constructor
    · rintro ⟨map, entries, hentries, -⟩
      exact ⟨entries, hentries⟩
    · rintro ⟨entries, hentries⟩
      exact ⟨.ofList entries, entries, hentries, rfl⟩
  rw [hentries, exists_forall₂_iff]
  simp only [readEntry_eq_ok]
  constructor
  · intro h item hitem
    obtain ⟨-, name, rest, heq, hfree, hfilled, -⟩ := h item hitem
    exact ⟨name, rest, heq, hfree, hfilled⟩
  · intro h item hitem
    obtain ⟨name, rest, heq, hfree, hfilled⟩ := h item hitem
    exact ⟨_, name, rest, heq, hfree, hfilled, rfl⟩

/-- What is read from a list of properties can be written as one. -/
theorem writable_of_readEntries {map : OrderedMap String} (h : readEntries key value = .ok map) :
    ∀ entry ∈ map.entries, Writable entry := by
  obtain ⟨entries, hentries, hmap⟩ := Except.bind_eq_ok.mp h
  cases hmap
  intro entry hentry
  obtain ⟨item, hitem, hread⟩ :=
    Except.exists_of_mem_mapM hentries (OrderedMap.mem_of_mem_ofList hentry)
  obtain ⟨name, rest, rfl, hfree, hfilled, rfl⟩ := readEntry_eq_ok.mp hread
  have hcomma := (of_mem_readList hitem).2
  rw [String.toList_append, String.toList_append, List.mem_append, List.mem_append, not_or,
    not_or] at hcomma
  constructor
  · exact solid_trim hfilled
  · exact ⟨fun hmem => hcomma.1.1 (mem_of_mem_trim hmem), fun hmem => hfree (mem_of_mem_trim hmem)⟩
  · exact trim_trim rest
  · exact fun hmem => hcomma.2 (mem_of_mem_trim hmem)

theorem exists_readFlag_iff : (∃ flag, readFlag key value = .ok flag) ↔ IsFlag value := by
  have hwords : IsFlag value ↔
      ["true", "yes", "1"].contains (lowercase (trim (value.getD ""))) = true ∨
        ["false", "no", "0", ""].contains (lowercase (trim (value.getD ""))) = true := by
    rw [IsFlag, List.contains_iff_mem, List.contains_iff_mem, ← List.mem_append]
    rfl
  rw [hwords, readFlag]
  split
  · rename_i htrue
    exact ⟨fun _ => .inl htrue, fun _ => ⟨true, rfl⟩⟩
  · rename_i htrue
    split
    · rename_i hfalse
      exact ⟨fun _ => .inr hfalse, fun _ => ⟨false, rfl⟩⟩
    · rename_i hfalse
      constructor
      · rintro ⟨flag, h⟩
        cases h
      · exact fun h => (h.elim htrue hfalse).elim

end

/-! ## Failures of the readers -/

section

variable {value : Option String} {key : String}

theorem blames_readInteger :
    Except.Blames (Failure.IsKind .configuration) (readInteger key value) := by
  rw [readInteger]
  split
  · exact .ok none
  · split
    · exact .ok _
    · exact .error rfl

theorem blames_readEntry (item : String) :
    Except.Blames (Failure.IsKind .configuration) (readEntry key item) := by
  rw [readEntry]
  split
  · dsimp only
    split
    · exact .error rfl
    · exact .ok _
  · exact .error rfl

theorem blames_readEntries :
    Except.Blames (Failure.IsKind .configuration) (readEntries key value) :=
  (Except.Blames.mapM blames_readEntry (readList value)).bind fun _ => .ok _

theorem blames_readFlag : Except.Blames (Failure.IsKind .configuration) (readFlag key value) := by
  rw [readFlag]
  split
  · exact .ok true
  · split
    · exact .ok false
    · exact .error rfl

theorem blames_checked (target : Target) :
    Except.Blames (Failure.IsKind .configuration) target.checked := by
  rw [Target.checked]
  split
  · exact .ok target
  · exact .error rfl

end

/-! ## One format -/

section

variable {properties : OrderedMap String} {format : OutputFormat} {table dataPath : String}
  {target : Target}

/-- What each part of a target was read from. -/
structure ReadFrom (properties : OrderedMap String) (format : OutputFormat)
    (table dataPath : String) (target : Target) : Prop where
  db_eq : target.db = (nonempty (setting? properties format "destination.dbName")).getD "default"
  table_eq : target.table = table
  stagingName_eq : target.stagingName =
    (nonempty (setting? properties format "destination.stagingTableName")).getD
      (table ++ "_staging")
  dataPath_eq : target.dataPath = withoutEndSlashes dataPath
  clusterBy_eq : target.clusterBy = readList (setting? properties format "clusterByList")
  bucketCount_read : readInteger (settingKey format "numBuckets")
    (setting? properties format "numBuckets") = .ok target.bucketCount
  rowLimit_read : readInteger (settingKey format "rowLimit")
    (setting? properties format "rowLimit") = .ok target.rowLimit
  tableProperties_read : readEntries (settingKey format "destination.tableProperties")
    (setting? properties format "destination.tableProperties") = .ok target.tableProperties
  runtimeProperties_read : readEntries (settingKey format "hiveRuntime")
    (setting? properties format "hiveRuntime") = .ok target.runtimeProperties
  evolves_read : readFlag (settingKey format "evolution.enabled")
    (setting? properties format "evolution.enabled") = .ok target.evolves
  pathHints_eq : target.pathHints =
    readList (setting? properties format "source.dataPathIdentifier")
  faultless : target.fault? = none

theorem readTarget_eq_ok : readTarget properties format table dataPath = .ok target ↔
    ReadFrom properties format table dataPath target := by
  simp only [readTarget, Except.bind_eq_ok, Target.checked_eq_ok]
  constructor
  · rintro ⟨bucketCount, hcount, rowLimit, hlimit, tableProperties, htable, runtimeProperties,
      hruntime, evolves, hevolves, hfault, rfl⟩
    exact ⟨rfl, rfl, rfl, rfl, rfl, hcount, hlimit, htable, hruntime, hevolves, rfl, hfault⟩
  · rintro ⟨hdb, htable, hstaging, hpath, hcluster, hcount, hlimit, htableProperties, hruntime,
      hevolves, hhints, hfault⟩
    obtain ⟨db, table', stagingName, dataPath', clusterBy, bucketCount, rowLimit,
      tableProperties, runtimeProperties, evolves, pathHints⟩ := target
    dsimp only at hdb htable hstaging hpath hcluster hhints
    subst hdb htable hstaging hpath hcluster hhints
    exact ⟨bucketCount, hcount, rowLimit, hlimit, tableProperties, htableProperties,
      runtimeProperties, hruntime, evolves, hevolves, hfault, rfl⟩

theorem blames_readTarget : Except.Blames (Failure.IsKind .configuration)
    (readTarget properties format table dataPath) := by
  rw [readTarget]
  refine blames_readInteger.bind fun bucketCount => ?_
  refine blames_readInteger.bind fun rowLimit => ?_
  refine blames_readEntries.bind fun tableProperties => ?_
  refine blames_readEntries.bind fun runtimeProperties => ?_
  exact blames_readFlag.bind fun evolves => blames_checked _

/-- A format whose table is set. -/
def configured (properties : OrderedMap String) (format : OutputFormat) : Bool :=
  (nonempty (setting? properties format "destination.tableName")).isSome

/-- What the settings of a configured format have to say. -/
structure Acceptable (properties : OrderedMap String) (format : OutputFormat) : Prop where
  dataPath : ∃ path, setting? properties format "destination.dataPath" = some path ∧ path ≠ ""
  bucketCount : IsCount (setting? properties format "numBuckets")
  rowLimit : IsCount (setting? properties format "rowLimit")
  tableProperties : IsPropertyList (setting? properties format "destination.tableProperties")
  runtimeProperties : IsPropertyList (setting? properties format "hiveRuntime")
  evolves : IsFlag (setting? properties format "evolution.enabled")
  buckets : readList (setting? properties format "clusterByList") ≠ [] →
    Present (setting? properties format "numBuckets")

theorem exists_readFrom_iff
    (hpath : nonempty (setting? properties format "destination.dataPath") = some dataPath) :
    (∃ target, ReadFrom properties format table dataPath target) ↔
      Acceptable properties format := by
  constructor
  · rintro ⟨target, h⟩
    obtain ⟨hbuckets, hcount, hlimit⟩ := Target.fault?_eq_none.mp h.faultless
    constructor
    · exact ⟨dataPath, nonempty_eq_some.mp hpath⟩
    · exact exists_readInteger_iff.mp ⟨_, h.bucketCount_read, hcount⟩
    · exact exists_readInteger_iff.mp ⟨_, h.rowLimit_read, hlimit⟩
    · exact exists_readEntries_iff.mp ⟨_, h.tableProperties_read⟩
    · exact exists_readEntries_iff.mp ⟨_, h.runtimeProperties_read⟩
    · exact exists_readFlag_iff.mp ⟨_, h.evolves_read⟩
    · intro hcluster
      rw [← h.clusterBy_eq] at hcluster
      exact (isSome_iff_of_readInteger h.bucketCount_read).mp (hbuckets hcluster)
  · intro h
    obtain ⟨bucketCount, hcount, hcountPositive⟩ := exists_readInteger_iff.mpr h.bucketCount
    obtain ⟨rowLimit, hlimit, hlimitPositive⟩ := exists_readInteger_iff.mpr h.rowLimit
    obtain ⟨tableProperties, htable⟩ := exists_readEntries_iff.mpr h.tableProperties
    obtain ⟨runtimeProperties, hruntime⟩ := exists_readEntries_iff.mpr h.runtimeProperties
    obtain ⟨evolves, hevolves⟩ := exists_readFlag_iff.mpr h.evolves
    refine ⟨⟨_, _, _, _, _, bucketCount, rowLimit, tableProperties, runtimeProperties, evolves, _⟩,
      rfl, rfl, rfl, rfl, rfl, hcount, hlimit, htable, hruntime, hevolves, rfl, ?_⟩
    rw [Target.fault?_eq_none]
    refine ⟨fun hcluster => ?_, hcountPositive, hlimitPositive⟩
    exact (isSome_iff_of_readInteger hcount).mpr (h.buckets hcluster)

theorem read_eq_none :
    read properties format = .ok none ↔ configured properties format = false := by
  rw [configured, setting?, read]
  dsimp only
  cases htable : nonempty (properties.lookup? (settingKey format "destination.tableName")) with
  | none => simp
  | some table =>
      dsimp only
      split <;> simp [Except.map_eq_ok]

theorem read_eq_some : read properties format = .ok (some target) ↔ ∃ table dataPath,
    nonempty (setting? properties format "destination.tableName") = some table ∧
    nonempty (setting? properties format "destination.dataPath") = some dataPath ∧
    ReadFrom properties format table dataPath target := by
  simp only [setting?, ← readTarget_eq_ok]
  rw [read]
  dsimp only
  cases htable : nonempty (properties.lookup? (settingKey format "destination.tableName")) with
  | none => simp
  | some table =>
      dsimp only
      split
      · rename_i hnone
        simp [hnone]
      · rename_i dataPath hpath
        simp [hpath, Except.map_eq_ok]

theorem exists_read_iff : (∃ value, read properties format = .ok value) ↔
    (configured properties format = true → Acceptable properties format) := by
  cases hconfigured : configured properties format with
  | false => simpa using ⟨none, read_eq_none.mpr hconfigured⟩
  | true =>
      obtain ⟨table, htable⟩ := Option.isSome_iff_exists.mp hconfigured
      rw [forall_prop_of_true rfl]
      constructor
      · rintro ⟨value, hvalue⟩
        cases value with
        | none => cases hconfigured.symm.trans (read_eq_none.mp hvalue)
        | some target =>
            obtain ⟨table, dataPath, -, hpath, hread⟩ := read_eq_some.mp hvalue
            exact (exists_readFrom_iff hpath).mp ⟨target, hread⟩
      · intro h
        obtain ⟨dataPath, hpath⟩ := h.dataPath
        have hnonempty := nonempty_eq_some.mpr hpath
        obtain ⟨target, htarget⟩ := (exists_readFrom_iff hnonempty).mpr h
        exact ⟨some target, read_eq_some.mpr ⟨table, dataPath, htable, hnonempty, htarget⟩⟩

theorem blames_read :
    Except.Blames (Failure.IsKind .configuration) (read properties format) := by
  rw [read]
  split
  · exact .ok none
  · split
    · exact .error rfl
    · exact blames_readTarget.map some

end

/-! ## All formats -/

/-- A target a conversion can go by, read with a data path. -/
structure Usable (dataPath : String) (target : Target) : Prop where
  db_filled : target.db ≠ ""
  table_filled : target.table ≠ ""
  stagingName_filled : target.stagingName ≠ ""
  dataPath_stripped : ∃ slashes : String,
    dataPath = target.dataPath ++ slashes ∧ ∀ c ∈ slashes.toList, c = '/'
  dataPath_end : target.dataPath.toList.getLast? ≠ some '/'
  dataPath_eq_empty_iff : target.dataPath = "" ↔ ∀ c ∈ dataPath.toList, c = '/'
  clusterBy_words : ∀ word ∈ target.clusterBy, Solid word ∧ ',' ∉ word.toList
  pathHints_words : ∀ word ∈ target.pathHints, Solid word ∧ ',' ∉ word.toList
  tableProperties_writable : ∀ entry ∈ target.tableProperties.entries, Writable entry
  runtimeProperties_writable : ∀ entry ∈ target.runtimeProperties.entries, Writable entry
  bucketCount_positive : ∀ count, target.bucketCount = some count → 0 < count
  rowLimit_positive : ∀ limit, target.rowLimit = some limit → 0 < limit
  buckets_counted : target.clusterBy ≠ [] → target.bucketCount.isSome = true

section

variable {properties : OrderedMap String} {format : OutputFormat}

theorem exists_withoutEndSlashes (path : String) : ∃ slashes : String,
    path = withoutEndSlashes path ++ slashes ∧ ∀ c ∈ slashes.toList, c = '/' := by
  refine ⟨String.ofList (path.toList.rtakeWhile (· == '/')), ?_, ?_⟩
  · apply String.toList_injective
    rw [withoutEndSlashes, String.toList_append, String.toList_ofList, String.toList_ofList]
    exact List.rdropWhile_append_rtakeWhile.symm
  · rw [String.toList_ofList]
    intro c hc
    have hslash := List.mem_rtakeWhile_imp hc
    exact beq_iff_eq.mp hslash

theorem getLast?_withoutEndSlashes (path : String) :
    (withoutEndSlashes path).toList.getLast? ≠ some '/' := by
  rw [withoutEndSlashes, String.toList_ofList]
  intro hlast
  have hkept := getLast?_rdropWhile hlast
  simp at hkept

theorem withoutEndSlashes_eq_empty_iff {path : String} :
    withoutEndSlashes path = "" ↔ ∀ c ∈ path.toList, c = '/' := by
  obtain ⟨slashes, hpath, hslashes⟩ := exists_withoutEndSlashes path
  constructor
  · intro hempty
    rw [hpath, hempty, String.empty_append]
    exact hslashes
  · intro h
    by_contra hfilled
    have hchars : (withoutEndSlashes path).toList ≠ [] :=
      fun hnil => hfilled (String.toList_eq_nil_iff.mp hnil)
    have hkept : ∀ c ∈ (withoutEndSlashes path).toList, c = '/' := by
      intro c hc
      apply h
      rw [hpath, String.toList_append]
      exact List.mem_append_left _ hc
    apply getLast?_withoutEndSlashes path
    rw [List.getLast?_eq_some_getLast hchars, hkept _ (List.getLast_mem hchars)]

theorem ReadFrom.usable {table dataPath : String} {target : Target}
    (h : ReadFrom properties format table dataPath target) (htable : table ≠ "") :
    Usable dataPath target := by
  obtain ⟨hbuckets, hcount, hlimit⟩ := Target.fault?_eq_none.mp h.faultless
  obtain ⟨slashes, hpath, hslashes⟩ := exists_withoutEndSlashes dataPath
  rw [← h.dataPath_eq] at hpath
  constructor
  · rw [h.db_eq]
    exact nonempty_getD_ne_empty (by decide)
  · rwa [h.table_eq]
  · rw [h.stagingName_eq]
    apply nonempty_getD_ne_empty
    simp
  · exact ⟨slashes, hpath, hslashes⟩
  · rw [h.dataPath_eq]
    exact getLast?_withoutEndSlashes dataPath
  · rw [h.dataPath_eq]
    exact withoutEndSlashes_eq_empty_iff
  · rw [h.clusterBy_eq]
    exact fun word => of_mem_readList
  · rw [h.pathHints_eq]
    exact fun word => of_mem_readList
  · exact writable_of_readEntries h.tableProperties_read
  · exact writable_of_readEntries h.runtimeProperties_read
  · exact hcount
  · exact hlimit
  · exact hbuckets

/-- One format after another: an item for each, a pair if it is configured. -/
def ReadInTurn (properties : OrderedMap String) :
    List OutputFormat → List (Option (OutputFormat × Target)) → Prop :=
  List.Forall₂ fun format item =>
    ∃ value, read properties format = .ok value ∧ value.map (format, ·) = item

theorem readAll_eq_ok {found : List (OutputFormat × Target)} :
    readAll properties = .ok found ↔
      ∃ items, ReadInTurn properties OutputFormat.all items ∧ items.filterMap id = found := by
  have hitem : ∀ format item, (do
      return (← read properties format).map (format, ·) : Except Failure _) = .ok item ↔
        ∃ value, read properties format = .ok value ∧ value.map (format, ·) = item := by
    intro format item
    rw [Except.bind_eq_ok]
    simp only [pure, Except.pure, Except.ok.injEq]
  rw [readAll, Except.bind_eq_ok]
  simp only [Except.mapM_eq_ok, hitem]
  simp only [pure, Except.pure, Except.ok.injEq]
  rfl

theorem ReadInTurn.formats_eq {formats : List OutputFormat}
    {items : List (Option (OutputFormat × Target))} (h : ReadInTurn properties formats items) :
    (items.filterMap id).map Prod.fst = formats.filter (configured properties) := by
  induction h with
  | nil => rfl
  | cons hitem _ ih =>
      obtain ⟨value, hvalue, rfl⟩ := hitem
      cases value with
      | none => simpa [List.filter_cons, read_eq_none.mp hvalue] using ih
      | some target =>
          obtain ⟨table, dataPath, htable, -, -⟩ := read_eq_some.mp hvalue
          simpa [List.filter_cons, configured, htable] using ih

theorem ReadInTurn.read_of_mem {formats : List OutputFormat}
    {items : List (Option (OutputFormat × Target))} (h : ReadInTurn properties formats items)
    {target : Target} (hmem : (format, target) ∈ items.filterMap id) :
    read properties format = .ok (some target) := by
  induction h with
  | nil => cases hmem
  | cons hitem _ ih =>
      obtain ⟨value, hvalue, rfl⟩ := hitem
      rw [List.filterMap_cons] at hmem
      cases value with
      | none => exact ih hmem
      | some first =>
          rcases List.mem_cons.mp hmem with heq | hmem
          · cases heq
            exact hvalue
          · exact ih hmem

theorem exists_readAll_iff : (∃ found, readAll properties = .ok found) ↔
    ∀ format, configured properties format = true → Acceptable properties format := by
  have hitems : (∃ found, readAll properties = .ok found) ↔
      ∃ items, ReadInTurn properties OutputFormat.all items := by
    simp only [readAll_eq_ok]
    constructor
    · rintro ⟨found, items, hitems, -⟩
      exact ⟨items, hitems⟩
    · rintro ⟨items, hitems⟩
      exact ⟨_, items, hitems, rfl⟩
  have hall : ∀ format, format ∈ OutputFormat.all := fun format => by cases format <;> decide
  rw [hitems]
  unfold ReadInTurn
  rw [exists_forall₂_iff]
  simp only [← exists_read_iff]
  constructor
  · intro h format
    obtain ⟨-, value, hvalue, -⟩ := h format (hall format)
    exact ⟨value, hvalue⟩
  · intro h format _
    obtain ⟨value, hvalue⟩ := h format
    exact ⟨_, value, hvalue, rfl⟩

theorem blames_readAll :
    Except.Blames (Failure.IsKind .configuration) (readAll properties) := by
  rw [readAll]
  refine (Except.Blames.mapM (fun format => ?_) _).bind fun items => .ok _
  exact blames_read.bind fun value => .ok _

end

/-- Every target that is read can be used, and there is one for each format that is configured. What
is not acceptable is refused, and for no other reason and in no other way is anything refused. -/
theorem readAll_usable (properties : OrderedMap String) :
    (∀ found, readAll properties = .ok found →
      found.map Prod.fst = OutputFormat.all.filter (configured properties) ∧
      ∀ format target, (format, target) ∈ found → ∃ dataPath,
        setting? properties format "destination.dataPath" = some dataPath ∧
          Usable dataPath target) ∧
    ((∀ format, configured properties format = true → Acceptable properties format) →
      ∃ found, readAll properties = .ok found) ∧
    ((∃ format, configured properties format = true ∧ ¬ Acceptable properties format) →
      ∃ failure, readAll properties = .error failure ∧ failure.IsKind .configuration) := by
  refine ⟨?_, exists_readAll_iff.mpr, ?_⟩
  · intro found hfound
    obtain ⟨items, hitems, rfl⟩ := readAll_eq_ok.mp hfound
    refine ⟨hitems.formats_eq, fun format target hmem => ?_⟩
    obtain ⟨table, dataPath, htable, hpath, hread⟩ := read_eq_some.mp (hitems.read_of_mem hmem)
    exact ⟨dataPath, (nonempty_eq_some.mp hpath).1, hread.usable (nonempty_eq_some.mp htable).2⟩
  · rintro ⟨format, hconfigured, hrefused⟩
    cases hread : readAll properties with
    | ok found => exact absurd (exists_readAll_iff.mp ⟨found, hread⟩ format hconfigured) hrefused
    | error failure => exact ⟨failure, rfl, blames_readAll failure hread⟩

namespace Sample

def pageviews : OrderedMap String := .ofList
  [("nestedOrc.destination.tableName", "pageviews_orc"),
    ("nestedOrc.destination.dataPath", "/data/pageviews_orc//"),
    ("nestedOrc.destination.tableProperties", "orc.compress=ZLIB, owner=etl"),
    ("nestedOrc.clusterByList", "id"),
    ("nestedOrc.numBuckets", "8")]

def pageviewsTarget : Target where
  db := "default"
  table := "pageviews_orc"
  stagingName := "pageviews_orc_staging"
  dataPath := "/data/pageviews_orc"
  clusterBy := ["id"]
  bucketCount := some 8
  tableProperties := ⟨[("orc.compress", "ZLIB"), ("owner", "etl")], by decide⟩

theorem readAll_pageviews : readAll pageviews = .ok [(.nested, pageviewsTarget)] :=
  Except.toOption_eq_some.mp (by decide +kernel)

theorem pageviews_acceptable (format : OutputFormat)
    (h : configured pageviews format = true) : Acceptable pageviews format := by
  cases format with
  | flattened => exact absurd h (by decide +kernel)
  | nested =>
      have hcount : setting? pageviews .nested "numBuckets" = some "8" := by decide +kernel
      have hlimit : setting? pageviews .nested "rowLimit" = none := by decide +kernel
      have htable : readList (setting? pageviews .nested "destination.tableProperties") =
          ["orc.compress=ZLIB", "owner=etl"] := by decide +kernel
      have hruntime : readList (setting? pageviews .nested "hiveRuntime") = [] := by
        decide +kernel
      constructor
      · exact ⟨"/data/pageviews_orc//", by decide +kernel, by decide⟩
      · rintro text htext -
        cases hcount.symm.trans htext
        exact ⟨8, by decide +kernel, by decide⟩
      · rintro text htext -
        cases hlimit.symm.trans htext
      · rw [IsPropertyList, htable]
        simp only [List.forall_mem_cons, List.not_mem_nil, false_implies, implies_true, and_true]
        exact ⟨⟨"orc.compress", "ZLIB", by decide, by decide, by decide⟩,
          ⟨"owner", "etl", by decide, by decide, by decide⟩⟩
      · rw [IsPropertyList, hruntime]
        exact List.forall_mem_nil _
      · rw [IsFlag]
        decide +kernel
      · exact fun _ => ⟨"8", hcount, by decide⟩

/-- Buckets without a count of them. -/
def uncounted : OrderedMap String := .ofList
  [("flattenedOrc.destination.tableName", "pageviews_orc"),
    ("flattenedOrc.destination.dataPath", "/data/pageviews_orc"),
    ("flattenedOrc.clusterByList", "id")]

end Sample

theorem readAll_usable_pageviews :
    (∃ target, readAll Sample.pageviews = .ok [(.nested, target)] ∧
      Usable "/data/pageviews_orc//" target) ∧
    (∃ found, readAll Sample.pageviews = .ok found) ∧
    ∃ failure, readAll Sample.uncounted = .error failure ∧ failure.IsKind .configuration := by
  obtain ⟨husable, hread, -⟩ := readAll_usable Sample.pageviews
  refine ⟨⟨Sample.pageviewsTarget, Sample.readAll_pageviews, ?_⟩, hread Sample.pageviews_acceptable,
    (readAll_usable Sample.uncounted).2.2 ⟨.flattened, by decide +kernel, fun h => ?_⟩⟩
  · obtain ⟨-, hmember⟩ := husable _ Sample.readAll_pageviews
    obtain ⟨dataPath, hpath, htarget⟩ := hmember _ _ List.mem_cons_self
    have hsetting : setting? Sample.pageviews .nested "destination.dataPath" =
        some "/data/pageviews_orc//" := by
      decide +kernel
    cases hsetting.symm.trans hpath
    exact htarget
  · obtain ⟨text, htext, -⟩ := h.buckets (by decide +kernel)
    have hnone : setting? Sample.uncounted .flattened "numBuckets" = none := by decide +kernel
    cases hnone.symm.trans htext

/-- A data path of slashes only is taken, and nothing is left of it. -/
theorem readAll_slashes :
    ∃ target, readAll (.ofList [("nestedOrc.destination.tableName", "t"),
        ("nestedOrc.destination.dataPath", "/")]) = .ok [(.nested, target)] ∧
      target.dataPath = "" :=
  ⟨{ db := "default", table := "t", stagingName := "t_staging", dataPath := "" },
    Except.toOption_eq_some.mp (by decide +kernel), rfl⟩

end Properties

end OrcConversion
