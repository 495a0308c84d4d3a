import OrcConversion.Proofs.Partition.Reading
import OrcConversion.Proofs.Text.Joining

/-! The record of replaced partitions: what is encoded is decoded again, but for the current
partition. -/

namespace OrcConversion.Partition

open Text

/-- A key or a value that can be recorded. -/
structure Recordable (word : String) : Prop where
  solid : Solid word
  free : ∀ c ∈ ['|', ',', '='], c ∉ word.toList

instance (word : String) : Decidable (Recordable word) :=
  letI : Decidable (∀ c ∈ ['|', ',', '='], c ∉ word.toList) := List.decidableBAll _ _
  decidable_of_iff (Solid word ∧ ∀ c ∈ ['|', ',', '='], c ∉ word.toList)
    ⟨fun h => ⟨h.1, h.2⟩, fun h => ⟨h.solid, h.free⟩⟩

def tokenOf (entry : String × String) : String := entry.1 ++ "=" ++ entry.2

/-- A partition with a recordable value for each of some keys. -/
structure RecordableValues (keys : List String) (values : OrderedMap String) : Prop where
  keys_eq : values.keys = keys
  recordable : ∀ entry ∈ values.entries, Recordable entry.1 ∧ Recordable entry.2

instance (keys : List String) (values : OrderedMap String) :
    Decidable (RecordableValues keys values) :=
  decidable_of_iff
    (values.keys = keys ∧ ∀ entry ∈ values.entries, Recordable entry.1 ∧ Recordable entry.2)
    ⟨fun h => ⟨h.1, h.2⟩, fun h => ⟨h.keys_eq, h.recordable⟩⟩

/-! ## Tokens -/

section

variable {entry : String × String} {c : Char}

theorem solid_tokenOf (hkey : Recordable entry.1) (hvalue : Recordable entry.2) :
    Solid (tokenOf entry) :=
  hkey.solid.join "=" hvalue.solid

theorem not_mem_tokenOf (hkey : Recordable entry.1) (hvalue : Recordable entry.2)
    (hc : c ∈ ['|', ',']) : c ∉ (tokenOf entry).toList := by
  have hseparator : c ∈ ['|', ',', '='] := List.mem_append_left ['='] hc
  have hequals : c ∉ ['='] := by
    rcases List.mem_cons.mp hc with rfl | hc
    · decide
    · cases List.mem_singleton.mp hc
      decide
  rw [tokenOf, String.toList_append, String.toList_append, List.mem_append, List.mem_append]
  rintro ((hmem | hmem) | hmem)
  · exact hkey.free c hseparator hmem
  · exact hequals hmem
  · exact hvalue.free c hseparator hmem

theorem parseToken_tokenOf (hkey : Recordable entry.1) (hvalue : Recordable entry.2) :
    parseToken (tokenOf entry) = .ok entry := by
  have hwords : words (· == '=') ("=".intercalate [entry.1, entry.2]) = [entry.1, entry.2] := by
    apply words_intercalate rfl
    · simp [hkey.solid, hvalue.solid]
    · simp [hkey.free, hvalue.free]
  have htoken : tokenOf entry = "=".intercalate [entry.1, entry.2] := by simp [tokenOf]
  rw [parseToken, htoken, hwords]

end

/-! ## Groups -/

theorem groupsOf_flatten {α : Type} {size : Nat} (hsize : size ≠ 0) {groups : List (List α)}
    (hgroups : ∀ group ∈ groups, group.length = size) :
    groupsOf size groups.flatten = groups := by
  induction groups with
  | nil => simp [groupsOf]
  | cons group rest ih =>
      have hgroup := hgroups group List.mem_cons_self
      have hfilled : group ++ rest.flatten ≠ [] := by
        intro hnil
        rw [(List.append_eq_nil_iff.mp hnil).1] at hgroup
        exact hsize hgroup.symm
      rw [List.flatten_cons, groupsOf, if_neg (not_or.mpr ⟨hsize, hfilled⟩),
        List.take_left' hgroup, List.drop_left' hgroup,
        ih fun other hother => hgroups other (List.mem_cons_of_mem group hother)]

/-! ## Partitions -/

section

variable {keys current : List String} {values : OrderedMap String}

namespace RecordableValues

variable (h : RecordableValues keys values)

include h

theorem length_values : (values.entries.map Prod.snd).length = keys.length := by
  rw [← h.keys_eq, OrderedMap.keys, Entries.keys, List.length_map, List.length_map]

theorem solid_tokens : ∀ token ∈ values.entries.map tokenOf, Solid token := by
  rw [List.forall_mem_map]
  intro entry hentry
  obtain ⟨hkey, hvalue⟩ := h.recordable entry hentry
  exact solid_tokenOf hkey hvalue

theorem free_tokens {c : Char} (hc : c ∈ ['|', ',']) :
    ∀ token ∈ values.entries.map tokenOf, c ∉ token.toList := by
  rw [List.forall_mem_map]
  intro entry hentry
  obtain ⟨hkey, hvalue⟩ := h.recordable entry hentry
  exact not_mem_tokenOf hkey hvalue hc

theorem segmentValues_encodeOne :
    segmentValues (encodeOne values) = .ok (values.entries.map Prod.snd) := by
  have hitems : commaItems (encodeOne values) = values.entries.map tokenOf :=
    words_intercalate rfl h.solid_tokens (h.free_tokens (by decide))
  rw [segmentValues, hitems, Except.mapM_eq_ok, List.forall₂_map_left_iff,
    List.forall₂_map_right_iff, List.forall₂_same]
  intro entry hentry
  obtain ⟨hkey, hvalue⟩ := h.recordable entry hentry
  rw [parseToken_tokenOf hkey hvalue]
  rfl

theorem ofList_zip : OrderedMap.ofList (keys.zip (values.entries.map Prod.snd)) = values := by
  have hentries : keys.zip (values.entries.map Prod.snd) = values.entries := by
    rw [← h.keys_eq]
    exact (List.zip_of_prod rfl rfl).symm
  rw [hentries, OrderedMap.ofList_entries]

theorem decodeSegment_encodeOne (hkeys : keys ≠ []) (current : List String) :
    decodeSegment keys current (encodeOne values) =
      .ok ([values].filter fun values => values.entries.map Prod.snd != current) := by
  have hlength := h.length_values
  have hsize : keys.length ≠ 0 := fun hzero => hkeys (List.length_eq_zero_iff.mp hzero)
  have hgroups : groupsOf keys.length (values.entries.map Prod.snd) =
      [values.entries.map Prod.snd] := by
    have hflatten := groupsOf_flatten hsize (List.forall_mem_singleton.mpr hlength)
    rwa [List.flatten_singleton] at hflatten
  have hmodulo : ¬ (values.entries.map Prod.snd).length % keys.length ≠ 0 := by
    rw [hlength, Nat.mod_self]
    exact not_not.mpr rfl
  rw [decodeSegment, h.segmentValues_encodeOne]
  change (if _ then _ else _) = _
  rw [if_neg hmodulo, hgroups]
  refine congrArg Except.ok ?_
  by_cases hcurrent : values.entries.map Prod.snd = current
  · simp [hcurrent]
  · simp [hcurrent, h.ofList_zip]

theorem solid_encodeOne (hkeys : keys ≠ []) : Solid (encodeOne values) := by
  apply Solid.intercalate "," _ h.solid_tokens
  intro hnil
  have hlength := h.length_values
  rw [List.map_eq_nil_iff.mp hnil] at hlength
  exact hkeys (List.length_eq_zero_iff.mp hlength.symm)

theorem free_encodeOne : '|' ∉ (encodeOne values).toList :=
  not_mem_intercalate (by decide) (h.free_tokens (by decide))

end RecordableValues

end

/-! ## Records -/

section

variable {keys : List String} {partitions : List (OrderedMap String)}

theorem segments_encode (hkeys : keys ≠ [])
    (hpartitions : ∀ values ∈ partitions, RecordableValues keys values) :
    words (· == '|') (encode partitions) = partitions.map encodeOne := by
  apply words_intercalate rfl
  · rw [List.forall_mem_map]
    exact fun values hvalues => (hpartitions values hvalues).solid_encodeOne hkeys
  · rw [List.forall_mem_map]
    exact fun values hvalues => (hpartitions values hvalues).free_encodeOne

theorem encode_not_blank (hkeys : keys ≠ [])
    (hpartitions : ∀ values ∈ partitions, RecordableValues keys values) (hsome : partitions ≠ []) :
    isBlankText (encode partitions) = false := by
  apply Solid.not_blank
  apply Solid.intercalate "|"
  · exact fun hnil => hsome (List.map_eq_nil_iff.mp hnil)
  · rw [List.forall_mem_map]
    exact fun values hvalues => (hpartitions values hvalues).solid_encodeOne hkeys

theorem mapM_decodeSegment_encodeOne (hkeys : keys ≠ [])
    (hpartitions : ∀ values ∈ partitions, RecordableValues keys values) (current : List String) :
    (partitions.map encodeOne).mapM (decodeSegment keys current) =
      .ok (partitions.map fun values =>
        [values].filter fun values => values.entries.map Prod.snd != current) := by
  rw [Except.mapM_eq_ok, List.forall₂_map_left_iff, List.forall₂_map_right_iff, List.forall₂_same]
  exact fun values hvalues => (hpartitions values hvalues).decodeSegment_encodeOne hkeys current

theorem flatten_map_filter_singleton {α : Type} (keep : α → Bool) (items : List α) :
    (items.map fun item => [item].filter keep).flatten = items.filter keep :=
  calc (items.map fun item => [item].filter keep).flatten
    _ = ((items.map fun item => [item]).map (List.filter keep)).flatten := by
        rw [List.map_map]
        rfl
    _ = (items.map fun item => [item]).flatten.filter keep := List.filter_flatten.symm
    _ = items.filter keep := by rw [← List.flatMap_def, List.flatMap_singleton']

end

/-- The partitions that are encoded are decoded again, in their order, but for those that have the
current values. -/
theorem decode_encode {keys current : List String} {partitions : List (OrderedMap String)}
    (hkeys : keys ≠ []) (hpartitions : ∀ values ∈ partitions, RecordableValues keys values) :
    decode (some (encode partitions)) keys current =
      .ok (partitions.filter fun values => values.entries.map Prod.snd != current) := by
  by_cases hnone : partitions = []
  · subst hnone
    rfl
  · have hsome : (some (encode partitions)).filter (!isBlankText ·) = some (encode partitions) := by
      rw [Option.filter_some, encode_not_blank hkeys hpartitions hnone]
      rfl
    rw [decode, hsome]
    simp only [List.isEmpty_iff, hkeys, if_false]
    rw [segments_encode hkeys hpartitions, mapM_decodeSegment_encodeOne hkeys hpartitions,
      ← flatten_map_filter_singleton]
    rfl

/-- Hours of a day. The first is the one that replaces the others, and one is recorded twice. -/
def Sample.hours : List (OrderedMap String) :=
  ["00", "half past", "half past"].map fun hour => .ofList [("day", "mañana"), ("hour", hour)]

theorem decode_encode_hours :
    encode Sample.hours =
        "day=mañana,hour=00|day=mañana,hour=half past|day=mañana,hour=half past" ∧
      decode (some (encode Sample.hours)) ["day", "hour"] ["mañana", "00"] =
        .ok (Sample.hours.drop 1) := by
  have hhours : ∀ values ∈ Sample.hours, RecordableValues ["day", "hour"] values := by
    decide +kernel
  have hothers : (Sample.hours.filter fun values =>
      values.entries.map Prod.snd != ["mañana", "00"]) = Sample.hours.drop 1 := by
    decide +kernel
  constructor
  · decide +kernel
  · rw [decode_encode (by decide) hhours, hothers]

end OrcConversion.Partition
