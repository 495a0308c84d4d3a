import OrcConversion.Proofs.Partition.Recording
import OrcConversion.Proofs.Text.Listings

/-! Layouts of the record of replaced partitions. -/

namespace OrcConversion.Partition

open Text

/-! ## Recorded groups -/

def segmentGroups (keys : List String) (segment : String) :
    Except Failure (List (List String)) := do
  let values ← segmentValues segment
  if values.length % keys.length ≠ 0 then
    throw (.misconfigured (.incompleteGroup segment keys))
  else
    return groupsOf keys.length values

/-- Groups of values that are recorded, be they the current ones or not. -/
def recordedGroups (keys : List String) (encoded : Option String) :
    Except Failure (List (List String)) :=
  match encoded.filter (!isBlankText ·) with
  | none => .ok []
  | some text =>
      if keys.isEmpty then .error (.misconfigured (.replacedWithoutKeys text))
      else do
        let segments ← (words (· == '|') text).mapM (segmentGroups keys)
        return segments.flatten

/-- Partitions with other values than the current ones. -/
def otherPartitions (keys current : List String) (groups : List (List String)) :
    List (OrderedMap String) :=
  (groups.filter (· != current)).map fun group => .ofList (keys.zip group)

section

variable {keys current : List String} {segment : String} {groups : List (List String)}

theorem otherPartitions_flatten (segments : List (List (List String))) :
    (segments.map (otherPartitions keys current)).flatten =
      otherPartitions keys current segments.flatten := by
  simp only [otherPartitions, List.filter_flatten, List.map_flatten, List.map_map]
  rfl

theorem decodeSegment_eq_map_segmentGroups (keys current : List String) (segment : String) :
    decodeSegment keys current segment =
      (segmentGroups keys segment).map (otherPartitions keys current) := by
  rw [decodeSegment, segmentGroups]
  cases segmentValues segment with
  | error failure => rfl
  | ok values =>
      change (if _ then _ else _) = Except.map _ (if _ then _ else _)
      split <;> rfl

theorem mapM_decodeSegment (keys current segments : List String) :
    segments.mapM (decodeSegment keys current) =
      (segments.mapM (segmentGroups keys)).map (List.map (otherPartitions keys current)) := by
  have hsegment : decodeSegment keys current = fun segment =>
      (segmentGroups keys segment).map (otherPartitions keys current) :=
    funext (decodeSegment_eq_map_segmentGroups keys current)
  rw [hsegment, Except.mapM_map]

/-- The current values decide only which of the recorded partitions is left out. -/
theorem decode_eq_map_recordedGroups (encoded : Option String) (keys current : List String) :
    decode encoded keys current =
      (recordedGroups keys encoded).map (otherPartitions keys current) := by
  rw [decode, recordedGroups]
  cases encoded.filter (!isBlankText ·) with
  | none => rfl
  | some text =>
      by_cases hkeys : keys.isEmpty = true
      · simp only [if_pos hkeys]
        rfl
      · simp only [if_neg hkeys, mapM_decodeSegment]
        cases (words (· == '|') text).mapM (segmentGroups keys) with
        | error failure => rfl
        | ok segments => exact congrArg Except.ok (otherPartitions_flatten segments)

theorem segmentGroups_eq_ok :
    segmentGroups keys segment = .ok groups ↔
      ∃ values, segmentValues segment = .ok values ∧ values.length % keys.length = 0 ∧
        groupsOf keys.length values = groups := by
  rw [segmentGroups, Except.bind_eq_ok]
  apply exists_congr
  intro values
  apply and_congr_right
  intro hvalues
  split
  · rename_i hlength
    constructor
    · intro h
      cases h
    · exact fun h => absurd h.1 hlength
  · rename_i hlength
    rw [and_iff_right (not_not.mp hlength)]
    exact ⟨Except.ok.inj, congrArg Except.ok⟩

theorem recordedGroups_of_filled {text : String} (hkeys : keys ≠ [])
    (hfilled : isBlankText text = false) :
    recordedGroups keys (some text) =
      ((words (· == '|') text).mapM (segmentGroups keys)).map List.flatten := by
  have hsome : (some text).filter (!isBlankText ·) = some text := by
    rw [Option.filter_some, hfilled]
    rfl
  have hnone : ¬ keys.isEmpty = true := fun hempty => hkeys (List.isEmpty_iff.mp hempty)
  rw [recordedGroups, hsome]
  simp only [if_neg hnone]
  cases (words (· == '|') text).mapM (segmentGroups keys) <;> rfl

theorem recordedGroups_of_blank {encoded : Option String}
    (h : ∀ text ∈ encoded, isBlankText text = true) : recordedGroups keys encoded = .ok [] := by
  have hnone : encoded.filter (!isBlankText ·) = none := by
    rw [Option.filter_eq_none_iff]
    intro text htext
    rw [h text htext]
    exact Bool.false_ne_true
  rw [recordedGroups, hnone]

/-- A text that is read is blank, or there are keys for what it holds. -/
theorem recordedGroups_cases {encoded : Option String}
    (h : recordedGroups keys encoded = .ok groups) :
    (∀ text ∈ encoded, isBlankText text = true) ∨
      ∃ text, encoded = some text ∧ isBlankText text = false ∧ keys ≠ [] := by
  cases encoded with
  | none =>
      left
      intro text htext
      cases htext
  | some text =>
      by_cases hblank : isBlankText text = true
      · left
        intro other hother
        cases hother
        exact hblank
      · refine .inr ⟨text, rfl, Bool.eq_false_iff.mpr hblank, ?_⟩
        rintro rfl
        have hsome : (some text).filter (!isBlankText ·) = some text := by
          rw [Option.filter_some, Bool.eq_false_iff.mpr hblank]
          rfl
        rw [recordedGroups, hsome] at h
        cases h

end

/-! ## Bars and commas -/

/-- A record with commas between its partitions as well. -/
def barsAsCommas (text : String) : String :=
  text.map fun c => if c = '|' then ',' else c

theorem isBlankText_barsAsCommas (text : String) :
    isBlankText (barsAsCommas text) = isBlankText text := by
  rw [isBlankText, isBlankText, barsAsCommas, String.toList_map, List.all_map]
  congr
  funext c
  by_cases hc : c = '|'
  · subst hc
    decide
  · simp [hc]

theorem not_mem_barsAsCommas (text : String) : '|' ∉ (barsAsCommas text).toList := by
  rw [barsAsCommas, String.toList_map, List.mem_map]
  rintro ⟨c, -, hc⟩
  split at hc
  · exact absurd hc (by decide)
  · contradiction

theorem commaItems_barsAsCommas (text : String) :
    commaItems (barsAsCommas text) = (words (· == '|') text).flatMap commaItems := by
  apply words_map
  · exact fun c => blank_not_separator (by decide)
  · exact fun c hc => if_neg (beq_eq_false_iff_ne.mp hc)
  · intro c hc
    rw [if_pos (beq_iff_eq.mp hc)]
    rfl

theorem segments_barsAsCommas {text : String} (hfilled : isBlankText text = false) :
    words (· == '|') (barsAsCommas text) = [trim (barsAsCommas text)] := by
  have hfree : ∀ c ∈ (barsAsCommas text).toList, (c == '|') = false := by
    intro c hc
    rw [beq_eq_false_iff_ne]
    rintro rfl
    exact not_mem_barsAsCommas text hc
  have hblank : ¬ isBlankText (barsAsCommas text) = true := by
    rw [isBlankText_barsAsCommas, hfilled]
    exact Bool.false_ne_true
  rw [words_of_free hfree, if_neg hblank]

section

variable {keys current : List String} {groups : List (List String)}

theorem groupsOf_append {α : Type} {size : Nat} {front : List α} (back : List α)
    (h : front.length % size = 0) :
    groupsOf size (front ++ back) = groupsOf size front ++ groupsOf size back := by
  induction front using groupsOf.induct size with
  | case1 front hnone =>
      rw [groupsOf.eq_1 size front, if_pos hnone]
      rcases hnone with rfl | rfl
      · rw [groupsOf, if_pos (Or.inl rfl), groupsOf, if_pos (Or.inl rfl)]
        rfl
      · rfl
  | case2 front hsome ih =>
      obtain ⟨hsize, hfront⟩ := not_or.mp hsome
      have hpos := List.length_pos_iff.mpr hfront
      have hle : size ≤ front.length := Nat.le_of_dvd hpos (Nat.dvd_of_mod_eq_zero h)
      have hrest : (front.drop size).length % size = 0 := by
        rw [List.length_drop, ← Nat.mod_eq_sub_mod hle, h]
      have hboth : ¬ (size = 0 ∨ front ++ back = []) :=
        not_or.mpr ⟨hsize, fun hnil => hfront (List.append_eq_nil_iff.mp hnil).1⟩
      rw [groupsOf, if_neg hboth, groupsOf.eq_1 size front, if_neg hsome,
        List.take_append_of_le_length hle, List.drop_append_of_le_length hle, ih hrest,
        List.cons_append]

/-- Groups of segments are groups of what is in all of them, for each segment has full groups. -/
theorem values_of_segments {segments : List String} {groups : List (List (List String))}
    (h : segments.mapM (segmentGroups keys) = .ok groups) :
    ∃ values,
      (segments.flatMap commaItems).mapM (fun token => (parseToken token).map (·.2)) = .ok values ∧
      values.length % keys.length = 0 ∧ groupsOf keys.length values = groups.flatten := by
  induction segments generalizing groups with
  | nil =>
      cases h
      exact ⟨[], rfl, Nat.zero_mod _, by simp [groupsOf]⟩
  | cons segment segments ih =>
      rw [List.mapM_cons] at h
      obtain ⟨first, hfirst, h⟩ := Except.bind_eq_ok.mp h
      obtain ⟨others, hothers, hgroups⟩ := Except.bind_eq_ok.mp h
      cases hgroups
      obtain ⟨front, hfront, hlength, rfl⟩ := segmentGroups_eq_ok.mp hfirst
      obtain ⟨back, hback, hrest, hflatten⟩ := ih hothers
      refine ⟨front ++ back, ?_, ?_, ?_⟩
      · rw [List.flatMap_cons, List.mapM_append]
        exact Except.bind_eq_ok.mpr ⟨front, hfront, Except.bind_eq_ok.mpr ⟨back, hback, rfl⟩⟩
      · rw [List.length_append, Nat.add_mod, hlength, hrest, Nat.zero_add, Nat.zero_mod]
      · rw [groupsOf_append back hlength, hflatten, List.flatten_cons]

theorem recordedGroups_barsAsCommas {encoded : Option String}
    (h : recordedGroups keys encoded = .ok groups) :
    recordedGroups keys (encoded.map barsAsCommas) = .ok groups := by
  rcases recordedGroups_cases h with hblank | ⟨text, rfl, hfilled, hkeys⟩
  · rw [recordedGroups_of_blank hblank] at h
    rw [← h]
    apply recordedGroups_of_blank
    intro text htext
    obtain ⟨other, hother, rfl⟩ := Option.map_eq_some_iff.mp htext
    rw [isBlankText_barsAsCommas, hblank other hother]
  · rw [recordedGroups_of_filled hkeys hfilled] at h
    obtain ⟨segments, hsegments, rfl⟩ := Except.map_eq_ok.mp h
    obtain ⟨values, hvalues, hlength, hgroups⟩ := values_of_segments hsegments
    have hsegment : segmentGroups keys (trim (barsAsCommas text)) = .ok segments.flatten := by
      rw [segmentGroups_eq_ok]
      refine ⟨values, ?_, hlength, hgroups⟩
      rw [segmentValues, commaItems_trim, commaItems_barsAsCommas, hvalues]
    have hcommas : isBlankText (barsAsCommas text) = false := by
      rw [isBlankText_barsAsCommas, hfilled]
    rw [Option.map_some, recordedGroups_of_filled hkeys hcommas, segments_barsAsCommas hfilled,
      List.mapM_cons, hsegment]
    exact congrArg Except.ok (List.append_nil segments.flatten)

end

/-- A record says the same with commas in place of its bars. -/
theorem decode_barsAsCommas {keys current : List String} {encoded : Option String}
    {partitions : List (OrderedMap String)} (h : decode encoded keys current = .ok partitions) :
    decode (encoded.map barsAsCommas) keys current = .ok partitions := by
  rw [decode_eq_map_recordedGroups] at h ⊢
  obtain ⟨groups, hgroups, rfl⟩ := Except.map_eq_ok.mp h
  rw [recordedGroups_barsAsCommas hgroups]
  rfl

namespace Sample

/-- Hours of two days, with a blank segment, names of other keys and an equals sign too many. -/
def looseRecord : String := " day=1, hour = 00 | |d=1,h=half past,day==2,hour=00,|"

def looseHours : List (OrderedMap String) :=
  [["1", "00"], ["1", "half past"], ["2", "00"]].map fun values =>
    .ofList (["day", "hour"].zip values)

end Sample

theorem decode_barsAsCommas_looseRecord :
    decode (some Sample.looseRecord) ["day", "hour"] ["1", "00"] = .ok (Sample.looseHours.drop 1) ∧
      decode (some " day=1, hour = 00 , ,d=1,h=half past,day==2,hour=00,,") ["day", "hour"]
        ["1", "00"] = .ok (Sample.looseHours.drop 1) := by
  have hbars : decode (some Sample.looseRecord) ["day", "hour"] ["1", "00"] =
      .ok (Sample.looseHours.drop 1) :=
    Except.toOption_eq_some.mp (by decide +kernel)
  have hcommas : barsAsCommas Sample.looseRecord =
      " day=1, hour = 00 , ,d=1,h=half past,day==2,hour=00,," := by
    decide +kernel
  rw [← hcommas]
  exact ⟨hbars, decode_barsAsCommas hbars⟩

/-! ## Recording anew -/

section

variable {keys current : List String} {groups : List (List String)} {group : List String}

theorem solid_of_parseToken {token : String} {entry : String × String}
    (h : parseToken token = .ok entry) : Solid entry.2 := by
  unfold parseToken at h
  split at h
  · rename_i key value hwords
    cases h
    have hmem : value ∈ words (· == '=') token := by
      rw [hwords]
      exact List.mem_cons_of_mem key List.mem_cons_self
    exact solid_of_mem_words hmem
  · cases h

theorem recordable_of_segmentValues {segment text value : String} {values : List String}
    (hsegment : segment ∈ words (· == '|') text) (h : segmentValues segment = .ok values)
    (hmem : value ∈ values) : Recordable value := by
  obtain ⟨token, -, hparse⟩ := Except.exists_of_mem_mapM h hmem
  obtain ⟨entry, hentry, rfl⟩ := Except.map_eq_ok.mp hparse
  exact ⟨solid_of_parseToken hentry, (plainValue_of_segmentValues hsegment h hmem).free⟩

/-- A value for each key, and nothing in it that would have to be left out of a record. -/
structure RecordableGroup (keys group : List String) : Prop where
  length_eq : group.length = keys.length
  recordable : ∀ value ∈ group, Recordable value

theorem recordableGroup_of_recordedGroups {encoded : Option String}
    (h : recordedGroups keys encoded = .ok groups) (hmem : group ∈ groups) :
    RecordableGroup keys group := by
  rcases recordedGroups_cases h with hblank | ⟨text, rfl, hfilled, hkeys⟩
  · rw [recordedGroups_of_blank hblank] at h
    cases h
    cases hmem
  · rw [recordedGroups_of_filled hkeys hfilled] at h
    obtain ⟨segments, hsegments, rfl⟩ := Except.map_eq_ok.mp h
    obtain ⟨found, hfound, hmem⟩ := List.mem_flatten.mp hmem
    obtain ⟨segment, hsegment, hgroups⟩ := Except.exists_of_mem_mapM hsegments hfound
    obtain ⟨values, hvalues, hlength, rfl⟩ := segmentGroups_eq_ok.mp hgroups
    constructor
    · exact length_of_mem_groupsOf hlength hmem
    · intro value hvalue
      exact recordable_of_segmentValues hsegment hvalues (mem_of_mem_groupsOf hvalue hmem)

/-! The partition of a group has the values of the group, for its keys are distinct. -/

theorem RecordableGroup.entries_ofList (h : RecordableGroup keys group) (hkeys : keys.Nodup) :
    (OrderedMap.ofList (keys.zip group)).entries = keys.zip group := by
  apply OrderedMap.entries_ofList
  rwa [Entries.keys, List.map_fst_zip h.length_eq.ge]

theorem RecordableGroup.values_ofList (h : RecordableGroup keys group) (hkeys : keys.Nodup) :
    (OrderedMap.ofList (keys.zip group)).entries.map Prod.snd = group := by
  rw [h.entries_ofList hkeys, List.map_snd_zip h.length_eq.le]

theorem RecordableGroup.recordableValues (h : RecordableGroup keys group) (hkeys : keys.Nodup)
    (hrecordable : ∀ key ∈ keys, Recordable key) :
    RecordableValues keys (.ofList (keys.zip group)) := by
  constructor
  · rw [OrderedMap.keys, h.entries_ofList hkeys, Entries.keys, List.map_fst_zip h.length_eq.ge]
  · rw [h.entries_ofList hkeys]
    intro entry hentry
    obtain ⟨hkey, hvalue⟩ := List.of_mem_zip hentry
    exact ⟨hrecordable entry.1 hkey, h.recordable entry.2 hvalue⟩

theorem segmentGroups_encodeOne {values : OrderedMap String} (hkeys : keys ≠ [])
    (h : RecordableValues keys values) :
    segmentGroups keys (encodeOne values) = .ok [values.entries.map Prod.snd] := by
  have hsize : keys.length ≠ 0 := fun hzero => hkeys (List.length_eq_zero_iff.mp hzero)
  rw [segmentGroups_eq_ok]
  refine ⟨_, h.segmentValues_encodeOne, ?_, ?_⟩
  · rw [h.length_values, Nat.mod_self]
  · have hflatten := groupsOf_flatten hsize (List.forall_mem_singleton.mpr h.length_values)
    rwa [List.flatten_singleton] at hflatten

theorem recordedGroups_encode {partitions : List (OrderedMap String)} (hkeys : keys ≠ [])
    (h : ∀ values ∈ partitions, RecordableValues keys values) :
    recordedGroups keys (some (encode partitions)) =
      .ok (partitions.map fun values => values.entries.map Prod.snd) := by
  by_cases hnone : partitions = []
  · subst hnone
    rfl
  · have hsegments : (partitions.map encodeOne).mapM (segmentGroups keys) =
        .ok (partitions.map fun values => [values.entries.map Prod.snd]) := by
      rw [Except.mapM_eq_ok, List.forall₂_map_left_iff, List.forall₂_map_right_iff,
        List.forall₂_same]
      exact fun values hvalues => segmentGroups_encodeOne hkeys (h values hvalues)
    rw [recordedGroups_of_filled hkeys (encode_not_blank hkeys h hnone), segments_encode hkeys h,
      hsegments]
    refine congrArg Except.ok ?_
    rw [← List.flatMap_def, ← List.map_eq_flatMap]

theorem otherPartitions_nil (hkeys : keys ≠ []) (h : ∀ group ∈ groups, RecordableGroup keys group) :
    otherPartitions keys [] groups = groups.map fun group => .ofList (keys.zip group) := by
  rw [otherPartitions, List.filter_eq_self.mpr]
  intro group hgroup
  rw [bne_iff_ne]
  rintro rfl
  exact hkeys (List.length_eq_zero_iff.mp (h [] hgroup).length_eq.symm)

theorem otherPartitions_eq_filter (hkeys : keys ≠ []) (hdistinct : keys.Nodup)
    (h : ∀ group ∈ groups, RecordableGroup keys group) :
    otherPartitions keys current groups =
      (otherPartitions keys [] groups).filter fun values =>
        values.entries.map Prod.snd != current := by
  rw [otherPartitions_nil hkeys h, List.filter_map, otherPartitions]
  congr 1
  apply List.filter_congr
  intro group hgroup
  rw [Function.comp_apply, (h group hgroup).values_ofList hdistinct]

end

/-- When all that was read from a text is recorded anew, no partition reads anything else: it still
leaves out what has its own values. -/
theorem decode_encode_decode {keys current : List String} {encoded : Option String}
    {partitions : List (OrderedMap String)} (hkeys : keys ≠ []) (hdistinct : keys.Nodup)
    (hrecordable : ∀ key ∈ keys, Recordable key)
    (h : decode encoded keys [] = .ok partitions) :
    decode (some (encode partitions)) keys current = decode encoded keys current ∧
      decode encoded keys current =
        .ok (partitions.filter fun values => values.entries.map Prod.snd != current) := by
  rw [decode_eq_map_recordedGroups] at h
  obtain ⟨groups, hgroups, rfl⟩ := Except.map_eq_ok.mp h
  have hgroup : ∀ group ∈ groups, RecordableGroup keys group := fun group =>
    recordableGroup_of_recordedGroups hgroups
  have hanew :
      recordedGroups keys (some (encode (otherPartitions keys [] groups))) = .ok groups := by
    rw [otherPartitions_nil hkeys hgroup, recordedGroups_encode hkeys, List.map_map]
    · refine congrArg Except.ok ?_
      calc groups.map ((fun values => values.entries.map Prod.snd) ∘
            fun group => OrderedMap.ofList (keys.zip group))
        _ = groups.map id := List.map_congr_left fun group hmem =>
            (hgroup group hmem).values_ofList hdistinct
        _ = groups := List.map_id groups
    · rw [List.forall_mem_map]
      exact fun group hmem => (hgroup group hmem).recordableValues hdistinct hrecordable
  constructor
  · rw [decode_eq_map_recordedGroups, decode_eq_map_recordedGroups, hanew, hgroups]
  · rw [decode_eq_map_recordedGroups, hgroups, ← otherPartitions_eq_filter hkeys hdistinct hgroup]
    rfl

theorem decode_encode_decode_looseRecord :
    let encoded := encode Sample.looseHours
    encoded = "day=1,hour=00|day=1,hour=half past|day=2,hour=00" ∧
      decode (some Sample.looseRecord) ["day", "hour"] [] = .ok Sample.looseHours ∧
      decode (some encoded) ["day", "hour"] ["1", "00"] = .ok (Sample.looseHours.drop 1) ∧
      decode (some Sample.looseRecord) ["day", "hour"] ["1", "00"] =
        .ok (Sample.looseHours.drop 1) := by
  intro encoded
  have hall : decode (some Sample.looseRecord) ["day", "hour"] [] = .ok Sample.looseHours :=
    Except.toOption_eq_some.mp (by decide +kernel)
  have hothers : (Sample.looseHours.filter fun values =>
      values.entries.map Prod.snd != ["1", "00"]) = Sample.looseHours.drop 1 := by
    decide +kernel
  obtain ⟨hanew, hkept⟩ := @decode_encode_decode ["day", "hour"] ["1", "00"] _ _ (by decide)
    (by decide) (by decide +kernel) hall
  rw [hothers] at hkept
  exact ⟨by decide +kernel, hall, hanew.trans hkept, hkept⟩

end OrcConversion.Partition
