import Mathlib.Data.List.Zip
import OrcConversion.Partition.Replaced
import OrcConversion.Proofs.Result
import OrcConversion.Proofs.Text.Words

/-! What is read off the name of a partition and off the record of the partitions that it replaces.
-/

namespace OrcConversion.Partition

open Text

/-! ## Specifications -/

theorem nameTokens_trim (name : String) : nameTokens (trim name) = nameTokens name := by
  apply words_trim
  intro c hblank
  by_contra hseparator
  rw [Bool.not_eq_false, Bool.or_eq_true, beq_iff_eq, beq_iff_eq] at hseparator
  rcases hseparator with rfl | rfl
  · exact absurd hblank (by decide)
  · exact absurd hblank (by decide)

theorem commaItems_trim (text : String) : commaItems (trim text) = commaItems text :=
  words_trim (fun _ => blank_not_separator (by decide)) text

theorem readTokens_eq_ok {items : List (String × String)} {spec result : PartitionSpec}
    (h : readTokens spec items = .ok result) :
    ∃ tokens, (items.map Prod.fst).mapM parseToken = .ok tokens ∧
      result.values.entries =
        tokens.foldl (fun map token => Entries.insert token.1 token.2 map) spec.values.entries := by
  induction items generalizing spec with
  | nil =>
      cases h
      exact ⟨[], rfl, rfl⟩
  | cons item rest ih =>
      obtain ⟨token, htoken, hrest⟩ := Except.bind_eq_ok.mp h
      obtain ⟨tokens, htokens, hvalues⟩ := ih hrest
      refine ⟨token :: tokens, ?_, hvalues⟩
      rw [List.map_cons, Except.mapM_eq_ok, List.forall₂_cons]
      exact ⟨htoken, Except.mapM_eq_ok.mp htokens⟩

/-- A specification binds the tokens of a name, whatever their types. -/
theorem readSpec_eq_ok {name columnTypes : String} {spec : PartitionSpec}
    (h : readSpec name columnTypes = .ok spec) :
    ∃ tokens, (nameTokens name).mapM parseToken = .ok tokens ∧ spec.values = .ofList tokens := by
  rw [← nameTokens_trim]
  unfold readSpec at h
  simp only at h
  split at h
  · rename_i hempty
    cases h
    rw [Bool.and_eq_true, String.isEmpty_iff, String.isEmpty_iff] at hempty
    rw [hempty.1]
    exact ⟨[], rfl, rfl⟩
  · split at h
    · cases h
    · split at h
      · cases h
      · rename_i hlength
        obtain ⟨tokens, htokens, hvalues⟩ := readTokens_eq_ok h
        rw [List.map_fst_zip (by omega)] at htokens
        exact ⟨tokens, htokens, OrderedMap.ext hvalues⟩

/-- Something other than separators and blanks stands in the name of a partition. -/
def HasTokens (name : String) : Prop :=
  ∃ c ∈ name.toList, isBlank c = false ∧ c ≠ '/' ∧ c ≠ ','

theorem HasTokens.nameTokens_ne_nil {name : String} (h : HasTokens name) :
    nameTokens name ≠ [] := by
  obtain ⟨c, hmem, hfilled, hslash, hcomma⟩ := h
  exact words_ne_nil hmem (by simp [hslash, hcomma]) hfilled

theorem HasTokens.values_of_readSpec {name columnTypes : String} {spec : PartitionSpec}
    (h : HasTokens name) (hspec : readSpec name columnTypes = .ok spec) :
    spec.values.isEmpty = false := by
  obtain ⟨tokens, htokens, hvalues⟩ := readSpec_eq_ok hspec
  rw [hvalues, Bool.eq_false_iff]
  intro hempty
  rw [OrderedMap.eq_nil_of_isEmpty_ofList hempty] at htokens
  exact h.nameTokens_ne_nil (List.forall₂_nil_right_iff.mp (Except.mapM_eq_ok.mp htokens))

theorem readSpec_of_blank {name columnTypes : String} (hname : isBlankText name = true)
    (htypes : isBlankText columnTypes = true) : readSpec name columnTypes = .ok .empty := by
  simp only [readSpec, trim_eq_empty_iff.mpr hname, trim_eq_empty_iff.mpr htypes]
  rfl

/-! ## Replaced partitions -/

theorem length_of_mem_groupsOf {α : Type} {size : Nat} {values group : List α}
    (hlength : values.length % size = 0) (hmem : group ∈ groupsOf size values) :
    group.length = size := by
  induction values using groupsOf.induct size with
  | case1 values hnone =>
      rw [groupsOf, if_pos hnone] at hmem
      cases hmem
  | case2 values hsome ih =>
      rw [groupsOf, if_neg hsome] at hmem
      obtain ⟨hsize, hvalues⟩ := not_or.mp hsome
      have hpos := List.length_pos_iff.mpr hvalues
      have hle : size ≤ values.length := Nat.le_of_dvd hpos (Nat.dvd_of_mod_eq_zero hlength)
      rcases List.mem_cons.mp hmem with rfl | hmem
      · rw [List.length_take, Nat.min_eq_left hle]
      · apply ih _ hmem
        rw [List.length_drop, ← Nat.mod_eq_sub_mod hle, hlength]

theorem mem_of_mem_groupsOf {α : Type} {size : Nat} {values group : List α} {value : α}
    (hvalue : value ∈ group) (hmem : group ∈ groupsOf size values) : value ∈ values := by
  induction values using groupsOf.induct size with
  | case1 values hnone =>
      rw [groupsOf, if_pos hnone] at hmem
      cases hmem
  | case2 values hsome ih =>
      rw [groupsOf, if_neg hsome] at hmem
      rcases List.mem_cons.mp hmem with rfl | hmem
      · exact List.mem_of_mem_take hvalue
      · exact List.mem_of_mem_drop (ih hmem)

/-- A value that can stand in the record of replaced partitions. -/
structure PlainValue (value : String) : Prop where
  filled : isBlankText value = false
  free : ∀ c ∈ ['|', ',', '='], c ∉ value.toList

theorem value_of_parseToken {token : String} {entry : String × String}
    (h : parseToken token = .ok entry) :
    isBlankText entry.2 = false ∧ ∀ c ∈ entry.2.toList, c ≠ '=' ∧ c ∈ token.toList := by
  unfold parseToken at h
  split at h
  · rename_i key value hwords
    cases h
    have hmem : value ∈ words (· == '=') token := hwords ▸ by simp
    obtain ⟨hfilled, hchars⟩ := of_mem_words hmem
    refine ⟨hfilled, fun c hc => ?_⟩
    exact ⟨beq_eq_false_iff_ne.mp (hchars c hc).1, (hchars c hc).2⟩
  · cases h

variable {keys current : List String} {partition : SourcePartition}
  {replaced : List (OrderedMap String)} {values : OrderedMap String}

theorem plainValue_of_segmentValues {segment text value : String} {found : List String}
    (hsegment : segment ∈ words (· == '|') text) (h : segmentValues segment = .ok found)
    (hmem : value ∈ found) : PlainValue value := by
  obtain ⟨token, htoken, hparse⟩ := Except.exists_of_mem_mapM h hmem
  obtain ⟨entry, hentry, rfl⟩ := Except.map_eq_ok.mp hparse
  obtain ⟨hfilled, hvalue⟩ := value_of_parseToken hentry
  obtain ⟨-, hitem⟩ := of_mem_words htoken
  obtain ⟨-, hpiece⟩ := of_mem_words hsegment
  refine ⟨hfilled, ?_⟩
  intro c hseparator hc
  obtain ⟨hequals, hc⟩ := hvalue c hc
  obtain ⟨hcomma, hc⟩ := hitem c hc
  obtain ⟨hbar, -⟩ := hpiece c hc
  rcases List.mem_cons.mp hseparator with rfl | hseparator
  · exact absurd hbar (by decide)
  · rcases List.mem_cons.mp hseparator with rfl | hseparator
    · exact absurd hcomma (by decide)
    · exact hequals (List.mem_singleton.mp hseparator)

/-- A full set of values for some keys, other than the current ones. -/
def OtherValues (keys current : List String) (values : OrderedMap String) : Prop :=
  ∃ group : List String,
    group.length = keys.length ∧ group ≠ current ∧ (∀ value ∈ group, PlainValue value) ∧
      values = .ofList (keys.zip group)

theorem otherValues_of_decodeSegment {segment text : String}
    (hsegment : segment ∈ words (· == '|') text)
    (h : decodeSegment keys current segment = .ok replaced) (hmem : values ∈ replaced) :
    OtherValues keys current values := by
  obtain ⟨found, hvalues, hfound⟩ := Except.bind_eq_ok.mp h
  split at hfound
  · cases hfound
  · rename_i hlength
    cases hfound
    obtain ⟨group, hgroup, rfl⟩ := List.mem_map.mp hmem
    obtain ⟨hgroup, hother⟩ := List.mem_filter.mp hgroup
    refine ⟨group, length_of_mem_groupsOf (not_not.mp hlength) hgroup, bne_iff_ne.mp hother, ?_,
      rfl⟩
    intro value hvalue
    exact plainValue_of_segmentValues hsegment hvalues (mem_of_mem_groupsOf hvalue hgroup)

theorem decode_eq_ok {encoded : Option String} (h : decode encoded keys current = .ok replaced) :
    replaced = [] ∨ keys ≠ [] ∧ ∀ values ∈ replaced, OtherValues keys current values := by
  unfold decode at h
  split at h
  · cases h
    exact .inl rfl
  · split at h
    · cases h
    · rename_i hkeys
      obtain ⟨segments, hsegments, hflat⟩ := Except.bind_eq_ok.mp h
      cases hflat
      refine .inr ⟨fun hnil => hkeys (List.isEmpty_iff.mpr hnil), fun values hmem => ?_⟩
      obtain ⟨partitions, hpartitions, hmem⟩ := List.mem_flatten.mp hmem
      obtain ⟨segment, hwords, hsegment⟩ := Except.exists_of_mem_mapM hsegments hpartitions
      exact otherValues_of_decodeSegment hwords hsegment hmem

/-- What a partition replaces has values for its keys, but not the ones recorded for it. -/
theorem replacedBy_eq_ok {tokens : List (String × String)}
    (htokens : (nameTokens partition.name).mapM parseToken = .ok tokens)
    (h : replacedBy (some partition) = .ok replaced) :
    replaced = [] ∨ tokens ≠ [] ∧
      ∀ values ∈ replaced, OtherValues (tokens.map Prod.fst) partition.values values := by
  simp only [replacedBy] at h
  split at h
  · cases h
    exact .inl rfl
  · rw [htokens] at h
    exact (decode_eq_ok h).imp_right fun hsome => ⟨fun hnil => hsome.1 (hnil ▸ rfl), hsome.2⟩

theorem otherValues_of_replacedBy {tokens : List (String × String)}
    (htokens : (nameTokens partition.name).mapM parseToken = .ok tokens)
    (h : replacedBy (some partition) = .ok replaced) (hmem : values ∈ replaced) :
    OtherValues (tokens.map Prod.fst) partition.values values := by
  rcases replacedBy_eq_ok htokens h with rfl | ⟨-, hothers⟩
  · cases hmem
  · exact hothers values hmem

theorem OtherValues.keys_eq {tokens : List (String × String)}
    (h : OtherValues (tokens.map Prod.fst) current values) :
    values.keys = (OrderedMap.ofList tokens).keys := by
  obtain ⟨group, hlength, -, -, rfl⟩ := h
  exact OrderedMap.keys_ofList_congr (List.map_fst_zip (by omega))

theorem OtherValues.plain {entry : String × String} (h : OtherValues keys current values)
    (hmem : entry ∈ values.entries) : PlainValue entry.2 := by
  obtain ⟨group, -, -, hplain, rfl⟩ := h
  exact hplain entry.2 (List.of_mem_zip (OrderedMap.mem_of_mem_ofList hmem)).2

/-- A partition with distinct keys does not replace itself. -/
theorem not_otherValues_self {tokens : List (String × String)}
    (hkeys : (tokens.map Prod.fst).Nodup) :
    ¬ OtherValues (tokens.map Prod.fst) (tokens.map Prod.snd) (.ofList tokens) := by
  rintro ⟨group, hlength, hother, -, heq⟩
  have hzip : Entries.keys ((tokens.map Prod.fst).zip group) = tokens.map Prod.fst :=
    List.map_fst_zip (by omega)
  have hentries := congrArg OrderedMap.entries heq
  rw [OrderedMap.entries_ofList hkeys, OrderedMap.entries_ofList (by rwa [hzip])] at hentries
  apply hother
  rw [hentries, List.map_snd_zip (by omega)]

end OrcConversion.Partition
