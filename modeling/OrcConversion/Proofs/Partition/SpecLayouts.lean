import OrcConversion.Proofs.Partition.Reading
import OrcConversion.Proofs.Text.Listings

/-! Layouts of partition names and column types. -/

namespace OrcConversion.Partition

open Text

/-- A key of a partition with its type and its value. -/
structure SpecEntry where
  key : String
  type : String
  value : String

namespace SpecEntry

/-- An entry of which each part can be told from what stands around it. -/
structure Writable (entry : SpecEntry) : Prop where
  key_solid : Solid entry.key
  type_solid : Solid entry.type
  value_solid : Solid entry.value
  key_free : ∀ c ∈ ['/', ',', '='], c ∉ entry.key.toList
  value_free : ∀ c ∈ ['/', ',', '='], c ∉ entry.value.toList
  type_free : ',' ∉ entry.type.toList

instance (entry : SpecEntry) : Decidable entry.Writable :=
  letI (word : String) : Decidable (∀ c ∈ ['/', ',', '='], c ∉ word.toList) :=
    List.decidableBAll _ _
  decidable_of_iff
    ((Solid entry.key ∧ Solid entry.type ∧ Solid entry.value) ∧
      (∀ c ∈ ['/', ',', '='], c ∉ entry.key.toList) ∧
      (∀ c ∈ ['/', ',', '='], c ∉ entry.value.toList) ∧ ',' ∉ entry.type.toList)
    ⟨fun ⟨⟨hkey, htype, hvalue⟩, hkeyFree, hvalueFree, htypeFree⟩ =>
        ⟨hkey, htype, hvalue, hkeyFree, hvalueFree, htypeFree⟩,
      fun h => ⟨⟨h.key_solid, h.type_solid, h.value_solid⟩, h.key_free, h.value_free, h.type_free⟩⟩

def WritesToken (entry : SpecEntry) (text : String) : Prop :=
  Assigns (entry.key, entry.value) text

def WritesType (entry : SpecEntry) (text : String) : Prop := Padded entry.type text

end SpecEntry

/-! ## Tokens and types -/

section

variable {entry : SpecEntry} {text : String}

def separatesTokens (c : Char) : Bool := c == '/' || c == ','

theorem blank_not_separatesTokens (c : Char) (h : isBlank c = true) :
    separatesTokens c = false := by
  rw [separatesTokens, blank_not_separator (by decide) h, blank_not_separator (by decide) h]
  rfl

theorem separatesTokens_eq_false {word : String} (h : ∀ c ∈ ['/', ',', '='], c ∉ word.toList) :
    ∀ c ∈ word.toList, separatesTokens c = false := by
  intro c hc
  have hslash : c ≠ '/' := fun heq => h '/' (by decide) (heq ▸ hc)
  have hcomma : c ≠ ',' := fun heq => h ',' (by decide) (heq ▸ hc)
  simp [separatesTokens, hslash, hcomma]

theorem SpecEntry.Writable.parseToken_eq (h : entry.Writable) (htext : entry.WritesToken text) :
    parseToken (trim text) = .ok (entry.key, entry.value) := by
  obtain ⟨key, value, hkey, hvalue, rfl⟩ := htext
  have hblank : ∀ c, isBlank c = true → (c == '=') = false := fun c =>
    blank_not_separator (by decide)
  have hsplit : words (· == '=') (key ++ "=" ++ value) =
      words (· == '=') key ++ words (· == '=') value := by
    have hequals : "=" = String.singleton '=' := by decide
    rw [hequals]
    exact words_append_separator key value (beq_self_eq_true '=')
  have hwords : words (· == '=') (trim (key ++ "=" ++ value)) = [entry.key, entry.value] := by
    rw [words_trim hblank, hsplit,
      hkey.words_eq h.key_solid hblank (free_of_not_mem (h.key_free '=' (by decide))),
      hvalue.words_eq h.value_solid hblank (free_of_not_mem (h.value_free '=' (by decide)))]
    rfl
  rw [parseToken, hwords]

theorem SpecEntry.Writable.free_token (h : entry.Writable) (htext : entry.WritesToken text) :
    ∀ c ∈ text.toList, separatesTokens c = false := by
  obtain ⟨key, value, hkey, hvalue, rfl⟩ := htext
  rw [String.toList_append, String.toList_append]
  simp only [List.forall_mem_append]
  refine ⟨⟨?_, ?_⟩, ?_⟩
  · exact hkey.free blank_not_separatesTokens (separatesTokens_eq_false h.key_free)
  · simp [separatesTokens]
  · exact hvalue.free blank_not_separatesTokens (separatesTokens_eq_false h.value_free)

theorem SpecEntry.Writable.token (h : entry.Writable) (htext : entry.WritesToken text) :
    ∃ token, words separatesTokens text = [token] ∧
      parseToken token = .ok (entry.key, entry.value) :=
  ⟨trim text, by rw [words_of_free (h.free_token htext), if_neg (Assigns.filled htext)],
    h.parseToken_eq htext⟩

theorem SpecEntry.Writable.words_type (h : entry.Writable) (htext : entry.WritesType text) :
    words (· == ',') text = [entry.type] := by
  apply Padded.words_eq htext h.type_solid
  · exact fun c => blank_not_separator (by decide)
  · exact free_of_not_mem h.type_free

variable {entries : List SpecEntry} {name types : String}

theorem tokens_of_listing (hentries : ∀ entry ∈ entries, entry.Writable)
    (hname : Listing separatesTokens SpecEntry.WritesToken entries name) :
    List.Forall₂ (fun entry token => parseToken token = .ok (entry.key, entry.value)) entries
      (nameTokens name) :=
  hname.forall₂_words blank_not_separatesTokens fun entry hentry _ =>
    (hentries entry hentry).token

theorem types_of_listing (hentries : ∀ entry ∈ entries, entry.Writable)
    (htypes : Listing (· == ',') SpecEntry.WritesType entries types) :
    commaItems types = entries.map SpecEntry.type := by
  have hrelated : List.Forall₂ (fun entry type => type = SpecEntry.type entry) entries
      (commaItems types) := by
    apply htypes.forall₂_words
    · exact fun c => blank_not_separator (by decide)
    · exact fun entry hentry text htext => ⟨_, (hentries entry hentry).words_type htext, rfl⟩
  rw [← List.forall₂_eq_eq_eq, List.forall₂_map_right_iff]
  exact hrelated.flip

/-! ## Specifications -/

theorem readTokens_zip {tokens : List String} {spec : PartitionSpec}
    (h : List.Forall₂ (fun entry token => parseToken token = .ok (entry.key, entry.value))
      entries tokens) :
    readTokens spec (tokens.zip (entries.map SpecEntry.type)) =
      .ok (entries.foldl (fun spec entry => spec.add entry.key entry.type entry.value) spec) := by
  induction h generalizing spec with
  | nil => rfl
  | cons htoken _ ih =>
      rw [List.map_cons, List.zip_cons_cons, readTokens, htoken]
      exact ih

theorem entries_foldl_add (spec : PartitionSpec) :
    let whole := entries.foldl (fun spec entry => spec.add entry.key entry.type entry.value) spec
    whole.types.entries = (entries.map fun entry => (entry.key, entry.type)).foldl
        (fun map entry => Entries.insert entry.1 entry.2 map) spec.types.entries ∧
      whole.values.entries = (entries.map fun entry => (entry.key, entry.value)).foldl
        (fun map entry => Entries.insert entry.1 entry.2 map) spec.values.entries := by
  induction entries generalizing spec with
  | nil => exact ⟨rfl, rfl⟩
  | cons entry entries ih => exact ih (spec.add entry.key entry.type entry.value)

theorem readSpec_of_filled (hname : nameTokens name ≠ []) (htypes : commaItems types ≠ [])
    (hlength : (nameTokens name).length = (commaItems types).length) :
    readSpec name types = readTokens .empty ((nameTokens name).zip (commaItems types)) := by
  rw [← nameTokens_trim] at hname hlength ⊢
  rw [← commaItems_trim] at htypes hlength ⊢
  have hfilled : (trim name).isEmpty = false := by
    rw [Bool.eq_false_iff, Ne, String.isEmpty_iff]
    intro hempty
    rw [hempty] at hname
    exact hname rfl
  have hothers : (trim types).isEmpty = false := by
    rw [Bool.eq_false_iff, Ne, String.isEmpty_iff]
    intro hempty
    rw [hempty] at htypes
    exact htypes rfl
  rw [readSpec, hfilled, hothers]
  simp only [Bool.and_self, Bool.or_self, Bool.false_eq_true, if_false, hlength, ne_eq,
    not_true_eq_false]

end

/-- A partition with distinct keys is read as it was written. -/
theorem spec_of_listing {partition : SourcePartition} {entries : List SpecEntry}
    (hsome : entries ≠ []) (hdistinct : (entries.map SpecEntry.key).Nodup)
    (hentries : ∀ entry ∈ entries, entry.Writable)
    (hname : Listing separatesTokens SpecEntry.WritesToken entries partition.name)
    (htypes : Listing (· == ',') SpecEntry.WritesType entries partition.columnTypes) :
    ∃ spec, SourcePartition.spec (some partition) = .ok spec ∧
      spec.types.entries = entries.map (fun entry => (entry.key, entry.type)) ∧
      spec.values.entries = entries.map (fun entry => (entry.key, entry.value)) := by
  have htokens := tokens_of_listing hentries hname
  have hitems := types_of_listing hentries htypes
  have hlength :
      (nameTokens partition.name).length = (commaItems partition.columnTypes).length := by
    rw [hitems, List.length_map, htokens.length_eq]
  have htokensSome : nameTokens partition.name ≠ [] := by
    intro hnil
    rw [hnil] at htokens
    exact hsome (List.forall₂_nil_right_iff.mp htokens)
  have hitemsSome : commaItems partition.columnTypes ≠ [] := by
    rw [hitems]
    exact fun hnil => hsome (List.map_eq_nil_iff.mp hnil)
  obtain ⟨hspecTypes, hspecValues⟩ := @entries_foldl_add entries .empty
  have hkeys : ∀ part : SpecEntry → String,
      Entries.keys (entries.map fun entry => (entry.key, part entry)) =
        entries.map SpecEntry.key := by
    intro part
    rw [Entries.keys, List.map_map]
    rfl
  refine ⟨entries.foldl (fun spec entry => spec.add entry.key entry.type entry.value) .empty,
    ?_, ?_, ?_⟩
  · rw [SourcePartition.spec, readSpec_of_filled htokensSome hitemsSome hlength, hitems,
      readTokens_zip htokens]
  · rw [hspecTypes]
    exact OrderedMap.entries_ofList (by rwa [hkeys])
  · rw [hspecValues]
    exact OrderedMap.entries_ofList (by rwa [hkeys])

namespace Sample

def hourEntries : List SpecEntry := [⟨"day", "string", "2016-01-02"⟩, ⟨"hour", "int", "00"⟩]

def looseHour : SourcePartition where
  name := " day = 2016-01-02 ,/hour=00/ "
  values := ["2016-01-02", "00"]
  dataLocation := "/in/1"
  columnTypes := "string , , int"

theorem looseHour_name :
    Listing separatesTokens SpecEntry.WritesToken hourEntries looseHour.name := by
  have hname : looseHour.name = " day = 2016-01-02 " ++ String.singleton ',' ++
      ("" ++ String.singleton '/' ++ ("hour=00" ++ String.singleton '/' ++ " ")) := by
    decide
  have hday : SpecEntry.WritesToken ⟨"day", "string", "2016-01-02"⟩ " day = 2016-01-02 " :=
    ⟨" day ", " 2016-01-02 ", ⟨" ", " ", by decide, by decide, by decide⟩,
      ⟨" ", " ", by decide, by decide, by decide⟩, by decide⟩
  have hhour : SpecEntry.WritesToken ⟨"hour", "int", "00"⟩ "hour=00" :=
    ⟨"hour", "00", .self "hour", .self "00", by decide⟩
  rw [hname]
  exact .itemBefore hday rfl (.blankBefore rfl rfl (.itemBefore hhour rfl (.blank (by decide))))

theorem looseHour_types :
    Listing (· == ',') SpecEntry.WritesType hourEntries looseHour.columnTypes := by
  have htypes : looseHour.columnTypes = "string " ++ String.singleton ',' ++
      (" " ++ String.singleton ',' ++ " int") := by
    decide
  rw [htypes]
  apply Listing.itemBefore ⟨"", " ", rfl, by decide, by decide⟩ rfl
  apply Listing.blankBefore (by decide) rfl
  exact Listing.item ⟨" ", "", by decide, rfl, by decide⟩

end Sample

theorem spec_of_listing_looseHour :
    ∃ spec, SourcePartition.spec (some Sample.looseHour) = .ok spec ∧
      spec.types.entries = [("day", "string"), ("hour", "int")] ∧
      spec.values.entries = [("day", "2016-01-02"), ("hour", "00")] :=
  spec_of_listing (List.cons_ne_nil _ _) (by decide) (by decide +kernel) Sample.looseHour_name
    Sample.looseHour_types

end OrcConversion.Partition
