import Mathlib.Data.List.Induction
import OrcConversion.Conversion.Properties
import OrcConversion.Proofs.Result
import OrcConversion.Proofs.Text.Listings

/-! Lists of properties, and the texts they are read from. -/

namespace OrcConversion

/-! ## Maps of a list of entries -/

namespace Entries

theorem ofList_concat (entries : List (String × α)) (entry : String × α) :
    ofList (entries ++ [entry]) = insert entry.1 entry.2 (ofList entries) := by
  rw [ofList, ofList, List.foldl_append]
  rfl

theorem keys_ofList (entries : List (String × α)) :
    keys (ofList entries) = (keys entries).eraseDups := by
  induction entries using List.reverseRecOn with
  | nil => rfl
  | append_singleton entries entry ih =>
      have hkeys : keys (entries ++ [entry]) = keys entries ++ [entry.1] := List.map_append
      rw [ofList_concat, keys_insert, ih, hkeys, List.eraseDups_append]
      by_cases hmem : entry.1 ∈ keys entries
      · simp [List.mem_eraseDups, List.removeAll, hmem]
      · simp [List.mem_eraseDups, List.removeAll, List.eraseDups_cons, hmem]

theorem lookup?_ofList (key : String) (entries : List (String × α)) :
    lookup? key (ofList entries) = lookup? key entries.reverse := by
  induction entries using List.reverseRecOn with
  | nil => rfl
  | append_singleton entries entry ih =>
      rw [ofList_concat, List.reverse_append, List.reverse_singleton, List.singleton_append]
      by_cases hkey : key = entry.1
      · rw [hkey, lookup?_insert_self]
        simp [lookup?]
      · have hother : (entry.1 == key) = false := beq_eq_false_iff_ne.mpr (Ne.symm hkey)
        rw [lookup?_insert_of_ne _ _ hkey, ih]
        simp [lookup?, hother]

end Entries

namespace Properties

open Text

/-! ## One entry -/

/-- An entry that can be told from what stands around it; its value may be empty or hold equals
signs. -/
structure Writable (entry : String × String) : Prop where
  key_solid : Solid entry.1
  key_free : ',' ∉ entry.1.toList ∧ '=' ∉ entry.1.toList
  value_trimmed : trim entry.2 = entry.2
  value_free : ',' ∉ entry.2.toList

instance (entry : String × String) : Decidable (Writable entry) :=
  decidable_of_iff
    (Solid entry.1 ∧ (',' ∉ entry.1.toList ∧ '=' ∉ entry.1.toList) ∧ trim entry.2 = entry.2 ∧
      ',' ∉ entry.2.toList)
    ⟨fun ⟨hsolid, hkey, htrimmed, hvalue⟩ => ⟨hsolid, hkey, htrimmed, hvalue⟩,
      fun h => ⟨h.key_solid, h.key_free, h.value_trimmed, h.value_free⟩⟩

section

variable {entry : String × String} {text : String}

theorem Writable.not_mem (h : Writable entry) (htext : Assigns entry text) :
    ',' ∉ text.toList := by
  obtain ⟨key, value, hkey, hvalue, rfl⟩ := htext
  have hfront := hkey.not_mem (by decide) h.key_free.1
  have hback := hvalue.not_mem (by decide) h.value_free
  simp [hfront, hback]

theorem Writable.readEntry_eq (h : Writable entry) (htext : Assigns entry text) (key : String) :
    readEntry key (trim text) = .ok entry := by
  obtain ⟨front, back, hfront, hback, rfl⟩ := htext
  have hchars : (trim (front ++ "=" ++ back)).toList =
      front.toList.dropWhile isBlank ++ '=' :: back.toList.rdropWhile isBlank := by
    rw [toList_trim, String.toList_append, String.toList_append, List.append_assoc]
    exact stripBy_append_cons (by decide) front.toList back.toList
  have hfree : '=' ∉ front.toList.dropWhile isBlank := fun hmem =>
    hfront.not_mem (by decide) h.key_free.2 ((List.dropWhile_sublist isBlank).subset hmem)
  have hname : trim (String.ofList (front.toList.dropWhile isBlank)) = entry.1 := by
    rw [trim, String.toList_ofList, stripBy_dropWhile]
    exact hfront.trim_eq h.key_solid
  have hvalue : trim (String.ofList (back.toList.rdropWhile isBlank)) = entry.2 := by
    rw [trim, String.toList_ofList, stripBy_rdropWhile]
    exact hback.trim_eq_of_trimmed h.value_trimmed
  have hfilled : entry.1.isEmpty = false := by
    rw [Bool.eq_false_iff, Ne, String.isEmpty_iff]
    exact h.key_solid.filled
  rw [readEntry, hchars, cutAt?_append hfree]
  simp only [hname, hvalue, hfilled, Bool.false_eq_true, if_false]

theorem Writable.word (h : Writable entry) (htext : Assigns entry text) (key : String) :
    ∃ word, words (· == ',') text = [word] ∧ readEntry key word = .ok entry :=
  ⟨trim text, by rw [words_of_free (free_of_not_mem (h.not_mem htext)), if_neg htext.filled],
    h.readEntry_eq htext key⟩

end

/-! ## Lists of entries -/

theorem readEntries_eq_ofList {entries : List (String × String)} {text : String}
    (hentries : ∀ entry ∈ entries, Writable entry)
    (htext : Listing (· == ',') Assigns entries text) (key : String) :
    readEntries key (some text) = .ok (.ofList entries) := by
  have hblank : ∀ c, isBlank c = true → (c == ',') = false := fun c =>
    blank_not_separator (by decide)
  have hwords : List.Forall₂ (fun entry word => readEntry key word = .ok entry) entries
      (words (· == ',') text) :=
    htext.forall₂_words hblank fun entry hentry text htext => (hentries entry hentry).word htext key
  rw [readEntries, readList, Option.getD_some, Except.mapM_eq_ok.mpr hwords.flip]
  rfl

/-- A map is read from every text that lists its entries. Of an entry whose key is listed more than
once, the first place and the last value count. -/
theorem readEntries_of_listing (key text : String) :
    (∀ map : OrderedMap String, (∀ entry ∈ map.entries, Writable entry) →
      Listing (· == ',') Assigns map.entries text → readEntries key (some text) = .ok map) ∧
    ∀ entries : List (String × String), (∀ entry ∈ entries, Writable entry) →
      Listing (· == ',') Assigns entries text →
      ∃ map, readEntries key (some text) = .ok map ∧
        map.keys = (entries.map Prod.fst).eraseDups ∧
        ∀ name, map.lookup? name = Entries.lookup? name entries.reverse := by
  constructor
  · intro map hmap htext
    rw [readEntries_eq_ofList hmap htext key, OrderedMap.ofList_entries]
  · intro entries hentries htext
    exact ⟨.ofList entries, readEntries_eq_ofList hentries htext key, Entries.keys_ofList entries,
      fun name => Entries.lookup?_ofList name entries⟩

namespace Sample

def looseMap : OrderedMap String :=
  ⟨[("orc.compress", "ZLIB"), ("owner", "a=b"), ("note", "")], by decide⟩

def loose : String := " orc.compress = ZLIB ,,owner= a=b,note= , "

theorem loose_listing : Listing (· == ',') Assigns looseMap.entries loose := by
  have htext : loose = " orc.compress = ZLIB " ++ String.singleton ',' ++
      ("" ++ String.singleton ',' ++ ("owner= a=b" ++ String.singleton ',' ++
        ("note= " ++ String.singleton ',' ++ " "))) := by
    decide
  have hcompress : Assigns ("orc.compress", "ZLIB") " orc.compress = ZLIB " :=
    ⟨" orc.compress ", " ZLIB ", ⟨" ", " ", by decide, by decide, by decide⟩,
      ⟨" ", " ", by decide, by decide, by decide⟩, by decide⟩
  have howner : Assigns ("owner", "a=b") "owner= a=b" :=
    ⟨"owner", " a=b", .self "owner", ⟨" ", "", by decide, rfl, by decide⟩, by decide⟩
  have hnote : Assigns ("note", "") "note= " :=
    ⟨"note", " ", .self "note", ⟨" ", "", by decide, rfl, by decide⟩, by decide⟩
  rw [htext]
  apply Listing.itemBefore hcompress rfl
  apply Listing.blankBefore rfl rfl
  apply Listing.itemBefore howner rfl
  exact .itemBefore hnote rfl (.blank (by decide))

def repeatedEntries : List (String × String) := [("owner", "a"), ("note", "b"), ("owner", "c")]

def repeated : String := "owner=a,note=b,owner=c"

theorem repeated_listing : Listing (· == ',') Assigns repeatedEntries repeated := by
  have htext : repeated = "owner=a" ++ String.singleton ',' ++
      ("note=b" ++ String.singleton ',' ++ "owner=c") := by
    decide
  rw [htext]
  apply Listing.itemBefore (assigns_plain ("owner", "a")) rfl
  apply Listing.itemBefore (assigns_plain ("note", "b")) rfl
  exact .item (assigns_plain ("owner", "c"))

end Sample

theorem readEntries_of_listing_loose :
    readEntries "hiveRuntime" (some Sample.loose) = .ok Sample.looseMap ∧
      ∃ map, readEntries "hiveRuntime" (some Sample.repeated) = .ok map ∧
        map.keys = ["owner", "note"] ∧ map.lookup? "owner" = some "c" := by
  obtain ⟨map, hmap, hkeys, hlookup⟩ :=
    (readEntries_of_listing "hiveRuntime" Sample.repeated).2 Sample.repeatedEntries
      (by decide +kernel) Sample.repeated_listing
  refine ⟨?_, map, hmap, ?_, ?_⟩
  · exact (readEntries_of_listing "hiveRuntime" Sample.loose).1 Sample.looseMap
      (by decide +kernel) Sample.loose_listing
  · rw [hkeys]
    decide
  · rw [hlookup]
    decide

end Properties

end OrcConversion
