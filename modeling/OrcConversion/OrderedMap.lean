/-! Maps that remember the order of their keys. -/

namespace OrcConversion

variable {κ : Type}

namespace Entries

def keys (entries : List (κ × α)) : List κ :=
  entries.map (·.1)

@[simp] theorem keys_nil : keys ([] : List (κ × α)) = [] := rfl

@[simp] theorem keys_cons (entry : κ × α) (rest : List (κ × α)) :
    keys (entry :: rest) = entry.1 :: keys rest := rfl

variable [DecidableEq κ]

def insert (key : κ) (value : α) : List (κ × α) → List (κ × α)
  | [] => [(key, value)]
  | (first, old) :: rest =>
      if first = key then (first, value) :: rest
      else (first, old) :: insert key value rest

theorem keys_insert (key : κ) (value : α) (entries : List (κ × α)) :
    keys (insert key value entries) =
      if key ∈ keys entries then keys entries else keys entries ++ [key] := by
  induction entries with
  | nil => simp [insert]
  | cons entry rest ih =>
      obtain ⟨first, old⟩ := entry
      by_cases h : first = key
      · simp [insert, h]
      · have hne : key ≠ first := fun heq => h heq.symm
        by_cases hmem : key ∈ keys rest <;> simp [insert, h, hne, ih, hmem]

theorem nodup_keys_insert {key : κ} {value : α} {entries : List (κ × α)}
    (h : (keys entries).Nodup) : (keys (insert key value entries)).Nodup := by
  rw [keys_insert]
  split
  · exact h
  · rename_i hmem
    exact List.nodup_append.mpr ⟨h, by simp, fun a ha b hb => by
      simp only [List.mem_singleton] at hb
      exact fun hab => hmem (hb ▸ hab ▸ ha)⟩

theorem insert_of_fresh {key : κ} {value : α} {entries : List (κ × α)}
    (h : key ∉ keys entries) : insert key value entries = entries ++ [(key, value)] := by
  induction entries with
  | nil => rfl
  | cons entry rest ih =>
      obtain ⟨first, old⟩ := entry
      simp only [keys_cons, List.mem_cons, not_or] at h
      have hne : first ≠ key := fun heq => h.1 heq.symm
      simp [insert, hne, ih h.2]

def lookup? (key : κ) (entries : List (κ × α)) : Option α :=
  (entries.find? (·.1 == key)).map (·.2)

theorem lookup?_insert_self (key : κ) (value : α) (entries : List (κ × α)) :
    lookup? key (insert key value entries) = some value := by
  induction entries with
  | nil => simp [insert, lookup?]
  | cons entry rest ih =>
      obtain ⟨first, old⟩ := entry
      by_cases h : first = key
      · simp [insert, lookup?, h]
      · simpa [insert, lookup?, h] using ih

theorem lookup?_insert_of_ne {key other : κ} (value : α) (entries : List (κ × α))
    (hne : other ≠ key) :
    lookup? other (insert key value entries) = lookup? other entries := by
  induction entries with
  | nil => simp [insert, lookup?, Ne.symm hne]
  | cons entry rest ih =>
      obtain ⟨first, old⟩ := entry
      by_cases h : first = key
      · simp [insert, lookup?, h, Ne.symm hne]
      · rw [insert, if_neg h]
        by_cases hother : first = other
        · simp [lookup?, hother]
        · simpa [lookup?, hother] using ih

theorem mem_of_lookup? {key : κ} {value : α} {entries : List (κ × α)}
    (h : lookup? key entries = some value) : (key, value) ∈ entries := by
  obtain ⟨⟨first, found⟩, hfind, rfl⟩ := Option.map_eq_some_iff.mp h
  have hfirst : first = key := by simpa using List.find?_some hfind
  exact hfirst ▸ List.mem_of_find?_eq_some hfind

theorem lookup?_of_mem {key : κ} {value : α} {entries : List (κ × α)}
    (hnodup : (keys entries).Nodup) (h : (key, value) ∈ entries) :
    lookup? key entries = some value := by
  induction entries with
  | nil => cases h
  | cons entry rest ih =>
      obtain ⟨hfresh, hrest⟩ := List.nodup_cons.mp hnodup
      rcases List.mem_cons.mp h with rfl | hmem
      · simp [lookup?]
      · have hne : entry.1 ≠ key := by
          rintro rfl
          exact hfresh (List.mem_map.mpr ⟨_, hmem, rfl⟩)
        simpa [lookup?, hne] using ih hrest hmem

def ofList (entries : List (κ × α)) : List (κ × α) :=
  entries.foldl (fun map entry => insert entry.1 entry.2 map) []

theorem nodup_keys_foldl_insert (entries map : List (κ × α)) (h : (keys map).Nodup) :
    (keys (entries.foldl (fun map entry => insert entry.1 entry.2 map) map)).Nodup := by
  induction entries generalizing map with
  | nil => exact h
  | cons entry rest ih => exact ih _ (nodup_keys_insert h)

theorem foldl_insert_of_fresh {entries map : List (κ × α)}
    (h : (keys (map ++ entries)).Nodup) :
    entries.foldl (fun map entry => insert entry.1 entry.2 map) map = map ++ entries := by
  induction entries generalizing map with
  | nil => simp
  | cons entry rest ih =>
      have hfresh : entry.1 ∉ keys map := by
        intro hmem
        simp only [keys, List.map_append, List.map_cons, List.nodup_append] at h
        exact h.2.2 _ hmem entry.1 (by simp) rfl
      rw [List.foldl_cons, insert_of_fresh hfresh]
      rw [ih (by simpa [keys] using h)]
      simp

theorem mem_of_mem_insert {key : κ} {value : α} {entry : κ × α}
    {entries : List (κ × α)} (h : entry ∈ insert key value entries) :
    entry = (key, value) ∨ entry ∈ entries := by
  induction entries with
  | nil => exact .inl (List.mem_singleton.mp h)
  | cons other rest ih =>
      obtain ⟨first, old⟩ := other
      rw [insert] at h
      split at h
      · rename_i hfirst
        rcases List.mem_cons.mp h with rfl | hmem
        · exact .inl (hfirst ▸ rfl)
        · exact .inr (List.mem_cons_of_mem _ hmem)
      · rcases List.mem_cons.mp h with rfl | hmem
        · exact .inr List.mem_cons_self
        · exact (ih hmem).imp_right (List.mem_cons_of_mem _)

theorem mem_of_mem_foldl_insert {entry : κ × α} {entries map : List (κ × α)}
    (h : entry ∈ entries.foldl (fun map entry => insert entry.1 entry.2 map) map) :
    entry ∈ map ∨ entry ∈ entries := by
  induction entries generalizing map with
  | nil => exact .inl h
  | cons first rest ih =>
      rcases ih h with hmem | hmem
      · rcases mem_of_mem_insert hmem with rfl | hmem
        · exact .inr List.mem_cons_self
        · exact .inl hmem
      · exact .inr (List.mem_cons_of_mem _ hmem)

/-- Which keys a map gets does not depend on the values. -/
theorem keys_foldl_insert_congr {left right front back : List (κ × α)}
    (hentries : keys left = keys right) (hmaps : keys front = keys back) :
    keys (left.foldl (fun map entry => insert entry.1 entry.2 map) front) =
      keys (right.foldl (fun map entry => insert entry.1 entry.2 map) back) := by
  induction left generalizing right front back with
  | nil =>
      cases right with
      | nil => exact hmaps
      | cons entry rest => cases hentries
  | cons entry rest ih =>
      cases right with
      | nil => cases hentries
      | cons other others =>
          obtain ⟨hkey, hrest⟩ := List.cons.inj hentries
          have hfirst : entry.1 = other.1 := hkey
          apply ih hrest
          rw [keys_insert, keys_insert, hfirst, hmaps]

theorem insert_ne_nil (key : κ) (value : α) (entries : List (κ × α)) :
    insert key value entries ≠ [] := by
  cases entries with
  | nil => simp [insert]
  | cons entry rest =>
      rw [insert]
      split <;> simp

theorem foldl_insert_ne_nil {entries map : List (κ × α)} (h : map ≠ []) :
    entries.foldl (fun map entry => insert entry.1 entry.2 map) map ≠ [] := by
  induction entries generalizing map with
  | nil => exact h
  | cons entry rest ih => exact ih (insert_ne_nil _ _ map)

end Entries

/-- A map in the order of first insertion, from text if nothing else is said. -/
structure OrderedMap (α : Type) (κ : Type := String) where
  entries : List (κ × α)
  nodup : (Entries.keys entries).Nodup

namespace OrderedMap

@[ext] theorem ext {left right : OrderedMap α κ} (h : left.entries = right.entries) :
    left = right := by
  cases left
  cases right
  cases h
  rfl

instance [DecidableEq κ] [DecidableEq α] : DecidableEq (OrderedMap α κ) := fun left right =>
  decidable_of_iff (left.entries = right.entries) ⟨ext, fun h => h ▸ rfl⟩

def empty : OrderedMap α κ := ⟨[], List.nodup_nil⟩

instance : Inhabited (OrderedMap α κ) := ⟨empty⟩

def keys (map : OrderedMap α κ) : List κ := Entries.keys map.entries

def isEmpty (map : OrderedMap α κ) : Bool := map.entries.isEmpty

@[simp] theorem entries_empty : (empty : OrderedMap α κ).entries = [] := rfl

variable [DecidableEq κ]

def insert (map : OrderedMap α κ) (key : κ) (value : α) : OrderedMap α κ :=
  ⟨Entries.insert key value map.entries, Entries.nodup_keys_insert map.nodup⟩

def lookup? (map : OrderedMap α κ) (key : κ) : Option α :=
  Entries.lookup? key map.entries

def ofList (entries : List (κ × α)) : OrderedMap α κ :=
  ⟨Entries.ofList entries, Entries.nodup_keys_foldl_insert entries [] List.nodup_nil⟩

/-- The map of other keys and values, the last of those that get one key. -/
def mapTexts (f : τ → κ) (map : OrderedMap τ τ) : OrderedMap κ κ :=
  ofList (map.entries.map fun (key, value) => (f key, f value))

theorem entries_ofList {entries : List (κ × α)} (h : (Entries.keys entries).Nodup) :
    (ofList entries).entries = entries := by
  simpa [ofList, Entries.ofList] using
    @Entries.foldl_insert_of_fresh _ _ _ entries [] (by simpa using h)

@[simp] theorem ofList_entries (map : OrderedMap α κ) : ofList map.entries = map :=
  ext (entries_ofList map.nodup)

theorem mem_of_mem_ofList {entry : κ × α} {entries : List (κ × α)}
    (h : entry ∈ (ofList entries).entries) : entry ∈ entries :=
  (Entries.mem_of_mem_foldl_insert h).resolve_left List.not_mem_nil

theorem keys_ofList_congr {left right : List (κ × α)}
    (h : Entries.keys left = Entries.keys right) : (ofList left).keys = (ofList right).keys :=
  Entries.keys_foldl_insert_congr h rfl

theorem eq_nil_of_isEmpty_ofList {entries : List (κ × α)}
    (h : (ofList entries).isEmpty = true) : entries = [] := by
  cases entries with
  | nil => rfl
  | cons entry rest =>
      have hempty : Entries.ofList (entry :: rest) = [] := List.isEmpty_iff.mp h
      have hfirst := Entries.insert_ne_nil entry.1 entry.2 []
      exact absurd hempty (@Entries.foldl_insert_ne_nil _ _ _ rest _ hfirst)

theorem lookup?_insert_self (map : OrderedMap α κ) (key : κ) (value : α) :
    (map.insert key value).lookup? key = some value :=
  Entries.lookup?_insert_self key value map.entries

theorem lookup?_insert_of_ne (map : OrderedMap α κ) {key other : κ} (value : α)
    (h : other ≠ key) : (map.insert key value).lookup? other = map.lookup? other :=
  Entries.lookup?_insert_of_ne value map.entries h

end OrderedMap

end OrcConversion
