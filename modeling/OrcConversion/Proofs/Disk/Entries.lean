import Mathlib.Data.List.Basic
import OrcConversion.Disk.Tree

/-! What is found in a tree after an entry was set or erased, and what is below an entry. -/

namespace OrcConversion.Disk

namespace Entry

/-- An entry without what is in it. -/
def bare : Entry → Entry
  | directory permission _ => directory permission []
  | file permission text => file permission text
  | link target => link target

/-- An entry without links, whose directories may be read, changed and searched. -/
inductive Accessible : Entry → Prop
  | file (permission : Nat) (text : String) : Accessible (.file permission text)
  | directory {permission : Nat} {entries : List (String × Entry)}
      (allowed : (directory permission []).allows 0o700 = true)
      (distinct : (Entries.keys entries).Nodup)
      (inner : ∀ found ∈ entries, Accessible found.2) : Accessible (.directory permission entries)

/-! ## Places -/

section

variable {entry : Option Entry} {place other : Place} {top : Option Entry}

theorem lookup?_setNamed_of_ne {name other : String} (entry : Option Entry)
    (entries : List (String × Entry)) (hne : other ≠ name) :
    Entries.lookup? other (setNamed name entry entries) = Entries.lookup? other entries := by
  cases entry with
  | some entry => exact Entries.lookup?_insert_of_ne entry entries hne
  | none =>
      rw [Entries.lookup?, Entries.lookup?, setNamed, List.find?_filter]
      congr 2
      funext found
      by_cases hfound : found.1 = other
      · simp [hfound, hne]
      · simp [hfound]

theorem find?_append (entry : Entry) (front back : Place) :
    entry.find? (front ++ back) = (entry.find? front).bind (find? back) := by
  induction front generalizing entry with
  | nil => simp
  | cons name front ih =>
      cases entry with
      | directory permission entries =>
          rw [List.cons_append, find?_directory_cons, find?_directory_cons, Option.bind_assoc]
          congr 1
          funext next
          exact ih next
      | file => rfl
      | link => rfl

theorem find?_erased (place : Place) (top : Option Entry) :
    (setAt none place top).bind (find? place) = none := by
  induction place generalizing top with
  | nil => cases top <;> rfl
  | cons name rest ih =>
      cases top with
      | none => rfl
      | some top =>
          cases top with
          | directory permission entries =>
              rw [setAt, Option.bind_some, find?_directory_cons, lookup?_setNamed_self]
              exact ih _
          | file => rfl
          | link => rfl

theorem find?_setAt_of_apart (hbelow : ¬ place <+: other) (habove : ¬ other <+: place) :
    (setAt entry place top).bind (find? other) = top.bind (find? other) := by
  induction place generalizing other top with
  | nil => exact absurd List.nil_prefix hbelow
  | cons name rest ih =>
      cases other with
      | nil => exact absurd List.nil_prefix habove
      | cons first others =>
          rcases top with _ | (⟨permission, entries⟩ | _ | _)
          · rfl
          · rw [setAt, Option.bind_some, Option.bind_some, find?_directory_cons,
              find?_directory_cons]
            by_cases hname : first = name
            · subst hname
              rw [lookup?_setNamed_self]
              rw [List.cons_prefix_cons, and_iff_right rfl] at hbelow habove
              exact ih hbelow habove
            · rw [lookup?_setNamed_of_ne _ _ hname]
          · rfl
          · rfl

theorem bare_setAt (hbelow : ¬ place <+: other) :
    ((setAt entry place top).bind (find? other)).map bare = (top.bind (find? other)).map bare := by
  induction place generalizing other top with
  | nil => exact absurd List.nil_prefix hbelow
  | cons name rest ih =>
      rcases top with _ | (⟨permission, entries⟩ | _ | _)
      · rfl
      · cases other with
        | nil =>
            rw [setAt, Option.bind_some, Option.bind_some, find?_nil, find?_nil]
            rfl
        | cons first others =>
            rw [setAt, Option.bind_some, Option.bind_some, find?_directory_cons,
              find?_directory_cons]
            by_cases hname : first = name
            · subst hname
              rw [lookup?_setNamed_self]
              rw [List.cons_prefix_cons, and_iff_right rfl] at hbelow
              exact ih hbelow
            · rw [lookup?_setNamed_of_ne _ _ hname]
      · rfl
      · rfl

end

/-! ## Accessible entries -/

theorem allows_of_allows {entry : Entry} {wide bits : Nat} (h : entry.allows wide = true)
    (hbits : wide &&& bits = bits) : entry.allows bits = true := by
  rw [allows, beq_iff_eq] at h ⊢
  calc entry.permission &&& bits
    _ = entry.permission &&& (wide &&& bits) := by rw [hbits]
    _ = (entry.permission &&& wide) &&& bits := (Nat.and_assoc _ _ _).symm
    _ = bits := by rw [h, hbits]

theorem accessible_directory_iff {permission : Nat} {entries : List (String × Entry)} :
    Accessible (.directory permission entries) ↔
      (directory permission []).allows 0o700 = true ∧ (Entries.keys entries).Nodup ∧
        ∀ found ∈ entries, Accessible found.2 := by
  constructor
  · rintro (_ | ⟨allowed, distinct, inner⟩)
    exact ⟨allowed, distinct, inner⟩
  · rintro ⟨allowed, distinct, inner⟩
    exact .directory allowed distinct inner

theorem Accessible.allows {permission : Nat} {entries : List (String × Entry)}
    (h : Accessible (.directory permission entries)) :
    (Entry.directory permission entries).allows 0o700 = true := by
  cases h with
  | directory allowed => exact allowed

theorem Accessible.find? {entry found : Entry} {place : Place} (h : Accessible entry)
    (hfind : entry.find? place = some found) : Accessible found := by
  induction place generalizing entry with
  | nil =>
      rw [find?_nil] at hfind
      exact Option.some.inj hfind ▸ h
  | cons name rest ih =>
      cases h with
      | file => cases hfind
      | directory allowed distinct inner =>
          rw [find?_directory_cons] at hfind
          obtain ⟨next, hnext, hrest⟩ := Option.bind_eq_some_iff.mp hfind
          exact ih (inner (name, next) (Entries.mem_of_lookup? hnext)) hrest

theorem nodup_keys_setNamed {name : String} {entry : Option Entry}
    {entries : List (String × Entry)} (h : (Entries.keys entries).Nodup) :
    (Entries.keys (setNamed name entry entries)).Nodup := by
  cases entry with
  | some entry => exact Entries.nodup_keys_insert h
  | none => exact h.sublist (List.filter_sublist.map Prod.fst)

theorem of_mem_setNamed {name : String} {entry : Option Entry} {found : String × Entry}
    {entries : List (String × Entry)} (h : found ∈ setNamed name entry entries) :
    entry = some found.2 ∨ found ∈ entries := by
  cases entry with
  | some entry =>
      rcases Entries.mem_of_mem_insert h with rfl | hold
      · exact .inl rfl
      · exact .inr hold
  | none => exact .inr (List.mem_filter.mp h).1

theorem accessible_setAt {entry : Option Entry} (hentry : ∀ new ∈ entry, Accessible new)
    (place : Place) {top : Option Entry} (htop : ∀ old ∈ top, Accessible old) :
    ∀ new ∈ setAt entry place top, Accessible new := by
  induction place generalizing top with
  | nil =>
      intro new hnew
      rw [setAt] at hnew
      exact hentry new hnew
  | cons name rest ih =>
      rcases top with _ | (⟨permission, entries⟩ | _ | _)
      · exact htop
      · intro new hnew
        rw [setAt] at hnew
        cases hnew
        cases htop _ rfl with
        | directory allowed distinct inner =>
            refine .directory allowed (nodup_keys_setNamed distinct) ?_
            intro found hfound
            rcases of_mem_setNamed hfound with hset | hold
            · apply ih ?_ found.2 hset
              intro old hlookup
              exact inner (name, old) (Entries.mem_of_lookup? hlookup)
            · exact inner found hold
      · exact htop
      · exact htop

/-! ## What is below -/

theorem mem_allDescendants {here : Place} {entries : List (String × Entry)}
    {found : Place × Entry} :
    found ∈ allDescendants here entries ↔
      ∃ item ∈ entries,
        found = (here ++ [item.1], item.2) ∨ found ∈ item.2.descendants (here ++ [item.1]) := by
  induction entries with
  | nil => simp [allDescendants]
  | cons item rest ih =>
      obtain ⟨name, entry⟩ := item
      simp [allDescendants, ih, or_assoc]

theorem Accessible.mem_descendants {entry : Entry} (h : Accessible entry) {here : Place}
    {found : Place × Entry} :
    found ∈ entry.descendants here ↔
      ∃ name rest, found.1 = here ++ name :: rest ∧ entry.find? (name :: rest) = some found.2 := by
  induction h generalizing here with
  | file permission text => simp [descendants, Entry.find?]
  | directory allowed distinct inner ih =>
      rw [descendants, mem_allDescendants]
      constructor
      · rintro ⟨⟨name, entry⟩, hitem, rfl | hfound⟩
        · refine ⟨name, [], rfl, ?_⟩
          rw [find?_directory_cons, Entries.lookup?_of_mem distinct hitem, Option.bind_some,
            find?_nil]
        · obtain ⟨next, rest, hplace, hfind⟩ := (ih _ hitem).mp hfound
          refine ⟨name, next :: rest, ?_, ?_⟩
          · rw [hplace, List.append_assoc, List.singleton_append]
          · rw [find?_directory_cons, Entries.lookup?_of_mem distinct hitem, Option.bind_some,
              hfind]
      · rintro ⟨name, rest, hplace, hfind⟩
        rw [find?_directory_cons] at hfind
        obtain ⟨entry, hlookup, hrest⟩ := Option.bind_eq_some_iff.mp hfind
        refine ⟨(name, entry), Entries.mem_of_lookup? hlookup, ?_⟩
        cases rest with
        | nil =>
            rw [find?_nil] at hrest
            exact .inl (Prod.ext hplace (Option.some.inj hrest).symm)
        | cons next rest =>
            right
            rw [ih _ (Entries.mem_of_lookup? hlookup)]
            refine ⟨next, rest, ?_, hrest⟩
            rw [hplace, List.append_assoc, List.singleton_append]

end Entry

end OrcConversion.Disk
