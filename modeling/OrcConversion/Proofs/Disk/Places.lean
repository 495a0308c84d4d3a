import Mathlib.Data.List.Induction
import OrcConversion.Proofs.Disk.Entries

/-! Places in a tree: what changes when an entry is put or erased, and which directories lead there.
-/

namespace OrcConversion.Disk

namespace Place

variable {place other : Place}

theorem not_below_prefix (place : Place) (name : String) (rest : Place) :
    ¬ place ++ name :: rest <+: place := by
  intro h
  have hlength := h.length_le
  rw [List.length_append, List.length_cons] at hlength
  omega

theorem ne_nil_of_not_prefix (h : ¬ place <+: other) : place ≠ [] := by
  rintro rfl
  exact h List.nil_prefix

theorem exists_append (h : place ≠ []) :
    ∃ (above : Place) (name : String), place = above ++ [name] :=
  (List.eq_nil_or_concat' place).resolve_left h

theorem not_prefix_dropLast (h : place ≠ []) : ¬ place <+: place.dropLast := by
  obtain ⟨above, name, rfl⟩ := exists_append h
  rw [List.dropLast_concat]
  exact not_below_prefix above name []

theorem prefix_dropLast (h : other <+: place) (hne : other ≠ place) :
    other <+: place.dropLast := by
  obtain rfl | hplace := eq_or_ne place []
  · exact h
  · rw [← List.dropLast_append_getLast hplace, List.prefix_concat_iff] at h
    apply h.resolve_left
    rwa [List.dropLast_append_getLast hplace]

end Place

namespace Tree

/-- What is at a place, but for what is in it. -/
def bare? (tree : Tree) (place : Place) : Option Entry := (tree.entry? place).map Entry.bare

def HasDirectory (tree : Tree) (place : Place) : Prop :=
  ∃ permission entries, tree.entry? place = some (.directory permission entries)

/-- No file is at a place or above it. -/
def IsClear (tree : Tree) (place : Place) : Prop :=
  ∀ above permission text, above <+: place → tree.entry? above ≠ some (.file permission text)

section

variable {tree : Tree} {place other : Place}

theorem bare?_eq_none : tree.bare? place = none ↔ tree.entry? place = none :=
  Option.map_eq_none_iff

theorem bare?_eq_file {permission : Nat} {text : String} :
    tree.bare? place = some (.file permission text) ↔
      tree.entry? place = some (.file permission text) := by
  rw [bare?, Option.map_eq_some_iff]
  constructor
  · rintro ⟨entry, hentry, hbare⟩
    cases entry with
    | directory => cases hbare
    | file => rwa [← hbare]
    | link => cases hbare
  · exact fun hentry => ⟨_, hentry, rfl⟩

/-! ## Changes -/

theorem root_set (tree : Tree) {place : Place} (h : place ≠ []) (entry : Option Entry) :
    some (tree.set place entry).root = Entry.setAt entry place (some tree.root) := by
  obtain ⟨name, rest, rfl⟩ := List.exists_cons_of_ne_nil h
  rfl

theorem entry_set (tree : Tree) {place : Place} (h : place ≠ []) (entry : Option Entry)
    (other : Place) :
    entry? (tree.set place entry) other =
      (Entry.setAt entry place (some tree.root)).bind (Entry.find? other) := by
  rw [← root_set tree h]
  rfl

theorem entry_erase_self (h : place ≠ []) : entry? (tree.erase place) place = none := by
  rw [erase, entry_set tree h]
  exact Entry.find?_erased place _

theorem entry_put_self {above : Place} {name : String} (h : tree.HasDirectory above)
    (entry : Entry) : entry? (tree.put (above ++ [name]) entry) (above ++ [name]) = some entry := by
  obtain ⟨permission, entries, hdirectory⟩ := h
  rw [put, entry_set tree (List.append_ne_nil_of_right_ne_nil _ (List.cons_ne_nil _ _))]
  exact Entry.find?_setAt_self hdirectory

theorem entry_set_of_apart (entry : Option Entry) (hbelow : ¬ place <+: other)
    (habove : ¬ other <+: place) : entry? (tree.set place entry) other = tree.entry? other := by
  rw [entry_set tree (Place.ne_nil_of_not_prefix hbelow)]
  exact Entry.find?_setAt_of_apart hbelow habove

theorem bare?_set (entry : Option Entry) (hbelow : ¬ place <+: other) :
    (tree.set place entry).bare? other = tree.bare? other := by
  rw [bare?, entry_set tree (Place.ne_nil_of_not_prefix hbelow)]
  exact Entry.bare_setAt hbelow

theorem accessible_set (h : tree.root.Accessible) (hplace : place ≠ []) {entry : Option Entry}
    (hentry : ∀ new ∈ entry, Entry.Accessible new) : (tree.set place entry).root.Accessible := by
  have hroot : ∀ old ∈ some tree.root, old.Accessible := by
    intro old hold
    cases hold
    exact h
  exact Entry.accessible_setAt hentry place hroot _ (root_set tree hplace entry).symm

theorem accessible_erase (h : tree.root.Accessible) (hplace : place ≠ []) :
    (tree.erase place).root.Accessible :=
  accessible_set h hplace fun _ hnew => by cases hnew

theorem accessible_put (h : tree.root.Accessible) (hplace : place ≠ []) {entry : Entry}
    (hentry : entry.Accessible) : (tree.put place entry).root.Accessible :=
  accessible_set h hplace fun _ hnew => by
    cases hnew
    exact hentry

/-! ## Directories -/

theorem hasDirectory_root (tree : Tree) : tree.HasDirectory [] :=
  ⟨tree.rootPermission, tree.entries, Entry.find?_nil _⟩

theorem entry_append (tree : Tree) (front back : Place) :
    tree.entry? (front ++ back) = (tree.entry? front).bind (Entry.find? back) :=
  Entry.find?_append tree.root front back

theorem entry_of_missing (h : tree.entry? place = none) (back : Place) :
    tree.entry? (place ++ back) = none := by
  rw [entry_append, h]
  rfl

theorem hasDirectory_of_below {name : String} {rest : Place} {entry : Entry}
    (h : tree.entry? (place ++ name :: rest) = some entry) : tree.HasDirectory place := by
  rw [entry_append] at h
  obtain ⟨found, hfound, hbelow⟩ := Option.bind_eq_some_iff.mp h
  cases found with
  | directory permission entries => exact ⟨permission, entries, hfound⟩
  | file => cases hbelow
  | link => cases hbelow

theorem hasDirectory_dropLast {entry : Entry} (h : tree.entry? place = some entry)
    (hplace : place ≠ []) : tree.HasDirectory place.dropLast := by
  rw [← List.dropLast_append_getLast hplace] at h
  exact hasDirectory_of_below h

theorem HasDirectory.above (h : tree.HasDirectory place) (hstart : other <+: place) :
    tree.HasDirectory other := by
  obtain ⟨rest, rfl⟩ := hstart
  cases rest with
  | nil => rwa [List.append_nil] at h
  | cons name rest =>
      obtain ⟨permission, entries, hentry⟩ := h
      exact hasDirectory_of_below hentry

theorem hasDirectory_iff :
    tree.HasDirectory place ↔ ∃ permission, tree.bare? place = some (.directory permission []) := by
  constructor
  · rintro ⟨permission, entries, hentry⟩
    refine ⟨permission, ?_⟩
    rw [bare?, hentry]
    rfl
  · rintro ⟨permission, hbare⟩
    obtain ⟨entry, hentry, hdirectory⟩ := Option.map_eq_some_iff.mp hbare
    cases entry with
    | directory _ entries => exact ⟨_, entries, hentry⟩
    | file => cases hdirectory
    | link => cases hdirectory

theorem HasDirectory.isSome (h : tree.HasDirectory place) : (tree.entry? place).isSome = true := by
  obtain ⟨permission, entries, hentry⟩ := h
  rw [hentry]
  rfl

theorem HasDirectory.isClear (h : tree.HasDirectory place) : tree.IsClear place := by
  intro above permission text habove hfile
  obtain ⟨_, _, hdirectory⟩ := h.above habove
  rw [hfile] at hdirectory
  cases hdirectory

theorem IsClear.of_bare? {after : Tree} (h : tree.IsClear place)
    (hbare : ∀ above, above <+: place → after.bare? above = tree.bare? above) :
    after.IsClear place := by
  intro above permission text habove
  rw [Ne, ← bare?_eq_file, hbare above habove, bare?_eq_file]
  exact h above permission text habove

theorem IsClear.above (h : tree.IsClear place) (hstart : other <+: place) : tree.IsClear other :=
  fun above permission text habove => h above permission text (habove.trans hstart)

/-- Where no file is in the way, an entry at the place itself is a directory. -/
theorem IsClear.hasDirectory (h : tree.IsClear place) (haccessible : tree.root.Accessible)
    {entry : Entry} (hentry : tree.entry? place = some entry) : tree.HasDirectory place := by
  cases entry with
  | directory permission entries => exact ⟨permission, entries, hentry⟩
  | file permission text => exact absurd hentry (h place permission text List.prefix_rfl)
  | link target => cases haccessible.find? hentry

theorem IsClear.hasDirectory_or_missing (h : tree.IsClear place)
    (haccessible : tree.root.Accessible) :
    tree.HasDirectory place ∨
      ∃ front name back, place = front ++ name :: back ∧ tree.HasDirectory front ∧
        tree.entry? (front ++ [name]) = none := by
  induction place using List.reverseRecOn with
  | nil => exact .inl tree.hasDirectory_root
  | append_singleton place name ih =>
      rcases ih (h.above (List.prefix_append place [name])) with
        hdirectory | ⟨front, first, back, rfl, hfront, hmissing⟩
      · cases hentry : tree.entry? (place ++ [name]) with
        | none => exact .inr ⟨place, name, [], rfl, hdirectory, hentry⟩
        | some entry => exact .inl (h.hasDirectory haccessible hentry)
      · exact .inr ⟨front, first, back ++ [name], by simp, hfront, hmissing⟩

/-! ## Permissions -/

theorem HasDirectory.holdsAt (h : tree.HasDirectory place) (haccessible : tree.root.Accessible)
    {bits : Nat} (hbits : 0o700 &&& bits = bits) :
    tree.holdsAt place (Entry.allows bits) = true := by
  obtain ⟨permission, entries, hentry⟩ := h
  rw [Tree.holdsAt, hentry, Option.any_some]
  exact Entry.allows_of_allows (haccessible.find? hentry).allows hbits

end

end Tree

end OrcConversion.Disk
