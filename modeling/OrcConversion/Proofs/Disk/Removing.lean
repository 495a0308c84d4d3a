import Mathlib.Data.List.TakeWhile
import OrcConversion.Disk.Operations
import OrcConversion.Proofs.Disk.Walking
import OrcConversion.Proofs.Result

/-! Removing an entry with everything in it. -/

namespace OrcConversion.Disk

/-- A tree in which an entry was removed, with everything in it. -/
structure Removed (tree after : Tree) (place : Place) : Prop where
  accessible : after.root.Accessible
  gone : after.entry? place = none
  beside : ∀ other, ¬ place <+: other → ¬ other <+: place →
    after.entry? other = tree.entry? other
  kept : ∀ other, ¬ place <+: other → after.bare? other = tree.bare? other

namespace Tree

variable {tree : Tree} {place other top above : Place} {name : String} {places : List Place}

/-! ## Entries removed one after another -/

/-- A tree without the entries at several places. -/
def eraseAll (tree : Tree) (places : List Place) : Tree := places.foldl erase tree

theorem eraseAll_cons (tree : Tree) (place : Place) (places : List Place) :
    tree.eraseAll (place :: places) = (tree.erase place).eraseAll places := rfl

theorem eraseAll_concat (tree : Tree) (places : List Place) (place : Place) :
    tree.eraseAll (places ++ [place]) = (tree.eraseAll places).erase place :=
  List.foldl_concat ..

theorem accessible_eraseAll (haccessible : tree.root.Accessible)
    (hplaces : ∀ place ∈ places, place ≠ []) : (tree.eraseAll places).root.Accessible := by
  induction places generalizing tree with
  | nil => exact haccessible
  | cons place places ih =>
      obtain ⟨hplace, hplaces⟩ := List.forall_mem_cons.mp hplaces
      exact ih (accessible_erase haccessible hplace) hplaces

theorem bare?_eraseAll (tree : Tree) (h : ∀ place ∈ places, ¬ place <+: other) :
    (tree.eraseAll places).bare? other = tree.bare? other := by
  induction places generalizing tree with
  | nil => rfl
  | cons place places ih =>
      obtain ⟨hplace, hplaces⟩ := List.forall_mem_cons.mp h
      rw [eraseAll_cons, ih _ hplaces]
      exact bare?_set none hplace

theorem entry_eraseAll_of_apart (tree : Tree) (hbelow : ∀ place ∈ places, ¬ place <+: other)
    (habove : ∀ place ∈ places, ¬ other <+: place) :
    entry? (tree.eraseAll places) other = tree.entry? other := by
  induction places generalizing tree with
  | nil => rfl
  | cons place places ih =>
      obtain ⟨hplace, hplaces⟩ := List.forall_mem_cons.mp hbelow
      obtain ⟨hother, hothers⟩ := List.forall_mem_cons.mp habove
      rw [eraseAll_cons, ih _ hplaces hothers]
      exact entry_set_of_apart none hplace hother

theorem entry_erase_of_missing (hplace : place ≠ []) (h : tree.entry? other = none) :
    entry? (tree.erase place) other = none := by
  by_cases hbelow : place <+: other
  · obtain ⟨rest, rfl⟩ := hbelow
    exact entry_of_missing (entry_erase_self hplace) rest
  · rw [← bare?_eq_none] at h ⊢
    rwa [erase, bare?_set none hbelow]

theorem entry_eraseAll_of_missing (hplaces : ∀ place ∈ places, place ≠ [])
    (h : tree.entry? other = none) : entry? (tree.eraseAll places) other = none := by
  induction places generalizing tree with
  | nil => exact h
  | cons place places ih =>
      obtain ⟨hplace, hplaces⟩ := List.forall_mem_cons.mp hplaces
      exact ih hplaces (entry_erase_of_missing hplace h)

theorem entry_eraseAll_of_mem (hplaces : ∀ place ∈ places, place ≠ []) (h : other ∈ places) :
    entry? (tree.eraseAll places) other = none := by
  obtain ⟨front, back, rfl⟩ := List.append_of_mem h
  have hback : ∀ place ∈ back, place ≠ [] := fun place hplace =>
    hplaces place (by simp [hplace])
  have hsplit : tree.eraseAll (front ++ other :: back) =
      ((tree.eraseAll front).erase other).eraseAll back := List.foldl_append ..
  rw [hsplit]
  exact entry_eraseAll_of_missing hback (entry_erase_self (hplaces other h))

/-! ## What is below a place -/

theorem mem_below (haccessible : tree.root.Accessible) {found : Place × Entry} :
    found ∈ tree.below top ↔
      (∃ name rest, found.1 = top ++ name :: rest) ∧ tree.entry? found.1 = some found.2 := by
  rw [below]
  cases hentry : tree.entry? top with
  | none =>
      constructor
      · intro hmem
        cases hmem
      · rintro ⟨⟨name, rest, hplace⟩, hfound⟩
        rw [hplace, entry_of_missing hentry] at hfound
        cases hfound
  | some entry =>
      rw [Option.map_some, Option.getD_some, (haccessible.find? hentry).mem_descendants]
      constructor
      · rintro ⟨name, rest, hplace, hfound⟩
        refine ⟨⟨name, rest, hplace⟩, ?_⟩
        rw [hplace, entry_append, hentry]
        exact hfound
      · rintro ⟨⟨name, rest, hplace⟩, hfound⟩
        refine ⟨name, rest, hplace, ?_⟩
        rwa [hplace, entry_append, hentry] at hfound

theorem below_eq_nil (haccessible : tree.root.Accessible)
    (h : ∀ name rest, tree.entry? (top ++ name :: rest) = none) : tree.below top = [] := by
  rw [List.eq_nil_iff_forall_not_mem]
  intro found hfound
  obtain ⟨⟨name, rest, hplace⟩, hentry⟩ := (mem_below haccessible).mp hfound
  rw [hplace, h] at hentry
  cases hentry

theorem ne_nil_of_below (h : ∀ place ∈ places, ∃ name rest, place = top ++ name :: rest) :
    ∀ place ∈ places, place ≠ [] := by
  intro place hplace
  obtain ⟨name, rest, rfl⟩ := h place hplace
  exact List.append_ne_nil_of_right_ne_nil top (List.cons_ne_nil name rest)

theorem hasDirectory_eraseAll (hdirectory : tree.HasDirectory top)
    (hbelow : ∀ place ∈ places, ∃ name rest, place = top ++ name :: rest) :
    (tree.eraseAll places).HasDirectory top := by
  rw [hasDirectory_iff] at hdirectory ⊢
  rwa [bare?_eraseAll]
  intro place hplace
  obtain ⟨name, rest, rfl⟩ := hbelow place hplace
  exact Place.not_below_prefix top name rest

theorem below_eraseAll (haccessible : tree.root.Accessible)
    (hbelow : ∀ place ∈ places, ∃ name rest, place = top ++ name :: rest)
    (hall : ∀ name rest, tree.entry? (top ++ name :: rest) ≠ none → top ++ name :: rest ∈ places) :
    (tree.eraseAll places).below top = [] := by
  have hplaces := ne_nil_of_below hbelow
  apply below_eq_nil (accessible_eraseAll haccessible hplaces)
  intro name rest
  by_cases hentry : tree.entry? (top ++ name :: rest) = none
  · exact entry_eraseAll_of_missing hplaces hentry
  · exact entry_eraseAll_of_mem hplaces (hall name rest hentry)

/-- Everything can be removed where directories are accessible. -/
theorem mayRemove_of_mem (haccessible : tree.root.Accessible) {found : Place × Entry}
    (h : found ∈ tree.below top) : Action.mayRemove tree found = true := by
  obtain ⟨⟨name, rest, hplace⟩, hentry⟩ := (mem_below haccessible).mp h
  have hdirectory := hasDirectory_dropLast hentry (by simp [hplace])
  rw [Action.mayRemove, hdirectory.holdsAt haccessible (by decide), Bool.true_and,
    Bool.or_eq_true, Bool.not_eq_true']
  cases hfound : found.2 with
  | directory permission entries =>
      have hinner := haccessible.find? hentry
      rw [hfound] at hinner
      exact .inr (Entry.allows_of_allows hinner.allows (by decide))
  | file => exact .inl rfl
  | link => exact .inl rfl

/-! ## One removal -/

theorem removeDirectory_of_empty (haccessible : tree.root.Accessible)
    (hpath : (above ++ [name]).HasPath) (hdirectory : tree.HasDirectory (above ++ [name]))
    (hempty : tree.below (above ++ [name]) = []) :
    tree.removeDirectory (above ++ [name]).path = .ok (tree.erase (above ++ [name])) := by
  have hstep := hpath.steps name (by simp)
  have habove := hdirectory.above (List.prefix_append above [name])
  have hopen : tree.holdsAt above Entry.isOpen = true := habove.holdsAt haccessible (by decide)
  obtain ⟨permission, entries, hentry⟩ := hdirectory
  rw [removeDirectory, locateAbove_of_directory haccessible hpath habove, Except.ok_bind,
    lastStep_path hstep]
  simp only [occupied_of_entry hentry, Except.ok_bind, hopen, hempty]
  rfl

theorem removeFile_of_file (haccessible : tree.root.Accessible)
    (hpath : (above ++ [name]).HasPath) {permission : Nat} {text : String}
    (hentry : tree.entry? (above ++ [name]) = some (.file permission text)) :
    tree.removeFile (above ++ [name]).path = .ok (tree.erase (above ++ [name])) := by
  have hstep := hpath.steps name (by simp)
  have habove := hasDirectory_of_below hentry
  have hopen : tree.holdsAt above Entry.isOpen = true := habove.holdsAt haccessible (by decide)
  rw [removeFile, locateAbove_of_directory haccessible hpath habove, Except.ok_bind,
    lastStep_path hstep]
  simp only [occupied_of_entry hentry, Except.ok_bind, hopen]
  rfl

end Tree

namespace Removed

variable {tree : Tree} {place : Place} {places : List Place}

theorem refl (haccessible : tree.root.Accessible) (h : tree.entry? place = none) :
    Removed tree tree place :=
  ⟨haccessible, h, fun _ _ _ => rfl, fun _ _ => rfl⟩

theorem eraseAll (haccessible : tree.root.Accessible) (hne : place ≠ [])
    (hbelow : ∀ other ∈ places, place <+: other) (hmem : place ∈ places) :
    Removed tree (tree.eraseAll places) place := by
  have hplaces : ∀ other ∈ places, other ≠ [] := by
    rintro other hother rfl
    exact hne (List.prefix_nil.mp (hbelow [] hother))
  constructor
  · exact Tree.accessible_eraseAll haccessible hplaces
  · exact Tree.entry_eraseAll_of_mem hplaces hmem
  · intro other hother habove
    apply Tree.entry_eraseAll_of_apart
    · exact fun erased herased hstart => hother ((hbelow erased herased).trans hstart)
    · intro erased herased hstart
      rcases List.prefix_or_prefix_of_prefix (hbelow erased herased) hstart with h | h
      · exact hother h
      · exact habove h
  · intro other hother
    apply Tree.bare?_eraseAll
    exact fun erased herased hstart => hother ((hbelow erased herased).trans hstart)

theorem erase (haccessible : tree.root.Accessible) (hne : place ≠ []) :
    Removed tree (tree.erase place) place :=
  eraseAll haccessible hne (List.forall_mem_singleton.mpr List.prefix_rfl)
    (List.mem_singleton_self place)

end Removed

namespace Action

variable {tree : Tree} {place above : Place} {name : String}

theorem on_clear (haccessible : tree.root.Accessible) (top : Place) :
    ∃ places, (clear top).on tree = (.ok (), tree.eraseAll places) ∧
      (∀ place ∈ places, ∃ name rest, place = top ++ name :: rest) ∧
      ∀ name rest, tree.entry? (top ++ name :: rest) ≠ none → top ++ name :: rest ∈ places := by
  set order := (tree.below top).mergeSort fun left right => removedBefore left.1 right.1
    with horder
  have hmem : ∀ found, found ∈ order ↔ found ∈ tree.below top := fun found => List.mem_mergeSort
  have hall : order.takeWhile (mayRemove tree) = order := by
    rw [List.takeWhile_eq_self_iff]
    exact fun found hfound => Tree.mayRemove_of_mem haccessible ((hmem found).mp hfound)
  refine ⟨order.map Prod.fst, ?_, ?_, ?_⟩
  · rw [clear, on_bind, on_get]
    simp only [← horder, hall, Nat.lt_irrefl, if_false]
    rw [Tree.eraseAll, List.foldl_map]
    rfl
  · intro place hplace
    obtain ⟨found, hfound, rfl⟩ := List.mem_map.mp hplace
    exact ((Tree.mem_below haccessible).mp ((hmem found).mp hfound)).1
  · intro name rest hentry
    obtain ⟨entry, hentry⟩ := Option.ne_none_iff_exists'.mp hentry
    refine List.mem_map.mpr ⟨(top ++ name :: rest, entry), ?_, rfl⟩
    exact (hmem _).mpr ((Tree.mem_below haccessible).mpr ⟨⟨name, rest, rfl⟩, hentry⟩)

theorem on_removeTree (haccessible : tree.root.Accessible) (hpath : (above ++ [name]).HasPath)
    (hdirectory : tree.HasDirectory (above ++ [name])) :
    ∃ after, (removeTree (above ++ [name]).path).on tree = (.ok (), after) ∧
      Removed tree after (above ++ [name]) := by
  obtain ⟨places, hclear, hbelow, hall⟩ := on_clear haccessible (above ++ [name])
  have hinside : ∀ place ∈ places, above ++ [name] <+: place := by
    intro place hplace
    obtain ⟨next, rest, rfl⟩ := hbelow place hplace
    exact List.prefix_append _ _
  have hcleared := Tree.accessible_eraseAll haccessible (Tree.ne_nil_of_below hbelow)
  have hremove := Tree.removeDirectory_of_empty hcleared hpath
    (Tree.hasDirectory_eraseAll hdirectory hbelow) (Tree.below_eraseAll haccessible hbelow hall)
  have hstatus := Tree.ownStatus_path haccessible hpath
    (hdirectory.isClear.above (List.dropLast_prefix _))
  refine ⟨tree.eraseAll (places ++ [above ++ [name]]), ?_, ?_⟩
  · obtain ⟨permission, entries, hentry⟩ := hdirectory
    rw [Tree.occupied_of_entry hentry] at hstatus
    have hreadable : (Entry.directory permission entries).isReadable = true :=
      Entry.allows_of_allows (haccessible.find? hentry).allows (by decide)
    rw [removeTree, on_bind, on_ask, hstatus]
    simp only [Entry.isDirectory, hreadable, Bool.not_true, Bool.false_eq_true, if_false]
    rw [on_bind, hclear]
    simp only
    rw [on_change, hremove, Tree.eraseAll_concat]
  · apply Removed.eraseAll haccessible (by simp)
    · exact List.forall_mem_append.mpr ⟨hinside, List.forall_mem_singleton.mpr List.prefix_rfl⟩
    · exact List.mem_append_right places (List.mem_singleton_self _)

/-- Whatever is at a path can be removed, where no links are. -/
theorem on_delete (haccessible : tree.root.Accessible) (hpath : place.HasPath) (hne : place ≠ [])
    {entry : Entry} (hentry : tree.entry? place = some entry) :
    ∃ after, (delete place.path).on tree = (.ok (), after) ∧ Removed tree after place := by
  have hclear := (Tree.hasDirectory_dropLast hentry hne).isClear
  have hdirectory := Tree.findsDirectory_path haccessible hpath hclear
  have hlink := Tree.findsLink_path haccessible hpath hclear
  have hthere := Tree.findsPath_path haccessible hpath hclear
  obtain ⟨above, name, rfl⟩ := Place.exists_append hne
  rw [hentry] at hdirectory hthere
  rw [delete, on_bind, on_ask, hdirectory]
  simp only
  rw [on_bind, on_ask, hlink]
  cases entry with
  | directory permission entries =>
      exact on_removeTree haccessible hpath ⟨permission, entries, hentry⟩
  | file permission text =>
      refine ⟨tree.erase (above ++ [name]), ?_, Removed.erase haccessible hne⟩
      simp only [Option.any_some, Entry.isDirectory, Bool.false_and, Bool.false_eq_true, if_false,
        Bool.false_or]
      rw [on_bind, on_ask, hthere]
      simp only [Option.isSome_some, if_true]
      rw [on_change, Tree.removeFile_of_file haccessible hpath hentry]
  | link target => cases haccessible.find? hentry

end Action

end OrcConversion.Disk
