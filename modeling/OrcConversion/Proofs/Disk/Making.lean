import OrcConversion.Disk.Operations
import OrcConversion.Proofs.Disk.Walking
import OrcConversion.Proofs.Result

/-! Making a directory together with those above it. -/

namespace OrcConversion.Disk

/-- A tree in which a directory and those above it were made, as far as they were missing. -/
structure Made (tree after : Tree) (place : Place) : Prop where
  accessible : after.root.Accessible
  directory : after.HasDirectory place
  beside : ∀ other, ¬ other <+: place → after.entry? other = tree.entry? other
  above : ∀ other, other <+: place → tree.entry? other ≠ none →
    after.bare? other = tree.bare? other

namespace Made

variable {tree middle : Tree} {place above : Place} {name : String} {permission : Nat}

theorem refl (haccessible : tree.root.Accessible) (hdirectory : tree.HasDirectory place) :
    Made tree tree place :=
  ⟨haccessible, hdirectory, fun _ _ => rfl, fun _ _ _ => rfl⟩

/-- One more directory in a directory that is there by now. -/
theorem put (h : Made tree middle above) (hmissing : tree.entry? (above ++ [name]) = none)
    (hnew : (Entry.directory permission []).Accessible) :
    Made tree (middle.put (above ++ [name]) (.directory permission [])) (above ++ [name]) := by
  have hself : Tree.entry? (middle.put (above ++ [name]) (.directory permission []))
      (above ++ [name]) = some (.directory permission []) :=
    Tree.entry_put_self h.directory _
  constructor
  · exact Tree.accessible_put h.accessible
      (List.append_ne_nil_of_right_ne_nil _ (List.cons_ne_nil _ _)) hnew
  · exact ⟨permission, [], hself⟩
  · intro other hother
    have habove : ¬ other <+: above := fun hstart =>
      hother (hstart.trans (List.prefix_append _ _))
    by_cases hbelow : above ++ [name] <+: other
    · obtain ⟨rest, rfl⟩ := hbelow
      have hmore : rest ≠ [] := by
        rintro rfl
        rw [List.append_nil] at hother
        exact hother List.prefix_rfl
      obtain ⟨next, rest, rfl⟩ := List.exists_cons_of_ne_nil hmore
      rw [Tree.entry_append, hself, Tree.entry_of_missing hmissing]
      rfl
    · rw [Tree.put, Tree.entry_set_of_apart _ hbelow hother, h.beside other habove]
  · intro other hother hthere
    have habove : other <+: above := by
      rcases List.prefix_concat_iff.mp hother with rfl | habove
      · exact absurd hmissing hthere
      · exact habove
    have hbelow : ¬ above ++ [name] <+: other := fun hstart =>
      Place.not_below_prefix above name [] (hstart.trans habove)
    rw [Tree.put, Tree.bare?_set _ hbelow, h.above other habove hthere]

end Made

namespace Tree

variable {tree : Tree} {above : Place} {name : String}

/-! ## One directory -/

theorem freePlace_of_directory (haccessible : tree.root.Accessible)
    (hpath : (above ++ [name]).HasPath) (hdirectory : tree.HasDirectory above)
    (hmissing : tree.entry? (above ++ [name]) = none) :
    tree.freePlace (above ++ [name]).path true = .ok (above ++ [name]) := by
  have hstep := hpath.steps name (by simp)
  have hopen : tree.holdsAt above Entry.isOpen = true := hdirectory.holdsAt haccessible (by decide)
  rw [freePlace, locateAbove_of_directory haccessible hpath hdirectory, Except.ok_bind,
    lastStep_path hstep]
  simp only [Nat.not_lt.mpr hstep.short, hmissing, hopen]
  rfl

theorem makeOne_of_directory (haccessible : tree.root.Accessible)
    (hpath : (above ++ [name]).HasPath) (hdirectory : tree.HasDirectory above)
    (hmissing : tree.entry? (above ++ [name]) = none) (permission : Nat) :
    ∃ group, tree.makeOne (above ++ [name]).path permission =
      .ok (tree.put (above ++ [name])
        (.directory ((permission &&& madeBits) ||| (group &&& groupBit)) [])) := by
  rw [makeOne, freePlace_of_directory haccessible hpath hdirectory hmissing]
  exact ⟨_, rfl⟩

theorem makeOne_of_taken (haccessible : tree.root.Accessible)
    (hpath : (above ++ [name]).HasPath) (hdirectory : tree.HasDirectory (above ++ [name]))
    (permission : Nat) :
    tree.makeOne (above ++ [name]).path permission = .error .alreadyExists := by
  have hstep := hpath.steps name (by simp)
  rw [makeOne, freePlace, locateAbove_of_directory haccessible hpath
    (hdirectory.above (List.prefix_append _ _)), Except.ok_bind, lastStep_path hstep]
  simp only [Nat.not_lt.mpr hstep.short, hdirectory.isSome]
  rfl

theorem makeOne_of_missing (haccessible : tree.root.Accessible)
    (hpath : (above ++ [name]).HasPath) (hclear : tree.IsClear above)
    (hmissing : tree.entry? above = none) (permission : Nat) :
    tree.makeOne (above ++ [name]).path permission = .error .notFound := by
  rw [makeOne, freePlace, locateAbove_of_missing haccessible hpath hclear hmissing]
  rfl

end Tree

namespace Action

variable {tree : Tree} {place above : Place} {name : String}

theorem accessible_usual (group : Nat) :
    (Entry.directory ((usualPermission &&& madeBits) ||| (group &&& groupBit)) []).Accessible := by
  refine .directory ?_ List.nodup_nil fun _ hmem => absurd hmem List.not_mem_nil
  have husual : usualPermission &&& madeBits &&& 0o700 = 0o700 := by decide
  have hgroup : groupBit &&& 0o700 = 0 := by decide
  rw [Entry.allows, beq_iff_eq, Entry.permission, Nat.and_or_distrib_right, husual,
    Nat.and_assoc group, hgroup, Nat.and_zero, Nat.or_zero]

theorem on_unlessDirectory (haccessible : tree.root.Accessible) (hpath : place.HasPath)
    (hdirectory : tree.HasDirectory place) (fault : DiskFault) :
    (unlessDirectory place.path fault).on tree = (.ok (), tree) := by
  have hclear := hdirectory.isClear.above (List.dropLast_prefix place)
  obtain ⟨permission, entries, hentry⟩ := hdirectory
  rw [unlessDirectory, on_bind, on_ask, Tree.findsDirectory_path haccessible hpath hclear, hentry]
  rfl

/-! ## All directories on the way -/

theorem makeAll_append (permission : Nat) (above : Place) (name : String) :
    makeAll permission (above ++ [name]).reverse = (do
      match (← get).makeOne (above ++ [name]).path permission with
      | .ok tree => set tree
      | .error .notFound =>
          makeAll usualPermission above.reverse
          match (← get).makeOne (above ++ [name]).path permission with
          | .ok tree => set tree
          | .error .notFound => throw .notFound
          | .error fault => unlessDirectory (above ++ [name]).path fault
      | .error fault => unlessDirectory (above ++ [name]).path fault) := by
  have hreverse : (above ++ [name]).reverse = name :: above.reverse := by simp
  have hpath : (above ++ [name]).path = ⟨(name :: above.reverse).reverse, .name, 0⟩ := by
    rw [← hreverse, List.reverse_reverse, Place.path]
  rw [hreverse, hpath]
  rfl

theorem on_makeAll_of_missing {after : Tree} (haccessible : tree.root.Accessible)
    (hpath : (above ++ [name]).HasPath) (hclear : tree.IsClear above)
    (hmissing : tree.entry? above = none)
    (habove : (makeAll usualPermission above.reverse).on tree = (.ok (), after))
    (hmade : Made tree after above) :
    ∃ whole, (makeAll usualPermission (above ++ [name]).reverse).on tree = (.ok (), whole) ∧
      Made tree whole (above ++ [name]) := by
  have hself : tree.entry? (above ++ [name]) = none := Tree.entry_of_missing hmissing _
  have hstill : after.entry? (above ++ [name]) = none := by
    rw [hmade.beside _ (Place.not_below_prefix above name []), hself]
  obtain ⟨group, hsecond⟩ := Tree.makeOne_of_directory hmade.accessible hpath hmade.directory
    hstill usualPermission
  refine ⟨_, ?_, hmade.put hself (accessible_usual group)⟩
  have hfirst := Tree.makeOne_of_missing haccessible hpath hclear hmissing usualPermission
  rw [makeAll_append, on_bind, on_get]
  simp only [hfirst]
  rw [on_bind, habove]
  simp only
  rw [on_bind, on_get]
  simp only [hsecond]
  rfl

theorem on_makeAll_of_directory (haccessible : tree.root.Accessible)
    (hpath : (above ++ [name]).HasPath) (hclear : tree.IsClear (above ++ [name]))
    (hdirectory : tree.HasDirectory above) :
    ∃ whole, (makeAll usualPermission (above ++ [name]).reverse).on tree = (.ok (), whole) ∧
      Made tree whole (above ++ [name]) := by
  rw [makeAll_append, on_bind, on_get]
  cases hentry : tree.entry? (above ++ [name]) with
  | none =>
      obtain ⟨group, hmake⟩ := Tree.makeOne_of_directory haccessible hpath hdirectory hentry
        usualPermission
      refine ⟨_, ?_, (Made.refl haccessible hdirectory).put hentry (accessible_usual group)⟩
      simp only [hmake]
      rfl
  | some entry =>
      have hself := hclear.hasDirectory haccessible hentry
      have hmake := Tree.makeOne_of_taken haccessible hpath hself usualPermission
      have hunless := on_unlessDirectory haccessible hpath hself .alreadyExists
      refine ⟨tree, ?_, Made.refl haccessible hself⟩
      simp only [hmake]
      exact hunless

/-- Every directory on the way to a place can be made, unless a file is there. -/
theorem on_makeAll (haccessible : tree.root.Accessible) (hpath : place.HasPath)
    (hclear : tree.IsClear place) :
    ∃ after, (makeAll usualPermission place.reverse).on tree = (.ok (), after) ∧
      Made tree after place := by
  induction place using List.reverseRecOn with
  | nil => exact ⟨tree, rfl, Made.refl haccessible tree.hasDirectory_root⟩
  | append_singleton above name ih =>
      have habove := hclear.above (List.prefix_append above [name])
      cases hentry : tree.entry? above with
      | none =>
          obtain ⟨after, hmake, hmade⟩ := ih hpath.above habove
          exact on_makeAll_of_missing haccessible hpath habove hentry hmake hmade
      | some entry =>
          exact on_makeAll_of_directory haccessible hpath hclear
            (habove.hasDirectory haccessible hentry)

end Action

end OrcConversion.Disk
