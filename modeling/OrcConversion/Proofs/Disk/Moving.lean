import OrcConversion.Proofs.Disk.Making
import OrcConversion.Proofs.Disk.Removing
import OrcConversion.Proofs.Result

/-! Moving an entry to a place where nothing is. -/

namespace OrcConversion.Disk

namespace Tree

variable {tree : Tree} {source dest : Place} {entry : Entry}

/-- Nothing keeps an entry from a free place that is neither above nor below it. -/
theorem relocate_of_free (haccessible : tree.root.Accessible)
    (hentry : tree.entry? source = some entry) (hfree : tree.entry? dest = none)
    (hdirectory : tree.HasDirectory dest.dropLast) (hbelow : ¬ source <+: dest)
    (habove : ¬ dest <+: source) :
    tree.relocate entry source dest = .ok ((tree.erase source).put dest entry) := by
  have hinto : ¬ source.isPrefixOf dest.dropLast = true := fun h =>
    hbelow ((List.isPrefixOf_iff_prefix.mp h).trans (List.dropLast_prefix dest))
  have hfull : ¬ dest.isPrefixOf source.dropLast = true := fun h =>
    habove ((List.isPrefixOf_iff_prefix.mp h).trans (List.dropLast_prefix source))
  have hother : source ≠ dest := by
    rintro rfl
    exact hbelow List.prefix_rfl
  have hsource : tree.holdsAt source.dropLast Entry.isOpen = true :=
    (hasDirectory_dropLast hentry (Place.ne_nil_of_not_prefix hbelow)).holdsAt haccessible
      (by decide)
  have hdest : tree.holdsAt dest.dropLast Entry.isOpen = true :=
    hdirectory.holdsAt haccessible (by decide)
  have hdisplace : tree.displace entry dest = .ok () := by
    rw [displace, hfree]
  have hwritable :
      (entry.isDirectory && source.dropLast != dest.dropLast && !entry.isWritable) = false := by
    cases entry with
    | directory permission entries =>
        have hallows : (Entry.directory permission entries).isWritable = true :=
          Entry.allows_of_allows (haccessible.find? hentry).allows (by decide)
        rw [hallows, Bool.not_true, Bool.and_false]
    | file => rfl
    | link => rfl
  have hempty : tree.below dest = [] := by
    rw [below, hfree]
    rfl
  rw [relocate]
  simp only [hinto, hfull, hother, hsource, hdest, hdisplace, hempty, Bool.false_eq_true, if_false,
    Bool.not_true, List.isEmpty_nil, Except.ok_bind, hwritable]
  rfl

theorem rename_of_free (haccessible : tree.root.Accessible) (hsource : source.HasPath)
    (hdest : dest.HasPath) (hentry : tree.entry? source = some entry)
    (hfree : tree.entry? dest = none) (hdirectory : tree.HasDirectory dest.dropLast)
    (hbelow : ¬ source <+: dest) (habove : ¬ dest <+: source) :
    tree.rename source.path dest.path = .ok ((tree.erase source).put dest entry) := by
  have hcheck : Path.check ([source, dest].map Place.path) = .ok () :=
    Place.HasPath.check (by simp [hsource, hdest])
  rw [List.map_cons, List.map_singleton] at hcheck
  have hrelocate := relocate_of_free haccessible hentry hfree hdirectory hbelow habove
  obtain ⟨origin, name, rfl⟩ := Place.exists_append (Place.ne_nil_of_not_prefix hbelow)
  obtain ⟨goal, other, rfl⟩ := Place.exists_append (Place.ne_nil_of_not_prefix habove)
  have hname := hsource.steps name (by simp)
  have hother := hdest.steps other (by simp)
  rw [List.dropLast_concat] at hdirectory
  rw [rename, hcheck, locateAbove_of_directory haccessible hsource (hasDirectory_of_below hentry),
    locateAbove_of_directory haccessible hdest hdirectory, lastStep_path hname,
    lastStep_path hother]
  simp only [Except.ok_bind, Nat.not_lt.mpr hname.short, Nat.not_lt.mpr hother.short, if_false,
    occupied_of_entry hentry, Place.path, bne_self_eq_false, Bool.or_self, Bool.and_false,
    Bool.false_eq_true, hrelocate]

end Tree

namespace Action

variable {tree : Tree} {source dest : Place} {entry : Entry}

/-- An entry that is moved to a free place gets that place in a tree with the directories above. -/
theorem on_move (haccessible : tree.root.Accessible) (hsource : source.HasPath)
    (hdest : dest.HasPath) (hentry : tree.entry? source = some entry)
    (hfree : tree.entry? dest = none) (hclear : tree.IsClear dest.dropLast)
    (hbelow : ¬ source <+: dest) (habove : ¬ dest <+: source) :
    ∃ made, Made tree made dest.dropLast ∧
      (move source.path dest.path).on tree = (.ok (), (made.erase source).put dest entry) := by
  obtain ⟨made, hmake, hmade⟩ := on_makeAll haccessible hdest.dropLast hclear
  have hstill : made.entry? source = some entry := by
    rwa [hmade.beside]
    exact fun hstart => hbelow (hstart.trans (List.dropLast_prefix dest))
  have hstillFree : made.entry? dest = none := by
    rwa [hmade.beside]
    exact Place.not_prefix_dropLast (Place.ne_nil_of_not_prefix habove)
  have hdirectory := Tree.isDirectory_path hmade.accessible hdest hmade.directory.isClear
  rw [hstillFree] at hdirectory
  have hrename := Tree.rename_of_free hmade.accessible hsource hdest hstill hstillFree
    hmade.directory hbelow habove
  have hnames : dest.path.names = dest := rfl
  refine ⟨made, hmade, ?_⟩
  rw [move, makeAbove, hnames, on_bind, hmake]
  simp only [hsource.isValid, Bool.not_true, Bool.false_eq_true, if_false]
  rw [on_bind, on_get]
  simp only [hdirectory, Option.any_none, Bool.false_eq_true, if_false]
  rw [transfer, on_bind, on_get]
  simp only [hrename]
  rfl

end Action

end OrcConversion.Disk
