import OrcConversion.Disk.Lookup
import OrcConversion.Proofs.Disk.Places

/-! Where paths lead in a tree that can be walked freely. -/

namespace OrcConversion.Disk

/-- A name that is a step to an entry, and that a disk takes. -/
structure IsStep (name : String) : Prop where
  filled : name ≠ ""
  leaves : name ≠ "."
  goesDown : name ≠ ".."
  whole : '/' ∉ name.toList
  valid : '\x00' ∉ name.toList
  short : name.utf8ByteSize ≤ nameLimit

instance (name : String) : Decidable (IsStep name) :=
  decidable_of_iff
    (name ≠ "" ∧ name ≠ "." ∧ name ≠ ".." ∧ '/' ∉ name.toList ∧ '\x00' ∉ name.toList ∧
      name.utf8ByteSize ≤ nameLimit)
    ⟨fun ⟨filled, leaves, goesDown, whole, valid, short⟩ =>
      ⟨filled, leaves, goesDown, whole, valid, short⟩,
      fun h => ⟨h.filled, h.leaves, h.goesDown, h.whole, h.valid, h.short⟩⟩

/-- A place with a path that a disk takes. -/
structure Place.HasPath (place : Place) : Prop where
  steps : ∀ name ∈ place, IsStep name
  short : Path.sizeOfNames place ≤ Path.sizeLimit

instance (place : Place) : Decidable place.HasPath :=
  decidable_of_iff ((∀ name ∈ place, IsStep name) ∧ Path.sizeOfNames place ≤ Path.sizeLimit)
    ⟨fun h => ⟨h.1, h.2⟩, fun h => ⟨h.steps, h.short⟩⟩

def Place.path (place : Place) : Path := ⟨place, .name, 0⟩

namespace Path

theorem foldl_size (names : List String) (size : Nat) :
    names.foldl (fun size name => size + name.utf8ByteSize + 1) size =
      size + sizeOfNames names := by
  induction names generalizing size with
  | nil => rfl
  | cons name names ih =>
      rw [sizeOfNames, List.foldl_cons, List.foldl_cons, ih, ih]
      omega

theorem sizeOfNames_cons (name : String) (names : List String) :
    sizeOfNames (name :: names) = name.utf8ByteSize + 1 + sizeOfNames names := by
  rw [sizeOfNames, List.foldl_cons, foldl_size]
  omega

theorem sizeOfNames_append (front back : List String) :
    sizeOfNames (front ++ back) = sizeOfNames front + sizeOfNames back := by
  rw [sizeOfNames, List.foldl_append, foldl_size]
  rfl

end Path

namespace Place.HasPath

theorem above {front back : Place} (h : (front ++ back).HasPath) : front.HasPath := by
  constructor
  · exact fun name hname => h.steps name (List.mem_append_left back hname)
  · have hshort := h.short
    rw [Path.sizeOfNames_append] at hshort
    omega

theorem below {front back : Place} (h : (front ++ back).HasPath) : back.HasPath := by
  constructor
  · exact fun name hname => h.steps name (List.mem_append_right front hname)
  · have hshort := h.short
    rw [Path.sizeOfNames_append] at hshort
    omega

theorem dropLast {place : Place} (h : place.HasPath) : HasPath place.dropLast := by
  obtain ⟨rest, hrest⟩ := List.dropLast_prefix place
  rw [← hrest] at h
  exact h.above

theorem isValid {place : Place} (h : place.HasPath) : place.path.isValid = true := by
  rw [Path.isValid, Bool.not_eq_true', List.any_eq_false]
  intro name hname
  simpa using (h.steps name hname).valid

theorem check {places : List Place} (h : ∀ place ∈ places, place.HasPath) :
    Path.check (places.map Place.path) = .ok () := by
  have hvalid : (places.map Place.path).all Path.isValid = true := by
    rw [List.all_map, List.all_eq_true]
    exact fun place hplace => (h place hplace).isValid
  have hshort : ¬ (places.map Place.path).any (fun path => Path.sizeLimit < path.size) = true := by
    rw [List.any_map, List.any_eq_true]
    rintro ⟨place, hplace, hlong⟩
    have hsize := (h place hplace).short
    rw [Function.comp_apply, decide_eq_true_eq] at hlong
    exact absurd hlong (Nat.not_lt.mpr hsize)
  rw [Path.check, hvalid, if_neg hshort]
  rfl

end Place.HasPath

namespace Tree

section

variable {tree : Tree} {purpose : Purpose} {links : Nat} {here : Place} {name : String}

/-! ## Walking -/

theorem HasDirectory.isSearchable (h : tree.HasDirectory here)
    (haccessible : tree.root.Accessible) : tree.holdsAt here Entry.isSearchable = true :=
  h.holdsAt haccessible (by decide)

/-- Directories on the way are just passed. -/
theorem walk_append {front rest : List String} {ending : Ending}
    (haccessible : tree.root.Accessible) (hending : ending ≠ .slash)
    (hsteps : ∀ name ∈ front, IsStep name) (hdirectory : tree.HasDirectory (here ++ front)) :
    tree.walk purpose links here (front ++ rest) ending =
      tree.walk purpose links (here ++ front) rest ending := by
  induction front generalizing here with
  | nil => rw [List.nil_append, List.append_nil]
  | cons name front ih =>
      obtain ⟨hstep, hsteps⟩ := List.forall_mem_cons.mp hsteps
      rw [List.append_cons] at hdirectory ⊢
      have hhere := (hdirectory.above (List.prefix_append _ front)).above
        (List.prefix_append here [name])
      obtain ⟨permission, entries, hnext⟩ := hdirectory.above (List.prefix_append _ front)
      rw [List.cons_append, walk, ← ih hsteps hdirectory]
      simp only [hhere.isSearchable haccessible, hstep.goesDown, hending, hnext,
        Nat.not_lt.mpr hstep.short, Bool.not_true, Bool.false_eq_true, decide_false, Bool.and_false,
        if_false]

/-- The end of a path need not be there, and whatever is there is the place meant. -/
theorem walk_last (haccessible : tree.root.Accessible) (hstep : IsStep name)
    (hdirectory : tree.HasDirectory here) :
    tree.walk purpose links here [name] .name = .ok (here ++ [name]) := by
  rw [walk]
  simp only [hdirectory.isSearchable haccessible, hstep.goesDown, Nat.not_lt.mpr hstep.short,
    Bool.not_true, Bool.false_eq_true, decide_false, Bool.and_false, if_false, List.isEmpty_nil,
    decide_true, Bool.and_self, if_true, reduceCtorEq]
  split
  · rfl
  · rw [walk]
    rfl
  · rfl
  · rename_i target hlink
    cases haccessible.find? hlink

theorem walk_missing {rest : List String} {ending : Ending} (haccessible : tree.root.Accessible)
    (hstep : IsStep name) (hdirectory : tree.HasDirectory here) (hending : ending ≠ .slash)
    (hmore : rest ≠ [] ∨ ending ≠ .name) (hmissing : tree.entry? (here ++ [name]) = none) :
    tree.walk purpose links here (name :: rest) ending = .error .notFound := by
  have hends : (rest.isEmpty && decide (ending = .name)) = false := by
    rw [Bool.and_eq_false_iff, List.isEmpty_eq_false_iff, decide_eq_false_iff_not]
    exact hmore
  rw [walk]
  simp only [hdirectory.isSearchable haccessible, hstep.goesDown, Nat.not_lt.mpr hstep.short,
    hmissing, hends, hending, Bool.not_true, Bool.false_eq_true, decide_false, Bool.and_false,
    if_false]

theorem walk_from_top {front rest : List String} {ending : Ending}
    (haccessible : tree.root.Accessible) (hending : ending ≠ .slash)
    (hsteps : ∀ name ∈ front, IsStep name) (hdirectory : tree.HasDirectory front) :
    tree.walk purpose links [] (front ++ rest) ending =
      tree.walk purpose links front rest ending := by
  apply walk_append haccessible hending hsteps
  rwa [List.nil_append]

theorem walk_directory {place : Place} (haccessible : tree.root.Accessible)
    (hsteps : ∀ name ∈ place, IsStep name) (hdirectory : tree.HasDirectory place) :
    tree.walk purpose links [] place .dot = .ok place := by
  have hwalk := @walk_from_top tree purpose links place [] .dot haccessible (by decide) hsteps
    hdirectory
  rw [List.append_nil] at hwalk
  rw [hwalk, walk, hdirectory.isSearchable haccessible]
  rfl

theorem walk_fails {front back : Place} {ending : Ending} (haccessible : tree.root.Accessible)
    (hsteps : ∀ step ∈ front ++ name :: back, IsStep step) (hdirectory : tree.HasDirectory front)
    (hending : ending ≠ .slash) (hmore : back ≠ [] ∨ ending ≠ .name)
    (hmissing : tree.entry? (front ++ [name]) = none) :
    tree.walk purpose links [] (front ++ name :: back) ending = .error .notFound := by
  obtain ⟨hfront, hback⟩ := List.forall_mem_append.mp hsteps
  rw [walk_from_top haccessible hending hfront hdirectory]
  exact walk_missing haccessible (hback name List.mem_cons_self) hdirectory hending hmore hmissing

end

/-! ## Looking up -/

section

variable {tree : Tree} {place above : Place} {name : String}

theorem occupied_eq (tree : Tree) (place : Place) :
    tree.occupied place =
      match tree.entry? place with
      | some entry => .ok (place, entry)
      | none => .error .notFound := rfl

theorem occupied_of_entry {entry : Entry} (h : tree.entry? place = some entry) :
    tree.occupied place = .ok (place, entry) := by
  rw [occupied_eq, h]

theorem occupied_walk (haccessible : tree.root.Accessible) (hpath : place.HasPath)
    (hclear : tree.IsClear place.dropLast) (purpose : Purpose) (links : Nat) :
    (tree.walk purpose links [] place .name >>= tree.occupied) = tree.occupied place := by
  rcases List.eq_nil_or_concat place with rfl | ⟨above, name, rfl⟩
  · rw [walk]
    rfl
  · rw [List.concat_eq_append] at hpath hclear ⊢
    rw [List.dropLast_concat] at hclear
    have hsteps := hpath.steps
    rcases hclear.hasDirectory_or_missing haccessible with
      hdirectory | ⟨front, first, back, rfl, hfront, hmissing⟩
    · obtain ⟨habove, hname⟩ := List.forall_mem_append.mp hsteps
      rw [walk_from_top haccessible (by decide) habove hdirectory,
        walk_last haccessible (hname name (List.mem_singleton_self name)) hdirectory]
      rfl
    · have hgone : tree.entry? ((front ++ first :: back) ++ [name]) = none := by
        rw [List.append_cons front first back, List.append_assoc]
        exact entry_of_missing hmissing _
      rw [occupied_eq, hgone]
      rw [List.append_assoc, List.cons_append] at hsteps ⊢
      rw [walk_fails haccessible hsteps hfront (by decide)
        (.inl (List.append_ne_nil_of_right_ne_nil back (List.cons_ne_nil name []))) hmissing]
      rfl

theorem status_path (haccessible : tree.root.Accessible) (hpath : place.HasPath)
    (hclear : tree.IsClear place.dropLast) : tree.status place.path = tree.occupied place := by
  have hcheck : Path.check [place.path] = .ok () :=
    Place.HasPath.check (List.forall_mem_singleton.mpr hpath)
  rw [← occupied_walk haccessible hpath hclear .target linkLimit, status, follow, hcheck]
  rfl

theorem ownStatus_path (haccessible : tree.root.Accessible) (hpath : place.HasPath)
    (hclear : tree.IsClear place.dropLast) : tree.ownStatus place.path = tree.occupied place := by
  have hcheck : Path.check [place.path] = .ok () :=
    Place.HasPath.check (List.forall_mem_singleton.mpr hpath)
  rw [← occupied_walk haccessible hpath hclear .entry linkLimit, ownStatus, locate, hcheck]
  rfl

theorem locateAbove_eq_walk (hpath : (above ++ [name]).HasPath) :
    tree.locateAbove (above ++ [name]).path = tree.walk .target linkLimit [] above .dot := by
  have hcheck : Path.check [(above ++ [name]).path] = .ok () :=
    Place.HasPath.check (List.forall_mem_singleton.mpr hpath)
  have habove : (above ++ [name]).path.above = above := List.dropLast_concat
  rw [locateAbove, hcheck, habove]
  rfl

theorem locateAbove_of_directory (haccessible : tree.root.Accessible)
    (hpath : (above ++ [name]).HasPath) (hdirectory : tree.HasDirectory above) :
    tree.locateAbove (above ++ [name]).path = .ok above := by
  rw [locateAbove_eq_walk hpath]
  exact walk_directory haccessible hpath.above.steps hdirectory

theorem locateAbove_of_missing (haccessible : tree.root.Accessible)
    (hpath : (above ++ [name]).HasPath) (hclear : tree.IsClear above)
    (hmissing : tree.entry? above = none) :
    tree.locateAbove (above ++ [name]).path = .error .notFound := by
  rw [locateAbove_eq_walk hpath]
  rcases hclear.hasDirectory_or_missing haccessible with
    hdirectory | ⟨front, first, back, rfl, hfront, hfirst⟩
  · have hthere := hdirectory.isSome
    rw [hmissing] at hthere
    cases hthere
  · exact walk_fails haccessible hpath.above.steps hfront (by decide) (.inr (by decide)) hfirst

theorem lastStep_path (hstep : IsStep name) (above : Place) :
    (above ++ [name]).path.lastStep = .entry name := by
  have hlast : (above ++ [name]).path.names.getLast? = some name := List.getLast?_concat
  rw [Path.lastStep, hlast]
  split
  · contradiction
  · contradiction
  · rename_i hback _
    exact absurd (Option.some.inj hback) hstep.goesDown
  · rename_i hname _
    rw [Option.some.inj hname]

/-! ## Questions -/

theorem findsPath_path (haccessible : tree.root.Accessible) (hpath : place.HasPath)
    (hclear : tree.IsClear place.dropLast) :
    tree.findsPath place.path = .ok (tree.entry? place).isSome := by
  rw [findsPath, status_path haccessible hpath hclear, occupied_eq]
  cases tree.entry? place <;> rfl

theorem findsDirectory_path (haccessible : tree.root.Accessible) (hpath : place.HasPath)
    (hclear : tree.IsClear place.dropLast) :
    tree.findsDirectory place.path = .ok ((tree.entry? place).any Entry.isDirectory) := by
  rw [findsDirectory, status_path haccessible hpath hclear, occupied_eq]
  cases tree.entry? place <;> rfl

theorem findsLink_path (haccessible : tree.root.Accessible) (hpath : place.HasPath)
    (hclear : tree.IsClear place.dropLast) : tree.findsLink place.path = .ok false := by
  rw [findsLink, ownStatus_path haccessible hpath hclear, occupied_eq]
  cases hentry : tree.entry? place with
  | none => rfl
  | some entry =>
      cases entry with
      | directory => rfl
      | file => rfl
      | link target => cases haccessible.find? hentry

theorem isDirectory_path (haccessible : tree.root.Accessible) (hpath : place.HasPath)
    (hclear : tree.IsClear place.dropLast) :
    tree.isDirectory place.path = (tree.entry? place).any Entry.isDirectory := by
  rw [isDirectory, status_path haccessible hpath hclear, occupied_eq]
  cases tree.entry? place <;> rfl

end

end Tree

end OrcConversion.Disk
