import OrcConversion.Conversion.Finalization
import OrcConversion.Proofs.Disk.Moving
import OrcConversion.Proofs.Text.Listings
import OrcConversion.Proofs.Workflow.Exchanges

/-! Replacing what is at a place by what is at another place. -/

namespace OrcConversion.Disk

open Text Workflow

/-! ## Paths as they are written -/

/-- A path to a place without needless steps, from the root or from where one is. -/
def Place.IsSpelled (place : Place) (path : String) : Prop :=
  path = place.text ∨ path = "/".intercalate place

namespace Path

theorem utf8ByteSize_intercalate {names : List String} (h : names ≠ []) :
    ("/".intercalate names).utf8ByteSize + 1 = sizeOfNames names := by
  induction names with
  | nil => exact absurd rfl h
  | cons name names ih =>
      rw [sizeOfNames_cons]
      cases names with
      | nil =>
          rw [String.intercalate_singleton]
          rfl
      | cons next names =>
          rw [String.intercalate_cons_of_ne_nil (List.cons_ne_nil next names),
            String.utf8ByteSize_append, String.utf8ByteSize_append, ← ih (List.cons_ne_nil _ _)]
          have hslash : "/".utf8ByteSize = 1 := by decide
          omega

end Path

namespace Place

variable {place : Place} {path : String}

/-- Split at the slashes, a path gives the names, behind an empty one if it starts at the root. -/
theorem IsSpelled.splitAt_eq (h : place.IsSpelled path) (hpath : place.HasPath)
    (hne : place ≠ []) : splitAt '/' path = place ∨ splitAt '/' path = "" :: place := by
  have hwhole : ∀ name ∈ place, '/' ∉ name.toList := fun name hname =>
    (hpath.steps name hname).whole
  rcases h with rfl | rfl
  · right
    have htext : place.text = "/".intercalate ("" :: place) := by
      rw [String.intercalate_cons_of_ne_nil hne, String.empty_append, text]
    rw [htext]
    apply splitAt_intercalate rfl (List.cons_ne_nil _ _)
    exact List.forall_mem_cons.mpr ⟨by decide, hwhole⟩
  · exact .inl (splitAt_intercalate rfl hne hwhole)

theorem IsSpelled.pathNames_eq (h : place.IsSpelled path) (hpath : place.HasPath)
    (hne : place ≠ []) : pathNames path = place := by
  have hkept : place.filter (fun name => name != "" && name != ".") = place := by
    rw [List.filter_eq_self]
    intro name hname
    simp [(hpath.steps name hname).filled, (hpath.steps name hname).leaves]
  rcases h.splitAt_eq hpath hne with hsplit | hsplit
  · rw [pathNames, hsplit, hkept]
  · rw [pathNames, hsplit, List.filter_cons_of_neg (by decide), hkept]

theorem IsSpelled.not_endsWith (h : place.IsSpelled path) (hpath : place.HasPath)
    (hne : place ≠ []) : path.endsWith "/" = false := by
  rw [Bool.eq_false_iff]
  intro hends
  rw [String.endsWith_eq_endsWith_toSlice, String.Slice.endsWith_string_iff,
    String.copy_toSlice] at hends
  obtain ⟨front, hfront⟩ := hends
  have hempty : (splitAt '/' path).getLast? = some "" := by
    have hslash : "/".toList = ['/'] := rfl
    rw [splitAt, ← hfront, hslash, List.splitOn_append_cons_of_beq _ _ (by decide)]
    simp
  have hlast : (splitAt '/' path).getLast? = place.getLast? := by
    rcases h.splitAt_eq hpath hne with hsplit | hsplit
    · rw [hsplit]
    · rw [hsplit, List.getLast?_cons_of_ne_nil hne]
  rw [hlast] at hempty
  exact (hpath.steps "" (List.mem_of_getLast? hempty)).filled rfl

theorem IsSpelled.plain_eq (h : place.IsSpelled path) (hpath : place.HasPath) (hne : place ≠ []) :
    Path.plain path = place.path := by
  rw [Path.plain, h.pathNames_eq hpath hne, Place.path]

theorem IsSpelled.written_eq (h : place.IsSpelled path) (hpath : place.HasPath)
    (hne : place ≠ []) : Path.written path = place.path := by
  have hnames := h.pathNames_eq hpath hne
  have hdot : ((splitAt '/' path).reverse.find? (· != "") == some ".") = false := by
    rw [beq_eq_false_iff_ne]
    intro hfind
    have hmem := List.mem_reverse.mp (List.mem_of_find?_eq_some hfind)
    rcases h.splitAt_eq hpath hne with hsplit | hsplit
    · rw [hsplit] at hmem
      exact (hpath.steps "." hmem).leaves rfl
    · rw [hsplit, List.mem_cons, or_iff_right (by decide)] at hmem
      exact (hpath.steps "." hmem).leaves rfl
  have hfilling : path.utf8ByteSize - Path.sizeOfNames place = 0 := by
    have hsize := Path.utf8ByteSize_intercalate hne
    have hslash : "/".utf8ByteSize = 1 := by decide
    rcases h with rfl | rfl
    · rw [text, String.utf8ByteSize_append]
      omega
    · omega
  rw [Path.written, hnames, hdot, h.not_endsWith hpath hne, hfilling, Place.path]
  rfl

end Place

/-! ## Trees -/

/-- A tree in which the entry at a place was replaced by the entry from another place. -/
structure Replaced (tree after : Tree) (source dest : Place) : Prop where
  accessible : after.root.Accessible
  installed : after.entry? dest = tree.entry? source
  vacated : after.entry? source = none
  /-- What was missing above the place is a directory now. -/
  made : ∀ above, above <+: dest → above ≠ dest → tree.entry? above = none →
    after.HasDirectory above
  kept : ∀ other, ¬ source <+: other → ¬ dest <+: other →
    (other <+: dest → tree.entry? other ≠ none) → after.bare? other = tree.bare? other

section

variable {tree removed made : Tree} {source dest : Place} {entry : Entry}

theorem Replaced.of_removed (hremoved : Removed tree removed dest)
    (hmade : Made removed made dest.dropLast) (hentry : tree.entry? source = some entry)
    (haccessible : entry.Accessible) (hbelow : ¬ source <+: dest) (habove : ¬ dest <+: source) :
    Replaced tree ((made.erase source).put dest entry) source dest := by
  have hsource := Place.ne_nil_of_not_prefix hbelow
  have hdest := Place.ne_nil_of_not_prefix habove
  have hdirectory : ∀ other, other <+: dest.dropLast →
      (made.erase source).HasDirectory other ∧
        ((made.erase source).put dest entry).HasDirectory other := by
    intro other hother
    have hinner : ¬ source <+: other := fun hstart =>
      hbelow ((hstart.trans hother).trans (List.dropLast_prefix dest))
    have houter : ¬ dest <+: other := fun hstart =>
      Place.not_prefix_dropLast hdest (hstart.trans hother)
    have hthere := hmade.directory.above hother
    simp only [Tree.hasDirectory_iff] at hthere ⊢
    rw [Tree.put, Tree.bare?_set _ houter, Tree.erase, Tree.bare?_set none hinner]
    exact ⟨hthere, hthere⟩
  constructor
  · exact Tree.accessible_put (Tree.accessible_erase hmade.accessible hsource) hdest haccessible
  · have habove := (hdirectory dest.dropLast List.prefix_rfl).1
    obtain ⟨above, name, rfl⟩ := Place.exists_append hdest
    rw [List.dropLast_concat] at habove
    rw [hentry, Tree.entry_put_self habove]
  · rw [Tree.put, Tree.entry_set_of_apart _ habove hbelow]
    exact Tree.entry_erase_self hsource
  · intro other hother hproper _
    exact (hdirectory other (Place.prefix_dropLast hother hproper)).2
  · intro other hinner houter hthere
    rw [Tree.put, Tree.bare?_set _ houter, Tree.erase, Tree.bare?_set none hinner,
      ← hremoved.kept other houter]
    by_cases hother : other <+: dest.dropLast
    · apply hmade.above other hother
      rw [Ne, ← Tree.bare?_eq_none, hremoved.kept other houter, Tree.bare?_eq_none]
      exact hthere (hother.trans (List.dropLast_prefix dest))
    · rw [Tree.bare?, hmade.beside other hother, Tree.bare?]

end

/-! ## Services -/

section

variable {σ : Type} {others : Services σ} {state : σ} {tree removed after : Tree}
  {base place source dest : Place} {path sourcePath destPath : String} {entry : Entry}

theorem Place.IsSpelled.below_plain (h : place.IsSpelled path) (hpath : (base ++ place).HasPath)
    (hne : place ≠ []) : base.path.below (.plain path) = (base ++ place).path := by
  rw [h.plain_eq hpath.below hne]
  rfl

theorem Place.IsSpelled.below_written (h : place.IsSpelled path) (hpath : (base ++ place).HasPath)
    (hne : place ≠ []) : base.path.below (.written path) = (base ++ place).path := by
  rw [h.written_eq hpath.below hne]
  rfl

theorem reply_of_on {α : Type} {action : Action α} {value : α}
    (h : action.on tree = (.ok value, after)) :
    action.reply (tree, state) = (.ok value, after, state) := by
  rw [Action.reply, h]
  rfl

theorem ends_of_answer {τ : Type} {services : Services τ} {call : Call} {start left : τ}
    {reply : Except Failure call.Reply} (h : services.answer call start = (reply, left)) :
    Ends services (Workflow.call call) start [⟨call, reply⟩] reply left := by
  have hends := Ends.call services call start
  rwa [h] at hends

theorem ends_checkPath (others : Services σ) (state : σ) (hspelled : place.IsSpelled path)
    (hne : place ≠ []) (hpath : (base ++ place).HasPath) (haccessible : tree.root.Accessible)
    (hclear : tree.IsClear (base ++ place).dropLast) :
    Ends (services base.path others) (Workflow.call (.checkPath path)) (tree, state)
      [⟨.checkPath path, .ok (tree.entry? (base ++ place)).isSome⟩]
      (.ok (tree.entry? (base ++ place)).isSome) (tree, state) := by
  apply ends_of_answer
  change (Action.ask (·.findsPath (base.path.below (.plain path)))).reply (tree, state) = _
  rw [hspelled.below_plain hpath hne]
  apply reply_of_on
  rw [Action.on_ask, Tree.findsPath_path haccessible hpath hclear]

theorem ends_delete (hspelled : place.IsSpelled path) (hne : place ≠ [])
    (hpath : (base ++ place).HasPath) (haccessible : tree.root.Accessible)
    (hentry : tree.entry? (base ++ place) = some entry) :
    ∃ after, Ends (services base.path others) (Workflow.call (.delete path)) (tree, state)
        [⟨.delete path, .ok ()⟩] (.ok ()) (after, state) ∧
      Removed tree after (base ++ place) := by
  obtain ⟨after, hdelete, hremoved⟩ := Action.on_delete haccessible hpath
    (List.append_ne_nil_of_right_ne_nil base hne) hentry
  refine ⟨after, ?_, hremoved⟩
  apply ends_of_answer
  change (Action.delete (base.path.below (.plain path))).reply (tree, state) = _
  rw [hspelled.below_plain hpath hne]
  exact reply_of_on hdelete

theorem ends_move (hsource : source.IsSpelled sourcePath) (hdest : dest.IsSpelled destPath)
    (hsourcePath : (base ++ source).HasPath) (hdestPath : (base ++ dest).HasPath)
    (haccessible : tree.root.Accessible) (hentry : tree.entry? (base ++ source) = some entry)
    (hclear : tree.IsClear (base ++ dest).dropLast) (hbelow : ¬ source <+: dest)
    (habove : ¬ dest <+: source) (hremoved : Removed tree removed (base ++ dest)) :
    ∃ after, Ends (services base.path others) (Workflow.call (.move sourcePath destPath))
        (removed, state) [⟨.move sourcePath destPath, .ok ()⟩] (.ok ()) (after, state) ∧
      Replaced tree after (base ++ source) (base ++ dest) := by
  have hinner : ¬ base ++ source <+: base ++ dest := by rwa [List.prefix_append_right_inj]
  have houter : ¬ base ++ dest <+: base ++ source := by rwa [List.prefix_append_right_inj]
  have hstill : removed.entry? (base ++ source) = some entry := by
    rw [hremoved.beside _ houter hinner, hentry]
  have hstillClear : removed.IsClear (base ++ dest).dropLast := by
    apply hclear.of_bare?
    intro other hother
    apply hremoved.kept
    exact fun hstart => Place.not_prefix_dropLast (Place.ne_nil_of_not_prefix houter)
      (hstart.trans hother)
  obtain ⟨made, hmade, hmove⟩ := Action.on_move hremoved.accessible hsourcePath hdestPath hstill
    hremoved.gone hstillClear hinner houter
  refine ⟨_, ?_, .of_removed hremoved hmade hentry (haccessible.find? hentry) hinner houter⟩
  apply ends_of_answer
  change (Action.move (base.path.below (.written sourcePath))
    (base.path.below (.plain destPath))).reply (removed, state) = _
  rw [hsource.below_written hsourcePath (Place.ne_nil_of_not_prefix hbelow),
    hdest.below_plain hdestPath (Place.ne_nil_of_not_prefix habove)]
  exact reply_of_on hmove

theorem ends_moveInto (others : Services σ) (state : σ) (hsource : source.IsSpelled sourcePath)
    (hdest : dest.IsSpelled destPath) (hsourcePath : (base ++ source).HasPath)
    (hdestPath : (base ++ dest).HasPath)
    (haccessible : tree.root.Accessible) (hentry : tree.entry? (base ++ source) = some entry)
    (hclear : tree.IsClear (base ++ dest).dropLast) (hbelow : ¬ source <+: dest)
    (habove : ¬ dest <+: source) :
    ∃ trace after, Ends (services base.path others) (moveInto sourcePath destPath) (tree, state)
        trace (.ok ()) (after, state) ∧
      Replaced tree after (base ++ source) (base ++ dest) := by
  have hne := Place.ne_nil_of_not_prefix habove
  have hcheck := ends_checkPath others state hdest hne hdestPath haccessible hclear
  cases hold : tree.entry? (base ++ dest) with
  | none =>
      rw [hold] at hcheck
      obtain ⟨after, hmove, hreplaced⟩ := ends_move hsource hdest hsourcePath hdestPath haccessible
        hentry hclear hbelow habove (.refl haccessible hold)
      exact ⟨_, after, hcheck.bind hmove, hreplaced⟩
  | some old =>
      rw [hold] at hcheck
      obtain ⟨removed, hdelete, hremoved⟩ := ends_delete hdest hne hdestPath haccessible hold
      obtain ⟨after, hmove, hreplaced⟩ := ends_move hsource hdest hsourcePath hdestPath haccessible
        hentry hclear hbelow habove hremoved
      have hrest : Ends (services base.path others)
          (do
            Workflow.call (.delete destPath)
            debug .finalization ("Deleted existing " ++ destPath)
            Workflow.call (.move sourcePath destPath))
          (tree, state) _ (.ok ()) (after, state) :=
        hdelete.bind ((Ends.note _ _ _ _ _).bind hmove)
      exact ⟨_, after, hcheck.bind hrest, hreplaced⟩

/-- Whatever was at a place, what takes its place is the entry that was moved, as a whole. Besides,
only missing directories above the place are new. -/
theorem replaceDirectory_installs (hsource : source.IsSpelled sourcePath)
    (hdest : dest.IsSpelled destPath) (hsourcePath : (base ++ source).HasPath)
    (hdestPath : (base ++ dest).HasPath) (haccessible : tree.root.Accessible)
    (hthere : tree.entry? (base ++ source) ≠ none) (hclear : tree.IsClear (base ++ dest).dropLast)
    (hbelow : ¬ source <+: dest) (habove : ¬ dest <+: source) :
    ∃ after,
      let outcome := (replaceDirectory sourcePath destPath).run (services base.path others)
        (tree, state)
      outcome.result = .ok () ∧ outcome.state = (after, state) ∧
        Replaced tree after (base ++ source) (base ++ dest) := by
  obtain ⟨entry, hentry⟩ := Option.ne_none_iff_exists'.mp hthere
  obtain ⟨trace, after, hmove, hreplaced⟩ := ends_moveInto others state hsource hdest
    hsourcePath hdestPath haccessible hentry hclear hbelow habove
  have hends : Ends (services base.path others) (replaceDirectory sourcePath destPath)
      (tree, state) _ (.ok ()) (after, state) :=
    (hmove.mapFailure (.moveFailed sourcePath destPath)).bind (Ends.note _ _ _ _ _)
  exact ⟨after, hends.result_eq, hends.state_eq, hreplaced⟩

/-- A staged table, and an older one of the same name with directories of its own. -/
def Sample.twoTables : Tree where
  entries := [
    ("staging", .directory 0o755 [
      ("events", .directory 0o750 [
        ("day=2", .directory 0o755 [("part-0", .file 0o644 "new rows")])])]),
    ("final", .directory 0o755 [
      ("events", .directory 0o755 [
        ("day=1", .directory 0o755 [("part-0", .file 0o600 "old rows")]),
        ("events", .directory 0o755 [])]),
      ("users", .file 0o644 "other rows")])]

theorem replaceDirectory_installs_twoTables :
    ∃ after,
      let outcome := (replaceDirectory "/staging/events" "/final/events").run
        (services (Place.path []) Services.willing) (Sample.twoTables, ())
      outcome.result = .ok () ∧ outcome.state = (after, ()) ∧
        Replaced Sample.twoTables after ["staging", "events"] ["final", "events"] := by
  have haccessible : Sample.twoTables.root.Accessible := by
    simp only [Tree.root, Sample.twoTables, Entry.accessible_directory_iff, Entry.Accessible.file,
      List.forall_mem_cons, List.not_mem_nil, false_imp_iff, implies_true, and_true]
    decide
  exact replaceDirectory_installs (.inl (by decide)) (.inl (by decide)) (by decide)
    (by decide) haccessible (Option.isSome_iff_ne_none.mp rfl)
    (Tree.HasDirectory.isClear ⟨0o755, _, rfl⟩) (by decide) (by decide)

end

end OrcConversion.Disk
