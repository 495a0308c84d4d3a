import Mathlib.Data.Finmap
import OrcConversion.Proofs.Conversion.PublishingOrder
import OrcConversion.Proofs.Workflow.Halting

/-! What becomes of a published directory when there is nothing to replace it with. -/

namespace OrcConversion

open Workflow

variable {σ τ β : Type}

/-! ## Files by path -/

/-- Contents by their paths. -/
abbrev Files (β : Type) := Finmap fun _ : String => β

/-- Services that keep files. A path is there when something is kept for it, to delete it is to keep
nothing for it any more, and to move nothing fails. -/
structure Services.KeepsFiles (services : Services σ) (files : σ → Files β) : Prop where
  checkPath : ∀ path state,
    (services.answer (.checkPath path) state).1 = .ok (decide (path ∈ files state)) ∧
      files (services.answer (.checkPath path) state).2 = files state
  delete : ∀ path state,
    (services.answer (.delete path) state).1 = .ok () ∧
      files (services.answer (.delete path) state).2 = (files state).erase path
  move_missing : ∀ source dest state, source ∉ files state →
    (∃ cause, (services.answer (.move source dest) state).1 = .error cause) ∧
      files (services.answer (.move source dest) state).2 = files state

/-- Services that keep files, and leave everything else to others. -/
def Services.keeping (others : Services τ) : Services (Files β × τ) where
  answer
    | .checkPath path, (files, state) => (.ok (decide (path ∈ files)), files, state)
    | .delete path, (files, state) => (.ok (), files.erase path, state)
    | .move source dest, (files, state) =>
        match files.lookup source with
        | none => (.error (.foreign (.disk .notFound)), files, state)
        | some content => (.ok (), (files.erase source).insert dest content, state)
    | call, (files, state) =>
        let (reply, state) := others.answer call state
        (reply, files, state)

theorem Services.keepsFiles_keeping (others : Services τ) :
    (others.keeping : Services (Files β × τ)).KeepsFiles Prod.fst := by
  constructor
  · exact fun path state => ⟨rfl, rfl⟩
  · exact fun path state => ⟨rfl, rfl⟩
  · rintro source dest ⟨files, state⟩ hmissing
    rw [keeping]
    simp only [Finmap.lookup_eq_none.mpr hmissing]
    exact ⟨⟨_, rfl⟩, trivial⟩

theorem Files.lookup_erase_iff {files : Files β} {path : String} :
    (files.erase path).lookup path = files.lookup path ↔ path ∉ files := by
  rw [Finmap.lookup_erase, eq_comm, Finmap.lookup_eq_none]

theorem Files.erase_of_not_mem {files : Files β} {path : String} (h : path ∉ files) :
    files.erase path = files := by
  apply Finmap.ext_lookup
  intro other
  by_cases hother : other = path
  · rw [hother, lookup_erase_iff.mpr h]
  · exact Finmap.lookup_erase_ne hother

/-! ## One directory -/

section

variable {services : Services σ} {files : σ → Files β} {state : σ} {source : String}

theorem Services.KeepsFiles.ends_checkPath (hfiles : services.KeepsFiles files) (path : String)
    (state : σ) :
    ∃ trace after,
      Ends services (call (.checkPath path)) state trace (.ok (decide (path ∈ files state))) after ∧
      files after = files state := by
  obtain ⟨hanswer, hkept⟩ := hfiles.checkPath path state
  exact ⟨_, _, .call_of_answer hanswer, hkept⟩

theorem Services.KeepsFiles.ends_delete (hfiles : services.KeepsFiles files) (path : String)
    (state : σ) :
    ∃ trace after, Ends services (call (.delete path)) state trace (.ok ()) after ∧
      files after = (files state).erase path := by
  obtain ⟨hanswer, herased⟩ := hfiles.delete path state
  exact ⟨_, _, .call_of_answer hanswer, herased⟩

theorem Services.KeepsFiles.ends_move (hfiles : services.KeepsFiles files) (dest : String)
    (hmissing : source ∉ files state) :
    ∃ cause trace after, Ends services (call (.move source dest)) state trace (.error cause) after ∧
      files after = files state := by
  obtain ⟨⟨cause, hanswer⟩, hkept⟩ := hfiles.move_missing source dest state hmissing
  exact ⟨cause, _, _, .call_of_answer hanswer, hkept⟩

/-- Way is made before the move fails. -/
theorem Services.KeepsFiles.ends_moveInto (hfiles : services.KeepsFiles files) (dest : String)
    (hmissing : source ∉ files state) :
    ∃ cause trace after, Ends services (moveInto source dest) state trace (.error cause) after ∧
      files after = (files state).erase dest := by
  obtain ⟨_, checked, hcheck, hchecked⟩ := hfiles.ends_checkPath dest state
  by_cases hdest : dest ∈ files state
  · rw [decide_eq_true hdest] at hcheck
    obtain ⟨_, deleted, hdelete, hdeleted⟩ := hfiles.ends_delete dest checked
    rw [hchecked] at hdeleted
    have hstill : source ∉ files deleted := by
      rw [hdeleted, Finmap.mem_erase]
      exact fun hmem => hmissing hmem.2
    obtain ⟨cause, _, after, hmove, hkept⟩ := hfiles.ends_move dest hstill
    have hrest : Ends services
        (do
          call (.delete dest)
          debug .finalization ("Deleted existing " ++ dest)
          call (.move source dest))
        checked _ (.error cause) after :=
      hdelete.bind ((Ends.note services _ _ _ _).bind hmove)
    exact ⟨cause, _, after, hcheck.bind hrest, hkept.trans hdeleted⟩
  · rw [decide_eq_false hdest] at hcheck
    rw [← hchecked] at hmissing
    obtain ⟨cause, _, after, hmove, hkept⟩ := hfiles.ends_move dest hmissing
    refine ⟨cause, _, after, hcheck.bind hmove, ?_⟩
    rw [hkept, hchecked, Files.erase_of_not_mem hdest]

theorem Services.KeepsFiles.ends_replaceDirectory (hfiles : services.KeepsFiles files)
    (dest : String) (hmissing : source ∉ files state) :
    ∃ cause trace after,
      Ends services (replaceDirectory source dest) state trace
        (.error (.moveFailed source dest cause)) after ∧
      files after = (files state).erase dest := by
  obtain ⟨cause, trace, after, hends, herased⟩ := hfiles.ends_moveInto dest hmissing
  exact ⟨cause, trace, after, (hends.mapFailure (.moveFailed source dest)).bind_error _, herased⟩

end

/-! ## A plan -/

theorem replaceDirectories_append (front back : List (String × String)) :
    replaceDirectories (front ++ back) =
      (do replaceDirectories front; replaceDirectories back) := by
  induction front with
  | nil => rfl
  | cons entry front ih =>
      obtain ⟨source, dest⟩ := entry
      rw [List.cons_append, replaceDirectories, replaceDirectories, ih, bind_assoc]

/-- A plan up to the turn of a directory, given those in front of it. -/
def publishUpTo (plan : PublishPlan) (front : List (String × String)) : Workflow Unit := do
  runStatements plan.before
  replaceDirectories front

theorem publish_eq {plan : PublishPlan} {source dest : String} {front back : List (String × String)}
    (hentries : plan.publishDirectories.entries = front ++ (source, dest) :: back) :
    publish plan = (do
      publishUpTo plan front
      replaceDirectory source dest
      replaceDirectories back
      runStatements plan.after
      info .finalization
        ("Published " ++ toString plan.publishDirectories.entries.length ++ " directories")) := by
  rw [publish, publishUpTo, hentries, replaceDirectories_append, replaceDirectories]
  simp only [bind_assoc]

/-- When the turn of a directory comes and it is not there, publishing fails, and nothing is left
where it was to go to. So what was there is kept only if nothing was; everything else is. -/
theorem publish_missing_source {services : Services σ} {files : σ → Files β} {state turn : σ}
    {plan : PublishPlan} {source dest : String} {front back : List (String × String)}
    {trace : List Exchange} (hfiles : services.KeepsFiles files)
    (hentries : plan.publishDirectories.entries = front ++ (source, dest) :: back)
    (hturn : Ends services (publishUpTo plan front) state trace (.ok ()) turn)
    (hmissing : source ∉ files turn) :
    ∃ cause failed after,
      Ends services (publish plan) state failed (.error (.moveFailed source dest cause)) after ∧
      (Failure.moveFailed source dest cause).IsKind .publishing ∧
      dest ∉ files after ∧
      ((files after).lookup dest = (files turn).lookup dest ↔ dest ∉ files turn) ∧
      ∀ path, path ≠ dest → (files after).lookup path = (files turn).lookup path := by
  obtain ⟨cause, replaced, after, hends, herased⟩ := hfiles.ends_replaceDirectory dest hmissing
  have hpublish : Ends services (publish plan) state (trace ++ replaced)
      (.error (.moveFailed source dest cause)) after := by
    rw [publish_eq hentries]
    exact hturn.bind (hends.bind_error _)
  refine ⟨cause, _, after, hpublish, rfl, ?_⟩
  rw [herased]
  exact ⟨Finmap.notMem_erase_self, Files.lookup_erase_iff, fun path => Finmap.lookup_erase_ne⟩

namespace Sample

def hourPlan : PublishPlan where
  publishStatements := ["DROP PARTITION", "ADD PARTITION"]
  publishDirectories := .ofList [("/stg/p", "/final/p")]
  moveAfter := 1

def publishedFiles : Files String :=
  (Finmap.singleton "/final/p" "ORC").insert "/final/q" "ORC"

end Sample

open Sample in
theorem publish_missing_source_hourPlan :
    let services : Services (Files String × Unit) := Services.willing.keeping
    ∃ cause failed after,
      Ends services (publish hourPlan) (publishedFiles, ()) failed
        (.error (.moveFailed "/stg/p" "/final/p" cause)) after ∧
      after.1.lookup "/final/p" = none ∧ after.1.lookup "/final/q" = some "ORC" := by
  intro services
  have hturn : Ends services (publishUpTo hourPlan []) (publishedFiles, ()) _ (.ok ())
      (publishedFiles, ()) := ends _ _ _
  obtain ⟨cause, failed, after, hends, -, hgone, -, hkept⟩ :=
    @publish_missing_source _ _ services Prod.fst (publishedFiles, ()) (publishedFiles, ()) hourPlan
      "/stg/p" "/final/p" [] [] _ (Services.keepsFiles_keeping _) rfl hturn (by decide)
  refine ⟨cause, failed, after, hends, Finmap.lookup_eq_none.mpr hgone, ?_⟩
  rw [hkept "/final/q" (by decide)]
  decide

open Sample in
/-- A plan that moved its directory before it failed finds nothing to move when it is run again. -/
theorem finalize_again_loses_published :
    let services : Services (Files String × Rehearsal) := Rehearsal.services.keeping
    let refusing : Rehearsal :=
      { mishaps := [{ kind := .execute, part := "ADD", failure := .foreign .wrongValue,
                      remaining := some 1 }] }
    let first := (finalize hourPlan).run services (Finmap.singleton "/stg/p" "ORC", refusing)
    let turn := (publishUpTo hourPlan []).run services first.state
    let again := (publish hourPlan).run services first.state
    first.result.isOk = false ∧ turn.result.isOk ∧
      turn.state.1.lookup "/stg/p" = none ∧ turn.state.1.lookup "/final/p" = some "ORC" ∧
      again.result.isOk = false ∧ again.state.1.lookup "/final/p" = none := by
  decide +kernel

end OrcConversion
