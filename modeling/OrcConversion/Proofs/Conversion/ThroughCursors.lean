import OrcConversion.Conversion.Batch
import OrcConversion.Proofs.Conversion.FailurePhases
import OrcConversion.Proofs.Workflow.Cursors

/-! Conversions whose statements are executed through the cursors of a connection: they come to the
same plan or failure with the same calls, and no cursor stays open. -/

namespace OrcConversion

open Workflow

/-- A conversion does not show whether its statements are executed through cursors, and each
statement has a cursor of its own that is closed before anything else is done. -/
theorem conversion_through_cursors {κ σ τ : Type} {services : Services σ}
    {connection : Connection κ σ} {plain : Services τ} {view : σ → τ}
    (hservices : services.Simulates plain view) (hconnection : connection.Presents plain view)
    (targets : Targets) (format : OutputFormat) (schema : Option Arrow.Schema)
    (mark : Except Failure RunMark) (entity : Entity) (state : σ) :
    let conversion := convert targets format schema mark entity
    let outcome := conversion.run plain (view state)
    let through := conversion.run (services.over connection) state
    let written := conversion.run (services.journaled.over connection.journaled) (state, [])
    let events := written.state.2
    through.result = outcome.result ∧ through.records = outcome.records ∧
      view through.state = outcome.state ∧
      written.result = through.result ∧ written.state.1 = through.state ∧
      events.filterMap CursorEvent.exchange? = conversion.exchanges plain (view state) ∧
      InBlocks events ∧ ClosesCursors events := by
  intro conversion outcome through written events
  have hsimulates := hconnection.simulates hservices
  have houtcome : outcome = ⟨through.result, view through.state, through.records⟩ :=
    hsimulates.run_eq conversion state
  have hthrough : through = ⟨written.result, written.state.1, written.records⟩ :=
    (simulates_journaled services connection).run_eq conversion (state, [])
  obtain ⟨added, hadded, hblocks, hexchanges⟩ :=
    run_journaled services connection conversion state []
  have hevents : events = added := hadded
  rw [hevents, houtcome]
  refine ⟨rfl, rfl, rfl, ?_, ?_, ?_, hblocks, hblocks.closesCursors⟩
  · rw [hthrough]
  · rw [hthrough]
  · rw [hexchanges, hsimulates.exchanges_eq]

/-! ## Rehearsals -/

namespace Rehearsal

def isCalled : Event → Bool
  | .called _ => true
  | .cursorOpened => false
  | .cursorClosed => false

/-- What is seen of a rehearsal without its cursors. -/
def withoutCursors (rehearsal : Rehearsal) : Rehearsal :=
  { rehearsal with events := rehearsal.events.filter isCalled }

theorem answer_withoutCursors (call : Call) (rehearsal : Rehearsal) :
    answer call rehearsal.withoutCursors =
      ((answer call rehearsal).1, (answer call rehearsal).2.withoutCursors) := by
  have hmishaps : rehearsal.withoutCursors.mishaps = rehearsal.mishaps := rfl
  cases hfirst : Mishap.first? call rehearsal.mishaps with
  | some found =>
      rw [answer_of_mishap hfirst, answer_of_mishap (hmishaps ▸ hfirst)]
      rfl
  | none =>
      rw [answer, answer, hmishaps, hfirst]
      simp only [remember, withoutCursors, List.filter_append]
      cases call <;> rfl

theorem simulates_withoutCursors : services.Simulates services withoutCursors := by
  constructor
  · intro call rehearsal
    exact (congrArg Prod.fst (answer_withoutCursors call rehearsal)).symm
  · intro call rehearsal
    exact (congrArg Prod.snd (answer_withoutCursors call rehearsal)).symm

theorem presents_withoutCursors : connection.Presents services withoutCursors := by
  constructor
  · intro rehearsal
    simp [connection, remember, withoutCursors, isCalled]
  · intro _ rehearsal
    simp [connection, remember, withoutCursors, isCalled]
  · exact fun _ statement => simulates_withoutCursors.reply_eq (.execute statement)
  · exact fun _ statement => simulates_withoutCursors.state_eq (.execute statement)

end Rehearsal

open Sample in
/-- The second setting is refused, and its cursor is closed as well. -/
theorem conversion_through_cursors_settingRefused :
    let conversion := convert (fun _ => some warehouse) .nested (some numbers) (.ok ⟨0, 0⟩) visits
    let through := conversion.run (Rehearsal.services.over Rehearsal.connection) refusing
    let events := (conversion.run (Rehearsal.services.journaled.over Rehearsal.connection.journaled)
      (refusing, [])).state.2
    FailsWith through.result .execution ∧
      through.result = (conversion.run Rehearsal.services refusing).result ∧
      (events.filterMap CursorEvent.opened?).length = 2 ∧ ClosesCursors events := by
  intro conversion through events
  obtain ⟨hresult, -, -, -, -, -, -, hcloses⟩ := conversion_through_cursors
    Rehearsal.simulates_withoutCursors Rehearsal.presents_withoutCursors
    (fun _ => some warehouse) .nested (some numbers) (.ok ⟨0, 0⟩) visits refusing
  exact ⟨by decide +kernel, hresult, by decide +kernel, hcloses⟩

end OrcConversion
