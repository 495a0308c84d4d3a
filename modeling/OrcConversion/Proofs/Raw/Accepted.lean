import OrcConversion.Proofs.Json.Members
import OrcConversion.Raw.Records

/-! Which raw values are read as texts, as lists and maps of texts, and as publish plans. -/

namespace OrcConversion

open Text

namespace Raw

/-! ## Checks that find nothing -/

namespace Checked

variable {α β : Type} {value : α} {result : β}

theorem under_eq_valid {checked : Checked α} {step : Step} :
    checked.under step = .valid value ↔ checked = .valid value := by
  cases checked with
  | valid found => rfl
  | broken problems => simp [under]

theorem map_eq_valid {checked : Checked α} {f : α → β} :
    checked.map f = .valid result ↔ ∃ value, checked = .valid value ∧ f value = result := by
  cases checked with
  | valid found => simp [map]
  | broken problems => simp [map]

theorem seq_eq_valid {first : Checked (α → β)} {second : Checked α} :
    first.seq second = .valid result ↔
      ∃ f value, first = .valid f ∧ second = .valid value ∧ f value = result := by
  cases first with
  | valid f => simp [seq, map_eq_valid]
  | broken problems => cases second <;> simp [seq]

theorem toExcept_eq_ok {checked : Checked α} :
    checked.toExcept = .ok value ↔ checked = .valid value := by
  cases checked with
  | valid found => simp [toExcept]
  | broken problems => simp [toExcept]

end Checked

/-! ## Texts, lists and maps -/

section

variable {α : Type} {reader : Reader α}

theorem items_eq_valid {index : Nat} {values : List Json} {results : List α} :
    items reader index values = .valid results ↔
      List.Forall₂ (fun value result => reader value = .valid result) values results := by
  induction values generalizing index results with
  | nil =>
      rw [List.forall₂_nil_left_iff]
      simp [items, eq_comm]
  | cons value rest ih =>
      rw [List.forall₂_cons_left_iff]
      change Checked.seq (Checked.map List.cons ((reader value).under _)) _ = _ ↔ _
      rw [Checked.seq_eq_valid]
      constructor
      · rintro ⟨f, others, hfirst, hrest, rfl⟩
        obtain ⟨first, hread, rfl⟩ := Checked.map_eq_valid.mp hfirst
        exact ⟨first, others, Checked.under_eq_valid.mp hread, ih.mp hrest, rfl⟩
      · rintro ⟨first, others, hread, hrest, rfl⟩
        exact ⟨_, others, Checked.map_eq_valid.mpr ⟨first, Checked.under_eq_valid.mpr hread, rfl⟩,
          ih.mpr hrest, rfl⟩

theorem members_eq_valid {entries : List (CodeText × Json)} {results : List (CodeText × α)} :
    members reader entries = .valid results ↔
      List.Forall₂ (fun entry result => entry.1 = result.1 ∧ reader entry.2 = .valid result.2)
        entries results := by
  induction entries generalizing results with
  | nil =>
      rw [List.forall₂_nil_left_iff]
      simp [members, eq_comm]
  | cons entry rest ih =>
      rw [List.forall₂_cons_left_iff]
      change Checked.seq (Checked.map List.cons (((reader entry.2).under _).map _)) _ = _ ↔ _
      rw [Checked.seq_eq_valid]
      constructor
      · rintro ⟨f, others, hfirst, hrest, rfl⟩
        obtain ⟨named, hnamed, rfl⟩ := Checked.map_eq_valid.mp hfirst
        obtain ⟨first, hread, rfl⟩ := Checked.map_eq_valid.mp hnamed
        exact ⟨_, others, ⟨rfl, Checked.under_eq_valid.mp hread⟩, ih.mp hrest, rfl⟩
      · rintro ⟨⟨name, first⟩, others, ⟨rfl, hread⟩, hrest, rfl⟩
        refine ⟨_, others, Checked.map_eq_valid.mpr ⟨_, ?_, rfl⟩, ih.mpr hrest, rfl⟩
        exact Checked.map_eq_valid.mpr ⟨first, Checked.under_eq_valid.mpr hread, rfl⟩

theorem keys_eq_of_members {entries : List (CodeText × Json)} {results : List (CodeText × α)}
    (h : members reader entries = .valid results) :
    Entries.keys results = Entries.keys entries := by
  have hrelated := members_eq_valid.mp h
  clear h
  induction hrelated with
  | nil => rfl
  | cons hentry _ ih => rw [Entries.keys_cons, Entries.keys_cons, hentry.1, ih]

theorem mapOf_eq_valid {entries : List (CodeText × Json)} {map : OrderedMap α CodeText}
    (hnames : (Entries.keys entries).Nodup) :
    mapOf reader (.object entries) = .valid map ↔
      members reader entries = .valid map.entries := by
  rw [mapOf, Checked.map_eq_valid]
  constructor
  · rintro ⟨results, hresults, rfl⟩
    rw [OrderedMap.entries_ofList (keys_eq_of_members hresults ▸ hnames)]
    exact hresults
  · exact fun h => ⟨_, h, map.ofList_entries⟩

end

end Raw

namespace Json

/-- Arrays of texts. -/
def AreTexts (value : Json) (texts : List CodeText) : Prop := value = strings texts

/-- Objects whose members are texts. -/
def IsTextMap (value : Json) (map : OrderedMap CodeText CodeText) : Prop :=
  value = stringMembers map.entries

end Json

namespace Raw

open Json

theorem string_eq_valid {value : Json} {text : CodeText} :
    string value = .valid text ↔ value = .string text := by
  constructor
  · intro h
    cases value with
    | string found =>
        cases h
        rfl
    | _ => cases h
  · rintro rfl
    rfl

theorem texts_eq_valid {value : Json} {found : List CodeText} :
    texts value = .valid found ↔ AreTexts value found := by
  have hitems (values : List Json) :
      texts (.array values) = .valid found ↔ values = found.map .string := by
    rw [← List.forall₂_eq_eq_eq, List.forall₂_map_right_iff]
    exact items_eq_valid.trans (by simp only [string_eq_valid])
  constructor
  · intro h
    cases value with
    | array values => exact congrArg Json.array ((hitems values).mp h)
    | _ => cases h
  · rintro rfl
    exact (hitems _).mpr rfl

theorem properties_eq_valid {value : Json} {map : OrderedMap CodeText CodeText}
    (hnames : value.NamesOnce) : properties value = .valid map ↔ IsTextMap value map := by
  have hmembers (entries : List (CodeText × Json)) :
      members string entries = .valid map.entries ↔
        entries = map.entries.map fun entry => (entry.1, .string entry.2) := by
    rw [← List.forall₂_eq_eq_eq, List.forall₂_map_right_iff, members_eq_valid]
    simp only [string_eq_valid, Prod.ext_iff]
  constructor
  · intro h
    cases value with
    | object entries =>
        exact congrArg Json.object ((hmembers entries).mp ((mapOf_eq_valid hnames).mp h))
    | _ => cases h
  · rintro rfl
    exact (mapOf_eq_valid hnames).mpr ((hmembers _).mpr rfl)

/-! ## Publish plans -/

theorem withDefault_eq_valid {α : Type} {name : CodeText} {reader : Reader α}
    {entries : List (CodeText × Json)} {value : Json} {absent result : α}
    (hlookup : member? name entries = some value) :
    withDefault name reader absent entries = .valid result ↔ reader value = .valid result := by
  rw [withDefault, hlookup]
  exact Checked.under_eq_valid

theorem publishPlan_eq_valid {entries : List (CodeText × Json)} {plan : PublishPlan CodeText}
    {moveAfter : Int} :
    publishPlan (.object entries) = .valid (plan, moveAfter) ↔
      withDefault "publish_statements" texts [] entries = .valid plan.publishStatements ∧
      withDefault "publish_directories" properties .empty entries =
        .valid plan.publishDirectories ∧
      withDefault "cleanup_statements" texts [] entries = .valid plan.cleanupStatements ∧
      withDefault "cleanup_directories" texts [] entries = .valid plan.cleanupDirectories ∧
      withDefault "move_after" integer 0 entries = .valid moveAfter ∧ plan.moveAfter = 0 := by
  change Checked.seq (Checked.seq (Checked.seq (Checked.seq (Checked.map _ _) _) _) _) _ = _ ↔ _
  simp only [Checked.seq_eq_valid, Checked.map_eq_valid]
  constructor
  · rintro ⟨_, move, ⟨_, deleted, ⟨_, cleanup, ⟨_, directories, ⟨statements, hstatements, rfl⟩,
      hdirectories, rfl⟩, hcleanup, rfl⟩, hdeleted, rfl⟩, hmove, hplan⟩
    cases hplan
    exact ⟨hstatements, hdirectories, hcleanup, hdeleted, hmove, rfl⟩
  · rintro ⟨hstatements, hdirectories, hcleanup, hdeleted, hmove, hstart⟩
    refine ⟨_, moveAfter, ⟨_, _, ⟨_, _, ⟨_, _, ⟨_, hstatements, rfl⟩, hdirectories, rfl⟩,
      hcleanup, rfl⟩, hdeleted, rfl⟩, hmove, ?_⟩
    cases plan
    cases hstart
    rfl

end Raw

/-- A plan is moved to a point within its statements, and is the same plan otherwise. -/
theorem PublishPlan.moveAt_eq_ok {τ : Type} {plan moved : PublishPlan τ} {moveAfter : Int} :
    plan.moveAt moveAfter = .ok moved ↔
      moved.publishStatements = plan.publishStatements ∧
      moved.publishDirectories = plan.publishDirectories ∧
      moved.cleanupStatements = plan.cleanupStatements ∧
      moved.cleanupDirectories = plan.cleanupDirectories ∧
      moved.moveAfter = moveAfter := by
  constructor
  · intro h
    unfold moveAt at h
    split at h
    · rename_i hrange
      cases h
      exact ⟨rfl, rfl, rfl, rfl, Int.toNat_of_nonneg hrange.1⟩
    · cases h
  · rintro ⟨hstatements, hdirectories, hcleanup, hdeleted, rfl⟩
    have hle := moved.moveAfter_le
    rw [hstatements] at hle
    rw [moveAt, dif_pos (by omega)]
    cases moved
    cases plan
    cases hstatements
    cases hdirectories
    cases hcleanup
    cases hdeleted
    rfl

namespace Raw

open Json

theorem readPublishPlan_eq_ok {entries : List (CodeText × Json)} {plan : PublishPlan CodeText} :
    readPublishPlan (.object entries) = .ok plan ↔
      withDefault "publish_statements" texts [] entries = .valid plan.publishStatements ∧
      withDefault "publish_directories" properties .empty entries =
        .valid plan.publishDirectories ∧
      withDefault "cleanup_statements" texts [] entries = .valid plan.cleanupStatements ∧
      withDefault "cleanup_directories" texts [] entries = .valid plan.cleanupDirectories ∧
      withDefault "move_after" integer 0 entries = .valid plan.moveAfter := by
  rw [readPublishPlan, Except.bind_eq_ok]
  simp only [Reader.read, Except.mapError_eq_ok, Checked.toExcept_eq_ok, Prod.exists,
    publishPlan_eq_valid, PublishPlan.moveAt_eq_ok]
  constructor
  · rintro ⟨found, move, ⟨hstatements, hdirectories, hcleanup, hdeleted, hmove, -⟩, heqs⟩
    obtain ⟨hsame, hplaces, hends, hgone, rfl⟩ := heqs
    rw [hsame, hplaces, hends, hgone]
    exact ⟨hstatements, hdirectories, hcleanup, hdeleted, hmove⟩
  · rintro ⟨hstatements, hdirectories, hcleanup, hdeleted, hmove⟩
    exact ⟨{ plan with moveAfter := 0, moveAfter_le := Nat.zero_le _ }, plan.moveAfter,
      ⟨hstatements, hdirectories, hcleanup, hdeleted, hmove, rfl⟩, rfl, rfl, rfl, rfl, rfl⟩

theorem blames_readPublishPlan (value : Json) :
    Except.Blames
      (fun failure => (∃ problems, failure = .invalidRecord problems) ∨
        ∃ fault, failure = .misconfigured fault)
      (readPublishPlan value) := by
  apply Except.Blames.bind
  · exact .mapError (fun problems => .inl ⟨problems, rfl⟩) _
  · rintro ⟨plan, moveAfter⟩
    change Except.Blames _ (plan.moveAt moveAfter)
    unfold PublishPlan.moveAt
    split
    · exact .ok _
    · exact .error (.inr ⟨_, rfl⟩)

end Raw

end OrcConversion
