import OrcConversion.Catalog.Settings
import OrcConversion.Proofs.Catalog.Entries
import OrcConversion.Proofs.Json.Values
import OrcConversion.Proofs.Workflow.Halting
import OrcConversion.Workflow.Rehearsal

/-! Which settings lead to a catalog, what that catalog answers, and how connecting fails otherwise.
-/

namespace OrcConversion

open Text

namespace CatalogDocument

/-- The document that a text holds, whatever ends its lines. -/
def documentOf (nesting : Json.Nesting) (text : String) : Except Json.ReadFault Json :=
  Json.read nesting (String.ofList (unifyLineEnds text.toList))

/-- The entries that a document lists as its tables. -/
inductive ListsEntries : Json → List Json → Prop where
  | tables {members : List (CodeText × Json)} {entries : List Json} :
      Raw.elements ((Raw.member? "tables" members).getD (.array [])) = .ok entries →
      ListsEntries (.object members) entries

section

variable {nesting : Json.Nesting} {path : CodeText} {text : String} {document : Json}
  {entries : List Json} {store : CatalogStore CodeText} {failure : Failure}

theorem toCatalog_of_listsEntries (h : ListsEntries document entries) :
    toCatalog document = entries.foldlM addEntry .empty := by
  obtain ⟨hentries⟩ := h
  change (Raw.elements _ >>= _) = _
  rw [hentries]
  rfl

theorem exists_listsEntries_or (document : Json) :
    (∃ entries, ListsEntries document entries) ∨
      ∃ failure, toCatalog document = .error failure ∧ failure ≠ .foreign .wrongValue := by
  cases document with
  | object members =>
      cases hentries : Raw.elements ((Raw.member? "tables" members).getD (.array [])) with
      | ok entries => exact .inl ⟨entries, .tables hentries⟩
      | error failure =>
          refine .inr ⟨.foreign .wrongType, ?_, by simp⟩
          change (Raw.elements _ >>= _) = _
          rw [hentries, blames_elements _ failure hentries]
          rfl
  | _ => exact .inr ⟨_, rfl, by simp⟩

theorem toCatalog_eq_ok :
    toCatalog document = .ok store ↔
      ∃ entries additions, ListsEntries document entries ∧
        List.Forall₂ Reads entries additions ∧ store = CatalogStore.empty.addAll additions := by
  constructor
  · intro h
    rcases exists_listsEntries_or document with ⟨entries, hentries⟩ | ⟨failure, hfailure, -⟩
    · rw [toCatalog_of_listsEntries hentries] at h
      obtain ⟨additions, hreads, rfl⟩ := foldlM_addEntry_eq_ok.mp h
      exact ⟨entries, additions, hentries, hreads, rfl⟩
    · cases hfailure.symm.trans h
  · rintro ⟨entries, additions, hentries, hreads, rfl⟩
    rw [toCatalog_of_listsEntries hentries]
    exact foldlM_addEntry_eq_ok.mpr ⟨additions, hreads, rfl⟩

theorem toCatalog_eq_wrongValue :
    toCatalog document = .error (.foreign .wrongValue) ↔
      ∃ entries, ListsEntries document entries ∧ StopsMisshapen entries := by
  constructor
  · intro h
    rcases exists_listsEntries_or document with ⟨entries, hentries⟩ | ⟨failure, hfailure, hne⟩
    · rw [toCatalog_of_listsEntries hentries] at h
      exact ⟨entries, hentries, foldlM_addEntry_eq_wrongValue.mp h⟩
    · exact absurd (Except.error.inj (hfailure.symm.trans h)) hne
  · rintro ⟨entries, hentries, hstops⟩
    rw [toCatalog_of_listsEntries hentries]
    exact foldlM_addEntry_eq_wrongValue.mpr hstops

theorem wrapFailure_of_ne (h : failure ≠ .foreign .wrongValue) :
    (wrapFailure path failure).IsKind .catalog := by
  unfold wrapFailure
  split
  · exact absurd rfl h
  · rfl

theorem ofText_of_ok (h : documentOf nesting text = .ok document) :
    ofText nesting path text = (toCatalog document).mapError (wrapFailure path) := by
  rw [ofText, ← documentOf, h]

theorem ofText_of_integerTooLong (h : documentOf nesting text = .error .integerTooLong) :
    ofText nesting path text = .error (.foreign .wrongValue) := by
  rw [ofText, ← documentOf, h]

theorem ofText_of_nestedTooDeep (h : documentOf nesting text = .error .nestedTooDeep) :
    ofText nesting path text = .error (.foreign .tooDeep) := by
  rw [ofText, ← documentOf, h]

end

end CatalogDocument

namespace CatalogSettings

open CatalogDocument

/-- The text of the file at the path that a setting holds. -/
inductive FindsText (contents : CodeText → Except DiskFault ByteArray) : Json → String → Prop where
  | file {setting : CodeText} {text : String} {bytes : ByteArray} :
      (plainPath setting).points.all isEncodable = true →
      (plainPath setting).points.contains (.char '\x00') = false →
      contents (plainPath setting) = .ok bytes →
      String.fromUTF8? bytes = some text →
      FindsText contents (.string setting) text

/-- What the entries of the document add that a setting leads to. -/
inductive Lists (nesting : Json.Nesting) (contents : CodeText → Except DiskFault ByteArray) :
    Json → List Addition → Prop where
  | document {setting document : Json} {text : String} {entries : List Json}
      {additions : List Addition} :
      FindsText contents setting text →
      documentOf nesting text = .ok document →
      ListsEntries document entries →
      List.Forall₂ Reads entries additions →
      Lists nesting contents setting additions

/-- Faults that are not reported as faults of the catalog. -/
inductive Escapes (nesting : Json.Nesting) (contents : CodeText → Except DiskFault ByteArray) :
    Json → ForeignFault → Prop where
  | notText {setting : Json} : (∀ text, setting ≠ .string text) →
      Escapes nesting contents setting .wrongType
  | unencodable {setting : CodeText} : (plainPath setting).points.all isEncodable = false →
      Escapes nesting contents (.string setting) .unencodable
  | nullCharacter {setting : CodeText} :
      (plainPath setting).points.all isEncodable = true →
      (plainPath setting).points.contains (.char '\x00') = true →
      Escapes nesting contents (.string setting) .wrongValue
  | undecodable {setting : CodeText} {bytes : ByteArray} :
      (plainPath setting).points.all isEncodable = true →
      (plainPath setting).points.contains (.char '\x00') = false →
      contents (plainPath setting) = .ok bytes →
      String.fromUTF8? bytes = none →
      Escapes nesting contents (.string setting) .undecodable
  | integerTooLong {setting : Json} {text : String} :
      FindsText contents setting text →
      documentOf nesting text = .error .integerTooLong →
      Escapes nesting contents setting .wrongValue
  | nestedTooDeep {setting : Json} {text : String} :
      FindsText contents setting text →
      documentOf nesting text = .error .nestedTooDeep →
      Escapes nesting contents setting .tooDeep
  | misshapen {setting document : Json} {text : String} {entries : List Json} :
      FindsText contents setting text →
      documentOf nesting text = .ok document →
      ListsEntries document entries →
      StopsMisshapen entries →
      Escapes nesting contents setting .wrongValue

theorem FindsText.exists_eq_string {contents : CodeText → Except DiskFault ByteArray}
    {setting : Json} {text : String} (h : FindsText contents setting text) :
    ∃ path, setting = .string path := by
  cases h with
  | file => exact ⟨_, rfl⟩

theorem Lists.exists_eq_string {nesting : Json.Nesting}
    {contents : CodeText → Except DiskFault ByteArray} {setting : Json}
    {additions : List Addition} (h : Lists nesting contents setting additions) :
    ∃ path, setting = .string path := by
  cases h with
  | document htext => exact htext.exists_eq_string

theorem Escapes.exists_eq_string_or {nesting : Json.Nesting}
    {contents : CodeText → Except DiskFault ByteArray}
    {setting : Json} {fault : ForeignFault} (h : Escapes nesting contents setting fault) :
    (∃ path, setting = .string path) ∨ fault = .wrongType := by
  cases h with
  | notText => exact .inr rfl
  | unencodable => exact .inl ⟨_, rfl⟩
  | nullCharacter => exact .inl ⟨_, rfl⟩
  | undecodable => exact .inl ⟨_, rfl⟩
  | integerTooLong htext => exact .inl htext.exists_eq_string
  | nestedTooDeep htext => exact .inl htext.exists_eq_string
  | misshapen htext => exact .inl htext.exists_eq_string

/-- The ways in which connecting with a setting ends. -/
inductive Connects (nesting : Json.Nesting) (contents : CodeText → Except DiskFault ByteArray)
    (setting : Json) :
    Except Failure (CatalogStore CodeText) → Prop where
  | catalog {additions : List Addition} : Lists nesting contents setting additions →
      Connects nesting contents setting (.ok (CatalogStore.empty.addAll additions))
  | escaped {fault : ForeignFault} : Escapes nesting contents setting fault →
      Connects nesting contents setting (.error (.foreign fault))
  | refused {failure : Failure} : failure.IsKind .catalog →
      Connects nesting contents setting (.error failure)

section

variable {nesting : Json.Nesting} {contents : CodeText → Except DiskFault ByteArray}
  {setting : CodeText} {text : String} {additions : List Addition} {fault : ForeignFault}

theorem readCatalog_of_bytes (hbytes : (plainPath setting).points.all isEncodable = true)
    (hnull : (plainPath setting).points.contains (.char '\x00') = false) :
    readCatalog nesting contents (plainPath setting) =
      ofFile nesting (plainPath setting) (contents (plainPath setting)) := by
  simp only [readCatalog, hbytes, hnull, Bool.not_true, Bool.false_eq_true, if_false]

theorem readCatalog_of_findsText (h : FindsText contents (.string setting) text) :
    readCatalog nesting contents (plainPath setting) = ofText nesting (plainPath setting) text := by
  obtain ⟨hbytes, hnull, hcontents, hdecoded⟩ := h
  rw [readCatalog_of_bytes hbytes hnull, hcontents, ofFile, hdecoded]

theorem readCatalog_of_lists (h : Lists nesting contents (.string setting) additions) :
    readCatalog nesting contents (plainPath setting) =
      .ok (CatalogStore.empty.addAll additions) := by
  obtain ⟨htext, hdocument, hentries, hreads⟩ := h
  have hcatalog := toCatalog_eq_ok.mpr ⟨_, _, hentries, hreads, rfl⟩
  rw [readCatalog_of_findsText htext, ofText_of_ok hdocument, hcatalog]
  rfl

theorem readCatalog_of_escapes (h : Escapes nesting contents (.string setting) fault) :
    readCatalog nesting contents (plainPath setting) = .error (.foreign fault) := by
  cases h with
  | notText hnot => exact absurd rfl (hnot setting)
  | unencodable hbytes => simp only [readCatalog, hbytes, Bool.not_false, if_true]
  | nullCharacter hbytes hnull =>
      simp only [readCatalog, hbytes, hnull, Bool.not_true, Bool.false_eq_true, if_false, if_true]
  | undecodable hbytes hnull hcontents hdecoded =>
      rw [readCatalog_of_bytes hbytes hnull, hcontents, ofFile, hdecoded]
  | integerTooLong htext hdocument =>
      rw [readCatalog_of_findsText htext, ofText_of_integerTooLong hdocument]
  | nestedTooDeep htext hdocument =>
      rw [readCatalog_of_findsText htext, ofText_of_nestedTooDeep hdocument]
  | misshapen htext hdocument hentries hstops =>
      have hcatalog := toCatalog_eq_wrongValue.mpr ⟨_, hentries, hstops⟩
      rw [readCatalog_of_findsText htext, ofText_of_ok hdocument, hcatalog]
      rfl

theorem connects_ofText (htext : FindsText contents (.string setting) text) :
    Connects nesting contents (.string setting) (ofText nesting (plainPath setting) text) := by
  cases hdocument : documentOf nesting text with
  | error fault =>
      cases fault with
      | malformed found offset line column =>
          rw [ofText, ← documentOf, hdocument]
          exact .refused rfl
      | integerTooLong =>
          rw [ofText_of_integerTooLong hdocument]
          exact .escaped (.integerTooLong htext hdocument)
      | nestedTooDeep =>
          rw [ofText_of_nestedTooDeep hdocument]
          exact .escaped (.nestedTooDeep htext hdocument)
  | ok document =>
      rw [ofText_of_ok hdocument]
      cases hcatalog : toCatalog document with
      | ok store =>
          obtain ⟨entries, additions, hentries, hreads, rfl⟩ := toCatalog_eq_ok.mp hcatalog
          exact .catalog ⟨htext, hdocument, hentries, hreads⟩
      | error failure =>
          by_cases hvalue : failure = .foreign .wrongValue
          · subst hvalue
            obtain ⟨entries, hentries, hstops⟩ := toCatalog_eq_wrongValue.mp hcatalog
            exact .escaped (.misshapen htext hdocument hentries hstops)
          · exact .refused (wrapFailure_of_ne hvalue)

theorem connects_readCatalog (nesting : Json.Nesting)
    (contents : CodeText → Except DiskFault ByteArray) (setting : CodeText) :
    Connects nesting contents (.string setting)
      (readCatalog nesting contents (plainPath setting)) := by
  have hescaped {fault : ForeignFault} (h : Escapes nesting contents (.string setting) fault) :
      Connects nesting contents (.string setting)
        (readCatalog nesting contents (plainPath setting)) := by
    rw [readCatalog_of_escapes h]
    exact .escaped h
  cases hbytes : (plainPath setting).points.all isEncodable with
  | false => exact hescaped (.unencodable hbytes)
  | true =>
      cases hnull : (plainPath setting).points.contains (.char '\x00') with
      | true => exact hescaped (.nullCharacter hbytes hnull)
      | false =>
          cases hcontents : contents (plainPath setting) with
          | error fault =>
              rw [readCatalog_of_bytes hbytes hnull, hcontents]
              exact .refused rfl
          | ok bytes =>
              cases hdecoded : String.fromUTF8? bytes with
              | none => exact hescaped (.undecodable hbytes hnull hcontents hdecoded)
              | some text =>
                  have htext : FindsText contents (.string setting) text :=
                    .file hbytes hnull hcontents hdecoded
                  rw [readCatalog_of_findsText htext]
                  exact connects_ofText htext

end

section

variable {nesting : Json.Nesting} {σ : Type} {services : Services σ} {state : σ}
  {settings : OrderedMap Json} {contents : CodeText → Except DiskFault ByteArray} {setting : Json}

theorem connect_result_of_text {path : CodeText}
    (hsetting : (settings.lookup? pathKey).filter holdsValue = some (.string path)) :
    ((connect nesting settings contents).run services state).result =
      readCatalog nesting contents (plainPath path) := by
  rw [connect, hsetting]
  dsimp only
  cases readCatalog nesting contents (plainPath path) with
  | ok store => rfl
  | error failure => rfl

theorem connect_result_of_not_text
    (hsetting : (settings.lookup? pathKey).filter holdsValue = some setting)
    (hnot : ∀ text, setting ≠ .string text) :
    ((connect nesting settings contents).run services state).result =
      .error (.foreign .wrongType) := by
  rw [connect, hsetting]
  cases setting with
  | string text => exact absurd rfl (hnot text)
  | _ => rfl

theorem connect_of_lists {additions : List Addition}
    (hsetting : (settings.lookup? pathKey).filter holdsValue = some setting)
    (hlists : Lists nesting contents setting additions) :
    ((connect nesting settings contents).run services state).result =
      .ok (CatalogStore.empty.addAll additions) := by
  obtain ⟨path, rfl⟩ := hlists.exists_eq_string
  rw [connect_result_of_text hsetting, readCatalog_of_lists hlists]

theorem connect_of_escapes {fault : ForeignFault}
    (hsetting : (settings.lookup? pathKey).filter holdsValue = some setting)
    (hescapes : Escapes nesting contents setting fault) :
    ((connect nesting settings contents).run services state).result = .error (.foreign fault) := by
  by_cases htext : ∃ path, setting = .string path
  · obtain ⟨path, rfl⟩ := htext
    rw [connect_result_of_text hsetting, readCatalog_of_escapes hescapes]
  · obtain rfl := hescapes.exists_eq_string_or.resolve_left htext
    exact connect_result_of_not_text hsetting (not_exists.mp htext)

theorem connects_connect
    (hsetting : (settings.lookup? pathKey).filter holdsValue = some setting) :
    Connects nesting contents setting
      ((connect nesting settings contents).run services state).result := by
  by_cases htext : ∃ path, setting = .string path
  · obtain ⟨path, rfl⟩ := htext
    rw [connect_result_of_text hsetting]
    exact connects_readCatalog nesting contents path
  · rw [connect_result_of_not_text hsetting (not_exists.mp htext)]
    exact .escaped (.notText (not_exists.mp htext))

/-- With a setting for the path, connecting leads to a catalog just when every entry of the document
there is read as an addition, and the catalog answers the last of them. Otherwise connecting fails
as a fault of the catalog, or, just for the faults that escape, with the fault itself. -/
theorem connect_answers_last
    (hsetting : (settings.lookup? pathKey).filter holdsValue = some setting) :
    let result := ((connect nesting settings contents).run services state).result
    (∀ store, result = .ok store →
      ∃ additions, Lists nesting contents setting additions ∧ store.Answers additions) ∧
    (∀ additions, Lists nesting contents setting additions →
      ∃ store, result = .ok store ∧ store.Answers additions) ∧
    (∀ failure, result = .error failure → failure.IsKind .catalog ∨
      ∃ fault, Escapes nesting contents setting fault ∧ failure = .foreign fault) ∧
    (∀ fault, Escapes nesting contents setting fault → result = .error (.foreign fault)) := by
  intro result
  have hconnects : Connects nesting contents setting result := connects_connect hsetting
  refine ⟨?_, ?_, ?_, ?_⟩
  · intro store hstore
    rw [hstore] at hconnects
    cases hconnects with
    | catalog hlists => exact ⟨_, hlists, CatalogStore.answers_addAll _⟩
  · intro additions hlists
    exact ⟨_, connect_of_lists hsetting hlists, CatalogStore.answers_addAll additions⟩
  · intro failure hfailure
    rw [hfailure] at hconnects
    cases hconnects with
    | escaped hescapes => exact .inr ⟨_, hescapes, rfl⟩
    | refused hkind => exact .inl hkind
  · exact fun fault hescapes => connect_of_escapes hsetting hescapes

end

/-! ## Sample documents -/

namespace Sample

def settings : OrderedMap Json := .ofList [(pathKey, .string "catalog")]

/-- Every file holds the same bytes. -/
def everywhere (bytes : ByteArray) : CodeText → Except DiskFault ByteArray :=
  fun _ => .ok bytes

def connected (bytes : ByteArray) : Except Failure (CatalogStore CodeText) :=
  ((connect Json.Sample.nesting settings (everywhere bytes)).run Rehearsal.services {}).result

/-- A table twice, first with a partition and then without one. -/
def twiceEntries : List Json :=
  [.object [("db", .string "d"), ("name", .string "t"),
      ("partitions", .array [.object [("values", .strings ["1"])]])],
    .object [("db", .string "d"), ("name", .string "t")]]

def twice : Json := .object [("tables", .array twiceEntries)]

def twiceAdditions : List Addition :=
  [⟨{ db := "d", name := "t" }, [{ values := ["1"] }]⟩, ⟨{ db := "d", name := "t" }, []⟩]

/-- A text in the place of the list of tables. -/
def mistaken : Json := .stringMembers [("tables", "ab")]

theorem lookup_settings :
    (settings.lookup? pathKey).filter holdsValue = some (.string "catalog") :=
  rfl

theorem findsText (text : String) :
    FindsText (everywhere text.toUTF8) (.string "catalog") text := by
  exact .file (by decide) (by decide) rfl (fromUTF8?_toUTF8 text)

theorem documentOf_render {document : Json} (hplain : Json.Plain Json.Sample.nesting.limit document)
    (hlines : unifyLineEnds document.render.toList = document.render.toList) :
    documentOf Json.Sample.nesting document.render = .ok document := by
  rw [documentOf, hlines, String.ofList_toList]
  exact Json.read_render_plain hplain

theorem documentOf_twice : documentOf Json.Sample.nesting twice.render = .ok twice := by
  refine documentOf_render (.object (by decide) ?_ ?_) (by decide +kernel)
  · simp [Json.HasChars]
  simp only [List.forall_mem_singleton]
  refine .array ?_
  simp only [twiceEntries, List.forall_mem_cons]
  refine ⟨.object (by decide) ?_ ?_, .object (by decide) ?_ ?_, by simp⟩
  · simp [Json.HasChars]
  · simp only [List.forall_mem_cons]
    refine ⟨.string ⟨_, rfl⟩, .string ⟨_, rfl⟩, .array ?_, by simp⟩
    simp only [List.forall_mem_singleton]
    refine .object (by decide) (by simp [Json.HasChars]) ?_
    simp only [List.forall_mem_singleton]
    refine .array ?_
    simp only [List.map_cons, List.map_nil, List.forall_mem_singleton]
    exact .string ⟨_, rfl⟩
  · simp [Json.HasChars]
  · simp only [List.forall_mem_cons]
    exact ⟨.string ⟨_, rfl⟩, .string ⟨_, rfl⟩, by simp⟩

theorem documentOf_mistaken : documentOf Json.Sample.nesting mistaken.render = .ok mistaken := by
  refine documentOf_render (.object (by decide) ?_ ?_) (by decide +kernel)
  · simp [Json.HasChars]
  · simp only [List.map_cons, List.map_nil, List.forall_mem_singleton]
    exact .string ⟨_, rfl⟩

theorem lists_twice :
    Lists Json.Sample.nesting (everywhere twice.render.toUTF8) (.string "catalog")
      twiceAdditions := by
  refine .document (findsText _) documentOf_twice (.tables rfl) ?_
  exact .cons ⟨_, _, rfl, rfl, .cons rfl .nil, rfl⟩ (.cons ⟨_, _, rfl, rfl, .nil, rfl⟩ .nil)

end Sample

open Sample in
theorem connect_answers_last_twice :
    ∃ store, connected twice.render.toUTF8 = .ok store ∧
      store.Holds "d" "t" (.ok { db := "d", name := "t" }) [] := by
  obtain ⟨-, hcatalog, -⟩ := connect_answers_last lookup_settings
  obtain ⟨store, hstore, hanswers⟩ := hcatalog twiceAdditions lists_twice
  have hlast : LastUnder "d" "t" twiceAdditions ⟨{ db := "d", name := "t" }, []⟩ :=
    ⟨rfl, [_], [], rfl, by simp⟩
  exact ⟨store, hstore, hanswers.found _ _ _ hlast⟩

open Sample in
/-- Neither bytes that are no text nor a document with a text for its tables are reported as faults
of the catalog. -/
theorem connect_passes_faults_on :
    connected (ByteArray.mk #[0xff]) = .error (.foreign .undecodable) ∧
      connected mistaken.render.toUTF8 = .error (.foreign .wrongValue) ∧
      ¬ (Failure.foreign .undecodable).IsKind .catalog ∧
      ¬ (Failure.foreign .wrongValue).IsKind .catalog := by
  have hdecoded : String.fromUTF8? (ByteArray.mk #[0xff]) = none := by decide
  have huneven : IsUneven (.string "a") := ⟨_, rfl, by decide⟩
  have hmisshapen : Misshapen (.string "a") := ⟨by simp, [], .string "a", [], rfl, by simp, huneven⟩
  have hstops : StopsMisshapen [.string "a", .string "b"] :=
    ⟨[], .string "a", [.string "b"], rfl, by simp, hmisshapen⟩
  refine ⟨?_, ?_, by simp [Failure.IsKind, Failure.kind?], by simp [Failure.IsKind, Failure.kind?]⟩
  · exact connect_of_escapes lookup_settings (.undecodable (by decide) (by decide) rfl hdecoded)
  · exact connect_of_escapes lookup_settings
      (.misshapen (findsText _) documentOf_mistaken (.tables rfl) hstops)

end CatalogSettings

end OrcConversion
