import OrcConversion.Catalog.Document
import OrcConversion.Proofs.Result

/-! What the entries of a catalog document add, and what the catalog answers then. -/

namespace OrcConversion

open Text

/-! ## Additions -/

/-- A table with its partitions, as they are added to a catalog. -/
structure Addition where
  table : TableRecord CodeText
  partitions : List (PartitionRecord CodeText)

def Addition.IsUnder (db name : CodeText) (addition : Addition) : Prop :=
  (addition.table.db, addition.table.name) = (db, name)

/-- The last of some additions under a database and a name. -/
structure LastUnder (db name : CodeText) (additions : List Addition) (addition : Addition) :
    Prop where
  isUnder : addition.IsUnder db name
  last : ∃ before after, additions = before ++ addition :: after ∧
    ∀ other ∈ after, ¬ other.IsUnder db name

namespace CatalogStore

/-- What a catalog answers under a database and a name. -/
structure Holds (store : CatalogStore CodeText) (db name : CodeText)
    (table : Except Failure (TableRecord CodeText))
    (partitions : List (PartitionRecord CodeText)) : Prop where
  lookup_eq : store.lookup db name = table
  partitionsOf_eq : ∀ other : TableRecord CodeText, (other.db, other.name) = (db, name) →
    store.partitionsOf other = partitions

/-- Of some additions the last ones are found, and nothing where there was none. -/
structure Answers (store : CatalogStore CodeText) (additions : List Addition) : Prop where
  found : ∀ db name addition, LastUnder db name additions addition →
    store.Holds db name (.ok addition.table) addition.partitions
  missing : ∀ db name, (∀ addition ∈ additions, ¬ addition.IsUnder db name) →
    store.Holds db name (.error (.tableNotFound db name)) []

def addAll (store : CatalogStore CodeText) (additions : List Addition) :
    CatalogStore CodeText :=
  additions.foldl (fun store addition => store.add addition.table addition.partitions) store

variable {store : CatalogStore CodeText} {db name : CodeText} {additions : List Addition}
  {table : Except Failure (TableRecord CodeText)} {partitions : List (PartitionRecord CodeText)}

theorem holds_empty (db name : CodeText) :
    CatalogStore.empty.Holds db name (.error (.tableNotFound db name)) [] :=
  ⟨rfl, fun _ _ => rfl⟩

theorem holds_add (store : CatalogStore CodeText) {addition : Addition}
    (h : addition.IsUnder db name) :
    (store.add addition.table addition.partitions).Holds db name (.ok addition.table)
      addition.partitions := by
  cases h
  constructor
  · rw [lookup, table?_add_self]
  · intro other hother
    have hself := store.partitionsOf_add_self addition.table addition.partitions
    simp only [partitionsOf, hother] at hself ⊢
    exact hself

theorem Holds.add (h : store.Holds db name table partitions) {addition : Addition}
    (hother : ¬ addition.IsUnder db name) :
    (store.add addition.table addition.partitions).Holds db name table partitions := by
  constructor
  · rw [lookup, table?_add_of_ne store addition.table addition.partitions hother]
    exact h.lookup_eq
  · intro other hunder
    rw [partitionsOf_add_of_ne store addition.table other addition.partitions (hunder ▸ hother)]
    exact h.partitionsOf_eq other hunder

theorem Holds.addAll (h : store.Holds db name table partitions)
    (hothers : ∀ addition ∈ additions, ¬ addition.IsUnder db name) :
    (store.addAll additions).Holds db name table partitions := by
  induction additions generalizing store with
  | nil => exact h
  | cons addition rest ih =>
      rw [List.forall_mem_cons] at hothers
      exact ih (h.add hothers.1) hothers.2

theorem answers_addAll (additions : List Addition) :
    (CatalogStore.empty.addAll additions).Answers additions := by
  constructor
  · rintro db name addition ⟨hunder, before, after, rfl, hafter⟩
    rw [CatalogStore.addAll, List.foldl_append, List.foldl_cons]
    exact (holds_add _ hunder).addAll hafter
  · intro db name hothers
    exact (holds_empty db name).addAll hothers

end CatalogStore

namespace CatalogDocument

open Raw

/-! ## Members -/

/-- Two things, the first of which can be a key. -/
def IsPair (value : Json) : Prop :=
  ∃ key item, elements value = .ok [key, item] ∧ ∃ name, entryKey key = .ok name

/-- Things of another number than two. -/
def IsUneven (value : Json) : Prop :=
  ∃ items, elements value = .ok items ∧ items.length ≠ 2

/-- An entry that is no object, in which the first thing that is no pair has another number of
things than two. -/
def Misshapen (entry : Json) : Prop :=
  (∀ members, entry ≠ .object members) ∧
    ∃ before value after, elements entry = .ok (before ++ value :: after) ∧
      (∀ pair ∈ before, IsPair pair) ∧ IsUneven value

section

variable {members : List (CodeText × Json)} {entry value : Json}

theorem blames_elements (value : Json) :
    Except.Blames (· = .foreign .wrongType) (elements value) := by
  cases value with
  | string text => exact .ok _
  | array values => exact .ok _
  | object entries => exact .ok _
  | _ => exact .error rfl

theorem blames_entryKey (value : Json) :
    Except.Blames (· = .foreign .wrongType) (entryKey value) := by
  cases value with
  | array values => exact .error rfl
  | object entries => exact .error rfl
  | _ => exact .ok _

theorem entryPair_eq_ok {key item : Json} :
    entryPair value = .ok (key, item) ↔ elements value = .ok [key, item] := by
  rw [entryPair, Except.bind_eq_ok]
  constructor
  · rintro ⟨items, hitems, h⟩
    split at h
    · cases h
      exact hitems
    · cases h
  · exact fun h => ⟨_, h, rfl⟩

theorem entryPair_of_isUneven (h : IsUneven value) :
    entryPair value = .error (.foreign .wrongValue) := by
  obtain ⟨items, hitems, hlength⟩ := h
  rw [entryPair, hitems]
  match items with
  | [] => rfl
  | [_] => rfl
  | [_, _] => exact absurd rfl hlength
  | _ :: _ :: _ :: _ => rfl

theorem blames_entryPair (value : Json) :
    Except.Blames
      (fun failure => failure = .foreign .wrongType ∨
        failure = .foreign .wrongValue ∧ IsUneven value)
      (entryPair value) := by
  rw [entryPair]
  cases hitems : elements value with
  | error failure => exact .error (.inl (blames_elements value failure hitems))
  | ok items =>
      match items with
      | [] => exact .error (.inr ⟨rfl, [], hitems, by decide⟩)
      | [_] => exact .error (.inr ⟨rfl, _, hitems, by simp⟩)
      | [key, item] => exact .ok (key, item)
      | _ :: _ :: _ :: _ => exact .error (.inr ⟨rfl, _, hitems, by simp⟩)

theorem addPairs_cons_of_isPair (members : List (CodeText × Json)) {pair : Json}
    (h : IsPair pair) : ∃ found, ∀ rest, addPairs members (pair :: rest) = addPairs found rest := by
  obtain ⟨key, item, hitems, name, hkey⟩ := h
  have hpair := entryPair_eq_ok.mpr hitems
  cases name with
  | none =>
      refine ⟨members, fun rest => ?_⟩
      rw [addPairs, hpair]
      change (entryKey key >>= _) = _
      rw [hkey]
      rfl
  | some name =>
      refine ⟨Entries.insert name item members, fun rest => ?_⟩
      rw [addPairs, hpair]
      change (entryKey key >>= _) = _
      rw [hkey]
      rfl

theorem addPairs_append (members : List (CodeText × Json)) {before : List Json}
    (hpairs : ∀ pair ∈ before, IsPair pair) :
    ∃ found, ∀ rest, addPairs members (before ++ rest) = addPairs found rest := by
  induction before generalizing members with
  | nil => exact ⟨members, fun rest => rfl⟩
  | cons pair before ih =>
      rw [List.forall_mem_cons] at hpairs
      obtain ⟨middle, hmiddle⟩ := addPairs_cons_of_isPair members hpairs.1
      obtain ⟨found, hfound⟩ := ih middle hpairs.2
      refine ⟨found, fun rest => ?_⟩
      rw [List.cons_append, hmiddle, hfound]

theorem blames_addPairs (members : List (CodeText × Json)) (items : List Json) :
    Except.Blames
      (fun failure => failure = .foreign .wrongType ∨
        failure = .foreign .wrongValue ∧ ∃ before value after, items = before ++ value :: after ∧
          (∀ pair ∈ before, IsPair pair) ∧ IsUneven value)
      (addPairs members items) := by
  induction items generalizing members with
  | nil => exact .ok members
  | cons value rest ih =>
      cases hpair : entryPair value with
      | error failure =>
          rw [addPairs, hpair]
          rcases blames_entryPair value failure hpair with rfl | ⟨rfl, huneven⟩
          · exact .error (.inl rfl)
          · exact .error (.inr ⟨rfl, [], value, rest, rfl, by simp, huneven⟩)
      | ok pair =>
          obtain ⟨key, item⟩ := pair
          cases hkey : entryKey key with
          | error failure =>
              rw [addPairs, hpair]
              change Except.Blames _ (entryKey key >>= _)
              rw [hkey]
              exact .error (.inl (blames_entryKey key failure hkey))
          | ok name =>
              have hgood : IsPair value := ⟨key, item, entryPair_eq_ok.mp hpair, name, hkey⟩
              obtain ⟨found, hfound⟩ := addPairs_cons_of_isPair members hgood
              rw [hfound]
              refine (ih found).imp ?_
              rintro failure (rfl | ⟨rfl, before, uneven, after, rfl, hpairs, huneven⟩)
              · exact .inl rfl
              · exact .inr ⟨rfl, value :: before, uneven, after, rfl,
                  List.forall_mem_cons.mpr ⟨hgood, hpairs⟩, huneven⟩

theorem entryMembers_of_not_object (h : ∀ members, entry ≠ .object members) :
    entryMembers entry = elements entry >>= addPairs [] := by
  cases entry with
  | object members => exact absurd rfl (h members)
  | _ => rfl

theorem entryMembers_of_misshapen (h : Misshapen entry) :
    entryMembers entry = .error (.foreign .wrongValue) := by
  obtain ⟨hnot, before, value, after, helements, hpairs, huneven⟩ := h
  obtain ⟨found, hfound⟩ := addPairs_append [] hpairs
  rw [entryMembers_of_not_object hnot, helements]
  change addPairs [] _ = _
  rw [hfound, addPairs, entryPair_of_isUneven huneven]
  rfl

theorem blames_entryMembers (entry : Json) :
    Except.Blames
      (fun failure => failure = .foreign .wrongType ∨
        failure = .foreign .wrongValue ∧ Misshapen entry)
      (entryMembers entry) := by
  by_cases hobject : ∃ members, entry = .object members
  · obtain ⟨members, rfl⟩ := hobject
    exact .ok members
  · rw [entryMembers_of_not_object (not_exists.mp hobject)]
    cases hitems : elements entry with
    | error failure => exact .error (.inl (blames_elements entry failure hitems))
    | ok items =>
        refine (blames_addPairs [] items).imp ?_
        rintro failure (rfl | ⟨rfl, before, value, after, rfl, hpairs, huneven⟩)
        · exact .inl rfl
        · exact .inr ⟨rfl, not_exists.mp hobject, before, value, after, hitems, hpairs, huneven⟩

end

/-! ## Entries -/

def partitionsOfMembers (members : List (CodeText × Json)) : Json :=
  (member? partitionsName members).getD (.array [])

def tableOfMembers (members : List (CodeText × Json)) : Json :=
  .object (members.filter (·.1 != partitionsName))

/-- An entry reads as a table and its partitions, each of which passes the checks of its record. -/
structure Reads (entry : Json) (addition : Addition) : Prop where
  reads : ∃ members raw, entryMembers entry = .ok members ∧
    elements (partitionsOfMembers members) = .ok raw ∧
    List.Forall₂ (fun value partition => partitionRecord.read value = .ok partition) raw
      addition.partitions ∧
    tableRecord.read (tableOfMembers members) = .ok addition.table

section

variable {store result : CatalogStore CodeText} {entry : Json} {entries : List Json}

theorem addEntry_eq_ok :
    addEntry store entry = .ok result ↔
      ∃ addition, Reads entry addition ∧
        result = store.add addition.table addition.partitions := by
  constructor
  · intro h
    obtain ⟨members, hmembers, h⟩ := Except.bind_eq_ok.mp h
    obtain ⟨raw, hraw, h⟩ := Except.bind_eq_ok.mp h
    obtain ⟨partitions, hpartitions, h⟩ := Except.bind_eq_ok.mp h
    obtain ⟨table, htable, h⟩ := Except.bind_eq_ok.mp h
    exact ⟨⟨table, partitions⟩,
      ⟨members, raw, hmembers, hraw, Except.mapM_eq_ok.mp hpartitions, htable⟩,
      (Except.ok.inj h).symm⟩
  · rintro ⟨addition, ⟨members, raw, hmembers, hraw, hpartitions, htable⟩, rfl⟩
    refine Except.bind_eq_ok.mpr ⟨members, hmembers, ?_⟩
    refine Except.bind_eq_ok.mpr ⟨raw, hraw, ?_⟩
    refine Except.bind_eq_ok.mpr ⟨_, Except.mapM_eq_ok.mpr hpartitions, ?_⟩
    exact Except.bind_eq_ok.mpr ⟨_, htable, rfl⟩

theorem addEntry_of_misshapen (h : Misshapen entry) :
    addEntry store entry = .error (.foreign .wrongValue) := by
  rw [addEntry, entryMembers_of_misshapen h]
  rfl

theorem blames_read {α : Type} (reader : Reader α) (value : Json) :
    Except.Blames (fun failure => ∃ problems, failure = .invalidRecord problems)
      (reader.read value) :=
  Except.Blames.mapError (fun problems => ⟨problems, rfl⟩) _

theorem blames_addEntry (store : CatalogStore CodeText) (entry : Json) :
    Except.Blames (fun failure : Failure => failure = .foreign .wrongValue → Misshapen entry)
      (addEntry store entry) := by
  have hread : ∀ failure : Failure, (∃ problems, failure = .invalidRecord problems) →
      failure = .foreign .wrongValue → Misshapen entry := by
    rintro failure ⟨problems, rfl⟩ heq
    cases heq
  have htype : ∀ failure : Failure, failure = .foreign .wrongType →
      failure = .foreign .wrongValue → Misshapen entry := by
    rintro failure rfl heq
    cases heq
  refine ((blames_entryMembers entry).imp ?_).bind fun members => ?_
  · rintro failure (hfailure | ⟨-, hmisshapen⟩)
    · exact htype failure hfailure
    · exact fun _ => hmisshapen
  refine ((blames_elements _).imp htype).bind fun raw => ?_
  refine ((Except.Blames.mapM (blames_read _) raw).imp hread).bind fun partitions => ?_
  refine ((blames_read _ _).imp hread).bind fun table => ?_
  exact .ok _

theorem foldlM_addEntry_eq_ok :
    entries.foldlM addEntry store = .ok result ↔
      ∃ additions, List.Forall₂ Reads entries additions ∧ result = store.addAll additions := by
  induction entries generalizing store with
  | nil =>
      constructor
      · intro h
        exact ⟨[], .nil, (Except.ok.inj h).symm⟩
      · rintro ⟨additions, hreads, rfl⟩
        cases hreads
        rfl
  | cons entry rest ih =>
      rw [List.foldlM_cons, Except.bind_eq_ok]
      constructor
      · rintro ⟨middle, hfirst, hrest⟩
        obtain ⟨addition, hreads, rfl⟩ := addEntry_eq_ok.mp hfirst
        obtain ⟨additions, hothers, rfl⟩ := ih.mp hrest
        exact ⟨addition :: additions, .cons hreads hothers, rfl⟩
      · rintro ⟨additions, hreads, rfl⟩
        obtain ⟨addition, others, hfirst, hothers, rfl⟩ := List.forall₂_cons_left_iff.mp hreads
        exact ⟨_, addEntry_eq_ok.mpr ⟨addition, hfirst, rfl⟩, ih.mpr ⟨others, hothers, rfl⟩⟩

/-- The first entry that does not read as an addition is misshapen. -/
def StopsMisshapen (entries : List Json) : Prop :=
  ∃ before entry after, entries = before ++ entry :: after ∧
    (∀ earlier ∈ before, ∃ addition, Reads earlier addition) ∧ Misshapen entry

theorem foldlM_addEntry_eq_wrongValue :
    entries.foldlM addEntry store = .error (.foreign .wrongValue) ↔ StopsMisshapen entries := by
  rw [Except.foldlM_eq_error]
  constructor
  · rintro ⟨before, entry, after, middle, rfl, hbefore, hentry⟩
    obtain ⟨additions, hreads, -⟩ := foldlM_addEntry_eq_ok.mp hbefore
    exact ⟨before, entry, after, rfl, exists_forall₂_iff.mp ⟨additions, hreads⟩,
      blames_addEntry middle entry _ hentry rfl⟩
  · rintro ⟨before, entry, after, rfl, hreads, hmisshapen⟩
    obtain ⟨additions, hadditions⟩ := exists_forall₂_iff.mpr hreads
    exact ⟨before, entry, after, _, rfl, foldlM_addEntry_eq_ok.mpr ⟨additions, hadditions, rfl⟩,
      addEntry_of_misshapen hmisshapen⟩

end

end CatalogDocument

end OrcConversion
