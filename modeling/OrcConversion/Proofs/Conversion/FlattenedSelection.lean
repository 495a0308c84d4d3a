import Mathlib.Data.List.Nodup
import OrcConversion.Proofs.Arrow.FlatNames
import OrcConversion.Proofs.Conversion.PartitionOrder
import OrcConversion.Proofs.Conversion.PlanningRuns

/-! A flattened conversion reads the leaves of its target. -/

namespace OrcConversion

open Arrow Hive Text Workflow

/-! ## The selection of a leaf -/

/-- What reads a leaf, under the name of its column if it is not at the top. -/
def Arrow.Leaf.expression (leaf : Leaf) : String :=
  let source := ".".intercalate (leaf.path.map quoteIdentifier)
  if leaf.path.length = 1 then source
  else source ++ " AS " ++ quoteIdentifier leaf.columnName

/-- A leaf is read where its path resolves, and else there is a null of its type in its place. -/
structure SelectsLeaf (source : Schema) (leaf : Leaf) (expression : String) : Prop where
  found : Resolves source leaf.path → expression = leaf.expression
  missing : ¬ Resolves source leaf.path → ∃ hive, typeOf leaf.type = .ok hive ∧
    expression = "CAST(NULL AS " ++ hive ++ ") AS " ++ quoteIdentifier leaf.columnName

section

variable {source target : Schema} {field : Field} {leaf : Leaf} {column : Column}

theorem targetField?_eq_self (hnames : (target.map fun field => lowercase field.name).Nodup)
    (hmem : field ∈ target) (hname : column.name = field.name) :
    targetField? target column = some field := by
  rw [targetField?, hname]
  cases hfound : target.reverse.find? fun other => lowercase other.name == lowercase field.name with
  | none =>
      have hother := List.find?_eq_none.mp hfound field (List.mem_reverse.mpr hmem)
      exact absurd (beq_self_eq_true _) hother
  | some other =>
      have hother := List.mem_reverse.mp (List.mem_of_find?_eq_some hfound)
      have hsame := List.find?_some hfound
      rw [List.inj_on_of_nodup_map hnames hother hmem (beq_iff_eq.mp hsame)]

/-- A column that is made of a leaf, and takes its type and its source from the field of that. -/
structure ReadsLeaf (target : Schema) (column : Column) (leaf : Leaf) : Prop where
  name_eq : column.name = leaf.columnName
  type_eq : typeOf leaf.type = .ok column.type
  path_eq : columnPath target column = some leaf.dotted

theorem ReadsLeaf.selectsLeaf {expression : String} (h : ReadsLeaf target column leaf)
    (hselect : selectColumn source target true column = some expression) (hpath : leaf.path ≠ [])
    (hfree : ∀ name ∈ leaf.path, '.' ∉ name.toList) : SelectsLeaf source leaf expression := by
  have hexpression : selectPath source true column leaf.dotted = expression := by
    rw [selectColumn, h.path_eq] at hselect
    exact Option.some.inj hselect
  have hresolves : source.hasPath leaf.dotted = true ↔ Resolves source leaf.path :=
    hasPath_dotted hpath hfree
  have hsource : sourceExpression leaf.dotted = ".".intercalate (leaf.path.map quoteIdentifier) :=
    sourceExpression_dotted hpath hfree
  simp only [← hexpression, selectPath, h.name_eq]
  constructor
  · intro hfound
    rw [if_pos (hresolves.mpr hfound)]
    simp only [Leaf.dotted_eq_columnName hpath hfree, Leaf.expression, hsource]
  · intro hmissing
    rw [if_neg fun hfound => hmissing (hresolves.mp hfound), if_pos trivial]
    exact ⟨column.type, h.type_eq, rfl⟩

theorem forall₂_of_common {α β γ : Type} {R : α → β → Prop} {Q : α → γ → Prop}
    {P : β → γ → Prop} {items : List α} {left : List β} {right : List γ}
    (hleft : List.Forall₂ R items left) (hright : List.Forall₂ Q items right)
    (h : ∀ item ∈ items, ∀ first ∈ left, ∀ second, R item first → Q item second →
      P first second) : List.Forall₂ P left right := by
  induction hleft generalizing right with
  | nil =>
      cases hright
      exact .nil
  | cons hfirst _ ih =>
      cases hright with
      | cons hsecond hrest =>
          refine .cons (h _ List.mem_cons_self _ List.mem_cons_self _ hfirst hsecond) (ih hrest ?_)
          intro item hitem first hmem
          exact h item (List.mem_cons_of_mem _ hitem) first (List.mem_cons_of_mem _ hmem)

theorem columnsOf_eq_ok {schema : Schema} {columns : List Column}
    (h : columnsOrFailure schema = .ok columns) :
    List.Forall₂ (fun field column => column.name = field.name ∧
      typeOf field.type = .ok column.type) schema columns := by
  apply (Except.mapM_eq_ok.mp (Except.mapError_eq_ok.mp h)).imp
  intro field column hcolumn
  obtain ⟨type, htype, heq⟩ := Except.bind_eq_ok.mp hcolumn
  cases heq
  exact ⟨rfl, htype⟩

theorem readsLeaves_flatten {schema shaped : Schema} {columns : List Column}
    (hflat : schema.flatten = .ok shaped) (hcolumns : columnsOrFailure shaped = .ok columns)
    (htop : ∀ field ∈ schema, field.metadata.lookup? sourcePathKey = none)
    (hnames : ((leavesOf schema).map fun leaf => lowercase leaf.columnName).Nodup) :
    List.Forall₂ (ReadsLeaf shaped) columns (leavesOf schema) := by
  have hkeys : (shaped.map fun field => lowercase field.name).Nodup := by
    rw [keys_flatten hflat]
    exact hnames
  apply forall₂_of_common (columnsOf_eq_ok hcolumns) (columnsOfLeaves_flatten hflat htop)
  rintro field hfield column - leaf ⟨hname, htype⟩ hleaf
  constructor
  · exact hname.trans hleaf.name_eq
  · rw [← hleaf.type_eq]
    exact htype
  · rw [columnPath, targetField?_eq_self hkeys hfield hname]
    exact hleaf.sourcePath_eq

theorem selectsLeaves_flatten {schema shaped : Schema} {columns : List Column}
    {expressions : List String} (hflat : schema.flatten = .ok shaped)
    (hcolumns : columnsOrFailure shaped = .ok columns)
    (hselection : selection source shaped true columns = some expressions)
    (hdots : ∀ siblings, Level schema siblings → ∀ field ∈ siblings, '.' ∉ field.name.toList)
    (htop : ∀ field ∈ schema, field.metadata.lookup? sourcePathKey = none)
    (hnames : ((leavesOf schema).map fun leaf => lowercase leaf.columnName).Nodup) :
    List.Forall₂ (SelectsLeaf source) (leavesOf schema) expressions := by
  apply forall₂_of_common (readsLeaves_flatten hflat hcolumns htop hnames)
    (Option.mapM_eq_some.mp hselection)
  intro column _ leaf hleaf expression hreads hselect
  have hreached := mem_leavesOf.mp hleaf
  exact hreads.selectsLeaf hselect hreached.path_ne_nil (hreached.names hdots)

theorem hasPaths_flatten {schema shaped : Schema} (hflat : schema.flatten = .ok shaped)
    (htop : ∀ field ∈ schema, field.metadata.lookup? sourcePathKey = none) : HasPaths shaped := by
  intro field hfield
  obtain ⟨leaf, hleaf⟩ :=
    exists_forall₂_iff.mp ⟨_, columnsOfLeaves_flatten hflat htop⟩ field hfield
  exact ⟨leaf.dotted, hleaf.sourcePath_eq⟩

theorem selection_eq_of_resolves {leaves : List Leaf} {selection : List String}
    (h : List.Forall₂ (SelectsLeaf source) leaves selection)
    (hfound : ∀ leaf ∈ leaves, Resolves source leaf.path) :
    selection = leaves.map Leaf.expression := by
  induction h with
  | nil => rfl
  | cons hfirst _ ih =>
      rw [List.map_cons, hfirst.found (hfound _ List.mem_cons_self)]
      rw [ih fun leaf hleaf => hfound leaf (List.mem_cons_of_mem _ hleaf)]

theorem PlanBasis.selection_of_absent {entity : Entity} {target : Target} {schema : Schema}
    (basis : PlanBasis entity schema target) (habsent : basis.destination.table = none) :
    selection entity.table.recordSchema schema true basis.targetColumns =
      some basis.insertion.selection := by
  obtain ⟨-, -, -, hselection⟩ := StagingPlan.insertionOf_eq_ok basis.insertion_eq
  rwa [Destination.align, Destination.isPresent, habsent] at hselection

end

variable {σ : Type} {services : Services σ} {state : σ}

/-- A flattened conversion into a new table selects one expression for each leaf of its target. A
source of the same shape, with distinct names side by side, is read without any null. -/
theorem flattened_selection_reads_leaves {targets : Targets} {target : Target} {entity : Entity}
    {schema : Schema} {mark : RunMark} {destination : Destination}
    (htarget : targets .flattened = some target)
    (hload : ((loadDestination target.db target.table).run services state).result =
      .ok destination)
    (habsent : destination.table = none)
    (hdots : ∀ siblings, Level schema siblings → ∀ field ∈ siblings, '.' ∉ field.name.toList)
    (htop : ∀ field ∈ schema, field.metadata.lookup? sourcePathKey = none)
    (hnames : ((leavesOf schema).map fun leaf => lowercase leaf.columnName).Nodup) :
    let source := entity.table.recordSchema
    let planner := planConversion targets .flattened entity (some schema) (.ok mark)
    (∀ plan, (planner.run services state).result = .ok plan →
      ∃ insertion : Insertion,
        plan.entity.statements.getLast? = some (Statement.insert insertion).text ∧
        insertion.source = ⟨entity.table.db, entity.table.name⟩ ∧
        insertion.target =
          ⟨target.db, stagingTableName target.stagingName mark.time mark.digit⟩ ∧
        List.Forall₂ (SelectsLeaf source) (leavesOf schema) insertion.selection ∧
        (source = schema →
          (∀ siblings, Level schema siblings → (siblings.map Field.name).Nodup) →
          insertion.selection = (leavesOf schema).map Leaf.expression)) ∧
    ∀ shaped columns permission, schema.flatten = .ok shaped →
      checkEntity entity shaped = .ok columns → ShortNumbers entity target mark.time →
      schema ≠ [] →
      ((createDestinationDirectory target.dataPath entity.table.dataLocation).run services
        ((loadDestination target.db target.table).run services state).state).result =
          .ok permission →
      ∃ plan, (planner.run services state).result = .ok plan := by
  intro source planner
  constructor
  · intro plan hplan
    have hends := ends services planner state
    rw [hplan] at hends
    obtain ⟨_, shaped, hfields, hflat, basis, hfound, htable, rfl⟩ :=
      exists_basis_of_target hends htarget
    cases hfields
    cases hload.symm.trans hfound
    obtain ⟨hsource, hinto, -, -⟩ := StagingPlan.insertionOf_eq_ok basis.insertion_eq
    have hleaves : List.Forall₂ (SelectsLeaf source) (leavesOf schema) basis.insertion.selection :=
      selectsLeaves_flatten hflat basis.columns_eq (basis.selection_of_absent habsent) hdots htop
        hnames
    refine ⟨basis.insertion, basis.getLast?_statements, hsource, htable ▸ hinto, hleaves, ?_⟩
    intro hsame hdistinct
    apply selection_eq_of_resolves hleaves
    intro leaf hleaf
    rw [hsame]
    exact (mem_leavesOf.mp hleaf).resolves hdistinct
  · intro shaped columns permission hflat hcheck hnumbers hsome hmade
    obtain ⟨plan, _, hplan, _⟩ := exists_planConversion_ok htarget hsome hflat hcheck hnumbers
      (hasPaths_flatten hflat htop) hload hmade
    exact ⟨plan, hplan⟩

namespace Sample

def textField (name : String) : Field := .mk name (.scalar .string) true .empty

def structField (name : String) (fields : List Field) : Field :=
  .mk name (.struct fields) true .empty

/-- Visits with the place that they were made from. -/
def placed : Schema :=
  numbers ++ [structField "place" [textField "city", structField "zip" [textField "code"]]]

/-- Visits of which no more than the city is known. -/
def cityVisits : Entity :=
  { visits with table := { visits.table with recordSchema :=
    numbers ++ [structField "place" [textField "city"]] } }

theorem level_placed {siblings : List Field} (h : Level placed siblings) :
    siblings = placed ∨ siblings = [textField "city", structField "zip" [textField "code"]] ∨
      siblings = [textField "code"] := by
  rcases level_iff.mp h with rfl | ⟨field, hfield, inner, hstruct, h⟩
  · exact .inl rfl
  · rcases List.mem_cons.mp hfield with rfl | hfield
    · cases hstruct
    · cases List.mem_singleton.mp hfield
      cases hstruct
      rcases level_iff.mp h with rfl | ⟨field, hfield, inner, hstruct, h⟩
      · exact .inr (.inl rfl)
      · rcases List.mem_cons.mp hfield with rfl | hfield
        · cases hstruct
        · cases List.mem_singleton.mp hfield
          cases hstruct
          exact .inr (.inr (h.eq_of_plain (by decide)))

end Sample

open Sample in
theorem flattened_selection_reads_leaves_cityVisits :
    let planner := planConversion (fun _ => some warehouse) .flattened cityVisits (some placed)
      (.ok ⟨0, 0⟩)
    ∃ plan insertion, (planner.run Rehearsal.services {}).result = .ok plan ∧
      plan.entity.statements.getLast? = some (Statement.insert insertion).text ∧
      insertion.selection = ["`id`", "`place`.`city` AS `place__city`",
        "CAST(NULL AS string) AS `place__zip__code`"] := by
  intro planner
  have hload : ((loadDestination "dw" "visits").run Rehearsal.services {}).result =
      .ok .absent := rfl
  have hdots : ∀ siblings, Level placed siblings →
      ∀ field ∈ siblings, '.' ∉ field.name.toList := by
    intro siblings hlevel
    rcases level_placed hlevel with rfl | rfl | rfl <;> decide
  have hprepared : (prepare .flattened cityVisits placed ⟨0, 0⟩).isOk = true := by decide +kernel
  obtain ⟨⟨shaped, columns⟩, hprepare⟩ := Except.exists_of_isOk hprepared
  obtain ⟨hflat, hcheck, -⟩ := prepare_eq_ok.mp hprepare
  obtain ⟨hread, hplanned⟩ := @flattened_selection_reads_leaves _ Rehearsal.services {}
    (fun _ => some warehouse) warehouse cityVisits placed ⟨0, 0⟩ .absent rfl hload rfl hdots
    (by decide) (by decide +kernel)
  have hnumbers : ShortNumbers cityVisits warehouse 0 :=
    ⟨⟨_, rfl⟩, ⟨_, rfl⟩, fun hnone => absurd rfl hnone, fun _ hnone => by cases hnone⟩
  obtain ⟨plan, hplan⟩ := hplanned shaped columns 0o755 hflat hcheck hnumbers
    (List.cons_ne_nil _ _) rfl
  obtain ⟨insertion, hlast, -, -, hleaves, -⟩ := hread plan hplan
  refine ⟨plan, insertion, hplan, hlast, ?_⟩
  have hlisted : leavesOf placed = [⟨["id"], .scalar .int64⟩, ⟨["place", "city"], .scalar .string⟩,
      ⟨["place", "zip", "code"], .scalar .string⟩] := rfl
  rw [hlisted] at hleaves
  obtain ⟨_, _, hid, hleaves, hselection⟩ := List.forall₂_cons_left_iff.mp hleaves
  obtain ⟨_, _, hcity, hleaves, hcities⟩ := List.forall₂_cons_left_iff.mp hleaves
  obtain ⟨_, _, hcode, hleaves, hcodes⟩ := List.forall₂_cons_left_iff.mp hleaves
  cases hleaves
  have hlost : ¬ Resolves cityVisits.table.recordSchema ["place", "zip", "code"] := by
    intro hfound
    exact absurd (resolves_complete hfound) (by decide)
  obtain ⟨hive, htype, hcode⟩ := hcode.missing hlost
  cases htype
  rw [hselection, hcities, hcodes, hid.found (resolves_sound rfl (by simp)),
    hcity.found (resolves_sound rfl (by simp)), hcode]
  decide +kernel

end OrcConversion
