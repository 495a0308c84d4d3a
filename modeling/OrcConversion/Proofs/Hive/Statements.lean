import OrcConversion.Proofs.Hive.Scanning

/-! What a statement is can be read off its text: alterations of tables are told from other
statements by how they begin, and from each other by what follows the name of the table. -/

namespace OrcConversion.Hive

theorem TableName.text_append_inj {left right : TableName} {front back : String}
    (hfront : front.toList.head? ≠ some identifierMark)
    (hback : back.toList.head? ≠ some identifierMark)
    (h : left.text ++ front = right.text ++ back) : left = right ∧ front = back := by
  have hchars := congrArg String.toList h
  simp only [text, String.toList_append, List.append_assoc] at hchars
  obtain ⟨hdb, hrest⟩ := quoteIdentifier_append_inj (by simp [identifierMark])
    (by simp [identifierMark]) hchars
  obtain ⟨htable, hends⟩ :=
    quoteIdentifier_append_inj hfront hback (List.append_cancel_left hrest)
  cases left
  cases right
  cases hdb
  cases htable
  exact ⟨rfl, String.toList_inj.mp hends⟩

/-! ## Alterations of tables -/

def alteration (name : TableName) (action : String) : String :=
  "ALTER TABLE " ++ name.text ++ action

theorem alteration_inj {left right : TableName} {front back : String}
    (hfront : front.toList.head? ≠ some identifierMark)
    (hback : back.toList.head? ≠ some identifierMark)
    (h : alteration left front = alteration right back) : left = right ∧ front = back := by
  simp only [alteration, String.append_assoc, String.append_right_inj] at h
  exact TableName.text_append_inj hfront hback h

namespace Statement

theorem addColumns_text (name : TableName) (columns : List Column) :
    (addColumns name columns).text =
      alteration name (" ADD COLUMNS (\n" ++ columnLines columns ++ ")") := by
  simp only [alteration, ← String.append_assoc]
  rfl

theorem addPartition_text (name : TableName) (values : OrderedMap String) (location : String) :
    (addPartition name values location).text =
      alteration name (" ADD IF NOT EXISTS " ++ partitionClause values ++ " LOCATION " ++
        quoteLiteral location) := by
  simp only [alteration, ← String.append_assoc]
  rfl

theorem dropPartition_text (name : TableName) (values : OrderedMap String) :
    (dropPartition name values).text =
      alteration name (" DROP IF EXISTS " ++ partitionClause values) := by
  simp only [alteration, ← String.append_assoc]
  rfl

/-! ## Reading statements -/

/-- The letter that the text of a statement begins with. -/
def initial : Statement → Char
  | set _ _ => 'S'
  | createTable _ => 'C'
  | dropTable _ => 'D'
  | addColumns _ _ => 'A'
  | addPartition _ _ _ => 'A'
  | dropPartition _ _ => 'A'
  | insert _ => 'I'

private theorem head?_append {front : String} {c : Char} (h : front.toList.head? = some c)
    (text : String) : (front ++ text).toList.head? = some c := by
  rw [String.toList_append, List.head?_append, h]
  rfl

private theorem head?_intercalate (separator : String) {line : String} (more : List String)
    {c : Char} (h : line.toList.head? = some c) :
    (separator.intercalate (line :: more)).toList.head? = some c := by
  cases more with
  | nil => simpa using h
  | cons next later =>
      rw [String.intercalate_cons_cons, String.append_assoc]
      exact head?_append h _

private theorem head?_alteration (name : TableName) (action : String) :
    (alteration name action).toList.head? = some 'A' :=
  head?_append (head?_append rfl _) _

theorem head?_text (statement : Statement) :
    statement.text.toList.head? = some statement.initial := by
  cases statement with
  | set key value => exact head?_append (head?_append (head?_append rfl _) _) _
  | createTable definition => exact head?_intercalate _ _ (head?_append (head?_append rfl _) _)
  | dropTable name => exact head?_append rfl _
  | addColumns name columns =>
      rw [addColumns_text]
      exact head?_alteration _ _
  | addPartition name values location =>
      rw [addPartition_text]
      exact head?_alteration _ _
  | dropPartition name values =>
      rw [dropPartition_text]
      exact head?_alteration _ _
  | insert insertion => exact head?_intercalate _ _ (head?_append rfl _)

def alters? : Statement → Option (TableName × String)
  | addColumns name columns => some (name, " ADD COLUMNS (\n" ++ columnLines columns ++ ")")
  | addPartition name values location =>
      some (name, " ADD IF NOT EXISTS " ++ partitionClause values ++ " LOCATION " ++
        quoteLiteral location)
  | dropPartition name values => some (name, " DROP IF EXISTS " ++ partitionClause values)
  | _ => none

theorem text_of_alters? {statement : Statement} {name : TableName} {action : String}
    (h : statement.alters? = some (name, action)) :
    statement.text = alteration name action ∧ action.toList.head? = some ' ' := by
  cases statement with
  | addColumns other columns =>
      cases h
      exact ⟨addColumns_text _ _, by simp⟩
  | addPartition other values location =>
      cases h
      exact ⟨addPartition_text _ _ _, by simp⟩
  | dropPartition other values =>
      cases h
      exact ⟨dropPartition_text _ _, by simp⟩
  | set key value => cases h
  | createTable definition => cases h
  | dropTable other => cases h
  | insert insertion => cases h

theorem initial_of_alters? {statement : Statement} (h : statement.alters? = none) :
    statement.initial ≠ 'A' := by
  cases statement with
  | set key value => simp [initial]
  | createTable definition => simp [initial]
  | dropTable other => simp [initial]
  | insert insertion => simp [initial]
  | addColumns other columns => cases h
  | addPartition other values location => cases h
  | dropPartition other values => cases h

/-- Statements with the text of an alteration are that alteration. -/
theorem alters?_eq_of_text {left right : Statement} (h : left.text = right.text)
    (halters : right.alters? ≠ none) : left.alters? = right.alters? := by
  obtain ⟨⟨name, action⟩, hright⟩ := Option.ne_none_iff_exists'.mp halters
  obtain ⟨htext, hblank⟩ := text_of_alters? hright
  cases hleft : left.alters? with
  | none =>
      have hinitial := head?_text left
      rw [h, htext, head?_alteration] at hinitial
      exact absurd (Option.some.inj hinitial).symm (initial_of_alters? hleft)
  | some found =>
      obtain ⟨other, others⟩ := found
      obtain ⟨hother, hothers⟩ := text_of_alters? hleft
      rw [hother, htext] at h
      obtain ⟨rfl, rfl⟩ := alteration_inj (by simp [hothers, identifierMark])
        (by simp [hblank, identifierMark]) h
      exact hright.symm

theorem eq_dropPartition_of_text {statement : Statement} {name : TableName}
    {values : OrderedMap String} (h : statement.text = (dropPartition name values).text) :
    statement = dropPartition name values := by
  have halters := alters?_eq_of_text h (by simp [alters?])
  cases statement with
  | set key value => cases halters
  | createTable definition => cases halters
  | dropTable other => cases halters
  | insert insertion => cases halters
  | addColumns other columns =>
      have hactions := congrArg String.toList (Prod.mk.inj (Option.some.inj halters)).2
      simp at hactions
  | addPartition other others location =>
      have hactions := congrArg String.toList (Prod.mk.inj (Option.some.inj halters)).2
      simp at hactions
  | dropPartition other others =>
      obtain ⟨rfl, hclauses⟩ := Prod.mk.inj (Option.some.inj halters)
      rw [String.append_right_inj, partitionClause, partitionClause, String.append_left_inj,
        String.append_right_inj] at hclauses
      rw [assignments_injective hclauses]

theorem exists_addColumns_of_text {statement : Statement} {name : TableName}
    {columns : List Column} (h : statement.text = (addColumns name columns).text) :
    ∃ others, statement = addColumns name others := by
  have halters := alters?_eq_of_text h (by simp [alters?])
  cases statement with
  | set key value => cases halters
  | createTable definition => cases halters
  | dropTable other => cases halters
  | insert insertion => cases halters
  | addColumns other others =>
      obtain ⟨rfl, -⟩ := Prod.mk.inj (Option.some.inj halters)
      exact ⟨others, rfl⟩
  | addPartition other values location =>
      have hactions := congrArg String.toList (Prod.mk.inj (Option.some.inj halters)).2
      simp at hactions
  | dropPartition other values =>
      have hactions := congrArg String.toList (Prod.mk.inj (Option.some.inj halters)).2
      simp at hactions

end Statement

end OrcConversion.Hive
