import OrcConversion.Hive.Statement

/-! Quoted identifiers and literals are read back, whatever characters they hold. -/

namespace OrcConversion.Hive

/-- The identifier up to its closing mark, and what follows it. A doubled mark stands for one. -/
def takeIdentifier : List Char → Option (List Char × List Char)
  | [] => none
  | [c] => if c = identifierMark then some ([], []) else none
  | c :: d :: rest =>
      if c = identifierMark then
        if d = identifierMark then
          (takeIdentifier rest).map fun (name, after) => (c :: name, after)
        else some ([], d :: rest)
      else (takeIdentifier (d :: rest)).map fun (name, after) => (c :: name, after)

/-- The literal up to its closing mark, and what follows it. A backslash makes the next character
stand for itself. -/
def takeLiteral : List Char → Option (List Char × List Char)
  | [] => none
  | [c] => if c = literalMark then some ([], []) else none
  | c :: d :: rest =>
      if c = literalMark then some ([], d :: rest)
      else if c = '\\' then (takeLiteral rest).map fun (value, after) => (d :: value, after)
      else (takeLiteral (d :: rest)).map fun (value, after) => (c :: value, after)

theorem takeIdentifier_mark {rest : List Char} (h : rest.head? ≠ some identifierMark) :
    takeIdentifier (identifierMark :: rest) = some ([], rest) := by
  cases rest with
  | nil => rfl
  | cons d rest =>
      have hd : d ≠ identifierMark := fun hd => h (congrArg some hd)
      simp [takeIdentifier, hd]

theorem takeIdentifier_cons {c : Char} {text : List Char} (hc : c ≠ identifierMark)
    (htext : text ≠ []) :
    takeIdentifier (c :: text) =
      (takeIdentifier text).map fun (name, after) => (c :: name, after) := by
  cases text with
  | nil => exact absurd rfl htext
  | cons d rest => simp [takeIdentifier, hc]

theorem takeIdentifier_escape (name : List Char) {rest : List Char}
    (h : rest.head? ≠ some identifierMark) :
    takeIdentifier (escapeIdentifier name ++ identifierMark :: rest) = some (name, rest) := by
  induction name with
  | nil => exact takeIdentifier_mark h
  | cons c name ih =>
      by_cases hc : c = identifierMark
      · subst hc
        change takeIdentifier (identifierMark :: identifierMark ::
          (escapeIdentifier name ++ identifierMark :: rest)) = _
        simp [takeIdentifier, ih]
      · have hescape : escapeIdentifier (c :: name) = c :: escapeIdentifier name := by
          simp [escapeIdentifier, hc]
        rw [hescape, List.cons_append, takeIdentifier_cons hc (by simp), ih]
        rfl

theorem takeLiteral_mark (rest : List Char) :
    takeLiteral (literalMark :: rest) = some ([], rest) := by
  cases rest with
  | nil => rfl
  | cons d rest => simp [takeLiteral]

theorem takeLiteral_cons {c : Char} {text : List Char} (hc : c ≠ literalMark)
    (hslash : c ≠ '\\') (htext : text ≠ []) :
    takeLiteral (c :: text) =
      (takeLiteral text).map fun (value, after) => (c :: value, after) := by
  cases text with
  | nil => exact absurd rfl htext
  | cons d rest => simp [takeLiteral, hc, hslash]

theorem takeLiteral_escape (value rest : List Char) :
    takeLiteral (escapeLiteral value ++ literalMark :: rest) = some (value, rest) := by
  induction value with
  | nil => exact takeLiteral_mark rest
  | cons c value ih =>
      by_cases hc : c = literalMark ∨ c = '\\'
      · have hescape : escapeLiteral (c :: value) = '\\' :: c :: escapeLiteral value := by
          simp [escapeLiteral, hc]
        have hmark : '\\' ≠ literalMark := by decide
        rw [hescape]
        simp [takeLiteral, hmark, ih]
      · obtain ⟨hmark, hslash⟩ := not_or.mp hc
        have hescape : escapeLiteral (c :: value) = c :: escapeLiteral value := by
          simp [escapeLiteral, hmark, hslash]
        rw [hescape, List.cons_append, takeLiteral_cons hmark hslash (by simp), ih]
        rfl

theorem quoteIdentifier_append_inj {left right : String} {front back : List Char}
    (hfront : front.head? ≠ some identifierMark) (hback : back.head? ≠ some identifierMark)
    (h : (quoteIdentifier left).toList ++ front = (quoteIdentifier right).toList ++ back) :
    left = right ∧ front = back := by
  simp only [quoteIdentifier, String.toList_ofList, List.cons_append, List.append_assoc,
    List.nil_append, List.cons.injEq, true_and] at h
  have hread := congrArg takeIdentifier h
  rw [takeIdentifier_escape _ hfront, takeIdentifier_escape _ hback] at hread
  obtain ⟨hname, hrest⟩ := Prod.mk.inj (Option.some.inj hread)
  exact ⟨String.toList_inj.mp hname, hrest⟩

/-- An identifier set equal to a literal. -/
def assignment (entry : String × String) : String :=
  quoteIdentifier entry.1 ++ "=" ++ quoteLiteral entry.2

end OrcConversion.Hive
