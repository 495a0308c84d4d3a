import OrcConversion.Proofs.Hive.Readback

/-! Scanning of texts: what is quoted is told from what is not, and comes back as it was. -/

namespace OrcConversion.Hive

/-- A quoted part of a text, or one character outside all quotes. -/
inductive Token where
  | outside (c : Char)
  | identifier (name : String)
  | literal (value : String)
deriving DecidableEq

namespace Token

def isQuoted : Token → Bool
  | outside _ => false
  | identifier _ => true
  | literal _ => true

/-- A token without what is quoted. -/
def erase : Token → Token
  | outside c => outside c
  | identifier _ => identifier ""
  | literal _ => literal ""

end Token

/-! ## The scanner -/

section

variable {text part after : List Char}

private theorem exists_of_map_cons {read : Option (List Char × List Char)} {c : Char}
    (h : (read.map fun (part, after) => (c :: part, after)) = some (part, after)) :
    ∃ inner, read = some (inner, after) := by
  obtain ⟨⟨inner, later⟩, hread, heq⟩ := Option.map_eq_some_iff.mp h
  cases heq
  exact ⟨inner, hread⟩

theorem length_takeIdentifier (h : takeIdentifier text = some (part, after)) :
    after.length < text.length := by
  fun_induction takeIdentifier text generalizing part with
  | case1 => cases h
  | case2 =>
      cases h
      exact Nat.zero_lt_one
  | case3 => cases h
  | case4 rest ih =>
      obtain ⟨inner, hinner⟩ := exists_of_map_cons h
      exact Nat.lt_succ_of_lt (Nat.lt_succ_of_lt (ih hinner))
  | case5 =>
      cases h
      exact Nat.lt_succ_self _
  | case6 c d rest hc ih =>
      obtain ⟨inner, hinner⟩ := exists_of_map_cons h
      exact Nat.lt_succ_of_lt (ih hinner)

theorem length_takeLiteral (h : takeLiteral text = some (part, after)) :
    after.length < text.length := by
  fun_induction takeLiteral text generalizing part with
  | case1 => cases h
  | case2 =>
      cases h
      exact Nat.zero_lt_one
  | case3 => cases h
  | case4 =>
      cases h
      exact Nat.lt_succ_self _
  | case5 c rest hslash ih =>
      obtain ⟨inner, hinner⟩ := exists_of_map_cons h
      exact Nat.lt_succ_of_lt (Nat.lt_succ_of_lt (ih hinner))
  | case6 c d rest hc hslash ih =>
      obtain ⟨inner, hinner⟩ := exists_of_map_cons h
      exact Nat.lt_succ_of_lt (ih hinner)

end

/-- The tokens of a text; none if a quote is not closed. -/
def scan : List Char → Option (List Token)
  | [] => some []
  | c :: rest =>
      if c = identifierMark then
        match _ : takeIdentifier rest with
        | some (name, after) => (scan after).map (.identifier (String.ofList name) :: ·)
        | none => none
      else if c = literalMark then
        match _ : takeLiteral rest with
        | some (value, after) => (scan after).map (.literal (String.ofList value) :: ·)
        | none => none
      else (scan rest).map (.outside c :: ·)
termination_by text => text.length
decreasing_by
  · exact Nat.lt_succ_of_lt (length_takeIdentifier (by assumption))
  · exact Nat.lt_succ_of_lt (length_takeLiteral (by assumption))
  · exact Nat.lt_succ_self _

section

variable {rest : List Char}

theorem scan_quoteIdentifier (name : String) (h : rest.head? ≠ some identifierMark) :
    scan ((quoteIdentifier name).toList ++ rest) = (scan rest).map (.identifier name :: ·) := by
  have hread : takeIdentifier (escapeIdentifier name.toList ++ identifierMark :: rest) =
      some (name.toList, rest) := takeIdentifier_escape name.toList h
  have htext : (quoteIdentifier name).toList ++ rest =
      identifierMark :: (escapeIdentifier name.toList ++ identifierMark :: rest) := by
    simp [quoteIdentifier]
  rw [htext, scan, if_pos rfl]
  split
  · rename_i found after hfound
    cases hread.symm.trans hfound
    rw [String.ofList_toList]
  · rename_i hnone
    cases hread.symm.trans hnone

theorem scan_quoteLiteral (value : String) (rest : List Char) :
    scan ((quoteLiteral value).toList ++ rest) = (scan rest).map (.literal value :: ·) := by
  have hread : takeLiteral (escapeLiteral value.toList ++ literalMark :: rest) =
      some (value.toList, rest) := takeLiteral_escape value.toList rest
  have htext : (quoteLiteral value).toList ++ rest =
      literalMark :: (escapeLiteral value.toList ++ literalMark :: rest) := by
    simp [quoteLiteral]
  rw [htext, scan, if_neg (by decide), if_pos rfl]
  split
  · rename_i found after hfound
    cases hread.symm.trans hfound
    rw [String.ofList_toList]
  · rename_i hnone
    cases hread.symm.trans hnone

/-- Characters outside all quotes. -/
def plainTokens (text : String) : List Token := text.toList.map .outside

/-- A text without quotes in it. -/
def IsPlain (text : String) : Prop := ∀ c ∈ text.toList, c ≠ identifierMark ∧ c ≠ literalMark

instance (text : String) : Decidable (IsPlain text) :=
  List.decidableBAll _ text.toList

private theorem scan_outside {chars : List Char}
    (h : ∀ c ∈ chars, c ≠ identifierMark ∧ c ≠ literalMark) (rest : List Char) :
    scan (chars ++ rest) = (scan rest).map (chars.map .outside ++ ·) := by
  induction chars with
  | nil => simp
  | cons c more ih =>
      obtain ⟨hidentifier, hliteral⟩ := h c List.mem_cons_self
      rw [List.cons_append, scan, if_neg hidentifier, if_neg hliteral,
        ih fun d hd => h d (List.mem_cons_of_mem c hd), Option.map_map]
      rfl

theorem scan_plain {text : String} (h : IsPlain text) (rest : List Char) :
    scan (text.toList ++ rest) = (scan rest).map (plainTokens text ++ ·) :=
  scan_outside h rest

end

/-! ## Names and assignments -/

def nameTokens (name : TableName) : List Token :=
  [.identifier name.db, .outside '.', .identifier name.table]

def entryTokens (entry : String × String) : List Token :=
  [.identifier entry.1, .outside '=', .literal entry.2]

def entriesTokens : List (String × String) → List Token
  | [] => []
  | [entry] => entryTokens entry
  | entry :: next :: rest => entryTokens entry ++ plainTokens ", " ++ entriesTokens (next :: rest)

def clauseTokens (entries : List (String × String)) : List Token :=
  plainTokens "PARTITION (" ++ entriesTokens entries ++ plainTokens ")"

section

variable {rest : List Char}

theorem scan_name (name : TableName) (h : rest.head? ≠ some identifierMark) :
    scan (name.text.toList ++ rest) = (scan rest).map (nameTokens name ++ ·) := by
  have hdot : IsPlain "." := by decide
  rw [TableName.text, String.toList_append, String.toList_append, List.append_assoc,
    List.append_assoc, scan_quoteIdentifier name.db (by simp [identifierMark]), scan_plain hdot,
    scan_quoteIdentifier name.table h, Option.map_map, Option.map_map]
  rfl

theorem scan_assignment (entry : String × String) (rest : List Char) :
    scan ((assignment entry).toList ++ rest) = (scan rest).map (entryTokens entry ++ ·) := by
  have hequals : IsPlain "=" := by decide
  rw [assignment, String.toList_append, String.toList_append, List.append_assoc,
    List.append_assoc, scan_quoteIdentifier entry.1 (by simp [identifierMark]),
    scan_plain hequals, scan_quoteLiteral, Option.map_map, Option.map_map]
  rfl

theorem scan_assignments (entries : List (String × String)) (rest : List Char) :
    scan ((", ".intercalate (entries.map assignment)).toList ++ rest) =
      (scan rest).map (entriesTokens entries ++ ·) := by
  have hcomma : IsPlain ", " := by decide
  fun_induction entriesTokens entries with
  | case1 => simp
  | case2 entry => simpa using scan_assignment entry rest
  | case3 entry next later ih =>
      rw [List.map_cons, List.map_cons, String.intercalate_cons_cons, ← List.map_cons,
        String.toList_append, String.toList_append, List.append_assoc, List.append_assoc,
        scan_assignment, scan_plain hcomma, ih, Option.map_map, Option.map_map]
      simp [Function.comp_def]

theorem scan_partitionClause (values : OrderedMap String) (rest : List Char) :
    scan ((partitionClause values).toList ++ rest) =
      (scan rest).map (clauseTokens values.entries ++ ·) := by
  have hfront : IsPlain "PARTITION (" := by decide
  have hend : IsPlain ")" := by decide
  have hassignments : assignments ", " values =
      ", ".intercalate (values.entries.map assignment) := rfl
  rw [partitionClause, hassignments, String.toList_append, String.toList_append,
    List.append_assoc, List.append_assoc, scan_plain hfront, scan_assignments, scan_plain hend,
    Option.map_map, Option.map_map]
  simp [clauseTokens, Function.comp_def]

end

theorem erase_plainTokens (text : String) :
    (plainTokens text).map Token.erase = plainTokens text := by
  rw [plainTokens, List.map_map]
  rfl

theorem filter_plainTokens (text : String) :
    (plainTokens text).filter Token.isQuoted = [] := by
  simp [plainTokens, Token.isQuoted]

theorem erase_entriesTokens (entries : List (String × String)) :
    (entriesTokens entries).map Token.erase =
      entriesTokens (List.replicate entries.length ("", "")) := by
  fun_induction entriesTokens entries with
  | case1 => rfl
  | case2 entry => rfl
  | case3 entry next later ih =>
      rw [List.map_append, List.map_append, erase_plainTokens, ih]
      rfl

theorem erase_clauseTokens (entries : List (String × String)) :
    (clauseTokens entries).map Token.erase =
      clauseTokens (List.replicate entries.length ("", "")) := by
  rw [clauseTokens, List.map_append, List.map_append, erase_plainTokens, erase_plainTokens,
    erase_entriesTokens, clauseTokens]

/-- Quoted parts of an assignment. -/
def entryParts (entry : String × String) : List Token := [.identifier entry.1, .literal entry.2]

theorem filter_entriesTokens (entries : List (String × String)) :
    (entriesTokens entries).filter Token.isQuoted = entries.flatMap entryParts := by
  fun_induction entriesTokens entries with
  | case1 => rfl
  | case2 entry => rfl
  | case3 entry next later ih =>
      rw [List.filter_append, List.filter_append, filter_plainTokens, ih, List.append_nil]
      rfl

theorem filter_clauseTokens (entries : List (String × String)) :
    (clauseTokens entries).filter Token.isQuoted = entries.flatMap entryParts := by
  rw [clauseTokens, List.filter_append, List.filter_append, filter_plainTokens,
    filter_plainTokens, filter_entriesTokens, List.nil_append, List.append_nil]

/-- Parts of assignments are told from what follows them, if that does not begin like one. -/
theorem flatMap_entryParts_append_inj {left right : List (String × String)}
    {front back : List Token} (hfront : ∀ name, front.head? ≠ some (.identifier name))
    (hback : ∀ name, back.head? ≠ some (.identifier name))
    (h : left.flatMap entryParts ++ front = right.flatMap entryParts ++ back) :
    left = right ∧ front = back := by
  induction left generalizing right with
  | nil =>
      cases right with
      | nil => exact ⟨rfl, h⟩
      | cons other others => exact absurd (congrArg List.head? h) (hfront other.1)
  | cons entry rest ih =>
      cases right with
      | nil => exact absurd (congrArg List.head? h).symm (hback entry.1)
      | cons other others =>
          obtain ⟨hkey, hvalue, hrests⟩ : entry.1 = other.1 ∧ entry.2 = other.2 ∧
              rest.flatMap entryParts ++ front = others.flatMap entryParts ++ back := by
            simpa [entryParts] using h
          obtain ⟨rfl, hends⟩ := ih hrests
          exact ⟨congrArg (· :: rest) (Prod.ext hkey hvalue), hends⟩

theorem assignments_injective {left right : OrderedMap String}
    (h : assignments ", " left = assignments ", " right) : left = right := by
  have hleft := scan_assignments left.entries []
  have hright := scan_assignments right.entries []
  have htexts : ", ".intercalate (left.entries.map assignment) =
      ", ".intercalate (right.entries.map assignment) := h
  have htokens : entriesTokens left.entries = entriesTokens right.entries := by
    rw [htexts, hright] at hleft
    simpa [scan] using hleft.symm
  have hparts := congrArg (List.filter Token.isQuoted) htokens
  rw [filter_entriesTokens, filter_entriesTokens] at hparts
  have hends : left.entries.flatMap entryParts ++ [] = right.entries.flatMap entryParts ++ [] := by
    rw [hparts]
  exact OrderedMap.ext (flatMap_entryParts_append_inj (by simp) (by simp) hends).1

/-! ## Texts by skeleton and parts -/

/-- Scanning consumes the text, without what is quoted the tokens are the skeleton, and what is
quoted are the parts. -/
def ReadsAs (text : String) (skeleton parts : List Token) : Prop :=
  ∃ tokens, scan text.toList = some tokens ∧ tokens.map Token.erase = skeleton ∧
    tokens.filter Token.isQuoted = parts

theorem ReadsAs.parts_unique {left right : String} {front back frontParts backParts : List Token}
    (hleft : ReadsAs left front frontParts) (hright : ReadsAs right back backParts)
    (h : left = right) : frontParts = backParts := by
  obtain ⟨tokens, hscan, -, rfl⟩ := hleft
  obtain ⟨others, hother, -, rfl⟩ := hright
  rw [h, hother] at hscan
  rw [Option.some.inj hscan]

def nameParts (name : TableName) : List Token := [.identifier name.db, .identifier name.table]

theorem nameParts_append_inj {left right : TableName} {front back : List Token}
    (h : nameParts left ++ front = nameParts right ++ back) : left = right ∧ front = back := by
  cases left
  cases right
  simpa [nameParts, and_assoc] using h

end OrcConversion.Hive
