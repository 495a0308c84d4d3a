import Mathlib.Algebra.Group.Nat.Defs
import OrcConversion.Proofs.Json.Numbers
import OrcConversion.Proofs.Json.Texts

/-! Values of texts, arrays and objects, and natural numbers, are read back as they were written. -/

namespace OrcConversion.Json

open Text

/-! ## Steps of the reader -/

section

variable {fuel room : Nat} {text rest later after : List CodePoint} {item : Json}
  {items : List Json}

theorem skipSpace_cons {c : CodePoint} (h : isJsonSpace c = false) (rest : List CodePoint) :
    skipSpace (c :: rest) = c :: rest := by
  simp [skipSpace, h]

theorem skipSpace_space (rest : List CodePoint) :
    skipSpace (.char ' ' :: rest) = skipSpace rest := rfl

theorem writeText_append (text : CodeText) (rest : List CodePoint) :
    points (writeText text) ++ rest =
      .char '"' :: (points (text.points.flatMap writePoint) ++ .char '"' :: rest) := by
  simp [writeText]

theorem takeValue_writeText (fuel room : Nat) {text : CodeText} (h : HasChars text)
    (rest : List CodePoint) :
    takeValue (fuel + 1) room (points (writeText text) ++ rest) = .ok (string text, rest) := by
  rw [writeText_append]
  change (takeText (points (text.points.flatMap writePoint) ++ .char '"' :: rest) >>= _) = _
  rw [takeText_writePoint h]
  rfl

theorem takeItems_last (h : takeValue fuel room text = .ok (item, .char ']' :: after)) :
    takeItems (fuel + 1) room text = .ok ([item], after) := by
  change (takeValue fuel room text >>= _) = _
  rw [h]
  rfl

theorem takeItems_more (h : takeValue fuel room text = .ok (item, .char ',' :: later))
    (hlater : takeItems fuel room (skipSpace later) = .ok (items, after)) :
    takeItems (fuel + 1) room text = .ok (item :: items, after) := by
  change (takeValue fuel room text >>= _) = _
  rw [h]
  change (takeItems fuel room (skipSpace later) >>= _) = _
  rw [hlater]
  rfl

theorem takeValue_items {c : CodePoint} (hc : isJsonSpace c = false) (hend : c ≠ .char ']')
    (h : takeItems fuel room (c :: text) = .ok (items, after)) :
    takeValue (fuel + 1) (room + 1) (.char '[' :: c :: text) = .ok (array items, after) := by
  rw [takeValue, skipSpace_cons hc]
  split
  · rename_i heq
    exact absurd (List.cons.inj heq).1 hend
  · rw [h]
    rfl

variable {members : List (CodeText × Json)} {name : CodeText} {value result : Json}

theorem takeMembers_last (hname : HasChars name) (hstart : skipSpace text = text)
    (h : takeValue fuel room text = .ok (value, .char '\x7d' :: after)) :
    takeMembers (fuel + 1) room members
        (points (writeText name) ++ .char ':' :: .char ' ' :: text) =
      .ok (object (Entries.insert name value members), after) := by
  rw [writeText_append]
  change (takeText (points (name.points.flatMap writePoint) ++
    .char '"' :: .char ':' :: .char ' ' :: text) >>= _) = _
  rw [takeText_writePoint hname]
  change (takeValue fuel room (skipSpace (.char ' ' :: text)) >>= _) = _
  rw [skipSpace_space, hstart, h]
  rfl

theorem takeMembers_more (hname : HasChars name) (hstart : skipSpace text = text)
    (h : takeValue fuel room text = .ok (value, .char ',' :: later))
    (hlater : takeMembers fuel room (Entries.insert name value members) (skipSpace later) =
      .ok (result, after)) :
    takeMembers (fuel + 1) room members
        (points (writeText name) ++ .char ':' :: .char ' ' :: text) = .ok (result, after) := by
  rw [writeText_append]
  change (takeText (points (name.points.flatMap writePoint) ++
    .char '"' :: .char ':' :: .char ' ' :: text) >>= _) = _
  rw [takeText_writePoint hname]
  change (takeValue fuel room (skipSpace (.char ' ' :: text)) >>= _) = _
  rw [skipSpace_space, hstart, h]
  exact hlater

theorem takeValue_members {c : CodePoint} (hc : isJsonSpace c = false) (hend : c ≠ .char '\x7d')
    (h : takeMembers fuel room [] (c :: text) = .ok (value, after)) :
    takeValue (fuel + 1) (room + 1) (.char '\x7b' :: c :: text) = .ok (value, after) := by
  rw [takeValue, skipSpace_cons hc]
  split
  · rename_i heq
    exact absurd (List.cons.inj heq).1 hend
  · exact h

end

/-! ## Texts, arrays and objects -/

/-- Values of texts of characters, in arrays and objects that stand inside each other no deeper than
some number. No object has two members of one name. -/
inductive Plain : Nat → Json → Prop where
  | string {room : Nat} {text : CodeText} : HasChars text → Plain room (.string text)
  | array {room : Nat} {items : List Json} : (∀ item ∈ items, Plain room item) →
      Plain (room + 1) (.array items)
  | object {room : Nat} {members : List (CodeText × Json)} : (Entries.keys members).Nodup →
      (∀ member ∈ members, HasChars member.1) → (∀ member ∈ members, Plain room member.2) →
      Plain (room + 1) (.object members)

/-- A value that is read off the front of any text that begins with it. -/
def ReadsBack (room : Nat) (value : Json) : Prop :=
  ∀ fuel rest, (write value).length ≤ fuel →
    takeValue fuel room (points (write value) ++ rest) = .ok (value, rest)

section

variable {room fuel : Nat} {value next : Json} {values later : List Json}

theorem Plain.exists_write (h : Plain room value) :
    ∃ c more, write value = c :: more ∧ isJsonSpace (.char c) = false ∧
      CodePoint.char c ≠ .char ']' ∧ CodePoint.char c ≠ .char '\ufeff' := by
  cases h with
  | string => exact ⟨'"', _, rfl, rfl, by decide, by decide⟩
  | array => exact ⟨'[', _, rfl, rfl, by decide, by decide⟩
  | object => exact ⟨'\x7b', _, rfl, rfl, by decide, by decide⟩

theorem Plain.skipSpace_write (h : Plain room value) (rest : List CodePoint) :
    skipSpace (points (write value) ++ rest) = points (write value) ++ rest := by
  obtain ⟨c, more, hwrite, hspace, -⟩ := h.exists_write
  rw [hwrite, points_cons, List.cons_append, skipSpace_cons hspace]

theorem writeItems_append (value next : Json) (later : List Json) (rest : List CodePoint) :
    points (writeItems (value :: next :: later)) ++ rest =
      points (write value) ++
        .char ',' :: .char ' ' :: (points (writeItems (next :: later)) ++ rest) := by
  have hwrite : writeItems (value :: next :: later) =
      write value ++ ',' :: ' ' :: writeItems (next :: later) := rfl
  rw [hwrite]
  simp

theorem exists_writeItems (value : Json) (later : List Json) :
    ∃ more, points (writeItems (value :: later)) = points (write value) ++ more := by
  cases later with
  | nil => exact ⟨[], (List.append_nil _).symm⟩
  | cons next later => exact ⟨_, points_append _ _⟩

theorem takeItems_writeItems (hplain : ∀ item ∈ value :: later, Plain room item)
    (hread : ∀ item ∈ value :: later, ReadsBack room item)
    (hfuel : (writeItems (value :: later)).length < fuel) (rest : List CodePoint) :
    takeItems fuel room (points (writeItems (value :: later)) ++ .char ']' :: rest) =
      .ok (value :: later, rest) := by
  induction later generalizing value fuel with
  | nil =>
      obtain ⟨fuel, rfl⟩ : ∃ less, fuel = less + 1 := ⟨fuel - 1, by omega⟩
      exact takeItems_last (hread value List.mem_cons_self fuel _ (Nat.le_of_lt_succ hfuel))
  | cons next later ih =>
      obtain ⟨fuel, rfl⟩ : ∃ less, fuel = less + 1 := ⟨fuel - 1, by omega⟩
      have hlength := congrArg List.length (writeItems_append value next later [])
      simp only [List.append_nil, List.length_append, List.length_cons, length_points] at hlength
      have hlater := ih (fun item hmem => hplain item (List.mem_cons_of_mem value hmem))
        (fun item hmem => hread item (List.mem_cons_of_mem value hmem))
        (show _ < fuel by omega)
      rw [writeItems_append]
      apply takeItems_more (hread value List.mem_cons_self fuel _ (by omega))
      obtain ⟨more, hmore⟩ := exists_writeItems next later
      have hnext := hplain next (List.mem_cons_of_mem value List.mem_cons_self)
      rw [skipSpace_space, hmore, List.append_assoc, hnext.skipSpace_write, ← List.append_assoc,
        ← hmore]
      exact hlater

end

section

variable {room fuel : Nat} {entry next : CodeText × Json} {later : List (CodeText × Json)}

theorem writeMembers_append (entry next : CodeText × Json) (later : List (CodeText × Json))
    (rest : List CodePoint) :
    points (writeMembers (entry :: next :: later)) ++ rest =
      points (writeText entry.1) ++ .char ':' :: .char ' ' :: (points (write entry.2) ++
        .char ',' :: .char ' ' :: (points (writeMembers (next :: later)) ++ rest)) := by
  have hwrite : writeMembers (entry :: next :: later) =
      writeText entry.1 ++ ':' :: ' ' :: write entry.2 ++
        ',' :: ' ' :: writeMembers (next :: later) := rfl
  rw [hwrite]
  simp

theorem writeMembers_singleton_append (entry : CodeText × Json) (rest : List CodePoint) :
    points (writeMembers [entry]) ++ rest =
      points (writeText entry.1) ++
        .char ':' :: .char ' ' :: (points (write entry.2) ++ rest) := by
  have hwrite : writeMembers [entry] =
      writeText entry.1 ++ ':' :: ' ' :: write entry.2 := rfl
  rw [hwrite]
  simp

theorem exists_writeMembers (entry : CodeText × Json) (later : List (CodeText × Json)) :
    ∃ more, points (writeMembers (entry :: later)) = .char '"' :: more := by
  cases later with
  | nil => exact ⟨_, rfl⟩
  | cons next later => exact ⟨_, rfl⟩

theorem takeMembers_writeMembers (hnames : ∀ member ∈ entry :: later, HasChars member.1)
    (hplain : ∀ member ∈ entry :: later, Plain room member.2)
    (hread : ∀ member ∈ entry :: later, ReadsBack room member.2)
    (hfuel : (writeMembers (entry :: later)).length < fuel) (before : List (CodeText × Json))
    (rest : List CodePoint) :
    takeMembers fuel room before (points (writeMembers (entry :: later)) ++ .char '\x7d' :: rest) =
      .ok (object ((entry :: later).foldl (fun map entry => Entries.insert entry.1 entry.2 map)
        before), rest) := by
  induction later generalizing entry fuel before with
  | nil =>
      obtain ⟨fuel, rfl⟩ : ∃ less, fuel = less + 1 := ⟨fuel - 1, by omega⟩
      have hlength := congrArg List.length (writeMembers_singleton_append entry [])
      simp only [List.append_nil, List.length_append, List.length_cons, length_points] at hlength
      rw [writeMembers_singleton_append]
      exact takeMembers_last (hnames entry List.mem_cons_self)
        ((hplain entry List.mem_cons_self).skipSpace_write _)
        (hread entry List.mem_cons_self fuel _ (by omega))
  | cons next later ih =>
      obtain ⟨fuel, rfl⟩ : ∃ less, fuel = less + 1 := ⟨fuel - 1, by omega⟩
      have hlength := congrArg List.length (writeMembers_append entry next later [])
      simp only [List.append_nil, List.length_append, List.length_cons, length_points] at hlength
      have hlater := ih (fun member hmem => hnames member (List.mem_cons_of_mem entry hmem))
        (fun member hmem => hplain member (List.mem_cons_of_mem entry hmem))
        (fun member hmem => hread member (List.mem_cons_of_mem entry hmem))
        (show _ < fuel by omega) (Entries.insert entry.1 entry.2 before)
      rw [writeMembers_append]
      apply takeMembers_more (hnames entry List.mem_cons_self)
        ((hplain entry List.mem_cons_self).skipSpace_write _)
        (hread entry List.mem_cons_self fuel _ (by omega))
      obtain ⟨more, hmore⟩ := exists_writeMembers next later
      rw [skipSpace_space, hmore, List.cons_append, skipSpace_cons rfl, ← List.cons_append,
        ← hmore]
      exact hlater

end

theorem Plain.readsBack {room : Nat} {value : Json} (h : Plain room value) :
    ReadsBack room value := by
  induction h with
  | @string room text hchars =>
      intro fuel rest hfuel
      have hwrite : write (.string text) = writeText text := rfl
      rw [hwrite, writeText, List.length_append, List.length_cons] at hfuel
      obtain ⟨fuel, rfl⟩ : ∃ less, fuel = less + 1 := ⟨fuel - 1, by omega⟩
      exact takeValue_writeText fuel room hchars rest
  | @array room items hplain ih =>
      intro fuel rest hfuel
      have hwrite : write (.array items) = '[' :: (writeItems items ++ [']']) := rfl
      rw [hwrite, List.length_cons, List.length_append, List.length_singleton] at hfuel
      obtain ⟨fuel, rfl⟩ : ∃ less, fuel = less + 1 := ⟨fuel - 1, by omega⟩
      rw [hwrite, points_cons, points_append, List.cons_append, List.append_assoc]
      cases items with
      | nil => rfl
      | cons value later =>
          have hitems := takeItems_writeItems hplain ih (show _ < fuel by omega) rest
          obtain ⟨c, more, hvalue, hspace, hend, -⟩ :=
            (hplain value List.mem_cons_self).exists_write
          obtain ⟨others, hothers⟩ := exists_writeItems value later
          rw [hothers, hvalue, points_cons] at hitems
          rw [hothers, hvalue, points_cons]
          exact takeValue_items hspace hend hitems
  | @object room members hnodup hnames hplain ih =>
      intro fuel rest hfuel
      have hwrite : write (.object members) = '\x7b' :: (writeMembers members ++ ['\x7d']) := rfl
      rw [hwrite, List.length_cons, List.length_append, List.length_singleton] at hfuel
      obtain ⟨fuel, rfl⟩ : ∃ less, fuel = less + 1 := ⟨fuel - 1, by omega⟩
      rw [hwrite, points_cons, points_append, List.cons_append, List.append_assoc]
      cases members with
      | nil => rfl
      | cons entry later =>
          have hmembers :=
            takeMembers_writeMembers hnames hplain ih (show _ < fuel by omega) [] rest
          rw [Entries.foldl_insert_of_fresh hnodup, List.nil_append] at hmembers
          obtain ⟨more, hmore⟩ := exists_writeMembers entry later
          rw [hmore] at hmembers ⊢
          exact takeValue_members rfl (by decide) hmembers

/-- A map of texts as members of an object. -/
def stringEntries (entries : List (CodeText × CodeText)) : List (CodeText × Json) :=
  entries.map fun (key, value) => (key, string value)

theorem keys_stringEntries (entries : List (CodeText × CodeText)) :
    Entries.keys (stringEntries entries) = Entries.keys entries := by
  rw [Entries.keys, stringEntries, List.map_map]
  rfl

/-! ## Documents -/

/-- A document is read like the value that it begins with, if nothing follows that. -/
theorem read_render {nesting : Nesting} {value : Json} {c : Char} {text : List Char}
    {result : Except Stop Json} (hwrite : write value = c :: text)
    (hspace : isJsonSpace (.char c) = false) (hmark : CodePoint.char c ≠ .char '\ufeff')
    (h : ∀ fuel, text.length + 2 ≤ fuel →
      takeValue fuel nesting.limit (points (c :: text)) =
        result.map fun value => (value, [])) :
    Json.read nesting (render value) = result.mapError (Stop.locate (points (c :: text))) := by
  have hdocument : takeDocument nesting (points (c :: text)) = result := by
    unfold takeDocument
    split
    · rename_i heq
      exact absurd (List.cons.inj heq).1 hmark
    · rw [points_cons, skipSpace_cons hspace, ← points_cons, h _ (by simp; omega)]
      cases result with
      | ok value => rfl
      | error stop => rfl
  rw [Json.read, CodeText.ofString, render, String.toList_ofList, hwrite, hdocument]

theorem read_render_plain {nesting : Nesting} {value : Json} (h : Plain nesting.limit value) :
    Json.read nesting (render value) = .ok value := by
  obtain ⟨c, text, hwrite, hspace, -, hmark⟩ := h.exists_write
  apply @read_render _ _ _ _ (.ok value) hwrite hspace hmark
  intro fuel hfuel
  have hread := h.readsBack fuel [] (by rw [hwrite, List.length_cons]; omega)
  rwa [List.append_nil, hwrite] at hread

/-- Room for ten arrays or objects inside each other. -/
def Sample.nesting : Nesting where
  limit := 10
  pos := by decide

theorem Plain.of_pos {nesting : Nesting} {value : Json} (h : ∀ room, Plain (room + 1) value) :
    Plain nesting.limit value := by
  rw [← Nat.sub_add_cancel nesting.pos]
  exact h (nesting.limit - 1)

theorem read_render_strings (nesting : Nesting) {values : List CodeText}
    (h : ∀ text ∈ values, HasChars text) :
    Json.read nesting (strings values).render = .ok (strings values) := by
  apply read_render_plain
  apply Plain.of_pos
  refine fun room => .array fun item hmem => ?_
  obtain ⟨text, htext, rfl⟩ := List.mem_map.mp hmem
  exact .string (h text htext)

theorem read_render_stringMembers (nesting : Nesting) {entries : List (CodeText × CodeText)}
    (hnodup : (Entries.keys entries).Nodup)
    (h : ∀ entry ∈ entries, HasChars entry.1 ∧ HasChars entry.2) :
    Json.read nesting (stringMembers entries).render = .ok (stringMembers entries) := by
  apply read_render_plain
  apply Plain.of_pos
  intro room
  have hnames : (Entries.keys (stringEntries entries)).Nodup := by rwa [keys_stringEntries]
  refine .object hnames (fun member hmem => ?_) fun member hmem => ?_
  · obtain ⟨entry, hentry, rfl⟩ := List.mem_map.mp hmem
    exact (h entry hentry).1
  · obtain ⟨entry, hentry, rfl⟩ := List.mem_map.mp hmem
    exact .string (h entry hentry).2

theorem takeValue_of_digit {c : Char} (hc : c.isDigit = true) (fuel room : Nat)
    (rest : List CodePoint) :
    takeValue (fuel + 1) room (.char c :: rest) = takeScalar (.char c :: rest) := by
  rw [takeValue]
  all_goals
    intros
    rename_i heq
    exact absurd (List.cons.inj heq).1 (ne_of_isDigit hc rfl)

theorem write_natural (number : Nat) : write (integer number) = Nat.toDigits 10 number :=
  Nat.toList_repr

theorem read_render_natural (nesting : Nesting) (number : Nat) :
    Json.read nesting (integer number).render =
      if number < 10 ^ digitLimit then .ok (integer number) else .error .integerTooLong := by
  obtain ⟨c, rest, heq, hc⟩ := exists_toDigits number
  have hscalar := takeScalar_toDigits number
  have hlength := @Nat.length_toDigits_le_iff 10 number digitLimit (by decide) (by decide)
  rw [heq] at hscalar hlength
  have hne (other : Char) (hother : other.isDigit = false) : c ≠ other :=
    fun heq => ne_of_isDigit hc hother (congrArg CodePoint.char heq)
  have hspace : isJsonSpace (.char c) = false := by
    simp only [isJsonSpace, Bool.or_eq_false_iff, beq_eq_false_iff_ne]
    exact ⟨⟨⟨hne ' ' rfl, hne '\t' rfl⟩, hne '\n' rfl⟩, hne '\r' rfl⟩
  have hmark : CodePoint.char c ≠ .char '\ufeff' := ne_of_isDigit hc rfl
  by_cases hshort : number < 10 ^ digitLimit
  · rw [if_pos hshort]
    apply @read_render _ _ _ _ (.ok (integer number)) ((write_natural number).trans heq) hspace
      hmark
    intro fuel hfuel
    obtain ⟨fuel, rfl⟩ : ∃ less, fuel = less + 1 := ⟨fuel - 1, by omega⟩
    rw [points_cons, takeValue_of_digit hc, ← points_cons, hscalar,
      if_neg (Nat.not_lt.mpr (hlength.mpr hshort))]
    rfl
  · rw [if_neg hshort]
    apply @read_render _ _ _ _ (.error .integerTooLong) ((write_natural number).trans heq) hspace
      hmark
    intro fuel hfuel
    obtain ⟨fuel, rfl⟩ : ∃ less, fuel = less + 1 := ⟨fuel - 1, by omega⟩
    rw [points_cons, takeValue_of_digit hc, ← points_cons, hscalar,
      if_pos (Nat.not_le.mp fun hle => hshort (hlength.mp hle))]
    rfl

end OrcConversion.Json
