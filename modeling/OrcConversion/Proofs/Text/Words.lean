import Mathlib.Data.List.DropRight
import OrcConversion.Text.Pieces

/-! Words of a text: a text is cut at its separators, and blanks around it are of no account. -/

namespace OrcConversion.Text

/-! ## Stripping -/

section

variable {drop : Char → Bool} {front text back : List Char}

theorem stripBy_eq_self (hhead : ∀ c, text.head? = some c → drop c = false)
    (hlast : ∀ c, text.getLast? = some c → drop c = false) : stripBy drop text = text := by
  have hfront : text.dropWhile drop = text := by
    rw [List.dropWhile_eq_self_iff]
    intro hfilled
    rw [hhead _ (List.head?_eq_getElem? ▸ List.getElem?_eq_getElem hfilled)]
    exact Bool.false_ne_true
  have hback : text.rdropWhile drop = text := by
    rw [List.rdropWhile_eq_self_iff]
    intro hfilled
    rw [hlast _ (List.getLast?_eq_some_getLast hfilled)]
    exact Bool.false_ne_true
  rw [stripBy, hfront]
  exact hback

theorem head?_dropWhile {c : Char} (h : (text.dropWhile drop).head? = some c) :
    drop c = false := by
  have := List.head?_dropWhile_not drop text
  simpa [h] using this

theorem getLast?_rdropWhile {c : Char} (h : (text.rdropWhile drop).getLast? = some c) :
    drop c = false := by
  rw [List.rdropWhile, List.getLast?_reverse] at h
  exact head?_dropWhile h

theorem getLast?_stripBy {c : Char} (h : (stripBy drop text).getLast? = some c) :
    drop c = false :=
  getLast?_rdropWhile h

theorem head?_stripBy {c : Char} (h : (stripBy drop text).head? = some c) : drop c = false := by
  obtain ⟨back, hback⟩ := List.rdropWhile_prefix drop (text.dropWhile drop)
  have hfirst : (text.dropWhile drop).head? = some c := by
    rw [← hback, List.head?_append]
    exact congrArg (·.or back.head?) h
  exact head?_dropWhile hfirst

theorem stripBy_stripBy (drop : Char → Bool) (text : List Char) :
    stripBy drop (stripBy drop text) = stripBy drop text :=
  stripBy_eq_self (fun _ => head?_stripBy) (fun _ => getLast?_stripBy)

@[simp] theorem trim_trim (text : String) : trim (trim text) = trim text := by
  rw [trim, toList_trim, stripBy_stripBy, trim]

theorem stripBy_append_left (h : ∀ c ∈ front, drop c = true) (text : List Char) :
    stripBy drop (front ++ text) = stripBy drop text := by
  rw [stripBy, stripBy, List.dropWhile_append_of_pos h]

theorem stripBy_append_right (text : List Char) (h : ∀ c ∈ back, drop c = true) :
    stripBy drop (text ++ back) = stripBy drop text := by
  rw [stripBy, stripBy, List.dropWhile_append]
  split
  · rename_i hempty
    rw [List.isEmpty_iff.mp hempty, List.dropWhile_eq_nil_iff.mpr h]
  · rw [List.reverse_append, List.dropWhile_append_of_pos]
    exact fun c hmem => h c (List.mem_reverse.mp hmem)

/-- What stripping leaves out stands at the ends. -/
theorem exists_stripBy (drop : Char → Bool) (text : List Char) :
    ∃ front back, text = front ++ stripBy drop text ++ back ∧
      (∀ c ∈ front, drop c = true) ∧ ∀ c ∈ back, drop c = true := by
  refine ⟨text.takeWhile drop, ((text.dropWhile drop).reverse.takeWhile drop).reverse, ?_, ?_, ?_⟩
  · rw [stripBy, List.append_assoc, ← List.reverse_append, List.takeWhile_append_dropWhile,
      List.reverse_reverse, List.takeWhile_append_dropWhile]
  · exact fun c hmem => List.mem_takeWhile_imp hmem
  · exact fun c hmem => List.mem_takeWhile_imp (List.mem_reverse.mp hmem)

theorem mem_of_mem_stripBy {c : Char} (h : c ∈ stripBy drop text) : c ∈ text := by
  obtain ⟨front, back, htext, -, -⟩ := exists_stripBy drop text
  rw [htext]
  exact List.mem_append_left back (List.mem_append_right front h)

theorem stripBy_eq_nil_iff : stripBy drop text = [] ↔ ∀ c ∈ text, drop c = true := by
  constructor
  · intro h
    obtain ⟨front, back, htext, hfront, hback⟩ := exists_stripBy drop text
    rw [htext, h, List.append_nil]
    exact List.forall_mem_append.mpr ⟨hfront, hback⟩
  · intro h
    rw [stripBy, List.dropWhile_eq_nil_iff.mpr h]
    rfl

theorem stripBy_dropWhile (drop : Char → Bool) (text : List Char) :
    stripBy drop (text.dropWhile drop) = stripBy drop text := by
  rw [stripBy, List.dropWhile_idempotent, stripBy]

theorem stripBy_rdropWhile (drop : Char → Bool) (text : List Char) :
    stripBy drop (text.rdropWhile drop) = stripBy drop text := by
  calc stripBy drop (text.rdropWhile drop)
    _ = stripBy drop (text.rdropWhile drop ++ text.rtakeWhile drop) :=
        (stripBy_append_right _ fun _ => List.mem_rtakeWhile_imp).symm
    _ = stripBy drop text := by rw [List.rdropWhile_append_rtakeWhile]

theorem dropWhile_append_cons {c : Char} (hc : drop c = false) (front back : List Char) :
    (front ++ c :: back).dropWhile drop = front.dropWhile drop ++ c :: back := by
  induction front with
  | nil => simp [hc]
  | cons d front ih =>
      rw [List.cons_append, List.dropWhile_cons, List.dropWhile_cons, ih]
      split <;> rfl

/-- Around a character that stays, either part is stripped at its own end. -/
theorem stripBy_append_cons {c : Char} (hc : drop c = false) (front back : List Char) :
    stripBy drop (front ++ c :: back) = front.dropWhile drop ++ c :: back.rdropWhile drop := by
  have hreverse : (front.dropWhile drop ++ c :: back).reverse =
      back.reverse ++ c :: (front.dropWhile drop).reverse := by
    simp
  rw [stripBy, dropWhile_append_cons hc, hreverse, dropWhile_append_cons hc, List.rdropWhile]
  simp

theorem trim_eq_empty_iff {text : String} : trim text = "" ↔ isBlankText text = true := by
  rw [← String.toList_eq_nil_iff, toList_trim, stripBy_eq_nil_iff, isBlankText, List.all_eq_true]

end

/-! ## Pieces -/

section

variable {separator : Char → Bool} {front back : List Char}

theorem of_mem_splitOnP {text piece : List Char} (h : piece ∈ text.splitOnP separator) :
    ∀ c ∈ piece, separator c = false ∧ c ∈ text := by
  induction text generalizing piece with
  | nil => simp_all
  | cons d rest ih =>
      have hrest : ∀ piece ∈ rest.splitOnP separator, ∀ c ∈ piece,
          separator c = false ∧ c ∈ d :: rest :=
        fun piece hpiece c hc => (ih hpiece c hc).imp_right (List.mem_cons_of_mem d)
      rw [List.splitOnP_cons_eq_if_modifyHead] at h
      split at h
      · rcases List.mem_cons.mp h with rfl | h
        · simp
        · exact hrest piece h
      · rename_i hd
        obtain ⟨first, more, heq⟩ :=
          List.exists_cons_of_ne_nil (List.splitOnP_ne_nil separator rest)
        rw [heq] at h hrest
        rcases List.mem_cons.mp h with rfl | h
        · intro c hc
          rcases List.mem_cons.mp hc with rfl | hc
          · exact ⟨Bool.eq_false_iff.mpr hd, List.mem_cons_self⟩
          · exact hrest first List.mem_cons_self c hc
        · exact hrest piece (List.mem_cons_of_mem first h)

theorem exists_piece_of_mem {text : List Char} {c : Char} (hc : c ∈ text)
    (hfree : separator c = false) : ∃ piece ∈ text.splitOnP separator, c ∈ piece := by
  induction text with
  | nil => cases hc
  | cons d rest ih =>
      obtain ⟨first, more, hrest⟩ :=
        List.exists_cons_of_ne_nil (List.splitOnP_ne_nil separator rest)
      rw [List.splitOnP_cons_eq_if_modifyHead, hrest]
      rw [hrest] at ih
      split
      · rename_i hd
        rcases List.mem_cons.mp hc with rfl | hc
        · cases hd.symm.trans hfree
        · obtain ⟨piece, hpiece, hmem⟩ := ih hc
          exact ⟨piece, List.mem_cons_of_mem [] hpiece, hmem⟩
      · rcases List.mem_cons.mp hc with rfl | hc
        · exact ⟨c :: first, List.mem_cons_self, List.mem_cons_self⟩
        · obtain ⟨piece, hpiece, hmem⟩ := ih hc
          rcases List.mem_cons.mp hpiece with rfl | hpiece
          · exact ⟨d :: piece, List.mem_cons_self, List.mem_cons_of_mem d hmem⟩
          · exact ⟨piece, List.mem_cons_of_mem _ hpiece, hmem⟩

theorem splitOnP_append_left (hfront : ∀ c ∈ front, separator c = false) (text : List Char) :
    ∃ first more, text.splitOnP separator = first :: more ∧
      (front ++ text).splitOnP separator = (front ++ first) :: more := by
  induction front with
  | nil =>
      obtain ⟨first, more, heq⟩ := List.exists_cons_of_ne_nil (List.splitOnP_ne_nil separator text)
      exact ⟨first, more, heq, heq⟩
  | cons c front ih =>
      obtain ⟨first, more, htext, hboth⟩ := ih fun d hmem => hfront d (List.mem_cons_of_mem c hmem)
      refine ⟨first, more, htext, ?_⟩
      rw [List.cons_append, List.splitOnP_cons_eq_if_modifyHead, hfront c List.mem_cons_self, hboth]
      rfl

theorem splitOnP_append_right (text : List Char) (hback : ∀ c ∈ back, separator c = false) :
    ∃ init last, text.splitOnP separator = init ++ [last] ∧
      (text ++ back).splitOnP separator = init ++ [last ++ back] := by
  induction text with
  | nil => exact ⟨[], [], rfl, List.splitOnP_eq_singleton hback⟩
  | cons c rest ih =>
      obtain ⟨init, last, hrest, hboth⟩ := ih
      rw [List.cons_append, List.splitOnP_cons_eq_if_modifyHead,
        List.splitOnP_cons_eq_if_modifyHead, hrest, hboth]
      split
      · exact ⟨[] :: init, last, rfl, rfl⟩
      · cases init with
        | nil => exact ⟨[], c :: last, rfl, rfl⟩
        | cons first init => exact ⟨(c :: first) :: init, last, rfl, rfl⟩

end

/-! ## Words -/

section

variable {separator drop : Char → Bool}

theorem map_stripBy_splitOnP_stripBy (hdrop : ∀ c, drop c = true → separator c = false)
    (text : List Char) :
    ((stripBy drop text).splitOnP separator).map (stripBy drop) =
      (text.splitOnP separator).map (stripBy drop) := by
  obtain ⟨front, back, htext, hfront, hback⟩ := exists_stripBy drop text
  obtain ⟨init, last, hbody, hright⟩ :=
    splitOnP_append_right (stripBy drop text) fun c hmem => hdrop c (hback c hmem)
  obtain ⟨first, more, hinner, hleft⟩ :=
    splitOnP_append_left (fun c hmem => hdrop c (hfront c hmem)) (stripBy drop text ++ back)
  calc ((stripBy drop text).splitOnP separator).map (stripBy drop)
    _ = (init ++ [last ++ back]).map (stripBy drop) := by
        rw [hbody, List.map_append, List.map_append, List.map_singleton, List.map_singleton,
          stripBy_append_right last hback]
    _ = (first :: more).map (stripBy drop) := by rw [← hright, hinner]
    _ = ((front ++ first) :: more).map (stripBy drop) := by
        rw [List.map_cons, List.map_cons, stripBy_append_left hfront]
    _ = (text.splitOnP separator).map (stripBy drop) := by
        rw [← hleft, ← List.append_assoc, ← htext]

theorem of_mem_words {text word : String} (h : word ∈ words separator text) :
    isBlankText word = false ∧
      ∀ c ∈ word.toList, separator c = false ∧ c ∈ text.toList := by
  obtain ⟨hword, hfilled⟩ := List.mem_filter.mp h
  obtain ⟨piece, hpiece, rfl⟩ := List.mem_map.mp hword
  rw [isBlankText, String.toList_ofList]
  constructor
  · cases hstrip : stripBy isBlank piece with
    | nil =>
        rw [hstrip] at hfilled
        exact absurd hfilled (by decide)
    | cons c rest =>
        rw [List.all_cons, head?_stripBy (congrArg List.head? hstrip), Bool.false_and]
  · exact fun c hc => of_mem_splitOnP hpiece c (mem_of_mem_stripBy hc)

theorem words_ne_nil {text : String} {c : Char} (hc : c ∈ text.toList)
    (hfree : separator c = false) (hfilled : isBlank c = false) : words separator text ≠ [] := by
  obtain ⟨piece, hpiece, hmem⟩ := exists_piece_of_mem hc hfree
  have hword : String.ofList (stripBy isBlank piece) ≠ "" := by
    intro hempty
    have hblank := stripBy_eq_nil_iff.mp (String.ofList_eq_empty_iff.mp hempty) c hmem
    cases hblank.symm.trans hfilled
  apply List.ne_nil_of_mem
  exact List.mem_filter.mpr ⟨List.mem_map_of_mem hpiece, bne_iff_ne.mpr hword⟩

theorem blank_not_separator {mark c : Char} (h : isBlank mark = false) (hc : isBlank c = true) :
    (c == mark) = false := by
  rw [beq_eq_false_iff_ne]
  rintro rfl
  cases h.symm.trans hc

theorem free_of_not_mem {mark : Char} {text : List Char} (h : mark ∉ text) :
    ∀ c ∈ text, (c == mark) = false :=
  fun _ hc => beq_eq_false_iff_ne.mpr fun heq => h (heq ▸ hc)

theorem not_isBlankText_of_mem {text : String} {c : Char} (hc : c ∈ text.toList)
    (h : isBlank c = false) : ¬ isBlankText text = true := by
  rw [isBlankText, List.all_eq_true]
  exact fun hblank => Bool.false_ne_true (h.symm.trans (hblank c hc))

/-- Blanks around a text are of no account for its words, unless they separate them. -/
theorem words_trim (hseparator : ∀ c, isBlank c = true → separator c = false) (text : String) :
    words separator (trim text) = words separator text := by
  have hwords : ∀ text : String, words separator text =
      (((text.toList.splitOnP separator).map (stripBy isBlank)).map String.ofList).filter
        (· != "") := by
    intro text
    rw [words, List.map_map]
    rfl
  rw [hwords, hwords, toList_trim, map_stripBy_splitOnP_stripBy hseparator]

end

end OrcConversion.Text
