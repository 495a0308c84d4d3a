import Mathlib.Data.List.Forall2
import OrcConversion.Proofs.Text.Joining
import OrcConversion.Proofs.Text.Words

/-! Words of a text, told from its parts. -/

namespace OrcConversion.Text

section

variable {separator : Char → Bool} {c : Char}

/-! ## One word -/

theorem solid_trim {text : String} (h : isBlankText text = false) : Solid (trim text) :=
  ⟨fun hempty => Bool.false_ne_true (h.symm.trans (trim_eq_empty_iff.mp hempty)), trim_trim text⟩

theorem mem_of_mem_trim {text : String} {c : Char} (h : c ∈ (trim text).toList) :
    c ∈ text.toList := by
  rw [toList_trim] at h
  exact mem_of_mem_stripBy h

theorem solid_of_mem_words {text word : String} (h : word ∈ words separator text) : Solid word := by
  obtain ⟨hword, hfilled⟩ := List.mem_filter.mp h
  obtain ⟨piece, -, rfl⟩ := List.mem_map.mp hword
  constructor
  · exact bne_iff_ne.mp hfilled
  · rw [trim, String.toList_ofList, stripBy_stripBy]

theorem words_of_free {text : String} (h : ∀ c ∈ text.toList, separator c = false) :
    words separator text = if isBlankText text then [] else [trim text] := by
  have hpieces : words separator text = [trim text].filter (· != "") := by
    rw [words, List.splitOnP_eq_singleton h]
    rfl
  rw [hpieces]
  by_cases hblank : isBlankText text = true
  · rw [if_pos hblank, trim_eq_empty_iff.mpr hblank]
    rfl
  · have hfilled : trim text ≠ "" := fun hempty => hblank (trim_eq_empty_iff.mp hempty)
    rw [if_neg hblank, List.filter_eq_self, List.forall_mem_singleton]
    exact bne_iff_ne.mpr hfilled

theorem words_of_blank (hseparator : ∀ c, isBlank c = true → separator c = false) {text : String}
    (h : isBlankText text = true) : words separator text = [] := by
  rw [words_of_free fun c hc => hseparator c (List.all_eq_true.mp h c hc), if_pos h]

/-! ## Words at a separator -/

theorem splitAt_append (front back : String) (c : Char) :
    splitAt c (front ++ String.singleton c ++ back) = splitAt c front ++ splitAt c back := by
  have hchars : (front ++ String.singleton c ++ back).toList =
      front.toList ++ c :: back.toList := by
    simp
  rw [splitAt, hchars, List.splitOn_append_cons_of_beq _ _ (beq_self_eq_true c), List.map_append]
  rfl

theorem words_append_separator (front back : String) (hc : separator c = true) :
    words separator (front ++ String.singleton c ++ back) =
      words separator front ++ words separator back := by
  have hchars : (front ++ String.singleton c ++ back).toList =
      front.toList ++ c :: back.toList := by
    simp
  rw [words, hchars, List.splitOnP_append_cons _ _ hc, List.map_append, List.filter_append]
  rfl

/-- A text either holds no separator or goes on behind its first one. -/
theorem exists_first_separator (separator : Char → Bool) (text : String) :
    (∀ c ∈ text.toList, separator c = false) ∨
      ∃ front c back, text = front ++ String.singleton c ++ back ∧ separator c = true ∧
        ∀ d ∈ front.toList, separator d = false := by
  cases hfind : text.toList.find? separator with
  | none => exact .inl fun c hc => Bool.eq_false_iff.mpr (List.find?_eq_none.mp hfind c hc)
  | some c =>
      obtain ⟨hc, front, back, htext, hfront⟩ := List.find?_eq_some_iff_append.mp hfind
      refine .inr ⟨String.ofList front, c, String.ofList back, ?_, hc, ?_⟩
      · apply String.toList_injective
        simp [htext]
      · intro d hd
        rw [String.toList_ofList] at hd
        exact Bool.not_eq_eq_eq_not.mp (hfront d hd)

end

/-! ## Words of words -/

section

variable {outer inner : Char → Bool} {change : Char → Char} {text : String}

theorem map_eq_self (h : ∀ c ∈ text.toList, change c = c) : text.map change = text := by
  apply String.toList_injective
  rw [String.toList_map, List.map_congr_left h, List.map_id']

theorem words_map_of_free (hinner : ∀ c, isBlank c = true → inner c = false)
    (hchange : ∀ c, outer c = false → change c = c)
    (hfree : ∀ c ∈ text.toList, outer c = false) :
    words inner (text.map change) = (words outer text).flatMap (words inner) := by
  rw [map_eq_self fun c hc => hchange c (hfree c hc), words_of_free hfree]
  by_cases hblank : isBlankText text = true
  · rw [if_pos hblank, words_of_blank hinner hblank]
    rfl
  · rw [if_neg hblank, List.flatMap_singleton, words_trim hinner]

/-- When the outer separators become inner ones, the words are those of the outer words. -/
theorem words_map (hinner : ∀ c, isBlank c = true → inner c = false)
    (hchange : ∀ c, outer c = false → change c = c)
    (hseparator : ∀ c, outer c = true → inner (change c) = true) (text : String) :
    words inner (text.map change) = (words outer text).flatMap (words inner) := by
  induction hlength : text.length using Nat.strong_induction_on generalizing text with
  | h length ih =>
    rcases exists_first_separator outer text with hfree | ⟨front, c, back, rfl, hc, hfront⟩
    · exact words_map_of_free hinner hchange hfree
    · have hshorter : back.length < length := by
        rw [← hlength, String.length_append, String.length_append, String.length_singleton]
        omega
      have hmap : (front ++ String.singleton c ++ back).map change =
          front.map change ++ String.singleton (change c) ++ back.map change := by
        apply String.toList_injective
        simp
      rw [hmap, words_append_separator _ _ (hseparator c hc), words_append_separator _ _ hc,
        List.flatMap_append, words_map_of_free hinner hchange hfront, ih _ hshorter back rfl]

end

/-! ## Listings -/

/-- A text that is a word with blanks around it. -/
def Padded (word text : String) : Prop :=
  ∃ front back, isBlankText front = true ∧ isBlankText back = true ∧ text = front ++ word ++ back

/-- A text that is the key and the value of an entry with an equals sign between them. -/
def Assigns (entry : String × String) (text : String) : Prop :=
  ∃ key value, Padded entry.1 key ∧ Padded entry.2 value ∧ text = key ++ "=" ++ value

/-- A text that lists items between separators, in whatever way an item is written. Blank pieces may
stand anywhere among them. -/
inductive Listing {α : Type} (separator : Char → Bool) (writes : α → String → Prop) :
    List α → String → Prop
  | blank {text : String} : isBlankText text = true → Listing separator writes [] text
  | item {item : α} {text : String} : writes item text → Listing separator writes [item] text
  | blankBefore {items : List α} {front back : String} {c : Char} :
      isBlankText front = true → separator c = true → Listing separator writes items back →
      Listing separator writes items (front ++ String.singleton c ++ back)
  | itemBefore {item : α} {items : List α} {front back : String} {c : Char} :
      writes item front → separator c = true → Listing separator writes items back →
      Listing separator writes (item :: items) (front ++ String.singleton c ++ back)

section

variable {separator : Char → Bool} {word text : String}

theorem Padded.self (word : String) : Padded word word :=
  ⟨"", "", rfl, rfl, by rw [String.empty_append, String.append_empty]⟩

theorem Padded.trim_eq_of_trimmed (h : Padded word text) (htrimmed : trim word = word) :
    trim text = word := by
  obtain ⟨front, back, hfront, hback, rfl⟩ := h
  rw [isBlankText, List.all_eq_true] at hfront hback
  rw [trim, String.toList_append, String.toList_append, stripBy_append_right _ hback,
    stripBy_append_left hfront]
  exact htrimmed

theorem Padded.trim_eq (h : Padded word text) (hsolid : Solid word) : trim text = word :=
  h.trim_eq_of_trimmed hsolid.trimmed

theorem Padded.free (h : Padded word text)
    (hseparator : ∀ c, isBlank c = true → separator c = false)
    (hword : ∀ c ∈ word.toList, separator c = false) :
    ∀ c ∈ text.toList, separator c = false := by
  obtain ⟨front, back, hfront, hback, rfl⟩ := h
  rw [isBlankText, List.all_eq_true] at hfront hback
  rw [String.toList_append, String.toList_append]
  simp only [List.forall_mem_append]
  exact ⟨⟨fun c hc => hseparator c (hfront c hc), hword⟩, fun c hc => hseparator c (hback c hc)⟩

theorem Padded.not_mem {mark : Char} (h : Padded word text) (hmark : isBlank mark = false)
    (hword : mark ∉ word.toList) : mark ∉ text.toList := by
  intro hmem
  have hfree := h.free (fun _ => blank_not_separator hmark) (free_of_not_mem hword) mark hmem
  simp at hfree

theorem Padded.words_eq (h : Padded word text) (hsolid : Solid word)
    (hseparator : ∀ c, isBlank c = true → separator c = false)
    (hword : ∀ c ∈ word.toList, separator c = false) : words separator text = [word] := by
  have hfilled : ¬ isBlankText text = true := by
    rw [← trim_eq_empty_iff, h.trim_eq hsolid]
    exact hsolid.filled
  rw [words_of_free (h.free hseparator hword), if_neg hfilled, h.trim_eq hsolid]

theorem assigns_plain (entry : String × String) : Assigns entry (entry.1 ++ "=" ++ entry.2) :=
  ⟨entry.1, entry.2, .self entry.1, .self entry.2, rfl⟩

theorem Assigns.filled {entry : String × String} (h : Assigns entry text) :
    ¬ isBlankText text = true := by
  obtain ⟨key, value, -, -, rfl⟩ := h
  exact @not_isBlankText_of_mem _ '=' (by simp) (by decide)

/-- A listing has one word for each of its items, if the text of an item has just one. -/
theorem Listing.forall₂_words {α : Type} {writes reads : α → String → Prop} {items : List α}
    (h : Listing separator writes items text)
    (hseparator : ∀ c, isBlank c = true → separator c = false)
    (hword : ∀ item ∈ items, ∀ text, writes item text →
      ∃ word, words separator text = [word] ∧ reads item word) :
    List.Forall₂ reads items (words separator text) := by
  induction h with
  | blank hblank =>
      rw [words_of_blank hseparator hblank]
      exact .nil
  | item hwrites =>
      obtain ⟨word, hwords, hreads⟩ := hword _ List.mem_cons_self _ hwrites
      rw [hwords]
      exact .cons hreads .nil
  | blankBefore hblank hc _ ih =>
      rw [words_append_separator _ _ hc, words_of_blank hseparator hblank, List.nil_append]
      exact ih hword
  | itemBefore hwrites hc _ ih =>
      obtain ⟨word, hwords, hreads⟩ := hword _ List.mem_cons_self _ hwrites
      rw [words_append_separator _ _ hc, hwords, List.singleton_append]
      exact .cons hreads (ih fun item hitem => hword item (List.mem_cons_of_mem _ hitem))

end

end OrcConversion.Text
