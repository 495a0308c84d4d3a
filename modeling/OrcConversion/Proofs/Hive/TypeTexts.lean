import OrcConversion.Proofs.Hive.Shapes
import OrcConversion.Proofs.Text.Joining

/-! The text of a Hive type has one shape only. -/

namespace OrcConversion.Hive

open Arrow Text

/-! ## First words -/

/-- How the text of a type begins. -/
inductive Opening where
  | primitive (word : Primitive)
  | decimal
  | array
  | map
  | struct
deriving DecidableEq

def Opening.text : Opening → String
  | primitive word => word.text
  | decimal => "decimal"
  | array => "array"
  | map => "map"
  | struct => "struct"

def Opening.all : List Opening :=
  [.decimal, .array, .map, .struct, .primitive .void, .primitive .boolean, .primitive .tinyint,
    .primitive .smallint, .primitive .int, .primitive .bigint, .primitive .float,
    .primitive .double, .primitive .string, .primitive .binary, .primitive .date,
    .primitive .timestamp]

theorem Opening.mem_all (opening : Opening) : opening ∈ all := by
  cases opening with
  | primitive word => cases word <;> decide
  | _ => decide

theorem Opening.text_injective : Function.Injective text := by
  have hall : ∀ left ∈ all, ∀ right ∈ all, left.text = right.text → left = right := by decide
  exact fun left right => hall left left.mem_all right right.mem_all

theorem Opening.isLower_of_mem {opening : Opening} {c : Char} (h : c ∈ opening.text.toList) :
    c.isLower = true := by
  have hall : ∀ opening ∈ all, opening.text.toList.all Char.isLower = true := by decide
  exact List.all_eq_true.mp (hall opening opening.mem_all) c h

def Shape.opening : Shape → Opening
  | primitive word => .primitive word
  | decimal _ _ => .decimal
  | array _ => .array
  | map _ _ => .map
  | struct _ => .struct

/-- A text that does not go on with a letter of a word. -/
def Stops (rest : List Char) : Prop :=
  rest.takeWhile Char.isLower = []

theorem stops_cons {c : Char} {rest : List Char} (h : c.isLower = false) : Stops (c :: rest) := by
  rw [Stops, List.takeWhile_cons, h]
  rfl

/-! ## What follows the first word -/

def Members.text (members : Members) : String :=
  ",".intercalate members.texts

/-- What stands behind a member: the other members behind a comma, or the end of the struct. -/
def Members.behind (rest : List Char) : Members → List Char
  | nil => '>' :: rest
  | cons name shape others => ',' :: ((cons name shape others).text.toList ++ '>' :: rest)

section

variable {left right : Members} {rest more : List Char}

theorem Members.text_cons (name : String) (shape : Shape) (others : Members) (rest : List Char) :
    (cons name shape others).text.toList ++ '>' :: rest =
      name.toList ++ ':' :: (shape.text.toList ++ others.behind rest) := by
  cases others with
  | nil => simp [text, texts, behind]
  | cons next shape others => simp [text, texts, behind]

theorem Members.behind_inj (h : left.behind rest = right.behind more) :
    left.text.toList ++ '>' :: rest = right.text.toList ++ '>' :: more := by
  cases left with
  | nil =>
      cases right with
      | nil => exact h
      | cons name shape others => cases (List.cons.inj h).1
  | cons name shape others =>
      cases right with
      | nil => cases (List.cons.inj h).1
      | cons name shape others => exact (List.cons.inj h).2

theorem Members.stops_behind (members : Members) (rest : List Char) :
    Stops (members.behind rest) := by
  cases members <;> exact stops_cons rfl

end

/-- What follows the first word of a text. -/
def Shape.inner : Shape → List Char
  | primitive _ => []
  | decimal precision scale =>
      '(' :: ((toString precision).toList ++ ',' :: ((toString scale).toList ++ [')']))
  | array item => '<' :: (item.text.toList ++ ['>'])
  | map key item => '<' :: (key.text.toList ++ ',' :: (item.text.toList ++ ['>']))
  | struct members => '<' :: (members.text.toList ++ ['>'])

theorem Shape.toList_text (shape : Shape) :
    shape.text.toList = shape.opening.text.toList ++ shape.inner := by
  cases shape <;> simp [text, opening, Opening.text, inner, Members.text]

theorem Shape.stops_inner (shape : Shape) {rest : List Char} (h : Stops rest) :
    Stops (shape.inner ++ rest) := by
  cases shape with
  | primitive => exact h
  | decimal | array | map | struct => exact stops_cons rfl

theorem Shape.takeWhile_text (shape : Shape) {rest : List Char} (h : Stops rest) :
    (shape.text.toList ++ rest).takeWhile Char.isLower = shape.opening.text.toList := by
  rw [shape.toList_text, List.append_assoc,
    List.takeWhile_append_of_pos fun c => Opening.isLower_of_mem, shape.stops_inner h,
    List.append_nil]

theorem Shape.opening_inj {left right : Shape} {rest more : List Char} (hrest : Stops rest)
    (hmore : Stops more) (h : left.text.toList ++ rest = right.text.toList ++ more) :
    left.opening = right.opening ∧ left.inner ++ rest = right.inner ++ more := by
  have hword := left.takeWhile_text hrest
  rw [h, right.takeWhile_text hmore] at hword
  have hopening := Opening.text_injective (String.toList_injective hword.symm)
  refine ⟨hopening, ?_⟩
  rw [left.toList_text, right.toList_text, List.append_assoc, List.append_assoc, hopening] at h
  exact List.append_cancel_left h

/-! ## Reading -/

/-- A member does not begin like the end of a struct. -/
theorem PlainName.ne_close {name : String} (h : PlainName name) (chars rest : List Char) :
    name.toList ++ ':' :: chars ≠ '>' :: rest := by
  have hfree : '>' ∉ name.toList := h '>' (by simp)
  cases hname : name.toList with
  | nil => exact fun heq => absurd (List.cons.inj heq).1 (by decide)
  | cons c text =>
      rintro heq
      apply hfree
      rw [hname, (List.cons.inj heq).1]
      exact List.mem_cons_self

theorem decimal_cancel {precision scale otherPrecision otherScale : Int} {rest more : List Char}
    (h : (Shape.decimal precision scale).inner ++ rest =
      (Shape.decimal otherPrecision otherScale).inner ++ more) :
    precision = otherPrecision ∧ scale = otherScale ∧ rest = more := by
  have hcomma : ∀ number : Int, ',' ∉ (toString number).toList :=
    not_mem_toString_int (by decide) (by decide)
  have hclose : ∀ number : Int, ')' ∉ (toString number).toList :=
    not_mem_toString_int (by decide) (by decide)
  simp only [Shape.inner, List.cons_append, List.append_assoc, List.nil_append] at h
  obtain ⟨hprecision, h⟩ := append_separator_inj (hcomma _) (hcomma _) (List.cons.inj h).2
  obtain ⟨hscale, hrest⟩ := append_separator_inj (hclose _) (hclose _) h
  exact ⟨toString_int_inj hprecision, toString_int_inj hscale, hrest⟩

mutual

/-- Texts that are equal with what is behind them are equal by themselves, and so are their
shapes. -/
theorem Shape.cancel : ∀ (left right : Shape) {rest more : List Char}, left.Plain → right.Plain →
    Stops rest → Stops more → left.text.toList ++ rest = right.text.toList ++ more →
    left = right ∧ rest = more
  | left, right, rest, more, hleft, hright, hrest, hmore, h => by
      obtain ⟨hopening, hinner⟩ := Shape.opening_inj hrest hmore h
      cases left with
      | primitive word =>
          cases right with
          | primitive other =>
              cases hopening
              exact ⟨rfl, hinner⟩
          | _ => cases hopening
      | decimal precision scale =>
          cases right with
          | decimal =>
              obtain ⟨rfl, rfl, hrest⟩ := decimal_cancel hinner
              exact ⟨rfl, hrest⟩
          | _ => cases hopening
      | array item =>
          cases right with
          | array other =>
              simp only [Shape.inner, List.cons_append, List.append_assoc] at hinner
              obtain ⟨rfl, hclose⟩ := Shape.cancel item other hleft hright (stops_cons rfl)
                (stops_cons rfl) (List.cons.inj hinner).2
              exact ⟨rfl, (List.cons.inj hclose).2⟩
          | _ => cases hopening
      | map key item =>
          cases right with
          | map otherKey otherItem =>
              simp only [Shape.inner, List.cons_append, List.append_assoc] at hinner
              obtain ⟨rfl, hitem⟩ := Shape.cancel key otherKey hleft.1 hright.1 (stops_cons rfl)
                (stops_cons rfl) (List.cons.inj hinner).2
              obtain ⟨rfl, hclose⟩ := Shape.cancel item otherItem hleft.2 hright.2 (stops_cons rfl)
                (stops_cons rfl) (List.cons.inj hitem).2
              exact ⟨rfl, (List.cons.inj hclose).2⟩
          | _ => cases hopening
      | struct members =>
          cases right with
          | struct others =>
              simp only [Shape.inner, List.cons_append, List.append_assoc] at hinner
              obtain ⟨rfl, hclose⟩ := Members.cancel members others hleft hright
                (List.cons.inj hinner).2
              exact ⟨rfl, hclose⟩
          | _ => cases hopening

theorem Members.cancel : ∀ (left right : Members) {rest more : List Char}, left.Plain →
    right.Plain → left.text.toList ++ '>' :: rest = right.text.toList ++ '>' :: more →
    left = right ∧ rest = more
  | .nil, .nil, rest, more, _, _, h => ⟨rfl, (List.cons.inj h).2⟩
  | .nil, .cons name shape others, rest, more, _, hright, h => by
      rw [Members.text_cons] at h
      exact absurd h.symm (hright.1.ne_close _ rest)
  | .cons name shape others, .nil, rest, more, hleft, _, h => by
      rw [Members.text_cons] at h
      exact absurd h (hleft.1.ne_close _ more)
  | .cons name shape others, .cons other next following, rest, more, hleft, hright, h => by
      obtain ⟨hname, hshape, hothers⟩ := hleft
      obtain ⟨hother, hnext, hrest⟩ := hright
      rw [Members.text_cons, Members.text_cons] at h
      obtain ⟨hsame, hbehind⟩ := append_separator_inj (hname ':' (by simp)) (hother ':' (by simp)) h
      obtain ⟨rfl, hmembers⟩ := Shape.cancel shape next hshape hnext (others.stops_behind rest)
        (following.stops_behind more) hbehind
      obtain ⟨rfl, hclose⟩ := Members.cancel others following hothers hrest
        (Members.behind_inj hmembers)
      exact ⟨by rw [String.toList_injective hsame], hclose⟩

end

theorem Shape.text_inj {left right : Shape} (hleft : left.Plain) (hright : right.Plain)
    (h : left.text = right.text) : left = right := by
  have hnil : Stops [] := rfl
  exact (Shape.cancel left right hleft hright hnil hnil (by rw [h])).1

/-- Of two types that have Hive types, and whose structs have plain names, the Hive types are the
same text exactly if the shapes are the same. -/
theorem typeOf_eq_iff_shape_eq {left right : DataType} {leftText rightText : String}
    (hleft : typeOf left = .ok leftText) (hright : typeOf right = .ok rightText)
    (hleftNames : PlainlyNamed left) (hrightNames : PlainlyNamed right) :
    ∃ leftShape rightShape, shape? left = some leftShape ∧ shape? right = some rightShape ∧
      (leftText = rightText ↔ leftShape = rightShape) := by
  obtain ⟨leftShape, hleftShape, rfl⟩ := exists_shape_of_typeOf hleft
  obtain ⟨rightShape, hrightShape, rfl⟩ := exists_shape_of_typeOf hright
  refine ⟨leftShape, rightShape, hleftShape, hrightShape, ?_, fun h => by rw [h]⟩
  exact Shape.text_inj (plain_of_shape? hleftNames hleftShape)
    (plain_of_shape? hrightNames hrightShape)

/-- Visits of each page, and their number behind them. -/
def Sample.countBehind : DataType :=
  .struct [
    .mk "visits" (.mapOf (.scalar .string) (.struct [.mk "id" (.scalar .int32) true .empty])) true
      .empty,
    .mk "count" (.scalar .int32) true .empty]

/-- Visits of each page, each with its number. -/
def Sample.countInside : DataType :=
  .struct [
    .mk "visits" (.mapOf (.scalar .string) (.struct [
      .mk "id" (.scalar .int32) true .empty, .mk "count" (.scalar .int32) true .empty])) true
      .empty]

/-- Only a bracket tells a number behind visits from a number of each visit. -/
theorem shapes_of_counted_visits :
    typeOf Sample.countBehind = .ok "struct<visits:map<string,struct<id:int>>,count:int>" ∧
    typeOf Sample.countInside = .ok "struct<visits:map<string,struct<id:int,count:int>>>" ∧
    ∃ leftShape rightShape, shape? Sample.countBehind = some leftShape ∧
      shape? Sample.countInside = some rightShape ∧
      ("struct<visits:map<string,struct<id:int>>,count:int>" =
          "struct<visits:map<string,struct<id:int,count:int>>>" ↔ leftShape = rightShape) := by
  have hbehind : PlainlyNamed Sample.countBehind := by
    simp [Sample.countBehind, DataType.mapOf, PlainName]
  have hinside : PlainlyNamed Sample.countInside := by
    simp [Sample.countInside, DataType.mapOf, PlainName]
  exact ⟨rfl, rfl, typeOf_eq_iff_shape_eq rfl rfl hbehind hinside⟩

end OrcConversion.Hive
