import Pseudocode.Proofs.Json.Literal
import Pseudocode.Proofs.Json.Sound
import Pseudocode.Proofs.Text.Utf8

namespace Pseudocode.Json

open Pseudocode.Text

theorem toList_newLine (indent : Nat) :
    (newLine indent).toList = '\n' :: List.replicate (4 * indent) ' ' := by
  rw [newLine, String.toList_ofList]

/-- The items of a block behind the first one, the line with its closing bracket, and what is
left. -/
def blockTail (indent : Nat) (close : Char) (items : List (List Char)) (left : List Char) :
    List Char :=
  (items.flatMap fun item => ',' :: (newLine (indent + 1)).toList ++ item) ++
    ((newLine indent).toList ++ close :: left)

theorem intercalate_cons_eq_flatMap (sep first : List Char) (items : List (List Char)) :
    sep.intercalate (first :: items) = first ++ items.flatMap (sep ++ ·) := by
  induction items generalizing first with
  | nil => simp
  | cons item items ih =>
      rw [List.intercalate_cons_cons, ih, List.flatMap_cons, List.append_assoc, List.append_assoc]

theorem toList_enclose {opening closing : String} (close : Char) (h : closing.toList = [close])
    (indent : Nat) (first : String) (items : List String) (left : List Char) :
    (enclose opening closing indent (first :: items)).toList ++ left =
      opening.toList ++ ((newLine (indent + 1)).toList ++
        (first.toList ++ blockTail indent close (items.map String.toList) left)) := by
  simp [enclose, blockTail, intercalate_cons_eq_flatMap, h]

theorem renderItems_eq (indent : Nat) (items : List Json) :
    renderItems indent items = items.map (renderAt indent) := by
  induction items with
  | nil => rfl
  | cons item rest ih => rw [renderItems, ih, List.map_cons]

theorem renderFields_eq (indent : Nat) (fields : List (String × Json)) :
    renderFields indent fields =
      fields.map fun field => textLiteral field.1 ++ ": " ++ renderAt indent field.2 := by
  induction fields with
  | nil => rfl
  | cons field rest ih => rw [renderFields, ih, List.map_cons]

def chars (indent : Nat) (value : Json) : List Char := (renderAt indent value).toList

def fieldText (shown : Json → List Char) (field : String × Json) : List Char :=
  '"' :: (field.1.toList.flatMap textChar ++ '"' :: ':' :: ' ' :: shown field.2)

theorem chars_null (indent : Nat) : chars indent .null = "null".toList := by
  rw [chars, renderAt]

theorem chars_boolean (indent : Nat) (b : Bool) :
    chars indent (.boolean b) = (if b then "true" else "false").toList := by
  rw [chars, renderAt]

theorem chars_integer (indent : Nat) (n : Int) :
    chars indent (.integer n) = (Decimal.integer n).toList := by
  rw [chars, renderAt]

theorem chars_text (indent : Nat) (s : String) :
    chars indent (.text s) = '"' :: (s.toList.flatMap textChar ++ ['"']) := by
  rw [chars, renderAt, textLiteral, String.toList_ofList]
  rfl

theorem chars_array_nil (indent : Nat) : chars indent (.array []) = ['[', ']'] := by
  simp [chars, renderAt, renderItems, enclose]

theorem chars_object_nil (indent : Nat) : chars indent (.object []) = ['{', '}'] := by
  simp [chars, renderAt, renderFields, enclose]

theorem chars_array (indent : Nat) (first : Json) (items : List Json) (left : List Char) :
    chars indent (.array (first :: items)) ++ left =
      '[' :: ((newLine (indent + 1)).toList ++
        (chars (indent + 1) first ++
          blockTail indent ']' (items.map (chars (indent + 1))) left)) := by
  rw [chars, renderAt, renderItems_eq, List.map_cons, toList_enclose ']' rfl, List.map_map]
  rfl

theorem chars_object (indent : Nat) (first : String × Json) (fields : List (String × Json))
    (left : List Char) :
    chars indent (.object (first :: fields)) ++ left =
      '{' :: ((newLine (indent + 1)).toList ++
        (fieldText (chars (indent + 1)) first ++
          blockTail indent '}' (fields.map (fieldText (chars (indent + 1)))) left)) := by
  have text : (String.toList ∘ fun field : String × Json =>
      textLiteral field.1 ++ ": " ++ renderAt (indent + 1) field.2) =
        fieldText (chars (indent + 1)) := by
    funext field
    simp [textLiteral, fieldText, chars]
  rw [chars, renderAt, renderFields_eq, List.map_cons, toList_enclose '}' rfl, List.map_map, text,
    ← text]
  rfl

theorem blockTail_nil (indent : Nat) (close : Char) (left : List Char) :
    blockTail indent close [] left = (newLine indent).toList ++ close :: left := rfl

theorem blockTail_cons (indent : Nat) (close : Char) (item : List Char) (items : List (List Char))
    (left : List Char) :
    blockTail indent close (item :: items) left =
      ',' :: ((newLine (indent + 1)).toList ++ (item ++ blockTail indent close items left)) := by
  simp [blockTail]

theorem separated_blockTail (indent : Nat) (close : Char) (items : List (List Char))
    (left : List Char) : Separated (blockTail indent close items left) := by
  intro c hc
  cases items with
  | nil =>
      rw [blockTail_nil, toList_newLine] at hc
      cases hc
      exact .inr rfl
  | cons item items =>
      rw [blockTail_cons] at hc
      cases hc
      exact .inl rfl

theorem length_lt_blockTail (indent : Nat) (close : Char) (items : List (List Char))
    (left : List Char) : items.length < (blockTail indent close items left).length := by
  induction items with
  | nil =>
      rw [blockTail_nil, toList_newLine]
      exact Nat.succ_pos _
  | cons item items ih =>
      rw [blockTail_cons]
      simp only [List.length_append, List.length_cons]
      omega

theorem length_lt_of_mem_blockTail (indent : Nat) (close : Char) {item : List Char}
    {items : List (List Char)} (h : item ∈ items) (left : List Char) :
    item.length < (blockTail indent close items left).length := by
  induction items with
  | nil => cases h
  | cons first items ih =>
      rw [blockTail_cons]
      simp only [List.length_append, List.length_cons]
      rcases List.mem_cons.mp h with rfl | h
      · omega
      · have := ih h
        omega

theorem length_chars_item {items : List Json} {item : Json} (h : item ∈ items) (indent : Nat) :
    (chars (indent + 1) item).length < (chars indent (.array items)).length := by
  cases items with
  | nil => cases h
  | cons first items =>
      rw [← List.append_nil (chars indent (.array _)), chars_array]
      simp only [List.length_append, List.length_cons]
      rcases List.mem_cons.mp h with rfl | h
      · omega
      · have := length_lt_of_mem_blockTail indent ']'
          (List.mem_map_of_mem (f := chars (indent + 1)) h) []
        omega

theorem length_chars_field {fields : List (String × Json)} {field : String × Json}
    (h : field ∈ fields) (indent : Nat) :
    (chars (indent + 1) field.2).length < (chars indent (.object fields)).length := by
  have inside (field : String × Json) :
      (chars (indent + 1) field.2).length < (fieldText (chars (indent + 1)) field).length := by
    simp only [fieldText, List.length_append, List.length_cons]
    omega
  cases fields with
  | nil => cases h
  | cons first fields =>
      rw [← List.append_nil (chars indent (.object _)), chars_object]
      simp only [List.length_append, List.length_cons]
      have := inside field
      rcases List.mem_cons.mp h with rfl | h
      · omega
      · have := length_lt_of_mem_blockTail indent '}'
          (List.mem_map_of_mem (f := fieldText (chars (indent + 1))) h) []
        omega

theorem starts_chars {value : Json} (exact : value.isExact = true) (indent : Nat) :
    ∃ c more, chars indent value = c :: more ∧ isSpace c = false ∧ c ≠ ']' ∧ c ≠ '\uFEFF' := by
  cases value with
  | null => exact ⟨'n', _, chars_null indent, rfl, by decide, by decide⟩
  | boolean b =>
      rw [chars_boolean]
      cases b with
      | false => exact ⟨'f', _, rfl, rfl, by decide, by decide⟩
      | true => exact ⟨'t', _, rfl, rfl, by decide, by decide⟩
  | integer n =>
      rw [chars_integer]
      obtain ⟨d, ds, digit, -, ⟨-, starts⟩ | ⟨-, starts⟩⟩ := integer_starts n
      · exact ⟨'-', _, starts, rfl, by decide, by decide⟩
      · refine ⟨d, _, starts, ?_, (ne_of_isDigit digit rfl).symm, (ne_of_isDigit digit rfl).symm⟩
        simp [isSpace, (ne_of_isDigit digit _).symm]
  | number x => cases exact
  | text s => exact ⟨'"', _, chars_text indent s, rfl, by decide, by decide⟩
  | array items =>
      rw [← List.append_nil (chars indent _)]
      cases items with
      | nil => exact ⟨'[', _, by rw [chars_array_nil]; rfl, rfl, by decide, by decide⟩
      | cons first items => exact ⟨'[', _, chars_array .., rfl, by decide, by decide⟩
  | object fields =>
      rw [← List.append_nil (chars indent _)]
      cases fields with
      | nil => exact ⟨'{', _, by rw [chars_object_nil]; rfl, rfl, by decide, by decide⟩
      | cons first fields => exact ⟨'{', _, chars_object .., rfl, by decide, by decide⟩

theorem isPlain_digitChar (d : Nat) : isPlain d.digitChar = true := by
  have digits : ∀ d < 16, isPlain (Nat.digitChar d) = true := by decide
  by_cases small : d < 16
  · exact digits d small
  · rw [Nat.digitChar_eq_star.mpr (Nat.not_lt.mp small)]
    rfl

theorem isPlain_of_mem_toDigits {b n : Nat} (base : 1 < b) {c : Char} (h : c ∈ Nat.toDigits b n) :
    isPlain c = true := by
  induction n using Nat.strongRecOn with
  | ind n ih =>
      rw [Nat.toDigits_eq_if base] at h
      split at h
      · cases List.mem_singleton.mp h
        exact isPlain_digitChar n
      · next large =>
          rcases List.mem_append.mp h with h | h
          · exact ih (n / b) (Nat.div_lt_self (by omega) base) h
          · cases List.mem_singleton.mp h
            exact isPlain_digitChar _

theorem isPlain_of_mem_unitEscape {unit : Nat} {c : Char} (h : c ∈ unitEscape unit) :
    isPlain c = true := by
  simp only [unitEscape, hexadecimal, List.mem_cons, List.mem_append, List.mem_replicate] at h
  rcases h with rfl | rfl | ⟨-, rfl⟩ | h
  · rfl
  · rfl
  · rfl
  · exact isPlain_of_mem_toDigits (by decide) h

theorem isPlain_of_escaped? {l c : Char} (h : escaped? l = some c) : isPlain l = true := by
  unfold escaped? at h
  split at h <;> first | rfl | cases h

theorem isPlain_of_mem_textChar {c d : Char} (h : d ∈ textChar c) : isPlain d = true := by
  have written := charForm_textChar c
  generalize textChar c = form at written h
  cases written with
  | letter l escaped =>
      rcases List.mem_cons.mp h with rfl | h
      · rfl
      · cases List.mem_singleton.mp h
        exact isPlain_of_escaped? escaped
  | plain _ _ low high =>
      rw [List.mem_singleton.mp h]
      have notReturn : c ≠ '\r' := by
        rintro rfl
        exact absurd low (by decide)
      simp only [isPlain, Bool.and_eq_true, decide_eq_true_eq, bne_iff_ne]
      exact ⟨by omega, notReturn⟩
  | unit _ => exact isPlain_of_mem_unitEscape h
  | pair _ _ _ =>
      rcases List.mem_append.mp h with h | h
      · exact isPlain_of_mem_unitEscape h
      · exact isPlain_of_mem_unitEscape h

theorem isPlain_of_mem_newLine {indent : Nat} {c : Char} (h : c ∈ (newLine indent).toList) :
    isPlain c = true := by
  rw [toList_newLine, List.mem_cons, List.mem_replicate] at h
  rcases h with rfl | ⟨-, rfl⟩
  · rfl
  · rfl

theorem isPlain_of_mem_flatMap {s : String} {c : Char} (h : c ∈ s.toList.flatMap textChar) :
    isPlain c = true := by
  obtain ⟨d, -, hd⟩ := List.mem_flatMap.mp h
  exact isPlain_of_mem_textChar hd

theorem isPlain_blockTail {close : Char} (closing : isPlain close = true)
    {items : List (List Char)} (plain : ∀ item ∈ items, ∀ c ∈ item, isPlain c = true)
    (indent : Nat) : ∀ c ∈ blockTail indent close items [], isPlain c = true := by
  intro c hc
  simp only [blockTail, List.mem_append, List.mem_flatMap, List.mem_cons, List.not_mem_nil,
    or_false] at hc
  rcases hc with ⟨item, mem, (rfl | hc) | hc⟩ | hc | rfl
  · rfl
  · exact isPlain_of_mem_newLine hc
  · exact plain item mem c hc
  · exact isPlain_of_mem_newLine hc
  · exact closing

theorem isPlain_block {opening close : Char}
    (bounds : isPlain opening = true ∧ isPlain close = true) {first : List Char}
    {items : List (List Char)}
    (plain : ∀ item ∈ first :: items, ∀ c ∈ item, isPlain c = true) (indent : Nat) :
    ∀ c ∈ opening :: ((newLine (indent + 1)).toList ++ (first ++ blockTail indent close items [])),
      isPlain c = true := by
  intro c hc
  simp only [List.mem_cons, List.mem_append] at hc
  rcases hc with rfl | hc | hc | hc
  · exact bounds.1
  · exact isPlain_of_mem_newLine hc
  · exact plain first List.mem_cons_self c hc
  · exact isPlain_blockTail bounds.2 (fun item mem => plain item (List.mem_cons_of_mem _ mem))
      indent c hc

theorem isPlain_fieldText {shown : Json → List Char} {field : String × Json}
    (plain : ∀ c ∈ shown field.2, isPlain c = true) :
    ∀ c ∈ fieldText shown field, isPlain c = true := by
  intro c hc
  simp only [fieldText, List.mem_cons, List.mem_append] at hc
  rcases hc with rfl | hc | rfl | rfl | rfl | hc
  · rfl
  · exact isPlain_of_mem_flatMap hc
  · rfl
  · rfl
  · rfl
  · exact plain c hc

theorem isPlain_chars {value : Json} (sound : value.Sound) (exact : value.isExact = true)
    (indent : Nat) : ∀ c ∈ chars indent value, isPlain c = true := by
  induction sound generalizing indent with
  | null =>
      rw [chars_null]
      exact List.all_eq_true.mp rfl
  | boolean b =>
      rw [chars_boolean]
      cases b <;> exact List.all_eq_true.mp rfl
  | integer bound =>
      intro c hc
      rw [chars_integer, toList_integer] at hc
      rcases List.mem_append.mp hc with hc | hc
      · split at hc
        · cases List.mem_singleton.mp hc
          rfl
        · cases hc
      · exact isPlain_of_mem_toDigits (by decide) hc
  | number x => cases exact
  | text s =>
      intro c hc
      rw [chars_text, List.mem_cons, List.mem_append, List.mem_singleton] at hc
      rcases hc with rfl | hc | rfl
      · rfl
      · exact isPlain_of_mem_flatMap hc
      · rfl
  | @array items sound ih =>
      rw [isExact, itemsExact_iff] at exact
      cases items with
      | nil =>
          rw [chars_array_nil]
          exact List.all_eq_true.mp rfl
      | cons first items =>
          rw [← List.append_nil (chars indent _), chars_array]
          apply isPlain_block ⟨rfl, rfl⟩
          intro text mem
          rw [← List.map_cons] at mem
          obtain ⟨item, hitem, rfl⟩ := List.mem_map.mp mem
          exact ih item hitem (exact item hitem) (indent + 1)
  | @object fields distinct sound ih =>
      rw [isExact, fieldsExact_iff] at exact
      cases fields with
      | nil =>
          rw [chars_object_nil]
          exact List.all_eq_true.mp rfl
      | cons first fields =>
          rw [← List.append_nil (chars indent _), chars_object]
          apply isPlain_block ⟨rfl, rfl⟩
          intro text mem
          rw [← List.map_cons] at mem
          obtain ⟨field, hfield, rfl⟩ := List.mem_map.mp mem
          exact isPlain_fieldText (ih field hfield (exact field hfield) (indent + 1))

end Pseudocode.Json
