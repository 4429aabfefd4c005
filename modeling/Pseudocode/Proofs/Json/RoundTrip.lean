import Pseudocode.Proofs.Json.Layout

namespace Pseudocode.Json

open Pseudocode.Text

def Visible (cs : List Char) : Prop := ∀ c ∈ cs.head?, isSpace c = false

theorem dropWhile_of_visible {cs : List Char} (h : Visible cs) : cs.dropWhile isSpace = cs := by
  cases cs with
  | nil => rfl
  | cons c cs =>
      have hc : isSpace c = false := h c rfl
      simp [hc]

theorem skipSpace_append {blanks cs : List Char} (spaces : ∀ c ∈ blanks, isSpace c = true)
    (h : Visible cs) (place : Nat) :
    ∃ after, Rest.skipSpace ⟨place, blanks ++ cs⟩ = ⟨after, cs⟩ := by
  refine ⟨_, congrArg (Rest.mk _) ?_⟩
  rw [List.dropWhile_append_of_pos spaces, dropWhile_of_visible h]

theorem isSpace_of_mem_newLine {indent : Nat} {c : Char} (h : c ∈ (newLine indent).toList) :
    isSpace c = true := by
  rw [toList_newLine, List.mem_cons, List.mem_replicate] at h
  rcases h with rfl | ⟨-, rfl⟩
  · rfl
  · rfl

theorem skipSpace_newLine {cs : List Char} (h : Visible cs) (indent place : Nat) :
    ∃ after, Rest.skipSpace ⟨place, (newLine indent).toList ++ cs⟩ = ⟨after, cs⟩ :=
  skipSpace_append (fun _ => isSpace_of_mem_newLine) h place

theorem skipSpace_blockTail_nil (indent : Nat) (close : Char) (h : isSpace close = false)
    (left : List Char) (place : Nat) :
    ∃ after, Rest.skipSpace ⟨place, blockTail indent close [] left⟩ = ⟨after, close :: left⟩ := by
  apply skipSpace_newLine
  rintro c ⟨⟩
  exact h

theorem skipSpace_blockTail_cons (indent : Nat) (close : Char) (item : List Char)
    (items : List (List Char)) (left : List Char) (place : Nat) :
    Rest.skipSpace ⟨place, blockTail indent close (item :: items) left⟩ =
      ⟨place, ',' :: ((newLine (indent + 1)).toList ++
        (item ++ blockTail indent close items left))⟩ := by
  rw [blockTail_cons]
  rfl

/-- Reading goes well: from a text at any place a value is read, and what is left is left. -/
def Reads {α : Type} (reader : Rest → Except ReadFault (α × Rest)) (cs : List Char) (value : α)
    (left : List Char) : Prop :=
  ∀ place, ∃ after, reader ⟨place, cs⟩ = .ok (value, ⟨after, left⟩)

/-- A text that is read as a value in front of anything that may stand behind a value. It starts
neither with white space nor with the bracket that closes an array. -/
structure Denotes (reader : Rest → Except ReadFault (Json × Rest)) (cs : List Char) (value : Json) :
    Prop where
  starts : ∃ c more, cs = c :: more ∧ isSpace c = false ∧ c ≠ ']'
  reads : ∀ left, Separated left → Reads reader (cs ++ left) value left

variable {reader : Rest → Except ReadFault (Json × Rest)} {shown : Json → List Char}

theorem Denotes.visible {cs : List Char} {value : Json} (h : Denotes reader cs value)
    (left : List Char) : Visible (cs ++ left) := by
  obtain ⟨c, more, rfl, space, -⟩ := h.starts
  rintro d ⟨⟩
  exact space

theorem Denotes.head_ne {cs : List Char} {value : Json} (h : Denotes reader cs value)
    (left : List Char) : (cs ++ left).head? ≠ some ']' := by
  obtain ⟨c, more, rfl, -, notClosing⟩ := h.starts
  rintro ⟨⟩
  exact notClosing rfl

theorem readItems_last {bound place : Nat} {done : List Json} {rest after : Rest} {item : Json}
    {left : List Char} (h : reader rest = .ok (item, after))
    (close : after.skipSpace = ⟨place, ']' :: left⟩) :
    readItems reader (bound + 1) done rest =
      .ok (.array (item :: done).reverse, ⟨place + 1, left⟩) := by
  simp only [readItems, h, bind, Except.bind, close]
  rfl

theorem readItems_next {bound place : Nat} {done : List Json} {rest after : Rest} {item : Json}
    {more : List Char} (h : reader rest = .ok (item, after))
    (comma : after.skipSpace = ⟨place, ',' :: more⟩) :
    readItems reader (bound + 1) done rest =
      readItems reader bound (item :: done) (Rest.skipSpace ⟨place + 1, more⟩) := by
  simp only [readItems, h, bind, Except.bind, comma]
  rfl

theorem reads_items (indent : Nat) {first : Json} {items : List Json}
    (denotes : ∀ item ∈ first :: items, Denotes reader (shown item) item) {bound : Nat}
    (enough : items.length < bound) (done : List Json) (left : List Char) :
    Reads (readItems reader bound done)
      (shown first ++ blockTail indent ']' (items.map shown) left)
      (.array (done.reverse ++ first :: items)) left := by
  intro place
  induction items generalizing first bound done place with
  | nil =>
      obtain ⟨bound, rfl⟩ := Nat.exists_eq_succ_of_ne_zero (Nat.ne_of_gt enough)
      obtain ⟨after, h⟩ := (denotes first List.mem_cons_self).reads _
        (separated_blockTail indent ']' [] left) place
      obtain ⟨close, hclose⟩ := skipSpace_blockTail_nil indent ']' rfl left after
      refine ⟨close + 1, ?_⟩
      rw [List.map_nil, readItems_last h hclose, List.reverse_cons]
  | cons item items ih =>
      obtain ⟨bound, rfl⟩ := Nat.exists_eq_succ_of_ne_zero (Nat.ne_of_gt (Nat.zero_lt_of_lt enough))
      obtain ⟨after, h⟩ := (denotes first List.mem_cons_self).reads _
        (separated_blockTail indent ']' ((item :: items).map shown) left) place
      have hcomma := skipSpace_blockTail_cons indent ']' (shown item) (items.map shown) left after
      have next := denotes item (List.mem_cons_of_mem _ List.mem_cons_self)
      obtain ⟨start, hstart⟩ :=
        skipSpace_newLine (next.visible (blockTail indent ']' (items.map shown) left))
          (indent + 1) (after + 1)
      obtain ⟨close, hclose⟩ :=
        ih (fun item h => denotes item (List.mem_cons_of_mem _ h)) (Nat.lt_of_succ_lt_succ enough)
          (first :: done) start
      refine ⟨close, ?_⟩
      rw [readItems_next h hcomma, hstart, hclose, List.reverse_cons, List.append_assoc,
        List.singleton_append]

theorem readFields_last {bound start colon place : Nat} {done : List (String × Json)}
    {key : String} {item : Json} {after : Rest} {more cs left : List Char}
    (named : readText start (start + 1) 0 [] more = .ok (key, ⟨colon, ':' :: cs⟩))
    (h : reader (Rest.skipSpace ⟨colon + 1, cs⟩) = .ok (item, after))
    (close : after.skipSpace = ⟨place, '}' :: left⟩) :
    readFields reader (bound + 1) done ⟨start, '"' :: more⟩ =
      .ok (.object (putField key item done), ⟨place + 1, left⟩) := by
  have behind : Rest.skipSpace ⟨colon, ':' :: cs⟩ = ⟨colon, ':' :: cs⟩ := rfl
  have skipped : Rest.skip ⟨colon, ':' :: cs⟩ 1 = ⟨colon + 1, cs⟩ := rfl
  simp only [readFields, named, bind, Except.bind, behind, skipped, h, close]
  rfl

theorem readFields_next {bound start colon place : Nat} {done : List (String × Json)}
    {key : String} {item : Json} {after : Rest} {more cs further : List Char}
    (named : readText start (start + 1) 0 [] more = .ok (key, ⟨colon, ':' :: cs⟩))
    (h : reader (Rest.skipSpace ⟨colon + 1, cs⟩) = .ok (item, after))
    (comma : after.skipSpace = ⟨place, ',' :: further⟩) :
    readFields reader (bound + 1) done ⟨start, '"' :: more⟩ =
      readFields reader bound (putField key item done) (Rest.skipSpace ⟨place + 1, further⟩) := by
  have behind : Rest.skipSpace ⟨colon, ':' :: cs⟩ = ⟨colon, ':' :: cs⟩ := rfl
  have skipped : Rest.skip ⟨colon, ':' :: cs⟩ 1 = ⟨colon + 1, cs⟩ := rfl
  simp only [readFields, named, bind, Except.bind, behind, skipped, h, comma]
  rfl

theorem putField_of_new {key : String} {value : Json} {fields : List (String × Json)}
    (h : key ∉ fields.map (·.1)) : putField key value fields = fields ++ [(key, value)] := by
  induction fields with
  | nil => rfl
  | cons field rest ih =>
      rw [List.map_cons, List.mem_cons, not_or] at h
      have differs : (field.1 == key) = false := beq_eq_false_iff_ne.mpr (Ne.symm h.1)
      rw [putField, differs, ih h.2]
      rfl

theorem putField_of_distinct {field : String × Json} {done fields : List (String × Json)}
    (distinct : ((done ++ field :: fields).map (·.1)).Nodup) :
    putField field.1 field.2 done = done ++ [field] := by
  apply putField_of_new
  intro mem
  rw [List.map_append, List.nodup_append] at distinct
  exact distinct.2.2 _ mem _ List.mem_cons_self rfl

theorem visible_fieldText (shown : Json → List Char) (field : String × Json) (left : List Char) :
    Visible (fieldText shown field ++ left) := by
  rintro c ⟨⟩
  rfl

theorem reads_field {field : String × Json} (denotes : Denotes reader (shown field.2) field.2)
    {left : List Char} (h : Separated left) (start : Nat) :
    ∃ colon more cs after, fieldText shown field ++ left = '"' :: more ∧
      readText start (start + 1) 0 [] more = .ok (field.1, ⟨colon, ':' :: cs⟩) ∧
      reader (Rest.skipSpace ⟨colon + 1, cs⟩) = .ok (field.2, ⟨after, left⟩) := by
  obtain ⟨colon, named⟩ :=
    readText_literal start (start + 1) field.1 (':' :: ' ' :: (shown field.2 ++ left))
  have space : ∀ c ∈ [' '], isSpace c = true := List.all_eq_true.mp rfl
  obtain ⟨place, hplace⟩ := skipSpace_append space (denotes.visible left) (colon + 1)
  obtain ⟨after, hafter⟩ := denotes.reads left h place
  refine ⟨colon, _, _, after, ?_, named, ?_⟩
  · simp [fieldText]
  · rw [← hafter, ← hplace]
    rfl

theorem reads_fields (indent : Nat) {first : String × Json} {fields done : List (String × Json)}
    (denotes : ∀ field ∈ first :: fields, Denotes reader (shown field.2) field.2)
    (distinct : ((done ++ first :: fields).map (·.1)).Nodup) {bound : Nat}
    (enough : fields.length < bound) (left : List Char) :
    Reads (readFields reader bound done)
      (fieldText shown first ++ blockTail indent '}' (fields.map (fieldText shown)) left)
      (.object (done ++ first :: fields)) left := by
  intro place
  induction fields generalizing first done bound place with
  | nil =>
      obtain ⟨bound, rfl⟩ := Nat.exists_eq_succ_of_ne_zero (Nat.ne_of_gt enough)
      obtain ⟨colon, more, cs, after, text, named, h⟩ :=
        reads_field (denotes first List.mem_cons_self) (separated_blockTail indent '}' [] left)
          place
      obtain ⟨close, hclose⟩ := skipSpace_blockTail_nil indent '}' rfl left after
      refine ⟨close + 1, ?_⟩
      rw [List.map_nil, text, readFields_last named h hclose, putField_of_distinct distinct]
  | cons field fields ih =>
      obtain ⟨bound, rfl⟩ :=
        Nat.exists_eq_succ_of_ne_zero (Nat.ne_of_gt (Nat.zero_lt_of_lt enough))
      obtain ⟨colon, more, cs, after, text, named, h⟩ :=
        reads_field (denotes first List.mem_cons_self)
          (separated_blockTail indent '}' ((field :: fields).map (fieldText shown)) left) place
      have comma := skipSpace_blockTail_cons indent '}' (fieldText shown field)
        (fields.map (fieldText shown)) left after
      obtain ⟨start, hstart⟩ :=
        skipSpace_newLine
          (visible_fieldText shown field
            (blockTail indent '}' (fields.map (fieldText shown)) left))
          (indent + 1) (after + 1)
      have regrouped : done ++ first :: field :: fields = done ++ [first] ++ field :: fields := by
        rw [List.append_assoc, List.singleton_append]
      obtain ⟨close, hclose⟩ :=
        ih (fun field h => denotes field (List.mem_cons_of_mem _ h)) (regrouped ▸ distinct)
          (Nat.lt_of_succ_lt_succ enough) start
      refine ⟨close, ?_⟩
      rw [text, readFields_next named h comma, hstart, putField_of_distinct distinct, hclose,
        regrouped]

theorem readValue_text (depth : Nat) (s : String) (left : List Char) :
    Reads (readValue (depth + 1)) ('"' :: (s.toList.flatMap textChar ++ '"' :: left)) (.text s)
      left := by
  intro place
  obtain ⟨after, h⟩ := readText_literal place (place + 1) s left
  refine ⟨after, ?_⟩
  simp only [readValue, h, bind, Except.bind]

theorem readValue_scalar (depth place : Nat) {c : Char} {cs : List Char} (quote : c ≠ '"')
    (bracket : c ≠ '[') (brace : c ≠ '{') :
    readValue (depth + 1) ⟨place, c :: cs⟩ = readScalar ⟨place, c :: cs⟩ := by
  rw [readValue]
  dsimp only
  split
  · next h => cases h
  · next h => exact absurd (List.cons.inj h).1 quote
  · next h => exact absurd (List.cons.inj h).1 bracket
  · next h => exact absurd (List.cons.inj h).1 brace
  · rfl

theorem readScalar_number {rest : Rest}
    (h : ∀ word ∈ wordValues, ¬word.1.toList <+: rest.chars) :
    readScalar rest = readNumber rest := by
  have none : wordValues.find? (fun word => word.1.toList.isPrefixOf rest.chars) = none :=
    List.find?_eq_none.mpr fun word mem => by simpa using h word mem
  rw [readScalar, none]

theorem readValue_integer (depth : Nat) {n : Int} (bound : n.natAbs < 10 ^ integerDigits)
    {left : List Char} (h : Separated left) :
    Reads (readValue (depth + 1)) ((Decimal.integer n).toList ++ left) (.integer n) left := by
  intro place
  obtain ⟨after, hafter⟩ := readNumber_integer bound place h
  refine ⟨after, ?_⟩
  rw [← hafter]
  obtain ⟨d, ds, digit, -, ⟨-, starts⟩ | ⟨-, starts⟩⟩ := integer_starts n
  · rw [starts, List.cons_append, readValue_scalar depth place (by decide) (by decide) (by decide)]
    apply readScalar_number
    simp [wordValues, ne_of_isDigit digit]
  · rw [starts, List.cons_append,
      readValue_scalar depth place (ne_of_isDigit digit rfl).symm (ne_of_isDigit digit rfl).symm
        (ne_of_isDigit digit rfl).symm]
    apply readScalar_number
    simp [wordValues, ne_of_isDigit digit]

theorem readValue_array (depth : Nat) {place start : Nat} {cs inside : List Char}
    (h : Rest.skipSpace ⟨place + 1, cs⟩ = ⟨start, inside⟩) (nonempty : inside.head? ≠ some ']') :
    readValue (depth + 1) ⟨place, '[' :: cs⟩ =
      readItems (readValue depth) (inside.length + 1) [] ⟨start, inside⟩ := by
  have skipped : Rest.skip ⟨place, '[' :: cs⟩ 1 = ⟨place + 1, cs⟩ := rfl
  rw [readValue]
  simp only [skipped, h]
  split
  · exact absurd rfl nonempty
  · rfl

theorem readValue_object (depth : Nat) {place start : Nat} {cs inside : List Char}
    (h : Rest.skipSpace ⟨place + 1, cs⟩ = ⟨start, inside⟩) (nonempty : inside.head? ≠ some '}') :
    readValue (depth + 1) ⟨place, '{' :: cs⟩ =
      readFields (readValue depth) (inside.length + 1) [] ⟨start, inside⟩ := by
  have skipped : Rest.skip ⟨place, '{' :: cs⟩ 1 = ⟨place + 1, cs⟩ := rfl
  rw [readValue]
  simp only [skipped, h]
  split
  · exact absurd rfl nonempty
  · rfl

theorem reads_array (depth indent : Nat) {items : List Json}
    (denotes : ∀ item ∈ items, Denotes (readValue depth) (chars (indent + 1) item) item)
    (left : List Char) :
    Reads (readValue (depth + 1)) (chars indent (.array items) ++ left) (.array items) left := by
  intro place
  cases items with
  | nil => exact ⟨place + 2, by rw [chars_array_nil]; rfl⟩
  | cons first items =>
      have starting := denotes first List.mem_cons_self
      rw [chars_array]
      have enough := length_lt_blockTail indent ']' (items.map (chars (indent + 1))) left
      rw [List.length_map] at enough
      obtain ⟨start, hstart⟩ := skipSpace_newLine (starting.visible _) (indent + 1) (place + 1)
      rw [readValue_array depth hstart (starting.head_ne _)]
      apply reads_items indent denotes _ [] left
      rw [List.length_append]
      omega

theorem reads_object (depth indent : Nat) {fields : List (String × Json)}
    (distinct : (fields.map (·.1)).Nodup)
    (denotes : ∀ field ∈ fields, Denotes (readValue depth) (chars (indent + 1) field.2) field.2)
    (left : List Char) :
    Reads (readValue (depth + 1)) (chars indent (.object fields) ++ left) (.object fields)
      left := by
  intro place
  cases fields with
  | nil => exact ⟨place + 2, by rw [chars_object_nil]; rfl⟩
  | cons first fields =>
      rw [chars_object]
      have enough :=
        length_lt_blockTail indent '}' (fields.map (fieldText (chars (indent + 1)))) left
      rw [List.length_map] at enough
      obtain ⟨start, hstart⟩ :=
        skipSpace_newLine (visible_fieldText (chars (indent + 1)) first _) (indent + 1) (place + 1)
      rw [readValue_object depth hstart nofun]
      apply reads_fields indent denotes distinct _ left
      rw [List.length_append]
      omega

theorem exists_depth {value : Json} (exact : value.isExact = true) (indent depth : Nat)
    (deep : (chars indent value).length ≤ depth) : ∃ d, depth = d + 1 := by
  obtain ⟨c, more, starts, -⟩ := starts_chars exact indent
  rw [starts, List.length_cons] at deep
  exact Nat.exists_eq_succ_of_ne_zero (by omega)

theorem denotes_of_reads {value : Json} (exact : value.isExact = true) {indent depth : Nat}
    (deep : (chars indent value).length ≤ depth)
    (reads : ∀ d, (chars indent value).length ≤ d + 1 → ∀ left, Separated left →
      Reads (readValue (d + 1)) (chars indent value ++ left) value left) :
    Denotes (readValue depth) (chars indent value) value := by
  obtain ⟨d, rfl⟩ := exists_depth exact indent depth deep
  obtain ⟨c, more, starts, space, notClosing, -⟩ := starts_chars exact indent
  exact ⟨⟨c, more, starts, space, notClosing⟩, reads d deep⟩

/-- A value is read back from what it is written as, if reading may go as deep as the text is
long. -/
theorem reads_chars {value : Json} (sound : value.Sound) (exact : value.isExact = true)
    {indent depth : Nat} (deep : (chars indent value).length ≤ depth) {left : List Char}
    (h : Separated left) : Reads (readValue depth) (chars indent value ++ left) value left := by
  obtain ⟨depth, rfl⟩ := exists_depth exact indent depth deep
  -- The text of an item is shorter than that of the value around it, so a depth that suffices for
  -- the one suffices, less one level, for the other.
  induction sound generalizing indent depth left with
  | null =>
      rw [chars_null]
      exact fun place => ⟨place + 4, rfl⟩
  | boolean b =>
      rw [chars_boolean]
      cases b with
      | false => exact fun place => ⟨place + 5, rfl⟩
      | true => exact fun place => ⟨place + 4, rfl⟩
  | integer bound =>
      rw [chars_integer]
      exact readValue_integer depth bound h
  | number x => cases exact
  | text s =>
      rw [chars_text, List.cons_append, List.append_assoc, List.singleton_append]
      exact readValue_text depth s left
  | array sound ih =>
      rw [isExact, itemsExact_iff] at exact
      refine reads_array depth indent (fun item mem => ?_) left
      have shorter := length_chars_item mem indent
      apply denotes_of_reads (exact item mem) (by omega)
      exact fun depth deep left h => ih item mem (exact item mem) h depth deep
  | object distinct sound ih =>
      rw [isExact, fieldsExact_iff] at exact
      refine reads_object depth indent distinct (fun field mem => ?_) left
      have shorter := length_chars_field mem indent
      apply denotes_of_reads (exact field mem) (by omega)
      exact fun depth deep left h => ih field mem (exact field mem) h depth deep

/-- Reading a JSON text gives back the value that was written. -/
theorem read_render {value : Json} (sound : value.Sound) (exact : value.isExact = true) :
    read value.render.toList = .ok value := by
  have text : value.render.toList = chars 0 value := rfl
  have separated : Separated [] := nofun
  obtain ⟨after, h⟩ := reads_chars sound exact (Nat.le_succ (chars 0 value).length) separated 0
  obtain ⟨c, more, starts, space, -, notMark⟩ := starts_chars exact 0
  have visible : Rest.skipSpace ⟨0, c :: more⟩ = ⟨0, c :: more⟩ := by
    simp [Rest.skipSpace, space]
  rw [List.append_nil, starts] at h
  rw [text, starts, read]
  · simp only [visible, h, bind, Except.bind]
    rfl
  · intro rest same
    exact notMark (List.cons.inj same).1

end Pseudocode.Json
