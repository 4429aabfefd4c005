import Pseudocode.Proofs.Text.Case
import Pseudocode.Proofs.Text.Words
import Pseudocode.Source.Statement

/-!
The two views of a source line. A text without blanks at its ends is words with gaps between them;
making each gap one space and raising the text to upper case keeps the words whole and apart. Main
statement: both views of a line have the same words but for their case, so the keyword that is read
off one view and the argument that is read off the other are cut at the same place.
-/

namespace Pseudocode

namespace Text

/-- The texts that are put together of words, with a gap between each two of them and no blanks at
the ends. -/
inductive Phrase : List (List Char) → List Char → Prop where
  | nil : Phrase [] []
  | word {word : List Char} (hword : Word word) : Phrase [word] word
  | cons {word gap next rest : List Char} {more : List (List Char)} (hword : Word word)
      (hgap : Gap gap) (hrest : Phrase (next :: more) rest) :
      Phrase (word :: next :: more) (word ++ (gap ++ rest))

variable {cs word rest : List Char} {parts : List (List Char)}

theorem Apart.exists_gap (h : Apart rest) (ne_nil : rest ≠ [])
    (last : ∀ c, rest.getLast? = some c → isBlank c = false) :
    ∃ gap more, Gap gap ∧ Trimmed more ∧ rest = gap ++ more := by
  obtain ⟨gap, hblank, hsplit⟩ := exists_trimLeft rest
  have hgap : gap ≠ [] := by
    rintro rfl
    obtain ⟨c, more, rfl⟩ := List.exists_cons_of_ne_nil ne_nil
    have hhead : (trimLeft (c :: more)).head? = some c := congrArg List.head? hsplit.symm
    have hfirst := h c rfl
    rw [isBlank_of_head_trimLeft hhead] at hfirst
    cases hfirst
  have hmore : trimLeft rest ≠ [] := by
    intro hnil
    rw [hnil, List.append_nil] at hsplit
    have hsolid := last _ (List.getLast?_eq_some_getLast ne_nil)
    rw [hblank _ (hsplit ▸ List.getLast_mem ne_nil)] at hsolid
    cases hsolid
  refine ⟨gap, trimLeft rest, ⟨hgap, hblank⟩, ⟨hmore, ?_, ?_⟩, hsplit⟩
  · intro c hc
    exact isBlank_of_head_trimLeft hc
  · intro c hc
    apply last c
    rw [hsplit, List.getLast?_append_of_ne_nil _ hmore, hc]

theorem Trimmed.word_or_cut (h : Trimmed cs) :
    Word cs ∨ ∃ word gap rest, Word word ∧ Gap gap ∧ Trimmed rest ∧ cs = word ++ (gap ++ rest) := by
  have hword : Word (firstWord cs) := by
    obtain ⟨c, rest, rfl⟩ := List.exists_cons_of_ne_nil h.ne_nil
    exact word_firstWord (h.first c rfl) rest
  have hsplit := firstWord_append_afterWord cs
  by_cases hend : afterWord cs = []
  · left
    rw [hend, List.append_nil] at hsplit
    rwa [hsplit] at hword
  · right
    have hlast : ∀ c, (afterWord cs).getLast? = some c → isBlank c = false := by
      intro c hc
      apply h.last c
      rw [← hsplit, List.getLast?_append_of_ne_nil _ hend, hc]
    obtain ⟨gap, rest, hgap, hrest, hafter⟩ := (apart_afterWord cs).exists_gap hend hlast
    exact ⟨firstWord cs, gap, rest, hword, hgap, hrest, by rw [← hafter, hsplit]⟩

theorem Trimmed.exists_phrase (h : Trimmed cs) : ∃ word more, Phrase (word :: more) cs := by
  induction hlength : cs.length using Nat.strong_induction_on generalizing cs with
  | h n ih =>
      obtain hword | ⟨word, gap, rest, hword, hgap, hrest, rfl⟩ := h.word_or_cut
      · exact ⟨cs, [], .word hword⟩
      · have hshorter : rest.length < n := by
          have hpos := List.length_pos_of_ne_nil hword.ne_nil
          rw [List.length_append, List.length_append] at hlength
          omega
        obtain ⟨next, more, hphrase⟩ := ih rest.length hshorter hrest rfl
        exact ⟨word, next :: more, .cons hword hgap hphrase⟩

namespace Phrase

theorem word_of_mem (h : Phrase parts cs) : ∀ part ∈ parts, Word part := by
  induction h with
  | nil => simp
  | word hword => exact List.forall_mem_singleton.mpr hword
  | cons hword _ _ ih => exact List.forall_mem_cons.mpr ⟨hword, ih⟩

theorem trimmed (h : Phrase parts cs) (ne_nil : parts ≠ []) : Trimmed cs := by
  induction h with
  | nil => exact absurd rfl ne_nil
  | word hword => exact hword.trimmed
  | cons hword _ _ ih => exact hword.trimmed.append (ih (List.cons_ne_nil _ _)) _

theorem words_eq (h : Phrase parts cs) : words cs = parts := by
  induction h with
  | nil => rfl
  | word hword => exact hword.words_eq
  | cons hword hgap _ ih =>
      rw [hword.words_append (hgap.apart _), words_append hgap.blank, ih]

theorem trimLeft_eq (h : Phrase parts cs) : trimLeft cs = cs := by
  cases h with
  | nil => rfl
  | word hword => exact hword.trimmed.trimLeft_eq
  | cons hword _ _ => exact hword.trimmed.trimLeft_append _

theorem firstWord_eq (h : Phrase parts cs) : firstWord cs = parts.headD [] := by
  cases h with
  | nil => rfl
  | word hword =>
      have hfirst := firstWord_append hword.solid apart_nil
      rwa [List.append_nil] at hfirst
  | cons hword hgap _ => exact firstWord_append hword.solid (hgap.apart _)

end Phrase

theorem phrase_trim (cs : List Char) : Phrase (words (trim cs)) (trim cs) := by
  by_cases hnil : trim cs = []
  · rw [hnil]
    exact .nil
  · obtain ⟨word, more, hphrase⟩ := (trimmed_trim hnil).exists_phrase
    rwa [hphrase.words_eq]

theorem phrase_intercalate (h : ∀ part ∈ parts, Word part) :
    Phrase parts ([' '].intercalate parts) := by
  induction parts with
  | nil => exact .nil
  | cons word more ih =>
      obtain ⟨hword, hmore⟩ := List.forall_mem_cons.mp h
      cases more with
      | nil =>
          rw [List.intercalate_singleton]
          exact .word hword
      | cons next more =>
          rw [List.intercalate_cons_cons, List.append_assoc]
          exact .cons hword (by decide) (ih hmore)

theorem Phrase.collapse_eq (h : Phrase parts cs) : collapse cs = [' '].intercalate parts := by
  induction h with
  | nil => rfl
  | word hword =>
      have hsame := collapse_append hword.solid []
      rw [List.append_nil] at hsame
      rw [hsame, List.intercalate_singleton]
      exact List.append_nil _
  | cons hword hgap hrest ih =>
      rw [collapse_append hword.solid, collapse_gap hgap (hrest.trimmed (List.cons_ne_nil _ _)), ih,
        List.intercalate_cons_cons, List.append_assoc, List.singleton_append]

theorem word_upper (h : Word word) : Word (upper word) := by
  refine ⟨?_, fun d hd => ?_⟩
  · obtain ⟨c, rest, rfl⟩ := List.exists_cons_of_ne_nil h.ne_nil
    have hfirst := (raised_upperChar (h.solid c List.mem_cons_self)).1
    rw [upper, List.flatMap_cons]
    exact List.append_ne_nil_of_left_ne_nil hfirst _
  · obtain ⟨c, hc, hd⟩ := List.mem_flatMap.mp hd
    exact ((raised_upperChar (h.solid c hc)).2 d hd).1

theorem upper_intercalate (parts : List (List Char)) :
    upper ([' '].intercalate parts) = [' '].intercalate (parts.map upper) := by
  induction parts with
  | nil => rfl
  | cons word more ih =>
      cases more with
      | nil => rw [List.map_singleton, List.intercalate_singleton, List.intercalate_singleton]
      | cons next more =>
          rw [List.intercalate_cons_cons, upper_append, upper_append, ih]
          exact List.intercalate_cons_cons.symm

theorem Phrase.upper_collapse (h : Phrase parts cs) :
    upper (collapse cs) = [' '].intercalate (parts.map upper) := by
  rw [h.collapse_eq, upper_intercalate]

theorem Phrase.normalized (h : Phrase parts cs) :
    Phrase (parts.map upper) (upper (collapse cs)) := by
  rw [h.upper_collapse]
  apply phrase_intercalate
  intro part hpart
  obtain ⟨word, hword, rfl⟩ := List.mem_map.mp hpart
  exact word_upper (h.word_of_mem word hword)

end Text

open Text

namespace Line

variable {index : Nat} {written : List Char}

theorem toList_raw_ofChars : (ofChars index written).raw.toList = trim written :=
  String.toList_ofList

theorem toList_normalized_ofChars :
    (ofChars index written).normalized.toList = upper (collapse (trim written)) :=
  String.toList_ofList

theorem keyword_ofChars :
    (ofChars index written).keyword = String.ofList (upper (firstWord (trim written))) := by
  have hraw := phrase_trim written
  have hnormalized := hraw.normalized
  rw [keyword, toList_normalized_ofChars, hnormalized.trimLeft_eq, hnormalized.firstWord_eq,
    hraw.firstWord_eq]
  cases words (trim written) <;> rfl

theorem argument_ofChars :
    (ofChars index written).argument = String.ofList (trim (afterWord (trim written))) := by
  rw [argument, toList_raw_ofChars, (phrase_trim written).trimLeft_eq]

theorem getElem?_ofSource {source : String} {i : Nat} {line : Line} :
    (ofSource source)[i]? = some line ↔
      ∃ written, (lines source.toList)[i]? = some written ∧ ofChars i written = line := by
  rw [ofSource, List.getElem?_mapIdx, Option.map_eq_some_iff]

/-- The views of a line agree. There is one line for each line of the source text, with its place as
its index, and it is this text without the blanks around it. It is put together of words, and the
normalized line of the same words in upper case, with single spaces between them. So the keyword is
the first word in upper case, and the argument is what stands behind this word, without the blanks
around it. -/
theorem views_of_line_agree (source : String) :
    (ofSource source).length = (lines source.toList).length ∧
    ∀ (i : Nat) (line : Line), (ofSource source)[i]? = some line →
      let parts := words line.raw.toList
      line.index = i ∧
      (∃ before after, (∀ c ∈ before, Text.isBlank c = true) ∧
        (∀ c ∈ after, Text.isBlank c = true) ∧
        (lines source.toList)[i]? = some (before ++ (line.raw.toList ++ after))) ∧
      (line.raw.toList = [] ∨ Trimmed line.raw.toList) ∧
      Phrase parts line.raw.toList ∧
      Phrase (parts.map upper) line.normalized.toList ∧
      words line.normalized.toList = parts.map upper ∧
      line.normalized.toList = [' '].intercalate (parts.map upper) ∧
      line.keyword.toList = upper (parts.headD []) ∧
      ∃ rest, line.raw.toList = parts.headD [] ++ rest ∧ Apart rest ∧
        line.argument.toList = trim rest := by
  refine ⟨List.length_mapIdx, fun i line hline => ?_⟩
  obtain ⟨written, hwritten, rfl⟩ := getElem?_ofSource.mp hline
  rw [toList_raw_ofChars, toList_normalized_ofChars, keyword_ofChars, argument_ofChars,
    String.toList_ofList, String.toList_ofList]
  have hphrase := phrase_trim written
  refine ⟨rfl, ?_, (eq_or_ne (trim written) []).imp_right trimmed_trim, hphrase,
    hphrase.normalized, hphrase.normalized.words_eq, hphrase.upper_collapse, ?_, ?_⟩
  · obtain ⟨before, after, hbefore, hafter, hsplit⟩ := exists_trim written
    exact ⟨before, after, hbefore, hafter, by rw [hwritten, ← hsplit]⟩
  · rw [hphrase.firstWord_eq]
  · refine ⟨afterWord (trim written), ?_, apart_afterWord _, rfl⟩
    rw [← hphrase.firstWord_eq, firstWord_append_afterWord]

theorem views_of_foreign_line_agree :
    ∃ line, (ofSource "x\r\n\u2003 straße\u00a0\u3000\x1f ŉ\t=  ﬁ \u2028END")[1]? = some line ∧
      line.index = 1 ∧ line.normalized.toList = "STRASSE ʼN = FI".toList ∧
      line.keyword.toList = "STRASSE".toList ∧ line.argument.toList = "ŉ\t=  ﬁ".toList := by
  obtain ⟨line, hline, hraw⟩ : ∃ line,
      (ofSource "x\r\n\u2003 straße\u00a0\u3000\x1f ŉ\t=  ﬁ \u2028END")[1]? = some line ∧
        line.raw = "straße\u00a0\u3000\x1f ŉ\t=  ﬁ" :=
    (Option.map_eq_some_iff (f := raw)).mp (by decide +kernel)
  have hparts : words line.raw.toList =
      ["straße".toList, "ŉ".toList, "=".toList, "ﬁ".toList] := by
    rw [hraw]
    decide +kernel
  obtain ⟨hindex, -, -, -, -, -, hnormalized, hkeyword, rest, hsplit, -, hargument⟩ :=
    (views_of_line_agree _).2 1 line hline
  rw [hparts] at hnormalized hkeyword hsplit
  have hrest : rest = "\u00a0\u3000\x1f ŉ\t=  ﬁ".toList := by
    rw [hraw] at hsplit
    exact List.append_cancel_left (hsplit.symm.trans (by decide +kernel))
  refine ⟨line, hline, hindex, hnormalized.trans (by decide +kernel),
    hkeyword.trans (by decide +kernel), ?_⟩
  rw [hargument, hrest]
  decide +kernel

end Line

end Pseudocode
