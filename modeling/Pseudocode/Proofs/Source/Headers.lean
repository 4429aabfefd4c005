import Pseudocode.Proofs.Fault
import Pseudocode.Proofs.Source.Views
import Pseudocode.Proofs.Store
import Pseudocode.Source.Program

namespace Pseudocode

open Text

namespace Statement

/-- The statements with parts, and the texts that write them. -/
inductive Written : Statement → List Char → Prop where
  | conditional {start gap condition gap' stop : List Char} (hstart : isWord "IF" start = true)
      (hgap : Gap gap) (hcondition : Trimmed condition) (hgap' : Gap gap')
      (hstop : isWord "THEN" stop = true) :
      Written (.conditional (String.ofList condition))
        (start ++ (gap ++ (condition ++ (gap' ++ stop))))
  | whileLoop {start gap condition gap' stop : List Char} (hstart : isWord "WHILE" start = true)
      (hgap : Gap gap) (hcondition : Trimmed condition) (hgap' : Gap gap')
      (hstop : isWord "DO" stop = true) :
      Written (.whileLoop (String.ofList condition))
        (start ++ (gap ++ (condition ++ (gap' ++ stop))))
  | untilMark {start gap condition : List Char} (hstart : isWord "UNTIL" start = true)
      (hgap : Gap gap) (hcondition : Trimmed condition) :
      Written (.untilMark (String.ofList condition)) (start ++ (gap ++ condition))
  | forLoop {start gap name blanks blanks' first gap₁ divider gap₂ last gap₃ stop : List Char}
      (hstart : isWord "FOR" start = true) (hgap : Gap gap)
      (hname : Store.isIdentifier name = true)
      (free : String.ofList (upper name) ∉ reservedWords)
      (hblanks : ∀ c ∈ blanks, isBlank c = true) (hblanks' : ∀ c ∈ blanks', isBlank c = true)
      (hfirst : Trimmed first) (noTo : ∀ word ∈ (words first).tail, isWord "TO" word = false)
      (hgap₁ : Gap gap₁) (hdivider : isWord "TO" divider = true) (hgap₂ : Gap gap₂)
      (hlast : Trimmed last) (hgap₃ : Gap gap₃) (hstop : isWord "DO" stop = true) :
      Written
        (.forLoop (String.ofList (upper name)) (String.ofList first) (String.ofList last))
        (start ++ (gap ++ (name ++ (blanks ++ '=' :: (blanks' ++ (first ++ (gap₁ ++ (divider ++
          (gap₂ ++ (last ++ (gap₃ ++ stop)))))))))))
  | assign {name blanks blanks' expression : List Char} (hname : Store.isIdentifier name = true)
      (free : String.ofList (upper name) ∉ reservedWords)
      (hblanks : ∀ c ∈ blanks, isBlank c = true) (hblanks' : ∀ c ∈ blanks', isBlank c = true)
      (hexpression : Trimmed expression) (single : expression.head? ≠ some '=') :
      Written (.assign (String.ofList (upper name)) (String.ofList expression))
        (name ++ (blanks ++ '=' :: (blanks' ++ expression)))

variable {cs rest gap gap' word name body : List Char} {keyword : String}

def headerWords : List String := ["IF", "THEN", "WHILE", "DO", "UNTIL", "FOR", "TO"]

theorem isLetter_of_toUpper {c : Char} (h : Store.isLetter c.toUpper = true) :
    Store.isLetter c = true := by
  unfold Char.toUpper at h
  split at h
  · next hrange =>
      rw [Store.isLetter, Bool.or_eq_true, Bool.and_eq_true, decide_eq_true_eq, decide_eq_true_eq]
      exact .inl hrange
  · exact h

theorem upperChar_of_isLetter {c : Char} (h : Store.isLetter c = true) :
    upperChar c = [c.toUpper] ∧ isBlank c = false :=
  Store.of_isLetterOrDigit (p := fun c => upperChar c = [c.toUpper] ∧ isBlank c = false)
    (by decide +kernel) (by rw [Store.isLetterOrDigit, h, Bool.true_or])

theorem isLetter_of_isWord (hkeyword : keyword ∈ headerWords) (h : isWord keyword word = true) :
    ∀ c ∈ word, Store.isLetter c = true := by
  have hletters : ∀ k ∈ headerWords, k.toList.all Store.isLetter = true := by decide
  intro c hc
  apply isLetter_of_toUpper
  apply List.all_eq_true.mp (hletters keyword hkeyword)
  rw [← beq_iff_eq.mp h]
  exact List.mem_map_of_mem hc

theorem upper_of_isWord (hkeyword : keyword ∈ headerWords) (h : isWord keyword word = true) :
    upper word = keyword.toList := by
  have himage : ∀ c ∈ word, upperChar c = [c.toUpper] := fun c hc =>
    (upperChar_of_isLetter (isLetter_of_isWord hkeyword h c hc)).1
  rw [upper, List.flatMap_congr himage, ← List.map_eq_flatMap]
  exact beq_iff_eq.mp h

theorem word_of_isWord (hkeyword : keyword ∈ headerWords) (h : isWord keyword word = true) :
    Word word := by
  refine ⟨?_, fun c hc => (upperChar_of_isLetter (isLetter_of_isWord hkeyword h c hc)).2⟩
  rintro rfl
  have hne : ∀ k ∈ headerWords, isWord k [] = false := by decide
  rw [hne keyword hkeyword] at h
  cases h

theorem headerBody_append (hword : Word word) (hgap : Gap gap) (hbody : Trimmed body)
    (header : String) :
    headerBody header (String.ofList (word ++ (gap ++ body))) = .ok body := by
  have hafter : trimLeft (afterWord (String.ofList (word ++ (gap ++ body))).toList) = body := by
    rw [String.toList_ofList, afterWord_append hword.solid (hgap.apart _),
      trimLeft_append hgap.blank, hbody.trimLeft_eq]
  obtain ⟨c, body, rfl⟩ := List.exists_cons_of_ne_nil hbody.ne_nil
  rw [headerBody, hafter]

theorem dropLastWord_append (hbody : Trimmed body) (hgap : Gap gap) (hword : Word word)
    (h : isWord keyword word = true) : dropLastWord keyword (body ++ (gap ++ word)) = body := by
  have hreverse : (body ++ (gap ++ word)).reverse =
      word.reverse ++ (gap.reverse ++ body.reverse) := by
    simp
  have hsolid : ∀ c ∈ word.reverse, isBlank c = false := fun c hc =>
    hword.solid c (List.mem_reverse.mp hc)
  have hapart : Apart (gap.reverse ++ body.reverse) :=
    Gap.apart ⟨by simpa using hgap.ne_nil, fun c hc => hgap.blank c (List.mem_reverse.mp hc)⟩ _
  have hbefore : (gap.reverse ++ body.reverse).reverse = body ++ gap := by simp
  rw [dropLastWord, hreverse, firstWord_append hsolid hapart, afterWord_append hsolid hapart,
    List.reverse_reverse, hbefore, trimRight_append hgap.blank, hbody.trimRight_eq]
  simp [h, hbody.ne_nil]

theorem readName_of_isIdentifier (hname : Store.isIdentifier name = true)
    (free : String.ofList (upper name) ∉ reservedWords) :
    readName name = .ok (String.ofList (upper name)) := by
  simp [readName, hname, free]

theorem word_of_isIdentifier (h : Store.isIdentifier name = true) : Word name := by
  refine ⟨?_, fun c hc =>
    Store.isBlank_of_isLetterOrDigit (Store.isLetterOrDigit_of_isIdentifier h c hc)⟩
  rintro rfl
  cases h

theorem ne_equals_of_isIdentifier (h : Store.isIdentifier name = true) :
    ∀ c ∈ name, (c != '=') = true := fun c hc =>
  Store.of_isLetterOrDigit (p := fun c => (c != '=') = true) (by decide +kernel)
    (Store.isLetterOrDigit_of_isIdentifier h c hc)

theorem ne_equals_of_isBlank {c : Char} (h : isBlank c = true) : (c != '=') = true :=
  of_isBlank (p := fun c => (c != '=') = true) (by decide +kernel) h

theorem cutVariable_append {blanks : List Char} (hname : Store.isIdentifier name = true)
    (hblanks : ∀ c ∈ blanks, isBlank c = true) (rest : List Char) :
    cutVariable (name ++ (blanks ++ '=' :: rest)) = some (name, rest) := by
  have hword := word_of_isIdentifier hname
  have hequals := ne_equals_of_isIdentifier hname
  obtain ⟨c, name, rfl⟩ := List.exists_cons_of_ne_nil hword.ne_nil
  have hinside : ∀ d ∈ name, (d != '=') = true := fun d hd =>
    hequals d (List.mem_cons_of_mem c hd)
  cases blanks with
  | nil =>
      have hsolid : ∀ d ∈ c :: name ++ ['='], (!isBlank d) = true := by
        intro d hd
        rcases List.mem_append.mp hd with hd | hd
        · rw [hword.solid d hd]
          rfl
        · rw [List.mem_singleton.mp hd]
          rfl
      have hstop : ∀ d, ('=' :: firstWord rest).head? = some d → (d != '=') = false := by
        rintro d ⟨⟩
        rfl
      have happend : c :: name ++ ([] ++ '=' :: rest) = (c :: name ++ ['=']) ++ rest := by simp
      have hfirst : firstWord (c :: name ++ ([] ++ '=' :: rest)) =
          c :: (name ++ '=' :: firstWord rest) := by
        rw [happend, firstWord, List.takeWhile_append_of_pos hsolid]
        simp [firstWord]
      have hafter : afterWord (c :: name ++ ([] ++ '=' :: rest)) = afterWord rest := by
        rw [happend, afterWord, List.dropWhile_append_of_pos hsolid]
        rfl
      rw [cutVariable, hfirst, hafter]
      simp only [dropWhile_append_eq hinside hstop, takeWhile_append_eq hinside hstop,
        firstWord_append_afterWord]
  | cons blank blanks =>
      have hgap : Gap (blank :: blanks) := ⟨by simp, hblanks⟩
      have hnone : name.dropWhile (· != '=') = [] := List.dropWhile_eq_nil_iff.mpr hinside
      have hequal : trimLeft (blank :: blanks ++ '=' :: rest) = '=' :: rest := by
        rw [trimLeft_append hblanks]
        rfl
      rw [cutVariable, firstWord_append hword.solid (hgap.apart _),
        afterWord_append hword.solid (hgap.apart _)]
      simp only [hnone, hequal]

def startedWords (apart : Bool) (cs : List Char) : List (List Char) :=
  if apart then words cs else words (afterWord cs)

theorem startedWords_cons (apart : Bool) (c : Char) (cs : List Char) :
    startedWords apart (c :: cs) =
      if apart && !isBlank c then firstWord (c :: cs) :: startedWords (isBlank c) cs
      else startedWords (isBlank c) cs := by
  cases hc : isBlank c with
  | true =>
      have hafter : afterWord (c :: cs) = c :: cs := List.dropWhile_cons_of_neg (by simp [hc])
      have hwords : words (c :: cs) = words cs := by rw [words_cons, if_pos hc]
      cases apart <;> simp [startedWords, hafter, hwords]
  | false =>
      have hafter : afterWord (c :: cs) = afterWord cs := List.dropWhile_cons_of_pos (by simp [hc])
      cases apart <;> simp [startedWords, hafter, words_eq_cons hc]

theorem firstWord_append_apart (hrest : Apart rest) (cs : List Char) :
    firstWord (cs ++ rest) = firstWord cs := by
  induction cs with
  | nil => exact firstWord_of_apart hrest
  | cons c cs ih =>
      rw [firstWord, firstWord] at ih ⊢
      rw [List.cons_append, List.takeWhile_cons, List.takeWhile_cons, ih]

theorem cutAtTo_append (hrest : Apart rest) (before : List Char) (apart : Bool)
    (h : ∀ w ∈ startedWords apart cs, isWord "TO" w = false) :
    ∃ apart', cutAtTo before apart (cs ++ rest) = cutAtTo (cs.reverse ++ before) apart' rest := by
  induction cs generalizing before apart with
  | nil => exact ⟨apart, rfl⟩
  | cons c cs ih =>
      rw [startedWords_cons] at h
      have hword : (apart && isWord "TO" (firstWord (c :: cs))) = false := by
        cases hc : isBlank c with
        | true =>
            rw [firstWord_of_apart (apart_cons hc cs)]
            exact Bool.and_false apart
        | false =>
            cases apart with
            | false => rfl
            | true => exact h _ (by simp [hc])
      have hlater : ∀ w ∈ startedWords (isBlank c) cs, isWord "TO" w = false := by
        intro w hw
        apply h w
        split
        · exact List.mem_cons_of_mem _ hw
        · exact hw
      obtain ⟨apart', hcut⟩ := ih (c :: before) (isBlank c) hlater
      refine ⟨apart', ?_⟩
      rw [List.cons_append, cutAtTo, ← List.cons_append, firstWord_append_apart hrest, hword,
        Bool.false_and, if_neg (by simp), hcut, List.reverse_cons, List.append_assoc]
      rfl

theorem cutAtTo_gap (hgap : Gap gap) (before : List Char) (apart : Bool) (rest : List Char) :
    cutAtTo before apart (gap ++ rest) = cutAtTo (gap.reverse ++ before) true rest := by
  obtain ⟨ne_nil, blank⟩ := hgap
  induction gap generalizing before apart with
  | nil => exact absurd rfl ne_nil
  | cons c gap ih =>
      have hc : isBlank c = true := blank c List.mem_cons_self
      have hword : isWord "TO" (firstWord (c :: (gap ++ rest))) = false := by
        rw [firstWord_of_apart (apart_cons hc _)]
        rfl
      rw [List.cons_append, cutAtTo, hword, Bool.and_false, Bool.false_and, if_neg (by simp), hc]
      cases gap with
      | nil => rfl
      | cons d gap =>
          rw [ih (c :: before) true (by simp) fun e he => blank e (List.mem_cons_of_mem c he)]
          simp

theorem cutBounds_append {blanks first divider : List Char}
    (hblanks : ∀ c ∈ blanks, isBlank c = true) (hfirst : Trimmed first)
    (noTo : ∀ w ∈ (words first).tail, isWord "TO" w = false) (hgap : Gap gap)
    (hdivider : isWord "TO" divider = true) (hgap' : Gap gap') (hbody : Trimmed body) :
    cutBounds (blanks ++ (first ++ (gap ++ (divider ++ (gap' ++ body))))) =
      some (first, body) := by
  have hstarted : ∀ w ∈ startedWords false first, isWord "TO" w = false := by
    obtain ⟨c, first, rfl⟩ := List.exists_cons_of_ne_nil hfirst.ne_nil
    rwa [words_eq_cons (hfirst.first c rfl), List.tail_cons] at noTo
  have hword : Word divider := word_of_isWord (by decide) hdivider
  have hto : ∀ before, cutAtTo before true (divider ++ (gap' ++ body)) =
      some (trimRight before.reverse, body) := by
    intro before
    have hafter : afterWord (divider ++ (gap' ++ body)) = gap' ++ body :=
      afterWord_append hword.solid (hgap'.apart _)
    have hfound : firstWord (divider ++ (gap' ++ body)) = divider :=
      firstWord_append hword.solid (hgap'.apart _)
    obtain ⟨d, divider, rfl⟩ := List.exists_cons_of_ne_nil hword.ne_nil
    rw [List.cons_append] at hafter hfound ⊢
    rw [cutAtTo, hafter, hfound, hdivider, trimLeft_append hgap'.blank, hbody.trimLeft_eq]
    simp [hgap'.ne_nil]
  obtain ⟨apart, hskip⟩ := cutAtTo_append (hgap.apart (divider ++ (gap' ++ body))) [] false hstarted
  have hcut : cutAtTo [] false (first ++ (gap ++ (divider ++ (gap' ++ body)))) =
      some (first, body) := by
    rw [hskip, cutAtTo_gap hgap, hto]
    simp [trimRight_append hgap.blank, hfirst.trimRight_eq]
  rw [cutBounds, trimLeft_append hblanks, hfirst.trimLeft_append, hcut]

theorem readAssignment_append {blanks blanks' expression : List Char}
    (hname : Store.isIdentifier name = true) (free : String.ofList (upper name) ∉ reservedWords)
    (hblanks : ∀ c ∈ blanks, isBlank c = true) (hblanks' : ∀ c ∈ blanks', isBlank c = true)
    (hexpression : Trimmed expression) (single : expression.head? ≠ some '=') :
    readAssignment (String.ofList (name ++ (blanks ++ '=' :: (blanks' ++ expression)))) =
      .ok (.assign (String.ofList (upper name)) (String.ofList expression)) := by
  have hleft : ∀ c ∈ name ++ blanks, (c != '=') = true := by
    intro c hc
    rcases List.mem_append.mp hc with hc | hc
    · exact ne_equals_of_isIdentifier hname c hc
    · exact ne_equals_of_isBlank (hblanks c hc)
  have hstop : ∀ c, ('=' :: (blanks' ++ expression)).head? = some c → (c != '=') = false := by
    rintro c ⟨⟩
    rfl
  have hsingle : ∀ rest, blanks' ++ expression ≠ '=' :: rest := by
    intro rest heq
    cases blanks' with
    | nil => exact single (by rw [show expression = '=' :: rest from heq]; rfl)
    | cons c blanks' =>
        have hc := ne_equals_of_isBlank (hblanks' c List.mem_cons_self)
        rw [(List.cons.inj heq).1] at hc
        cases hc
  have hcut : cutAssignment (name ++ (blanks ++ '=' :: (blanks' ++ expression))) =
      some (name, expression) := by
    rw [cutAssignment, ← List.append_assoc, dropWhile_append_eq hleft hstop,
      takeWhile_append_eq hleft hstop]
    split
    · next heq => exact absurd (List.cons.inj heq).2 (hsingle _)
    · next rest _ heq =>
        rw [← (List.cons.inj heq).2, trimRight_append hblanks,
          (word_of_isIdentifier hname).trimmed.trimRight_eq, trim, trimLeft_append hblanks',
          hexpression.trimLeft_eq, hexpression.trimRight_eq]
    · next hne => exact absurd rfl (hne _)
  rw [readAssignment, String.toList_ofList, hcut]
  refine bind_eq_ok_iff.mpr ⟨_, readName_of_isIdentifier hname free, ?_⟩
  rw [List.isEmpty_eq_false_iff.mpr hexpression.ne_nil]
  rfl

theorem readFor_append {start blanks blanks' first gap₁ divider gap₂ last gap₃ stop : List Char}
    (hstart : Word start) (hgap : Gap gap) (hname : Store.isIdentifier name = true)
    (free : String.ofList (upper name) ∉ reservedWords)
    (hblanks : ∀ c ∈ blanks, isBlank c = true) (hblanks' : ∀ c ∈ blanks', isBlank c = true)
    (hfirst : Trimmed first) (noTo : ∀ word ∈ (words first).tail, isWord "TO" word = false)
    (hgap₁ : Gap gap₁) (hdivider : isWord "TO" divider = true) (hgap₂ : Gap gap₂)
    (hlast : Trimmed last) (hgap₃ : Gap gap₃) (hstop : isWord "DO" stop = true) :
    readFor (String.ofList (start ++ (gap ++ (name ++ (blanks ++ '=' :: (blanks' ++ (first ++
      (gap₁ ++ (divider ++ (gap₂ ++ (last ++ (gap₃ ++ stop)))))))))))) =
      .ok (.forLoop (String.ofList (upper name)) (String.ofList first) (String.ofList last)) := by
  have hword : Word stop := word_of_isWord (by decide) hstop
  have hend : Trimmed (last ++ (gap₃ ++ stop)) := hlast.append hword.trimmed gap₃
  have hbody : Trimmed (name ++ (blanks ++ '=' :: (blanks' ++ (first ++ (gap₁ ++ (divider ++
      (gap₂ ++ (last ++ (gap₃ ++ stop))))))))) := by
    have htrimmed := (word_of_isIdentifier hname).trimmed.append hend
      (blanks ++ '=' :: (blanks' ++ (first ++ (gap₁ ++ (divider ++ gap₂)))))
    simpa only [List.append_assoc, List.cons_append] using htrimmed
  refine bind_eq_ok_iff.mpr ⟨_, headerBody_append hstart hgap hbody "FOR", ?_⟩
  simp only [cutVariable_append hname hblanks, Option.bind_eq_bind, Option.bind_some,
    cutBounds_append hblanks' hfirst noTo hgap₁ hdivider hgap₂ hend, Option.pure_def]
  refine bind_eq_ok_iff.mpr ⟨_, readName_of_isIdentifier hname free, ?_⟩
  rw [dropLastWord_append hlast hgap₃ hword hstop]

variable {s : Statement} {text : List Char}

theorem Written.read (h : Written s text) {line : Line} (hraw : line.raw = String.ofList text) :
    Statement.read s.kind line = .ok s := by
  cases h with
  | conditional hstart hgap hcondition hgap' hstop =>
      have hword := word_of_isWord (by decide) hstop
      rw [Statement.kind, Statement.read, hraw]
      refine bind_eq_ok_iff.mpr ⟨_, headerBody_append (word_of_isWord (by decide) hstart) hgap
        (hcondition.append hword.trimmed _) "IF", ?_⟩
      rw [dropLastWord_append hcondition hgap' hword hstop]
  | whileLoop hstart hgap hcondition hgap' hstop =>
      have hword := word_of_isWord (by decide) hstop
      rw [Statement.kind, Statement.read, hraw]
      refine bind_eq_ok_iff.mpr ⟨_, headerBody_append (word_of_isWord (by decide) hstart) hgap
        (hcondition.append hword.trimmed _) "WHILE", ?_⟩
      rw [dropLastWord_append hcondition hgap' hword hstop]
  | untilMark hstart hgap hcondition =>
      rw [Statement.kind, Statement.read, hraw]
      exact bind_eq_ok_iff.mpr ⟨_, headerBody_append (word_of_isWord (by decide) hstart) hgap
        hcondition "UNTIL", rfl⟩
  | forLoop hstart hgap hname free hblanks hblanks' hfirst noTo hgap₁ hdivider hgap₂ hlast hgap₃
      hstop =>
      rw [Statement.kind, Statement.read, hraw]
      exact readFor_append (word_of_isWord (by decide) hstart) hgap hname free hblanks hblanks'
        hfirst noTo hgap₁ hdivider hgap₂ hlast hgap₃ hstop
  | assign hname free hblanks hblanks' hexpression single =>
      rw [Statement.kind, Statement.read, hraw]
      exact readAssignment_append hname free hblanks hblanks' hexpression single

theorem keyword_of_isWord {index : Nat} {written : List Char} (htext : trim written = word ++ rest)
    (hkeyword : keyword ∈ headerWords) (h : isWord keyword word = true) (hrest : Apart rest) :
    (Line.ofChars index written).keyword = keyword := by
  rw [Line.keyword_ofChars, htext, firstWord_append (word_of_isWord hkeyword h).solid hrest,
    upper_of_isWord hkeyword h, String.ofList_toList]

theorem headKind?_eq_none (h : keyword ∉ reservedWords) : headKind? keyword = none := by
  unfold headKind?
  split <;> first | rfl | exact absurd (by decide) h

theorem not_reserved_of_equals (h : '=' ∈ keyword.toList) : keyword ∉ reservedWords := by
  have hreserved : ∀ k ∈ reservedWords, '=' ∉ k.toList := by decide
  exact fun hkeyword => hreserved keyword hkeyword h

theorem Written.announced (h : Written s text) {index : Nat} {written : List Char}
    (htext : trim written = text) :
    headKind? (Line.ofChars index written).keyword = some s.kind ∨
      headKind? (Line.ofChars index written).keyword = none ∧ '=' ∈ text ∧ s.kind = .assign := by
  cases h with
  | conditional hstart hgap _ _ _ =>
      rw [keyword_of_isWord htext (by decide) hstart (hgap.apart _)]
      exact .inl rfl
  | whileLoop hstart hgap _ _ _ =>
      rw [keyword_of_isWord htext (by decide) hstart (hgap.apart _)]
      exact .inl rfl
  | untilMark hstart hgap _ =>
      rw [keyword_of_isWord htext (by decide) hstart (hgap.apart _)]
      exact .inl rfl
  | forLoop hstart hgap _ _ _ _ _ _ _ _ _ _ _ _ =>
      rw [keyword_of_isWord htext (by decide) hstart (hgap.apart _)]
      exact .inl rfl
  | @assign name blanks blanks' expression hname free hblanks _ _ _ =>
      have hsolid := (word_of_isIdentifier hname).solid
      refine .inr ⟨headKind?_eq_none ?_, by simp, rfl⟩
      rw [Line.keyword_ofChars, htext]
      cases blanks with
      | nil =>
          apply not_reserved_of_equals
          rw [String.toList_ofList, firstWord,
            List.takeWhile_append_of_pos fun c hc => by simp [hsolid c hc], ← firstWord,
            upper_append]
          apply List.mem_append_right
          show '=' ∈ '=' :: upper (firstWord (blanks' ++ expression))
          exact List.mem_cons_self
      | cons c blanks =>
          have hgap : Gap (c :: blanks) := ⟨List.cons_ne_nil c blanks, hblanks⟩
          rwa [firstWord_append hsolid (hgap.apart _)]

theorem Written.ne_nil (h : Written s text) : text ≠ [] := by
  cases h with
  | conditional _ hgap _ _ _ => simp [hgap.ne_nil]
  | whileLoop _ hgap _ _ _ => simp [hgap.ne_nil]
  | untilMark _ hgap _ => simp [hgap.ne_nil]
  | forLoop => simp
  | assign => simp

theorem Written.content (h : Written s text) {index : Nat} {written : List Char}
    (htext : trim written = text) {comment : String}
    (hcomment : comment = "" ∨ ¬ comment.toList <+: text) :
    (Line.ofChars index written).content comment = .statement s := by
  have hraw : (Line.ofChars index written).raw = String.ofList text := by
    rw [Line.ofChars, htext]
  have hblank : (Line.ofChars index written).isBlank comment = false := by
    rw [Line.isBlank, hraw, String.toList_ofList, Bool.or_eq_false_iff]
    constructor
    · simp [h.ne_nil]
    · rcases hcomment with rfl | hcomment
      · rfl
      · rw [Bool.and_eq_false_iff]
        right
        rwa [← Bool.not_eq_true, List.isPrefixOf_iff_prefix]
  have hkind : (Line.ofChars index written).kind comment = .statement s.kind := by
    rw [Line.kind, hblank, if_neg (by simp)]
    rcases h.announced htext with hhead | ⟨hhead, hequals, hassign⟩
    · rw [hhead]
    · rw [hhead, hraw, String.toList_ofList]
      simp [hequals, hassign]
  rw [Line.content, hkind]
  simp only [h.read hraw]

/-- A line that is written as a statement with its parts, in any case and with any blanks between
the parts, is read as this statement. -/
theorem headers_read_back (comment source : String) (i : Nat) (written text : List Char)
    (s : Statement) (hline : (lines source.toList)[i]? = some written)
    (htext : trim written = text) (h : Written s text)
    (hcomment : comment = "" ∨ ¬ comment.toList <+: text) :
    (Program.ofSource comment source)[i]? = some ⟨String.ofList text, .statement s⟩ := by
  rw [Program.ofSource, Program.ofLines, Line.ofSource, List.getElem?_map, List.getElem?_mapIdx,
    hline]
  simp only [Option.map_some, h.content htext hcomment]
  rw [Line.ofChars, htext]

theorem headers_read_back_for :
    Written (.forLoop "I1" "TO" "5 DO") "for\ti1=TO  to 5 DO Do".toList ∧
    (Program.ofSource "#" "x = 1\n  for\ti1=TO  to 5 DO Do ")[1]? =
      some ⟨"for\ti1=TO  to 5 DO Do", .statement (.forLoop "I1" "TO" "5 DO")⟩ := by
  have hwritten : Written
      (.forLoop (String.ofList (upper "i1".toList)) (String.ofList "TO".toList)
        (String.ofList "5 DO".toList))
      ("for".toList ++ (['\t'] ++ ("i1".toList ++ ([] ++ '=' :: ([] ++ ("TO".toList ++
        ("  ".toList ++ ("to".toList ++ (" ".toList ++ ("5 DO".toList ++ (" ".toList ++
          "Do".toList))))))))))) :=
    .forLoop (by decide) (by decide) (by decide) (by decide) (List.all_eq_true.mp (by decide))
      (List.all_eq_true.mp (by decide)) (by decide) (by decide) (by decide) (by decide) (by decide)
      (by decide) (by decide) (by decide)
  exact ⟨hwritten, headers_read_back "#" _ 1 "  for\ti1=TO  to 5 DO Do ".toList _ _ (by rfl)
    (by rfl) hwritten (.inr (by decide))⟩

end Statement

end Pseudocode
