import Mathlib.Algebra.Group.Nat.Defs
import Mathlib.Data.List.Basic
import Pseudocode.Json.Basic
import Pseudocode.Json.Reader

namespace Pseudocode.Json

open Pseudocode.Text

theorem hexDigit?_digitChar : ∀ d < 16, hexDigit? (Nat.digitChar d) = some d := by decide

theorem hexadecimal_add_two (width n : Nat) :
    hexadecimal (width + 2) n = hexadecimal (width + 1) (n / 16) ++ [Nat.digitChar (n % 16)] := by
  unfold hexadecimal
  by_cases small : n < 16
  · have zero : n / 16 = 0 := by omega
    have last : n % 16 = n := by omega
    rw [zero, last, Nat.toDigits_of_lt_base small, Nat.toDigits_zero]
    simp [List.replicate_succ']
  · rw [Nat.toDigits_of_base_le (by decide) (by omega)]
    simp

theorem codeUnit?_hexadecimal {n : Nat} (h : n < 0x10000) (c : Char) (more : List Char) :
    codeUnit? (hexadecimal 4 n ++ c :: more) = some n := by
  have first : hexadecimal 1 (n / 16 / 16 / 16) = [Nat.digitChar (n / 16 / 16 / 16)] := by
    unfold hexadecimal
    rw [Nat.toDigits_of_lt_base (by omega)]
    rfl
  rw [hexadecimal_add_two, hexadecimal_add_two, hexadecimal_add_two, first]
  simp only [List.cons_append, List.nil_append, codeUnit?]
  rw [hexDigit?_digitChar _ (by omega), hexDigit?_digitChar _ (by omega),
    hexDigit?_digitChar _ (by omega), hexDigit?_digitChar _ (by omega)]
  simp only [Option.bind_eq_bind, Option.bind_some, Option.pure_def, Option.some.injEq]
  omega

theorem length_hexadecimal {n : Nat} (h : n < 0x10000) : (hexadecimal 4 n).length = 4 := by
  have short : (Nat.toDigits 16 n).length ≤ 4 :=
    (Nat.length_toDigits_le_iff (by decide) (by decide)).mpr h
  simp [hexadecimal, short]

theorem not_half (c : Char) : isHigh c.toNat = false ∧ isLow c.toNat = false := by
  have valid : c.toNat < 0xD800 ∨ 0xDFFF < c.toNat ∧ c.toNat < 0x110000 := c.valid
  simp only [isHigh, isLow, Bool.and_eq_false_iff, decide_eq_false_iff_not]
  omega

theorem pairChar_halves {c : Char} (h : 0x10000 ≤ c.toNat) :
    isHigh (0xD800 + (c.toNat - 0x10000) / 0x400) = true ∧
      isLow (0xDC00 + (c.toNat - 0x10000) % 0x400) = true ∧
      pairChar (0xD800 + (c.toNat - 0x10000) / 0x400) (0xDC00 + (c.toNat - 0x10000) % 0x400) =
        c := by
  have valid : c.toNat < 0xD800 ∨ 0xDFFF < c.toNat ∧ c.toNat < 0x110000 := c.valid
  have sum : 0x10000 + (0xD800 + (c.toNat - 0x10000) / 0x400 - 0xD800) * 0x400 +
      (0xDC00 + (c.toNat - 0x10000) % 0x400 - 0xDC00) = c.toNat := by omega
  refine ⟨?_, ?_, ?_⟩
  · simp only [isHigh, Bool.and_eq_true, decide_eq_true_eq]
    omega
  · simp only [isLow, Bool.and_eq_true, decide_eq_true_eq]
    omega
  · rw [pairChar, sum, Char.ofNat_toNat]

/-- The ways to write a character of a text: as a letter behind a backslash, as itself, as a code
unit, or as a pair of code units. -/
inductive CharForm (c : Char) : List Char → Prop
  | letter (l : Char) (h : escaped? l = some c) : CharForm c ['\\', l]
  | plain (noQuote : c ≠ '"') (noBackslash : c ≠ '\\') (low : 0x20 ≤ c.toNat)
      (high : c.toNat < 0x7F) : CharForm c [c]
  | unit (h : c.toNat < 0x10000) : CharForm c (unitEscape c.toNat)
  | pair {high low : Nat} (hhigh : isHigh high = true) (hlow : isLow low = true)
      (whole : pairChar high low = c) : CharForm c (unitEscape high ++ unitEscape low)

theorem charForm_textChar (c : Char) : CharForm c (textChar c) := by
  unfold textChar
  simp only [beq_iff_eq, Bool.and_eq_true, decide_eq_true_eq]
  split_ifs with quote backslash feed back tab backspace page printable single
  · subst quote
    exact .letter _ rfl
  · subst backslash
    exact .letter _ rfl
  · subst feed
    exact .letter _ rfl
  · subst back
    exact .letter _ rfl
  · subst tab
    exact .letter _ rfl
  · subst backspace
    exact .letter _ rfl
  · subst page
    exact .letter _ rfl
  · exact .plain quote backslash printable.1 printable.2
  · exact .unit single
  · obtain ⟨hhigh, hlow, whole⟩ := pairChar_halves (Nat.not_lt.mp single)
    exact .pair hhigh hlow whole

theorem readEscape_letter (place : Nat) {l c : Char} (h : escaped? l = some c) (more : List Char) :
    readEscape place (l :: more) = .ok (c, 1) := by
  have notUnit : l ≠ 'u' := by
    rintro rfl
    cases h
  simp [readEscape, h]

theorem readEscape_unit (place : Nat) {c : Char} (h : c.toNat < 0x10000) (d : Char)
    (more : List Char) :
    readEscape place ('u' :: (hexadecimal 4 c.toNat ++ d :: more)) = .ok (c, 5) := by
  obtain ⟨notHigh, notLow⟩ := not_half c
  simp only [readEscape, codeUnit?_hexadecimal h, notHigh, unitChar, notLow, Bool.or_self,
    Bool.false_eq_true, if_false, Char.ofNat_toNat]

theorem lt_of_isHigh {unit : Nat} (h : isHigh unit = true) : unit < 0x10000 := by
  simp only [isHigh, Bool.and_eq_true, decide_eq_true_eq] at h
  omega

theorem lt_of_isLow {unit : Nat} (h : isLow unit = true) : unit < 0x10000 := by
  simp only [isLow, Bool.and_eq_true, decide_eq_true_eq] at h
  omega

theorem readEscape_pair (place : Nat) {high low : Nat} (hhigh : isHigh high = true)
    (hlow : isLow low = true) (d : Char) (more : List Char) :
    readEscape place ('u' :: (hexadecimal 4 high ++ (unitEscape low ++ d :: more))) =
      .ok (pairChar high low, 11) := by
  have highBound := lt_of_isHigh hhigh
  have lowBound := lt_of_isLow hlow
  have second := codeUnit?_hexadecimal lowBound d more
  have enough : ¬(hexadecimal 4 low ++ d :: more).length < 5 := by
    rw [List.length_append, length_hexadecimal lowBound, List.length_cons]
    omega
  rw [unitEscape, List.cons_append, List.cons_append]
  generalize hexadecimal 4 low ++ d :: more = further at second enough
  have first := codeUnit?_hexadecimal highBound '\\' ('u' :: further)
  have behind : (hexadecimal 4 high ++ '\\' :: 'u' :: further).drop 4 = '\\' :: 'u' :: further :=
    List.drop_left' (length_hexadecimal highBound)
  simp only [readEscape, first, behind, hhigh, enough, second, hlow, if_false, if_true]

theorem readText_skip (start place : Nat) (done skipped rest : List Char) :
    readText start place skipped.length done (skipped ++ rest) =
      readText start (place + skipped.length) 0 done rest := by
  induction skipped generalizing place with
  | nil => rfl
  | cons c skipped ih =>
      rw [List.cons_append, List.length_cons, readText, ih]
      congr 1
      omega

theorem readText_escape (start place : Nat) (done escape : List Char) {more : List Char} {c : Char}
    (nonempty : more ≠ []) (h : readEscape place (escape ++ more) = .ok (c, escape.length)) :
    readText start place 0 done ('\\' :: escape ++ more) =
      readText start (place + ('\\' :: escape).length) 0 (c :: done) more := by
  have notEmpty : (escape ++ more).isEmpty = false := by simp [nonempty]
  rw [List.cons_append, readText, h]
  simp only [notEmpty, beq_self_eq_true, Bool.false_eq_true, if_false, if_true, readText_skip]
  rw [if_neg (by decide), List.length_cons]
  congr 1
  omega

theorem readText_textChar (start place : Nat) (done : List Char) (c : Char) {more : List Char}
    (nonempty : more ≠ []) :
    readText start place 0 done (textChar c ++ more) =
      readText start (place + (textChar c).length) 0 (c :: done) more := by
  have written := charForm_textChar c
  generalize textChar c = form at written
  obtain ⟨d, more, rfl⟩ := List.exists_cons_of_ne_nil nonempty
  cases written with
  | letter l h =>
      exact readText_escape start place done [l] nonempty (readEscape_letter place h _)
  | plain noQuote noBackslash low high =>
      rw [List.singleton_append, readText]
      simp [noQuote, noBackslash, Nat.not_lt.mpr low]
  | unit h =>
      apply readText_escape start place done ('u' :: hexadecimal 4 c.toNat) nonempty
      rw [List.length_cons, length_hexadecimal h]
      exact readEscape_unit place h d more
  | @pair high low hhigh hlow whole =>
      apply readText_escape start place done ('u' :: (hexadecimal 4 high ++ unitEscape low))
        nonempty
      rw [List.cons_append, List.append_assoc, readEscape_pair place hhigh hlow d more, whole]
      simp [unitEscape, length_hexadecimal (lt_of_isHigh hhigh),
        length_hexadecimal (lt_of_isLow hlow)]

theorem readText_flatMap_textChar (start place : Nat) (done cs left : List Char) :
    ∃ after, readText start place 0 done (cs.flatMap textChar ++ '"' :: left) =
      .ok (String.ofList (done.reverse ++ cs), ⟨after, left⟩) := by
  induction cs generalizing place done with
  | nil =>
      refine ⟨place + 1, ?_⟩
      simp [readText]
  | cons c cs ih =>
      rw [List.flatMap_cons, List.append_assoc,
        readText_textChar start place done c (by simp : cs.flatMap textChar ++ '"' :: left ≠ [])]
      obtain ⟨after, h⟩ := ih (place + (textChar c).length) (c :: done)
      refine ⟨after, ?_⟩
      rw [h, List.reverse_cons, List.append_assoc, List.singleton_append]

theorem readText_literal (start place : Nat) (s : String) (left : List Char) :
    ∃ after, readText start place 0 [] (s.toList.flatMap textChar ++ '"' :: left) =
      .ok (s, ⟨after, left⟩) := by
  obtain ⟨after, h⟩ := readText_flatMap_textChar start place [] s.toList left
  refine ⟨after, ?_⟩
  rw [h, List.reverse_nil, List.nil_append, String.ofList_toList]

theorem decimal_eq (ds : List Char) : decimal ds = Nat.ofDigitChars 10 ds 0 := by
  rw [Nat.ofDigitChars_eq_foldl]
  rfl

theorem toDigits_head_zero {n : Nat} {ds : List Char} (h : Nat.toDigits 10 n = '0' :: ds) :
    n = 0 := by
  induction n using Nat.strongRecOn generalizing ds with
  | ind n ih =>
      by_cases small : n < 10
      · rw [Nat.toDigits_of_lt_base small] at h
        simpa using (List.cons.inj h).1
      · rw [Nat.toDigits_of_base_le (by decide) (by omega)] at h
        obtain ⟨d, more, split⟩ :=
          List.exists_cons_of_ne_nil (Nat.toDigits_ne_nil (n := n / 10) (b := 10))
        rw [split, List.cons_append] at h
        cases (List.cons.inj h).1
        have := ih (n / 10) (by omega) split
        omega

/-- What may stand behind a value on the same level: nothing, a comma or the end of the line. -/
def Separated (left : List Char) : Prop := ∀ c ∈ left.head?, c = ',' ∨ c = '\n'

theorem parts_of_separated {left : List Char} (h : Separated left) :
    leadingDigits left = [] ∧ fractionPart left = [] ∧ exponentPart left = [] := by
  cases left with
  | nil => exact ⟨rfl, rfl, rfl⟩
  | cons c left =>
      rcases h c rfl with rfl | rfl
      · exact ⟨rfl, rfl, rfl⟩
      · exact ⟨rfl, rfl, rfl⟩

theorem wholePart_toDigits (n : Nat) {left : List Char} (h : Separated left) :
    wholePart (Nat.toDigits 10 n ++ left) = some (Nat.toDigits 10 n) := by
  have leading : leadingDigits (Nat.toDigits 10 n ++ left) = Nat.toDigits 10 n := by
    have digits : ∀ c ∈ Nat.toDigits 10 n, c.isDigit = true := fun c hc =>
      Nat.isDigit_of_mem_toDigits (by decide) (by decide) hc
    rw [leadingDigits, List.takeWhile_append_of_pos digits, ← leadingDigits,
      (parts_of_separated h).1, List.append_nil]
  obtain ⟨d, ds, split⟩ := List.exists_cons_of_ne_nil (Nat.toDigits_ne_nil (n := n) (b := 10))
  rw [split, List.cons_append] at leading ⊢
  by_cases zero : d = '0'
  · subst zero
    cases toDigits_head_zero split
    cases split
    rfl
  · rw [wholePart]
    · rw [leading]
    · intro more h
      exact zero (List.cons.inj h).1

theorem toList_integer (n : Int) :
    (Decimal.integer n).toList =
      (if n < 0 then ['-'] else []) ++ Nat.toDigits 10 n.natAbs := by
  unfold Decimal.integer Decimal.digitsOf
  split <;> simp

theorem integer_starts (n : Int) :
    ∃ d ds, d.isDigit = true ∧ Nat.toDigits 10 n.natAbs = d :: ds ∧
      (n < 0 ∧ (Decimal.integer n).toList = '-' :: d :: ds ∨
        ¬n < 0 ∧ (Decimal.integer n).toList = d :: ds) := by
  obtain ⟨d, ds, split⟩ :=
    List.exists_cons_of_ne_nil (Nat.toDigits_ne_nil (n := n.natAbs) (b := 10))
  have digit : d.isDigit = true :=
    Nat.isDigit_of_mem_toDigits (b := 10) (n := n.natAbs) (by decide) (by decide)
      (split ▸ List.mem_cons_self)
  refine ⟨d, ds, digit, split, ?_⟩
  rw [toList_integer, split]
  by_cases negative : n < 0
  · exact .inl ⟨negative, by rw [if_pos negative]; rfl⟩
  · exact .inr ⟨negative, by rw [if_neg negative]; rfl⟩

theorem ne_of_isDigit {c d : Char} (digit : d.isDigit = true) (h : c.isDigit = false) : c ≠ d := by
  rintro rfl
  rw [h] at digit
  cases digit

theorem splitSign_integer (n : Int) (left : List Char) :
    splitSign ((Decimal.integer n).toList ++ left) =
      (decide (n < 0), Nat.toDigits 10 n.natAbs ++ left) := by
  obtain ⟨d, ds, digit, digits, ⟨negative, starts⟩ | ⟨positive, starts⟩⟩ := integer_starts n
  · rw [starts, digits, decide_eq_true negative]
    rfl
  · rw [starts, digits, decide_eq_false positive, List.cons_append, splitSign]
    intro cs h
    exact ne_of_isDigit digit rfl (List.cons.inj h).1.symm

theorem readNumber_integer {n : Int} (bound : n.natAbs < 10 ^ integerDigits) (place : Nat)
    {left : List Char} (h : Separated left) :
    ∃ after, readNumber ⟨place, (Decimal.integer n).toList ++ left⟩ =
      .ok (.integer n, ⟨after, left⟩) := by
  obtain ⟨-, fraction, exponent⟩ := parts_of_separated h
  have short : ¬integerDigits < (Nat.toDigits 10 n.natAbs).length :=
    Nat.not_lt.mpr ((Nat.length_toDigits_le_iff (by decide) (by decide)).mpr bound)
  have value : (if decide (n < 0) = true then -((decimal (Nat.toDigits 10 n.natAbs) : Nat) : Int)
      else (decimal (Nat.toDigits 10 n.natAbs) : Nat)) = n := by
    rw [decimal_eq, Nat.ofDigitChars_ten_toDigits]
    split
    · next negative =>
        have := of_decide_eq_true negative
        omega
    · next positive =>
        have := of_decide_eq_false (eq_false_of_ne_true positive)
        omega
  have width : (if decide (n < 0) = true then 1 else 0) + (Nat.toDigits 10 n.natAbs).length =
      (Decimal.integer n).toList.length := by
    rw [toList_integer, List.length_append]
    congr 1
    by_cases negative : n < 0 <;> simp [negative]
  refine ⟨place + (Decimal.integer n).toList.length, ?_⟩
  simp only [readNumber, splitSign_integer, wholePart_toDigits _ h, List.drop_left,
    fraction, List.length_nil, List.drop_zero, exponent,
    List.isEmpty_nil, Bool.and_self, short, if_true, if_false, value, Nat.add_zero, width,
    Rest.skip]

end Pseudocode.Json
