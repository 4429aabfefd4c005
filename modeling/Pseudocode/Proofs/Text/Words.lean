import Mathlib.Data.List.Basic
import Mathlib.Data.List.TakeWhile
import Mathlib.Tactic.Common
import Pseudocode.Text.Blank

namespace Pseudocode.Text

/-- At least one blank, and nothing else. -/
structure Gap (cs : List Char) : Prop where
  ne_nil : cs ≠ []
  blank : ∀ c ∈ cs, isBlank c = true

/-- At least one character, and no blank. -/
structure Word (cs : List Char) : Prop where
  ne_nil : cs ≠ []
  solid : ∀ c ∈ cs, isBlank c = false

/-- At least one character, and no blank at either end. -/
structure Trimmed (cs : List Char) : Prop where
  ne_nil : cs ≠ []
  first : ∀ c, cs.head? = some c → isBlank c = false
  last : ∀ c, cs.getLast? = some c → isBlank c = false

-- The instances try the characters of the text and not all characters that there are.
instance (cs : List Char) : Decidable (Gap cs) :=
  decidable_of_iff (cs ≠ [] ∧ cs.all isBlank = true)
    ⟨fun h => ⟨h.1, List.all_eq_true.mp h.2⟩, fun h => ⟨h.ne_nil, List.all_eq_true.mpr h.blank⟩⟩

instance (cs : List Char) : Decidable (Word cs) :=
  decidable_of_iff (cs ≠ [] ∧ cs.all (fun c => !isBlank c) = true)
    ⟨fun h => ⟨h.1, by simpa using h.2⟩, fun h => ⟨h.ne_nil, by simpa using h.solid⟩⟩

instance (cs : List Char) : Decidable (Trimmed cs) :=
  decidable_of_iff (cs ≠ [] ∧ cs.head?.all (fun c => !isBlank c) = true ∧
      cs.getLast?.all (fun c => !isBlank c) = true)
    ⟨fun h => ⟨h.1, by simpa [Option.all_eq_true] using h.2.1,
        by simpa [Option.all_eq_true] using h.2.2⟩,
      fun h => ⟨h.ne_nil, by simpa [Option.all_eq_true] using h.first,
        by simpa [Option.all_eq_true] using h.last⟩⟩

def Apart (cs : List Char) : Prop := ∀ c, cs.head? = some c → isBlank c = true

variable {cs gap word rest s t : List Char}

theorem apart_nil : Apart [] := by
  intro c h
  cases h

theorem apart_cons {c : Char} (h : isBlank c = true) (cs : List Char) : Apart (c :: cs) := by
  rintro d ⟨⟩
  exact h

theorem Gap.apart (h : Gap gap) (rest : List Char) : Apart (gap ++ rest) := by
  obtain ⟨c, gap, rfl⟩ := List.exists_cons_of_ne_nil h.ne_nil
  exact apart_cons (h.blank c List.mem_cons_self) (gap ++ rest)

theorem takeWhile_append_eq {p : Char → Bool} (h : ∀ c ∈ cs, p c = true)
    (stop : ∀ c, rest.head? = some c → p c = false) : (cs ++ rest).takeWhile p = cs := by
  rw [List.takeWhile_append_of_pos h]
  cases rest with
  | nil => exact List.append_nil cs
  | cons c rest => rw [List.takeWhile_cons_of_neg (by simp [stop c rfl]), List.append_nil]

theorem dropWhile_append_eq {p : Char → Bool} (h : ∀ c ∈ cs, p c = true)
    (stop : ∀ c, rest.head? = some c → p c = false) : (cs ++ rest).dropWhile p = rest := by
  rw [List.dropWhile_append_of_pos h]
  cases rest with
  | nil => rfl
  | cons c rest => exact List.dropWhile_cons_of_neg (by simp [stop c rfl])

theorem firstWord_of_apart (h : Apart rest) : firstWord rest = [] := by
  cases rest with
  | nil => rfl
  | cons c rest => exact List.takeWhile_cons_of_neg (by simp [h c rfl])

theorem firstWord_append (h : ∀ c ∈ word, isBlank c = false) (hrest : Apart rest) :
    firstWord (word ++ rest) = word :=
  takeWhile_append_eq (fun c hc => by simp [h c hc]) fun c hc => by simp [hrest c hc]

theorem afterWord_append (h : ∀ c ∈ word, isBlank c = false) (hrest : Apart rest) :
    afterWord (word ++ rest) = rest :=
  dropWhile_append_eq (fun c hc => by simp [h c hc]) fun c hc => by simp [hrest c hc]

theorem firstWord_append_afterWord (cs : List Char) : firstWord cs ++ afterWord cs = cs :=
  List.takeWhile_append_dropWhile

theorem solid_firstWord (cs : List Char) : ∀ c ∈ firstWord cs, isBlank c = false := by
  intro c hc
  simpa using List.mem_takeWhile_imp hc

theorem word_firstWord {c : Char} (h : isBlank c = false) (cs : List Char) :
    Word (firstWord (c :: cs)) := by
  refine ⟨?_, solid_firstWord _⟩
  rw [firstWord, List.takeWhile_cons_of_pos (by simp [h])]
  exact List.cons_ne_nil _ _

theorem apart_afterWord (cs : List Char) : Apart (afterWord cs) := by
  intro c hc
  have hstop := List.head?_dropWhile_not (fun c => !isBlank c) cs
  rw [show cs.dropWhile (fun c => !isBlank c) = afterWord cs from rfl, hc] at hstop
  simpa using hstop

theorem trimLeft_append (h : ∀ c ∈ gap, isBlank c = true) (rest : List Char) :
    trimLeft (gap ++ rest) = trimLeft rest :=
  List.dropWhile_append_of_pos h

theorem trimRight_append (h : ∀ c ∈ gap, isBlank c = true) (cs : List Char) :
    trimRight (cs ++ gap) = trimRight cs := by
  rw [trimRight, List.reverse_append, trimLeft_append (by simpa using h), trimRight]

theorem Word.trimmed (h : Word word) : Trimmed word :=
  ⟨h.ne_nil, fun c hc => h.solid c (List.mem_of_head? hc),
    fun c hc => h.solid c (List.mem_of_getLast? hc)⟩

theorem Trimmed.trimLeft_append (h : Trimmed t) (rest : List Char) :
    trimLeft (t ++ rest) = t ++ rest := by
  obtain ⟨c, t, rfl⟩ := List.exists_cons_of_ne_nil h.ne_nil
  exact List.dropWhile_cons_of_neg (by simp [h.first c rfl])

theorem Trimmed.trimRight_append (h : Trimmed t) (before : List Char) :
    trimRight (before ++ t) = before ++ t := by
  have hreverse : Trimmed t.reverse :=
    ⟨by simpa using h.ne_nil, fun c hc => h.last c (by rwa [← List.head?_reverse]),
      fun c hc => h.first c (by rwa [← List.getLast?_reverse])⟩
  rw [trimRight, List.reverse_append, hreverse.trimLeft_append, ← List.reverse_append,
    List.reverse_reverse]

theorem Trimmed.trimLeft_eq (h : Trimmed t) : trimLeft t = t := by
  simpa using h.trimLeft_append []

theorem Trimmed.trimRight_eq (h : Trimmed t) : trimRight t = t := h.trimRight_append []

theorem Trimmed.trim_eq (h : Trimmed t) : trim t = t := by
  rw [trim, h.trimLeft_eq, h.trimRight_eq]

theorem Trimmed.append (hs : Trimmed s) (ht : Trimmed t) (between : List Char) :
    Trimmed (s ++ (between ++ t)) := by
  refine ⟨by simp [hs.ne_nil], fun c hc => hs.first c ?_, fun c hc => ht.last c ?_⟩
  · rwa [List.head?_append_of_ne_nil s hs.ne_nil] at hc
  · rwa [← List.append_assoc, List.getLast?_append_of_ne_nil _ ht.ne_nil] at hc

theorem exists_trimLeft (cs : List Char) :
    ∃ before, (∀ c ∈ before, isBlank c = true) ∧ cs = before ++ trimLeft cs :=
  ⟨cs.takeWhile isBlank, fun _ hc => List.mem_takeWhile_imp hc,
    List.takeWhile_append_dropWhile.symm⟩

theorem exists_trimRight (cs : List Char) :
    ∃ after, (∀ c ∈ after, isBlank c = true) ∧ cs = trimRight cs ++ after := by
  obtain ⟨before, hblank, hsplit⟩ := exists_trimLeft cs.reverse
  refine ⟨before.reverse, by simpa using hblank, ?_⟩
  rw [trimRight, ← List.reverse_append, ← hsplit, List.reverse_reverse]

theorem exists_trim (cs : List Char) :
    ∃ before after, (∀ c ∈ before, isBlank c = true) ∧ (∀ c ∈ after, isBlank c = true) ∧
      cs = before ++ (trim cs ++ after) := by
  obtain ⟨before, hbefore, hleft⟩ := exists_trimLeft cs
  obtain ⟨after, hafter, hright⟩ := exists_trimRight (trimLeft cs)
  refine ⟨before, after, hbefore, hafter, ?_⟩
  rw [trim, ← hright, ← hleft]

theorem isBlank_of_head_trimLeft {c : Char} (h : (trimLeft cs).head? = some c) :
    isBlank c = false := by
  have hstop := List.head?_dropWhile_not isBlank cs
  rw [show cs.dropWhile isBlank = trimLeft cs from rfl, h] at hstop
  simpa using hstop

theorem trimmed_trim (h : trim cs ≠ []) : Trimmed (trim cs) := by
  refine ⟨h, fun c hc => ?_, fun c hc => ?_⟩
  · obtain ⟨after, -, hright⟩ := exists_trimRight (trimLeft cs)
    have hhead : (trimLeft cs).head? = some c := by
      rwa [hright, ← trim, List.head?_append_of_ne_nil _ h]
    exact isBlank_of_head_trimLeft hhead
  · rw [trim, trimRight, List.getLast?_reverse] at hc
    exact isBlank_of_head_trimLeft hc

theorem words_cons (c : Char) (rest : List Char) :
    words (c :: rest) =
      if isBlank c then words rest
      else
        match rest, words rest with
        | d :: _, w :: ws => if isBlank d then [c] :: w :: ws else (c :: w) :: ws
        | _, ws => [c] :: ws :=
  rfl

theorem words_append (h : ∀ c ∈ gap, isBlank c = true) (rest : List Char) :
    words (gap ++ rest) = words rest := by
  induction gap with
  | nil => rfl
  | cons c gap ih =>
      rw [List.cons_append, words_cons, if_pos (h c List.mem_cons_self)]
      exact ih fun d hd => h d (List.mem_cons_of_mem c hd)

theorem Word.words_append (h : Word word) (hrest : Apart rest) :
    words (word ++ rest) = word :: words rest := by
  obtain ⟨ne_nil, solid⟩ := h
  induction word with
  | nil => exact absurd rfl ne_nil
  | cons c word ih =>
      have hc : isBlank c = false := solid c List.mem_cons_self
      rw [List.cons_append, words_cons, if_neg (by simp [hc])]
      cases word with
      | nil =>
          cases rest with
          | nil => rfl
          | cons d rest =>
              rw [List.nil_append]
              cases hwords : words (d :: rest) with
              | nil => rfl
              | cons w ws => exact if_pos (hrest d rfl)
      | cons d word =>
          rw [List.cons_append, ← List.cons_append,
            ih (by simp) fun e he => solid e (List.mem_cons_of_mem c he)]
          exact if_neg (by simp [solid d (by simp)])

theorem Word.words_eq (h : Word word) : words word = [word] := by
  have hwords := h.words_append apart_nil
  rwa [List.append_nil] at hwords

theorem words_eq_cons {c : Char} (h : isBlank c = false) (cs : List Char) :
    words (c :: cs) = firstWord (c :: cs) :: words (afterWord (c :: cs)) := by
  have hwords := (word_firstWord h cs).words_append (apart_afterWord (c :: cs))
  rwa [firstWord_append_afterWord] at hwords

theorem collapse_cons (c : Char) (rest : List Char) :
    collapse (c :: rest) =
      if isBlank c then
        match rest with
        | [] => [' ']
        | d :: _ => if isBlank d then collapse rest else ' ' :: collapse rest
      else c :: collapse rest :=
  rfl

theorem collapse_append (h : ∀ c ∈ word, isBlank c = false) (rest : List Char) :
    collapse (word ++ rest) = word ++ collapse rest := by
  induction word with
  | nil => rfl
  | cons c word ih =>
      rw [List.cons_append, collapse_cons, if_neg (by simp [h c List.mem_cons_self]),
        ih fun d hd => h d (List.mem_cons_of_mem c hd), List.cons_append]

theorem collapse_gap (hgap : Gap gap) (hrest : Trimmed rest) :
    collapse (gap ++ rest) = ' ' :: collapse rest := by
  obtain ⟨ne_nil, blank⟩ := hgap
  induction gap with
  | nil => exact absurd rfl ne_nil
  | cons c gap ih =>
      rw [List.cons_append, collapse_cons, if_pos (blank c List.mem_cons_self)]
      cases gap with
      | nil =>
          obtain ⟨d, rest, rfl⟩ := List.exists_cons_of_ne_nil hrest.ne_nil
          exact if_neg (by simp [hrest.first d rfl])
      | cons d gap =>
          have hgap : ∀ e ∈ d :: gap, isBlank e = true := fun e he =>
            blank e (List.mem_cons_of_mem c he)
          rw [List.cons_append]
          refine (if_pos (hgap d List.mem_cons_self)).trans ?_
          exact ih (List.cons_ne_nil d gap) hgap

end Pseudocode.Text
