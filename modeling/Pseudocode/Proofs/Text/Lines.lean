import Mathlib.Tactic.Common
import Pseudocode.Text.Blank

namespace Pseudocode.Text

def AreLines (texts : List (List Char)) : Prop := ∀ text ∈ texts, ∀ c ∈ text, isBreak c = false

theorem AreLines.cons {text : List Char} {texts : List (List Char)}
    (hfirst : ∀ c ∈ text, isBreak c = false) (h : AreLines texts) : AreLines (text :: texts) :=
  List.forall_mem_cons.mpr ⟨hfirst, h⟩

theorem areLines_lines (cs : List Char) : AreLines (lines cs) := by
  fun_induction lines cs with
  | case1 => simp [AreLines]
  | case2 rest ih => exact .cons (by simp) ih
  | case3 c rest _ _ ih => exact .cons (by simp) ih
  | case4 c rest _ hc ih =>
      have hother : isBreak c = false := by simpa using hc
      cases hrest : lines rest with
      | nil => exact .cons (by simpa using hother) (by simp [AreLines])
      | cons line more =>
          rw [hrest] at ih
          obtain ⟨hline, hmore⟩ := List.forall_mem_cons.mp ih
          exact .cons (List.forall_mem_cons.mpr ⟨hother, hline⟩) hmore

theorem lines_append_lineFeed {text : List Char} (h : ∀ c ∈ text, isBreak c = false)
    (rest : List Char) : lines (text ++ '\n' :: rest) = text :: lines rest := by
  induction text with
  | nil => rfl
  | cons c text ih =>
      obtain ⟨hc, htext⟩ := List.forall_mem_cons.mp h
      rw [List.cons_append, lines, ih htext, hc]
      · rfl
      · rintro rest' rfl -
        exact absurd hc (by decide)

theorem toList_unlines (texts : List (List Char)) :
    (unlines (texts.map String.ofList)).toList = texts.flatMap (· ++ ['\n']) := by
  simp [unlines, String.toList_join, List.flatMap_map, Function.comp_def]

theorem lines_unlines {texts : List (List Char)} (h : AreLines texts) :
    lines (unlines (texts.map String.ofList)).toList = texts := by
  rw [toList_unlines]
  induction texts with
  | nil => rfl
  | cons text texts ih =>
      obtain ⟨htext, htexts⟩ := List.forall_mem_cons.mp h
      rw [List.flatMap_cons, List.append_assoc]
      exact (lines_append_lineFeed htext _).trans (congrArg _ (ih htexts))

end Pseudocode.Text
