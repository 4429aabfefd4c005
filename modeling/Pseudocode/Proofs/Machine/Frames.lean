import Mathlib.Tactic.Common
import Pseudocode.Machine.Step
import Pseudocode.Outline

namespace Pseudocode

open Outline

def Construct.stack : Construct → StackName
  | block => .block
  | conditional => .conditional
  | forLoop => .loop
  | whileLoop => .loop
  | repeatLoop => .loop

def Frame.entry (frame : Frame) : Construct × Nat := (frame.construct, frame.openedAt)

theorem Frame.entry_stack (frame : Frame) : frame.entry.1.stack = frame.stack := by
  cases frame with
  | block i => rfl
  | conditional frame => rfl
  | loop frame => cases frame <;> rfl

namespace LoopFrame

variable {frame : LoopFrame}

theorem eq_counting (h : frame.construct = .forLoop) :
    ∃ name start stop, frame = .counting frame.openedAt name start stop := by
  cases frame with
  | counting openedAt name start stop => exact ⟨name, start, stop, rfl⟩
  | whileLoop openedAt condition => cases h
  | repeatLoop openedAt count => cases h

theorem eq_whileLoop (h : frame.construct = .whileLoop) :
    ∃ condition, frame = .whileLoop frame.openedAt condition := by
  cases frame with
  | counting openedAt name start stop => cases h
  | whileLoop openedAt condition => exact ⟨condition, rfl⟩
  | repeatLoop openedAt count => cases h

theorem eq_repeatLoop (h : frame.construct = .repeatLoop) :
    ∃ count, frame = .repeatLoop frame.openedAt count := by
  cases frame with
  | counting openedAt name start stop => cases h
  | whileLoop openedAt condition => cases h
  | repeatLoop openedAt count => exact ⟨count, rfl⟩

end LoopFrame

namespace Nesting

/-- The constructs of all frames in the order of the lines that opened them, innermost first. -/
def merged (nesting : Nesting) : OpenConstructs :=
  ((nesting.frames .block ++ nesting.frames .conditional ++ nesting.frames .loop).map
    Frame.entry).mergeSort fun inner outer => outer.2 ≤ inner.2

/-- The three stacks hold the frames of given open constructs, each stack its own share. -/
def Represents (nesting : Nesting) (open_ : OpenConstructs) : Prop :=
  ∀ stack, (nesting.frames stack).map Frame.entry = open_.filter fun entry => entry.1.stack = stack

theorem perm_filter_stack (open_ : OpenConstructs) :
    ((open_.filter fun entry => entry.1.stack = .block) ++
      (open_.filter fun entry => entry.1.stack = .conditional) ++
      open_.filter fun entry => entry.1.stack = .loop).Perm open_ := by
  induction open_ with
  | nil => exact List.Perm.nil
  | cons entry open_ ih =>
      rw [List.append_assoc] at ih ⊢
      cases hs : entry.1.stack with
      | block => simpa [List.filter_cons, hs] using ih
      | conditional =>
          simp only [List.filter_cons, hs, decide_true, decide_false, reduceCtorEq, if_true,
            Bool.false_eq_true, if_false, List.cons_append]
          exact List.perm_middle.trans (ih.cons entry)
      | loop =>
          simp only [List.filter_cons, hs, decide_true, decide_false, reduceCtorEq, if_true,
            Bool.false_eq_true, if_false, ← List.append_assoc] at ih ⊢
          exact List.perm_middle.trans (ih.cons entry)

/-- Frames that represent open constructs give them back when they are merged. -/
theorem merged_eq_of_represents {nesting : Nesting} {open_ : OpenConstructs}
    (h : nesting.Represents open_) (hsorted : open_.Pairwise fun inner outer => outer.2 < inner.2) :
    nesting.merged = open_ := by
  have hperm : nesting.merged.Perm open_ := by
    refine (List.mergeSort_perm _ _).trans ?_
    rw [List.map_append, List.map_append, h .block, h .conditional, h .loop]
    exact perm_filter_stack open_
  have hlines : ∀ a ∈ open_, ∀ b ∈ open_, a.2 = b.2 → a = b := by
    refine List.Pairwise.forall_of_forall_of_flip (fun _ _ _ => rfl) (hsorted.imp ?_)
      (hsorted.imp ?_)
    · intro a b hlt heq
      omega
    · intro a b hlt heq
      omega
  have hmerged : nesting.merged.Pairwise fun inner outer =>
      decide (outer.2 ≤ inner.2) = true := by
    refine List.pairwise_mergeSort ?_ ?_ _
    · intro a b c hab hbc
      simp only [decide_eq_true_eq] at hab hbc ⊢
      omega
    · intro a b
      simp only [Bool.or_eq_true, decide_eq_true_eq]
      omega
  have hopen : open_.Pairwise fun inner outer => decide (outer.2 ≤ inner.2) = true :=
    hsorted.imp fun hlt => decide_eq_true (Nat.le_of_lt hlt)
  refine List.Perm.eq_of_pairwise ?_ hmerged hopen hperm
  intro a b ha hb hab hba
  simp only [decide_eq_true_eq] at hab hba
  exact hlines a (hperm.subset ha) b hb (Nat.le_antisymm hba hab)

theorem frames_push (nesting : Nesting) (frame : Frame) (stack : StackName) :
    (nesting.push frame).frames stack =
      if frame.stack = stack then frame :: nesting.frames stack else nesting.frames stack := by
  cases frame <;> cases stack <;> rfl

theorem frames_dropTop (nesting : Nesting) (dropped stack : StackName) :
    (nesting.dropTop dropped).frames stack =
      if dropped = stack then (nesting.frames stack).tail else nesting.frames stack := by
  cases dropped <;> cases stack <;> simp [dropTop, frames]

section Represents

variable {nesting : Nesting} {open_ : OpenConstructs} {entry : Construct × Nat}

theorem Represents.push (h : nesting.Represents open_) (frame : Frame) :
    (nesting.push frame).Represents (frame.entry :: open_) := by
  intro stack
  rw [frames_push, List.filter_cons, frame.entry_stack]
  by_cases hstack : frame.stack = stack
  · simp [hstack, h stack]
  · simp [hstack, h stack]

theorem Represents.dropTop (h : nesting.Represents (entry :: open_)) :
    (nesting.dropTop entry.1.stack).Represents open_ := by
  intro stack
  have hstack := h stack
  rw [List.filter_cons] at hstack
  rw [frames_dropTop]
  by_cases hsame : entry.1.stack = stack
  · simp only [hsame, decide_true, if_true] at hstack ⊢
    rw [List.map_tail, hstack, List.tail_cons]
  · simpa [hsame] using hstack

theorem Represents.exists_top (h : nesting.Represents (entry :: open_)) :
    ∃ frame rest, nesting.frames entry.1.stack = frame :: rest ∧ frame.entry = entry := by
  have hstack := h entry.1.stack
  rw [List.filter_cons, if_pos (by simp)] at hstack
  obtain ⟨frame, rest, hframes, hentry, -⟩ := List.map_eq_cons_iff.mp hstack
  exact ⟨frame, rest, hframes, hentry⟩

theorem Represents.entry_mem (h : nesting.Represents open_) (stack : StackName) (frame : Frame)
    (hframe : frame ∈ nesting.frames stack) : frame.entry ∈ open_ := by
  have hmem : frame.entry ∈ (nesting.frames stack).map Frame.entry := List.mem_map_of_mem hframe
  rw [h stack] at hmem
  exact (List.mem_filter.mp hmem).1

theorem Represents.conditional_mem (h : nesting.Represents open_) {frame : IfFrame}
    (hframe : frame ∈ nesting.conditionals) : (.conditional, frame.openedAt) ∈ open_ :=
  h.entry_mem .conditional (.conditional frame) (List.mem_map_of_mem hframe)

theorem Represents.loop_mem (h : nesting.Represents open_) (frame : LoopFrame)
    (hframe : frame ∈ nesting.loops) : (frame.construct, frame.openedAt) ∈ open_ :=
  h.entry_mem .loop (.loop frame) (List.mem_map_of_mem hframe)

theorem Represents.block_mem (h : nesting.Represents open_) (block : Nat)
    (hblock : block ∈ nesting.blocks) : (.block, block) ∈ open_ :=
  h.entry_mem .block (.block block) (List.mem_map_of_mem hblock)

theorem Represents.conditional_top {openedAt : Nat}
    (h : nesting.Represents ((.conditional, openedAt) :: open_)) :
    ∃ frame rest, nesting.conditionals = frame :: rest ∧ frame.openedAt = openedAt := by
  obtain ⟨frame, rest, hframes, hentry⟩ := h.exists_top
  obtain ⟨top, more, hframe, rfl, -⟩ := List.map_eq_cons_iff.mp hframes
  exact ⟨top, more, hframe, congrArg Prod.snd hentry⟩

theorem Represents.block_top {openedAt : Nat}
    (h : nesting.Represents ((.block, openedAt) :: open_)) :
    ∃ rest, nesting.blocks = openedAt :: rest := by
  obtain ⟨frame, rest, hframes, hentry⟩ := h.exists_top
  obtain ⟨top, more, hframe, rfl, -⟩ := List.map_eq_cons_iff.mp hframes
  obtain rfl : top = openedAt := congrArg Prod.snd hentry
  exact ⟨more, hframe⟩

theorem Represents.loop_top {construct : Construct} {openedAt : Nat}
    (hstack : construct.stack = .loop)
    (h : nesting.Represents ((construct, openedAt) :: open_)) :
    ∃ frame rest, nesting.loops = frame :: rest ∧ frame.construct = construct ∧
      frame.openedAt = openedAt := by
  obtain ⟨frame, rest, hframes, hentry⟩ := h.exists_top
  rw [hstack] at hframes
  obtain ⟨top, more, hframe, rfl, -⟩ := List.map_eq_cons_iff.mp hframes
  exact ⟨top, more, hframe, congrArg Prod.fst hentry, congrArg Prod.snd hentry⟩

theorem Represents.congr {nesting' : Nesting} (h : nesting.Represents open_)
    (hsame : ∀ stack, (nesting'.frames stack).map Frame.entry =
      (nesting.frames stack).map Frame.entry) :
    nesting'.Represents open_ := by
  intro stack
  rw [hsame stack, h stack]

theorem Represents.innermost_eq_none (h : nesting.Represents []) : nesting.innermost = none := by
  have hblocks : nesting.blocks = [] := by simpa [frames] using h .block
  have hconditionals : nesting.conditionals = [] := by simpa [frames] using h .conditional
  have hloops : nesting.loops = [] := by simpa [frames] using h .loop
  simp [innermost, tops, hblocks, hconditionals, hloops]

end Represents

end Nesting

namespace Machine

section Left

variable {m : Machine} {open_ : OpenConstructs} {openedAt : Nat}

theorem represents_conditional_left {frame : IfFrame} {rest : List IfFrame}
    (top : m.nesting.conditionals = frame :: rest)
    (h : m.nesting.Represents ((.conditional, openedAt) :: open_)) :
    (m.withConditionals rest).nesting.Represents open_ := by
  have hdrop : (m.withConditionals rest).nesting = m.nesting.dropTop .conditional := by
    simp [withConditionals, Nesting.dropTop, top]
  rw [hdrop]
  exact h.dropTop

theorem represents_block_left {block : Nat} {rest : List Nat}
    (top : m.nesting.blocks = block :: rest)
    (h : m.nesting.Represents ((.block, openedAt) :: open_)) :
    (m.withBlocks rest).nesting.Represents open_ := by
  have hdrop : (m.withBlocks rest).nesting = m.nesting.dropTop .block := by
    simp [withBlocks, Nesting.dropTop, top]
  rw [hdrop]
  exact h.dropTop

theorem represents_loop_left {construct : Construct} {frame : LoopFrame} {rest : List LoopFrame}
    (hstack : construct.stack = .loop) (top : m.nesting.loops = frame :: rest)
    (h : m.nesting.Represents ((construct, openedAt) :: open_)) :
    (m.withLoops rest).nesting.Represents open_ := by
  have hdrop : (m.withLoops rest).nesting = m.nesting.dropTop construct.stack := by
    simp [withLoops, Nesting.dropTop, top, hstack]
  rw [hdrop]
  exact h.dropTop

end Left

end Machine

end Pseudocode
