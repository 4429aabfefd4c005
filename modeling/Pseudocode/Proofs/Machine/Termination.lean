import Mathlib.Data.DFinsupp.WellFounded
import Pseudocode.Proofs.Machine.Loops
import Pseudocode.Proofs.Machine.Runs

/-!
Runs of programs whose only loops are `REPEAT` loops, nested well or badly. Each line has a rank:
how much is left of the loop that it opens. Going on lowers the rank of the line that is left and
raises none; beginning a loop again lowers the rank of its line and raises only ranks of lines
below. So the ranks fall in lexicographic order, and every run ends.
-/

namespace Pseudocode

/-- How often the `REPEAT` loop that was opened at a line has been counted, if it is open. -/
def countAt (loops : List LoopFrame) (line : Nat) : Option Nat :=
  loops.findSome? fun
    | .repeatLoop openedAt count => if openedAt = line then some count else none
    | _ => none

@[simp] theorem countAt_cons_repeat (openedAt count line : Nat) (rest : List LoopFrame) :
    countAt (.repeatLoop openedAt count :: rest) line =
      if openedAt = line then some count else countAt rest line := by
  by_cases h : openedAt = line <;> simp [countAt, h]

theorem countAt_cons_of_ne {frame : LoopFrame} {line : Nat} (h : frame.openedAt ≠ line)
    (rest : List LoopFrame) : countAt (frame :: rest) line = countAt rest line := by
  cases frame with
  | repeatLoop openedAt count =>
      have hne : openedAt ≠ line := h
      simp [hne]
  | _ => simp [countAt]

theorem countAt_eq_none {loops : List LoopFrame} {line : Nat}
    (h : ∀ frame ∈ loops, frame.openedAt ≠ line) : countAt loops line = none := by
  induction loops with
  | nil => rfl
  | cons frame rest ih =>
      rw [countAt_cons_of_ne (h frame List.mem_cons_self)]
      exact ih fun other hother => h other (List.mem_cons_of_mem frame hother)

namespace Machine

/-- How much is left of the loop that a line opens. It is most at a line that is still ahead with
no loop open at it, and nothing at a line that is passed with no loop open at it. -/
def rank (m : Machine) (line : Nat) : Nat :=
  match countAt m.nesting.loops line with
  | some count => 2 * (m.limit.bound.toNat - count) + if m.cursor ≤ line then 1 else 0
  | none => if m.cursor ≤ line then 2 * m.limit.bound.toNat + 2 else 0

section Rank

variable {m m' : Machine} {line : Nat}

theorem rank_of_some {count : Nat} (h : countAt m.nesting.loops line = some count) :
    m.rank line =
      2 * (m.limit.bound.toNat - count) + if m.cursor ≤ line then 1 else 0 := by
  simp [rank, h]

theorem rank_of_none (h : countAt m.nesting.loops line = none) :
    m.rank line = if m.cursor ≤ line then 2 * m.limit.bound.toNat + 2 else 0 := by
  simp [rank, h]

theorem rank_cursor_pos (m : Machine) : 0 < m.rank m.cursor := by
  cases h : countAt m.nesting.loops m.cursor with
  | none => simp [rank_of_none h]
  | some count => simp [rank_of_some h]

theorem rank_of_passed (h : countAt m.nesting.loops line = none) (hline : line < m.cursor) :
    m.rank line = 0 := by
  rw [rank_of_none h, if_neg (by omega)]

theorem rank_le (hlimit : m'.limit = m.limit) (hcursor : m.cursor ≤ m'.cursor)
    (hsame : countAt m'.nesting.loops line = countAt m.nesting.loops line) :
    m'.rank line ≤ m.rank line := by
  cases h : countAt m.nesting.loops line with
  | none =>
      rw [rank_of_none h, rank_of_none (hsame.trans h), hlimit]
      split_ifs <;> omega
  | some count =>
      rw [rank_of_some h, rank_of_some (hsame.trans h), hlimit]
      split_ifs <;> omega

theorem rank_cursor_lt (hlimit : m'.limit = m.limit) (hcursor : m.cursor < m'.cursor)
    (hsame : countAt m'.nesting.loops m.cursor = countAt m.nesting.loops m.cursor) :
    m'.rank m.cursor < m.rank m.cursor := by
  cases h : countAt m.nesting.loops m.cursor with
  | none =>
      rw [rank_of_passed (hsame.trans h) hcursor]
      exact rank_cursor_pos m
  | some count =>
      rw [rank_of_some h, rank_of_some (hsame.trans h), hlimit, if_neg (by omega),
        if_pos (Nat.le_refl _)]
      omega

end Rank

/-- The ranks of one machine fall below those of another, in lexicographic order. -/
def Descends (n : Nat) (m' m : Machine) : Prop :=
  Pi.Lex (· < ·) (· < ·) (fun i : Fin n => m'.rank i) (fun i : Fin n => m.rank i)

theorem descends_wellFounded (n : Nat) : WellFounded (Descends n) := by
  have hlex : WellFounded (Pi.Lex (· < ·) (· < ·) : (Fin n → Nat) → (Fin n → Nat) → Prop) :=
    Pi.Lex.wellFounded _ fun _ => wellFounded_lt
  exact InvImage.wf (fun (m : Machine) (i : Fin n) => m.rank i) hlex

theorem descends_of_le {n : Nat} {m m' : Machine} (hcursor : m.cursor < n)
    (hle : ∀ line, m'.rank line ≤ m.rank line) (hlt : m'.rank m.cursor < m.rank m.cursor) :
    Descends n m' m :=
  Pi.lex_lt_of_lt wellFounded_lt (Pi.lt_def.mpr ⟨fun i => hle i, ⟨m.cursor, hcursor⟩, hlt⟩)

def OnlyRepeats (m : Machine) : Prop :=
  ∀ frame ∈ m.nesting.loops, frame.construct = .repeatLoop

theorem descends_of_opened {m m' : Machine} {n : Nat} (hlimit : m'.limit = m.limit)
    (hbelow : ∀ frame ∈ m.nesting.loops, frame.openedAt < m.cursor) (hcursor : m.cursor < n)
    (forward : m.cursor < m'.cursor)
    (pushed : m'.nesting.loops = .repeatLoop m.cursor 0 :: m.nesting.loops) :
    Descends n m' m := by
  have hbefore : countAt m.nesting.loops m.cursor = none :=
    countAt_eq_none fun other hother => Nat.ne_of_lt (hbelow other hother)
  have hafter : countAt m'.nesting.loops m.cursor = some 0 := by
    simp [pushed]
  have hlt : m'.rank m.cursor < m.rank m.cursor := by
    rw [rank_of_none hbefore, rank_of_some hafter, hlimit, if_pos (Nat.le_refl _),
      if_neg (by omega)]
    omega
  refine descends_of_le hcursor (fun line => ?_) hlt
  by_cases hline : m.cursor = line
  · rw [← hline]
    exact Nat.le_of_lt hlt
  · refine rank_le hlimit (Nat.le_of_lt forward) ?_
    rw [pushed, countAt_cons_repeat, if_neg hline]

theorem descends_of_left {m m' : Machine} {n : Nat} {frame : LoopFrame}
    (hlimit : m'.limit = m.limit) (hordered : m.LoopsOrdered) (hcursor : m.cursor < n)
    (forward : m.cursor < m'.cursor) (popped : m.nesting.loops = frame :: m'.nesting.loops) :
    Descends n m' m := by
  have hframe := hordered.le (popped ▸ List.mem_cons_self : frame ∈ m.nesting.loops)
  have hclosed : m'.rank frame.openedAt = 0 := by
    refine rank_of_passed (countAt_eq_none fun other hother => ?_) (by omega)
    exact Nat.ne_of_lt ((hordered.cons popped).1 other hother)
  have hother : ∀ line, frame.openedAt ≠ line →
      countAt m'.nesting.loops line = countAt m.nesting.loops line := by
    intro line hne
    rw [popped, countAt_cons_of_ne hne]
  refine descends_of_le hcursor (fun line => ?_) ?_
  · by_cases hline : frame.openedAt = line
    · rw [← hline, hclosed]
      exact Nat.zero_le _
    · exact rank_le hlimit (Nat.le_of_lt forward) (hother line hline)
  · by_cases hline : frame.openedAt = m.cursor
    · rw [← hline, hclosed, hline]
      exact rank_cursor_pos m
    · exact rank_cursor_lt hlimit forward (hother m.cursor hline)

theorem descends_of_counted {m m' : Machine} {n openedAt count : Nat} {rest : List LoopFrame}
    (hlimit : m'.limit = m.limit) (hordered : m.LoopsOrdered) (hcursor : m.cursor < n)
    (top : m.nesting.loops = .repeatLoop openedAt count :: rest)
    (within : (count + 1 : Int) ≤ m.limit.bound) (back : openedAt ≤ m'.cursor)
    (counted : m'.nesting.loops = .repeatLoop openedAt (count + 1) :: rest) :
    Descends n m' m := by
  have hle : openedAt ≤ m.cursor :=
    hordered.le (top ▸ List.mem_cons_self : LoopFrame.repeatLoop openedAt count ∈ _)
  refine ⟨⟨openedAt, by omega⟩, ?_, ?_⟩
  · rintro ⟨line, hn⟩ hline
    have hline : line < openedAt := hline
    have hne : openedAt ≠ line := by omega
    have hsame : countAt m'.nesting.loops line = countAt m.nesting.loops line := by
      simp [counted, top, hne]
    simp only [rank, hsame, hlimit, if_neg (show ¬ m.cursor ≤ line by omega),
      if_neg (show ¬ m'.cursor ≤ line by omega)]
  · have hbefore : countAt m.nesting.loops openedAt = some count := by
      simp [top]
    have hafter : countAt m'.nesting.loops openedAt = some (count + 1) := by
      simp [counted]
    simp only [rank_of_some hbefore, rank_of_some hafter, hlimit]
    have hbound : count + 1 ≤ m.limit.bound.toNat := by omega
    split_ifs <;> omega

theorem Moves.descends {m m' : Machine} {n : Nat} (h : m.Moves m') (hlimit : m'.limit = m.limit)
    (hrooted : m.Rooted) (hordered : m.LoopsOrdered) (honly : m.OnlyRepeats)
    (honly' : m'.OnlyRepeats) (hcursor : m.cursor < n) : Descends n m' m := by
  cases h with
  | on forward same =>
      refine descends_of_le hcursor (fun line => ?_) ?_
      · exact rank_le hlimit (Nat.le_of_lt forward) (by rw [same])
      · exact rank_cursor_lt hlimit forward (by rw [same])
  | opened frame here kind uncounted fresh forward pushed =>
      have hbelow := hordered.lt_cursor hrooted kind fresh
      obtain ⟨count, hframe⟩ :=
        frame.eq_repeatLoop (honly' frame (by rw [pushed]; exact List.mem_cons_self))
      obtain rfl := uncounted _ _ hframe
      rw [here] at hframe
      exact descends_of_opened hlimit hbelow hcursor forward (hframe ▸ pushed)
  | left frame forward popped => exact descends_of_left hlimit hordered hcursor forward popped
  | forAgain top behind same =>
      have hrepeat := honly _ (top ▸ List.mem_cons_self)
      cases hrepeat
  | whileAgain popped back =>
      have hrepeat := honly _ (popped ▸ List.mem_cons_self)
      cases hrepeat
  | repeatAgain top within back counted closer =>
      exact descends_of_counted hlimit hordered hcursor top within back counted

end Machine

namespace Program

def OnlyRepeatLoops (program : Program) : Prop :=
  ∀ line, program.kindAt line ≠ some (.opens .forLoop) ∧
    program.kindAt line ≠ some (.opens .whileLoop)

end Program

namespace Machine

theorem Sound.onlyRepeats {program : Program} {m : Machine} (h : Sound program m)
    (honly : program.OnlyRepeatLoops) : m.OnlyRepeats := by
  intro frame hframe
  have hroot := h.rooted.loops frame hframe
  rw [h.program_eq] at hroot
  cases frame with
  | counting openedAt name start stop => exact absurd hroot (honly openedAt).1
  | whileLoop openedAt condition => exact absurd hroot (honly openedAt).2
  | repeatLoop openedAt count => rfl

theorem Sound.cursor_lt {program : Program} {m : Machine} (h : Sound program m)
    (hrunning : m.finished = false) : m.cursor < program.length := by
  obtain hfinished | hkind := h.settled
  · rw [hrunning] at hfinished
    cases hfinished
  · obtain ⟨kind, hkind⟩ := Option.isSome_iff_exists.mp hkind
    rw [h.program_eq] at hkind
    exact Program.lt_length_of_kindAt hkind

theorem exists_end {program : Program} (honly : program.OnlyRepeatLoops) {m : Machine}
    (hsound : Sound program m) (hordered : m.LoopsOrdered) :
    ∃ steps, (m.runFor steps).2 ≠ .unfinished := by
  induction m using (descends_wellFounded program.length).induction with
  | h m ih =>
      cases hfinished : m.finished with
      | true => exact ⟨0, by simp [runFor, hfinished]⟩
      | false =>
          cases hstep : m.step with
          | failed trouble m' => exact ⟨1, by simp [runFor, hfinished, hstep]⟩
          | next m' =>
              obtain ⟨hmoves, hlimit⟩ := moves_of_step hfinished hstep
              have hsound' := hsound.step hstep
              have hdescends : Descends program.length m' m :=
                hmoves.descends hlimit hsound.rooted hordered (hsound.onlyRepeats honly)
                  (hsound'.onlyRepeats honly) (hsound.cursor_lt hfinished)
              obtain ⟨steps, hends⟩ :=
                ih m' hdescends hsound' (hordered.moves hsound.rooted hmoves)
              exact ⟨steps + 1, by simpa [runFor, hfinished, hstep] using hends⟩

theorem Reached.countsWithin {start m : Machine} (hstart : start.CountsWithin)
    (h : Reached start m) : m.CountsWithin ∧ m.limit = start.limit := by
  induction h with
  | start => exact ⟨hstart, rfl⟩
  | @step m m' _ next ih =>
      cases hfinished : m.finished with
      | true =>
          cases (step_of_finished hfinished).symm.trans next
          exact ih
      | false =>
          obtain ⟨hmoves, hlimit⟩ := moves_of_step hfinished next
          exact ⟨ih.1.moves hmoves hlimit, hlimit.trans ih.2⟩

/-- A run of a source text in which no line announces a `FOR` or a `WHILE` loop ends, by reaching
the end or by a fault, and until it fails no `REPEAT` loop is counted beyond the limit. -/
theorem run_ends_of_only_repeat_loops (comment source : String) (limit : RepeatLimit)
    (honly : ∀ line ∈ Line.ofSource source,
      line.kind comment ≠ .statement (.opens .forLoop) ∧
        line.kind comment ≠ .statement (.opens .whileLoop)) :
    (∃ steps, ((ofSource comment limit source).runFor steps).2 = .done ∨
      ∃ fault, ((ofSource comment limit source).runFor steps).2 = .failed (.fault fault)) ∧
    ∀ m, Reached (ofSource comment limit source) m → ∀ openedAt count : Nat,
      .repeatLoop openedAt count ∈ m.nesting.loops → (count : Int) ≤ max limit.bound 0 := by
  have hprogram : (Program.ofSource comment source).OnlyRepeatLoops := by
    intro i
    constructor
    · intro hkind
      obtain ⟨line, hline, hfor⟩ := Program.kindAt_ofLines_eq_some.mp hkind
      exact (honly line (List.mem_of_getElem? hline)).1 hfor
    · intro hkind
      obtain ⟨line, hline, hwhile⟩ := Program.kindAt_ofLines_eq_some.mp hkind
      exact (honly line (List.mem_of_getElem? hline)).2 hwhile
  have hsound : Sound (Program.ofSource comment source) (ofSource comment limit source) :=
    Sound.load limit _
  obtain ⟨hloops, hlimit⟩ := loops_load limit (Program.ofSource comment source)
  constructor
  · have hordered : (ofSource comment limit source).LoopsOrdered := by
      constructor <;> simp [ofSource, hloops]
    obtain ⟨steps, hends⟩ := exists_end hprogram hsound hordered
    refine ⟨steps, ?_⟩
    cases hrun : (ofSource comment limit source).runFor steps with
    | mk m ending =>
        rw [hrun] at hends
        cases ending with
        | done => exact .inl rfl
        | unfinished => exact absurd rfl hends
        | failed trouble =>
            obtain ⟨m₀, hreached, hstep⟩ := reached_of_runFor_failed hrun
            obtain ⟨fault, rfl⟩ := exists_fault_of_step (hreached.sound hsound).settled hstep
            exact .inr ⟨fault, rfl⟩
  · intro m hm openedAt count hframe
    have hstart : (ofSource comment limit source).CountsWithin := by
      simp [CountsWithin, ofSource, hloops]
    obtain ⟨hcounts, hkept⟩ := hm.countsWithin hstart
    have hbound := hcounts openedAt count hframe
    rwa [hkept, ofSource, hlimit] at hbound

theorem badly_nested_repeats_end :
    let source := "X = 1\nREPEAT\nREPEAT\nIF X > 3\nUNTIL X > 5\nENDIF\nX = X + 1\nUNTIL X > 9"
    (∀ line ∈ Line.ofSource source, line.kind "//" ≠ .statement (.opens .forLoop) ∧
      line.kind "//" ≠ .statement (.opens .whileLoop)) ∧
    (∃ steps, ((ofSource "//" (.atMost 3) source).runFor steps).2 = .done ∨
      ∃ fault, ((ofSource "//" (.atMost 3) source).runFor steps).2 = .failed (.fault fault)) ∧
    ∀ m, Reached (ofSource "//" (.atMost 3) source) m → ∀ openedAt count : Nat,
      .repeatLoop openedAt count ∈ m.nesting.loops → (count : Int) ≤ 3 := by
  intro source
  have honly : ∀ line ∈ Line.ofSource source, line.kind "//" ≠ .statement (.opens .forLoop) ∧
      line.kind "//" ≠ .statement (.opens .whileLoop) := by
    decide +kernel
  exact ⟨honly, run_ends_of_only_repeat_loops "//" source (.atMost 3) honly⟩

end Machine

end Pseudocode
