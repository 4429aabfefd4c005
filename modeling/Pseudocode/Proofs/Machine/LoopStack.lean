import Pseudocode.Proofs.Machine.Alignment
import Pseudocode.Proofs.Machine.Loops

namespace Pseudocode

def Line.opensLoop (comment : String) (line : Line) : Bool :=
  line.kind comment = .statement (.opens .forLoop) ||
    line.kind comment = .statement (.opens .whileLoop) ||
    line.kind comment = .statement (.opens .repeatLoop)

theorem Line.opensLoop_of_kind {comment : String} {line : Line} {frame : LoopFrame}
    (h : line.kind comment = .statement (.opens frame.construct)) : line.opensLoop comment := by
  rw [opensLoop, h]
  cases frame <;> simp [LoopFrame.construct]

theorem LoopFrame.length_le_countP {comment : String} {lines : List Line} {loops : List LoopFrame}
    (sorted : loops.Pairwise fun inner outer => outer.openedAt < inner.openedAt)
    (rooted : ∀ frame ∈ loops, ∃ line, lines[frame.openedAt]? = some line ∧
      line.kind comment = .statement (.opens frame.construct))
    {n : Nat} (above : ∀ frame ∈ loops, frame.openedAt < n) :
    loops.length ≤ (lines.take n).countP (Line.opensLoop comment) := by
  induction loops generalizing n with
  | nil => exact Nat.zero_le _
  | cons frame outer ih =>
      obtain ⟨hbelow, hsorted⟩ := List.pairwise_cons.mp sorted
      obtain ⟨⟨line, hline, hkind⟩, hrooted⟩ := List.forall_mem_cons.mp rooted
      have hopens : line.opensLoop comment := Line.opensLoop_of_kind hkind
      have houter := ih hsorted hrooted hbelow
      have hlt := above frame List.mem_cons_self
      calc outer.length + 1
          ≤ (lines.take frame.openedAt).countP (Line.opensLoop comment) + 1 :=
            Nat.succ_le_succ houter
        _ = (lines.take (frame.openedAt + 1)).countP (Line.opensLoop comment) := by
            rw [List.take_add_one, hline, List.countP_append]
            simp [hopens]
        _ ≤ (lines.take n).countP (Line.opensLoop comment) :=
            (List.take_sublist_take_left hlt).countP_le

namespace Machine

theorem LoopsOrdered.load (limit : RepeatLimit) (program : Program) :
    (Machine.load limit program).LoopsOrdered := by
  constructor <;> simp [(loops_load limit program).1]

theorem LoopsOrdered.step {program : Program} {m m' : Machine} (h : m.LoopsOrdered)
    (sound : Sound program m) (hstep : m.step = .next m') : m'.LoopsOrdered := by
  cases hfinished : m.finished with
  | true =>
      cases (step_of_finished hfinished).symm.trans hstep
      exact h
  | false => exact h.moves sound.rooted (moves_of_step hfinished hstep).1

theorem Reached.loopsOrdered {program : Program} {start m : Machine} (sound : Sound program start)
    (ordered : start.LoopsOrdered) (h : Reached start m) : m.LoopsOrdered := by
  induction h with
  | start => exact ordered
  | step hm next ih => exact ih.step (hm.sound sound) next

theorem GoesBack.top {m m' : Machine} (back : m.GoesBack m') (rooted : m.Rooted)
    (hstep : m.step = .next m') :
    ∃ count rest, m'.nesting.loops = .repeatLoop m'.cursor count :: rest := by
  obtain ⟨hkind, hlt⟩ := back
  obtain ⟨-, rfl⟩ | ⟨-, s, m₁, hs, heffect, hadvance⟩ := step_eq_next hstep
  · exact absurd hlt (Nat.lt_irrefl _)
  · obtain ⟨condition, rfl⟩ : ∃ condition, s = .untilMark condition := by
      rw [Program.kindAt_of_statement hs] at hkind
      cases s <;> simp_all [Statement.kind]
    have hcursor := cursor_of_advance hadvance
    obtain ⟨hnesting, -, -⟩ := kept_of_advance hadvance
    cases heffect with
    | untilLeft top within holds =>
        have hle := Program.le_nextStatement m.program (m.cursor + 1)
        change m'.cursor = m.program.nextStatement (m.cursor + 1) at hcursor
        omega
    | @untilAgain _ openedAt count rest top within fails =>
        have hopener : m.program.kindAt openedAt = some (.opens .repeatLoop) :=
          (rooted.loops_cons top).1
        change m'.cursor = m.program.nextStatement openedAt at hcursor
        rw [Program.nextStatement_eq_self (by rw [hopener]; rfl)] at hcursor
        exact ⟨count + 1, rest, by rw [hnesting, hcursor]; rfl⟩

/-- Behind a step a `REPEAT` loop is open at the cursor exactly if the step was an `UNTIL` that went
back to it. -/
theorem goesBack_iff_top {m m' : Machine} (rooted : m.Rooted) (ordered : m.LoopsOrdered)
    (hrunning : m.finished = false) (hstep : m.step = .next m') :
    m.GoesBack m' ↔ ∃ count rest, m'.nesting.loops = .repeatLoop m'.cursor count :: rest := by
  refine ⟨fun back => back.top rooted hstep, ?_⟩
  rintro ⟨count, rest, htop⟩
  have hmem : .repeatLoop m'.cursor count ∈ m'.nesting.loops := htop ▸ List.mem_cons_self
  have hle : .repeatLoop m'.cursor count ∈ m.nesting.loops → m'.cursor ≤ m.cursor :=
    fun hframe => ordered.le hframe
  -- Every move but the one of an `UNTIL` leaves the cursor behind the lines of all `REPEAT` loops.
  cases (moves_of_step hrunning hstep).1 with
  | on forward same => exact absurd (hle (same ▸ hmem)) (Nat.not_le_of_lt forward)
  | opened frame here kind uncounted fresh forward pushed =>
      rw [pushed] at htop
      cases htop
      exact absurd here (Nat.ne_of_gt forward)
  | left frame forward popped =>
      have hbefore := hle (popped ▸ List.mem_cons_of_mem frame hmem)
      exact absurd hbefore (Nat.not_le_of_lt forward)
  | forAgain top behind same =>
      rw [same, top] at htop
      cases htop
  | whileAgain popped back =>
      have hlt := (ordered.cons popped).1 _ hmem
      exact absurd back (Nat.not_le_of_lt hlt)
  | @repeatAgain openedAt count' outer top within back counted closer =>
      rw [counted] at htop
      cases htop
      have hopener : m.program.kindAt m'.cursor = some (.opens .repeatLoop) :=
        (rooted.loops_cons top).1
      have hbefore : m'.cursor ≤ m.cursor :=
        ordered.le (top ▸ List.mem_cons_self : .repeatLoop m'.cursor count' ∈ m.nesting.loops)
      refine ⟨closer, Nat.lt_of_le_of_ne hbefore fun hsame => ?_⟩
      rw [hsame, closer] at hopener
      cases hopener

theorem nesting_advance (m : Machine) : m.advance.machine.nesting = m.nesting := by
  obtain ⟨-, hnext⟩ | ⟨-, frame, -, hfail⟩ | ⟨-, -, hfinish⟩ := advance_cases m
  · rw [hnext]
    rfl
  · rw [hfail]
    rfl
  · rw [hfinish]
    rfl

theorem loops_of_repeat {m : Machine} (hrunning : m.finished = false)
    (hs : m.program.contents[m.cursor]? = some (.statement .repeatLoop)) :
    ((∃ count rest, m.nesting.loops = .repeatLoop m.cursor count :: rest) →
      m.step.machine.nesting.loops = m.nesting.loops) ∧
    ((¬ ∃ count rest, m.nesting.loops = .repeatLoop m.cursor count :: rest) →
      m.step.machine.nesting.loops = .repeatLoop m.cursor 0 :: m.nesting.loops) := by
  rw [step_of_statement hrunning hs]
  change (_ → (m.execRepeat.andThen _).machine.nesting.loops = _) ∧
    (_ → (m.execRepeat.andThen _).machine.nesting.loops = _)
  constructor
  · rintro ⟨count, rest, htop⟩
    have hexec : m.execRepeat = m.goOn := by
      rw [execRepeat, htop]
      exact if_pos rfl
    rw [hexec]
    exact congrArg Nesting.loops (nesting_advance _)
  · intro hnone
    have hexec : m.execRepeat =
        (m.withLoops (.repeatLoop m.cursor 0 :: m.nesting.loops)).goOn := by
      unfold execRepeat
      split
      · next openedAt count loop =>
          obtain ⟨rest, htop⟩ := List.head?_eq_some_iff.mp loop
          refine if_neg fun hhere => hnone ⟨count, rest, ?_⟩
          rw [htop, hhere]
      · rfl
    rw [hexec]
    exact congrArg Nesting.loops (nesting_advance _)

/-- In every run, badly nested programs included, each loop was opened below the loops around it,
and all of them above the cursor, except that the innermost may be a `REPEAT` loop at the cursor.
Hence there are no more loops than lines that open one. A `REPEAT` goes on with a loop and its count
if the statement before it was an `UNTIL` that went back, and opens a new loop otherwise. -/
theorem loop_stack_follows_lines (comment source : String) (limit : RepeatLimit) (m : Machine)
    (reached : Reached (ofSource comment limit source) m) :
    m.nesting.loops.Pairwise (fun inner outer => outer.openedAt < inner.openedAt) ∧
    (∀ top rest, m.nesting.loops = top :: rest → top.openedAt < m.cursor ∨
      ∃ count, top = .repeatLoop m.cursor count) ∧
    m.nesting.loops.length ≤ (Line.ofSource source).countP (Line.opensLoop comment) ∧
    ∀ line, m.finished = false → (Line.ofSource source)[m.cursor]? = some line →
      line.kind comment = .statement (.opens .repeatLoop) →
      (m = ofSource comment limit source →
        m.step.machine.nesting.loops = .repeatLoop m.cursor 0 :: m.nesting.loops) ∧
      ∀ previous, Reached (ofSource comment limit source) previous →
        previous.finished = false → previous.step = .next m →
        (previous.GoesBack m →
          (∃ count rest, m.nesting.loops = .repeatLoop m.cursor count :: rest) ∧
            m.step.machine.nesting.loops = m.nesting.loops) ∧
        (¬ previous.GoesBack m →
          m.step.machine.nesting.loops = .repeatLoop m.cursor 0 :: m.nesting.loops) := by
  have hstart : Sound (Program.ofSource comment source) (ofSource comment limit source) :=
    Sound.load limit _
  have hfirst : (ofSource comment limit source).LoopsOrdered := LoopsOrdered.load limit _
  have hsound := reached.sound hstart
  have hordered := reached.loopsOrdered hstart hfirst
  have hrooted : ∀ frame ∈ m.nesting.loops, ∃ line,
      (Line.ofSource source)[frame.openedAt]? = some line ∧
        line.kind comment = .statement (.opens frame.construct) := by
    intro frame hframe
    have hkind := hsound.rooted.loops frame hframe
    rw [hsound.program_eq] at hkind
    exact Program.kindAt_ofLines_eq_some.mp hkind
  refine ⟨hordered.sorted, ?_, ?_, ?_⟩
  · intro top rest htop
    refine (hordered.above top (htop ▸ List.mem_cons_self)).imp_right ?_
    rintro ⟨hat, hrepeat⟩
    rw [← hat]
    exact top.eq_repeatLoop hrepeat
  · have habove : ∀ frame ∈ m.nesting.loops, frame.openedAt < (Line.ofSource source).length := by
      intro frame hframe
      obtain ⟨line, hline, -⟩ := hrooted frame hframe
      exact (List.getElem?_eq_some_iff.mp hline).1
    have hbound := LoopFrame.length_le_countP hordered.sorted hrooted habove
    rwa [List.take_length] at hbound
  · intro line hrunning hline hkind
    have hs : m.program.contents[m.cursor]? = some (.statement .repeatLoop) := by
      rw [hsound.program_eq, Program.ofSource, Program.contents_ofLines, List.getElem?_map, hline,
        Option.map_some, Line.content, hkind]
      rfl
    obtain ⟨hagain, hopened⟩ := loops_of_repeat hrunning hs
    constructor
    · rintro rfl
      apply hopened
      rintro ⟨count, rest, htop⟩
      rw [ofSource, (loops_load limit _).1] at htop
      cases htop
    · intro previous hprevious hran hstep
      have hback := goesBack_iff_top (hprevious.sound hstart).rooted
        (hprevious.loopsOrdered hstart hfirst) hran hstep
      exact ⟨fun back => ⟨hback.mp back, hagain (hback.mp back)⟩,
        fun hnot => hopened (mt hback.mpr hnot)⟩

theorem repeat_resumed_after_until :
    let source := "IF 1 < 2\nREPEAT\nUNTIL 1 > 2"
    ∃ m, Reached (ofSource "//" defaultLimit source) m ∧ m.cursor = 1 ∧
      m.nesting.loops.length ≤ 1 ∧
      (∃ count rest, m.nesting.loops = .repeatLoop m.cursor count :: rest) ∧
      m.step.machine.nesting.loops = m.nesting.loops := by
  intro source
  let previous := ((ofSource "//" defaultLimit source).runFor 2).1
  have hprevious : Reached (ofSource "//" defaultLimit source) previous := by
    have hrun : (ofSource "//" defaultLimit source).runFor 2 = (previous, .unfinished) :=
      Prod.ext rfl (by decide +kernel)
    exact (reached_of_runFor hrun (by simp)).1
  obtain ⟨hran, huntil, hrewound, hkept, hcursor, hrunning⟩ :
      previous.finished = false ∧ previous.program.kindAt previous.cursor = some .untilMark ∧
        previous.step.machine.cursor < previous.cursor ∧ previous.step.trouble? = none ∧
        previous.step.machine.cursor = 1 ∧ previous.step.machine.finished = false := by
    decide +kernel
  have hstep : previous.step = .next previous.step.machine := by
    cases hout : previous.step with
    | next m => rfl
    | failed trouble m =>
        rw [hout] at hkept
        cases hkept
  obtain ⟨line, hline, hkind⟩ : ∃ line, (Line.ofSource source)[1]? = some line ∧
      line.kind "//" = .statement (.opens .repeatLoop) :=
    Program.kindAt_ofLines_eq_some.mp (by decide +kernel)
  have hopeners : (Line.ofSource source).countP (Line.opensLoop "//") = 1 := by decide +kernel
  have hreached := hprevious.step hstep
  obtain ⟨-, -, hdepth, hrepeat⟩ := loop_stack_follows_lines "//" source defaultLimit _ hreached
  obtain ⟨-, hafter⟩ := hrepeat line hrunning (hcursor ▸ hline) hkind
  exact ⟨_, hreached, hcursor, hopeners ▸ hdepth,
    (hafter previous hprevious hran hstep).1 ⟨huntil, hrewound⟩⟩

end Machine

end Pseudocode
