import Pseudocode.Proofs.Machine.Loops

namespace Pseudocode

namespace Program

theorem leadingGap_le_length (program : Program) : program.leadingGap ≤ program.length := by
  induction program with
  | nil => exact Nat.le_refl _
  | cons line rest ih =>
      rw [leadingGap]
      split
      · exact Nat.zero_le _
      · exact Nat.succ_le_succ ih

theorem nextStatement_le_length {program : Program} {i : Nat} (h : i ≤ program.length) :
    program.nextStatement i ≤ program.length := by
  have hgap := leadingGap_le_length (program.drop i)
  rw [List.length_drop] at hgap
  unfold nextStatement
  omega

theorem lt_of_scanFrom {opener closer : StatementKind} {mark : Option StatementKind}
    {depth i line : Nat} {program : Program}
    (h : scanFrom opener closer mark depth i program = some line) : line < i + program.length := by
  induction program generalizing depth i with
  | nil => cases h
  | cons code rest ih =>
      rw [List.length_cons]
      rcases scanFrom_cons_cases opener closer mark depth code.content.kind? with
        hstop | ⟨depth', hnext⟩
      · rw [hstop i code rest rfl] at h
        cases h
        omega
      · rw [hnext i code rest rfl] at h
        have hline := ih h
        omega

theorem scan_lt_length {program : Program} {i line : Nat} {opener closer : StatementKind}
    {mark : Option StatementKind} (h : program.scan i opener closer mark = some line) :
    line < program.length := by
  have hline := lt_of_scanFrom h
  have hbelow := lt_of_scan h
  rw [List.length_drop] at hline
  omega

end Program

namespace Machine

variable {m m' : Machine} {s : Statement}

/-- The loops that a line which fails leaves open. An `ENDWHILE` whose condition cannot be tested
has left its loop by then, and an `UNTIL` has counted the iteration. -/
def loopsLeft : Content → List LoopFrame → List LoopFrame
  | .statement .endWhile, .whileLoop _ _ :: rest => rest
  | .statement (.untilMark _), .repeatLoop openedAt count :: rest =>
      .repeatLoop openedAt (count + 1) :: rest
  | _, loops => loops

theorem loopsLeft_endWhile {loops : List LoopFrame}
    (noWhile : ∀ openedAt condition rest, loops ≠ .whileLoop openedAt condition :: rest) :
    loopsLeft (.statement .endWhile) loops = loops := by
  cases loops with
  | nil => rfl
  | cons frame rest =>
      cases frame with
      | whileLoop openedAt condition => exact absurd rfl (noWhile openedAt condition rest)
      | _ => rfl

theorem loopsLeft_untilMark {condition : String} {loops : List LoopFrame}
    (noRepeat : ∀ openedAt count rest, loops ≠ .repeatLoop openedAt count :: rest) :
    loopsLeft (.statement (.untilMark condition)) loops = loops := by
  cases loops with
  | nil => rfl
  | cons frame rest =>
      cases frame with
      | repeatLoop openedAt count => exact absurd rfl (noRepeat openedAt count rest)
      | _ => rfl

theorem Refusal.leaves {fault : Fault} (h : Refusal m s fault m') :
    m' = m.withLoops (loopsLeft (.statement s) m.nesting.loops) := by
  cases h with
  | data kept ofData =>
      cases s with
      | endWhile => exact absurd rfl kept.1
      | untilMark condition => exact absurd rfl kept.2
      | _ => rfl
  | endWhileAlone noWhile =>
      rw [loopsLeft_endWhile noWhile]
      rfl
  | endWhileData top fails =>
      rw [top]
      rfl
  | untilAlone noRepeat =>
      rw [loopsLeft_untilMark noRepeat]
      rfl
  | untilRunaway top beyond =>
      rw [top]
      rfl
  | untilData top within fails =>
      rw [top]
      rfl
  | _ => rfl

def LoopsInside (m : Machine) : Prop := ∀ frame ∈ m.nesting.loops, frame.openedAt < m.program.length

theorem Rooted.loopsInside (h : m.Rooted) : m.LoopsInside :=
  fun frame hframe => Program.lt_length_of_kindAt (h.loops frame hframe)

theorem Effect.cursor_le (inside : m.LoopsInside) (hlt : m.cursor < m.program.length)
    (h : Effect m s m') : m'.cursor ≤ m.program.length := by
  have hopened : ∀ {frame : LoopFrame} {rest : List LoopFrame}, m.nesting.loops = frame :: rest →
      frame.openedAt < m.program.length := fun top => inside _ (top ▸ List.mem_cons_self)
  cases h with
  | ifElse fails target mark => exact Program.scan_lt_length target
  | ifSkipped fails target mark => exact Program.scan_lt_length target
  | ifUnclosed fails target => exact Nat.le_refl _
  | elseSkipped top fresh wasTrue target => exact Program.scan_lt_length target
  | elseUnclosed top fresh wasTrue target => exact Nat.le_refl _
  | forAgain top nearest value below stored => exact hopened top
  | whileSkipped fails target => exact Program.scan_lt_length target
  | whileUnclosed fails target => exact Nat.le_refl _
  | whileAgain top holds => exact Nat.le_of_lt (hopened top)
  | untilAgain top within fails => exact Nat.le_of_lt (hopened top)
  | _ => exact hlt

/-- The states that a machine comes to when it is stepped on whatever happens, after faults too. -/
inductive Visited (start : Machine) : Machine → Prop where
  | start : Visited start start
  | step {m : Machine} (visited : Visited start m) : Visited start m.step.machine

theorem Rooted.refusal {fault : Fault} (h : m.Rooted) (refusal : Refusal m s fault m') :
    m'.Rooted := by
  cases refusal with
  | endWhileData top fails => exact { h with loops := (h.loops_cons top).2 }
  | untilRunaway top beyond =>
      obtain ⟨htop, hrest⟩ := h.loops_cons top
      exact { h with loops := List.forall_mem_cons.mpr ⟨htop, hrest⟩ }
  | untilData top within fails =>
      obtain ⟨htop, hrest⟩ := h.loops_cons top
      exact { h with loops := List.forall_mem_cons.mpr ⟨htop, hrest⟩ }
  | _ => exact h

theorem Rooted.advance (h : m.Rooted) : m.advance.machine.Rooted := by
  obtain ⟨-, hnext⟩ | ⟨-, frame, -, hfail⟩ | ⟨-, -, hfinish⟩ := advance_cases m
  · rw [hnext]
    exact { h with }
  · rw [hfail]
    exact { h with }
  · rw [hfinish]
    exact { h with }

theorem Rooted.step (h : m.Rooted) : m.step.machine.Rooted := by
  unfold Machine.step
  split
  · exact h
  · split
    · exact h
    · next line hline =>
        split
        · next s hs =>
            have hkind : m.program.kindAt m.cursor = some s.kind := by
              rw [Program.kindAt, hline, Option.bind_some, hs]
              rfl
            cases hexec : m.exec s with
            | next m₁ =>
                have hrooted : m₁.count.Rooted := { h.effect hkind (effect_of_exec hexec) with }
                exact hrooted.advance
            | failed trouble m₁ =>
                obtain ⟨fault, -, refusal⟩ := refusal_of_exec hexec
                exact h.refusal refusal
        · exact h
        · exact h
        · exact h

theorem Visited.rooted {start : Machine} (hstart : start.Rooted) (h : Visited start m) :
    m.Rooted := by
  induction h with
  | start => exact hstart
  | step _ ih => exact ih.step

theorem movedTo_of_advance {m₁ : Machine} {trouble : Trouble} (effect : Effect m s m₁)
    (h : m₁.count.advance = .failed trouble m') :
    ∃ line construct openedAt, trouble = .fault (unclosed construct openedAt) ∧
      m' = m₁.count.movedTo line ∧
      (m.LoopsInside → m.cursor < m.program.length → line = m.program.length) := by
  have hprogram : m₁.count.program = m.program := (running_of_effect effect).1
  obtain ⟨-, hnext⟩ | ⟨hend, frame, -, hfail⟩ | ⟨-, -, hfinish⟩ := advance_cases m₁.count
  · cases h.symm.trans hnext
  · cases h.symm.trans hfail
    rw [hprogram] at hend ⊢
    refine ⟨_, _, _, rfl, rfl, fun inside hlt => ?_⟩
    have hcursor : m₁.cursor ≤ m.program.length := effect.cursor_le inside hlt
    exact Nat.le_antisymm (Program.nextStatement_le_length hcursor) hend
  · cases h.symm.trans hfinish

theorem kind_of_malformed {comment : String} {lines : List Line} {i : Nat} {kind : StatementKind}
    {fault : Fault}
    (h : (Program.ofLines comment lines).contents[i]? = some (.malformed kind fault)) :
    fault.kind ≠ .unclosedConstruct := by
  rw [Program.contents_ofLines, List.getElem?_map, Option.map_eq_some_iff] at h
  obtain ⟨line, -, hcontent⟩ := h
  obtain ⟨-, cause, hread, rfl⟩ := Line.malformed_of_content hcontent
  rw [Fault.atLine_kind]
  exact (Statement.ofData_of_read hread).kind_ne_unclosedConstruct

theorem executed_of_effect {m₁ : Machine} (effect : Effect m s m₁) :
    m₁.executed = m.executed := by
  cases effect <;> rfl

/-- A line that fails with any fault but that of a construct left open at the end of the program
leaves everything as it was, except that an `ENDWHILE` has left its loop and an `UNTIL` has counted.
With a construct left open, the statement has had its whole effect, is counted, and the cursor is
behind the last line. The last holds of every state whose loops were opened at lines of the program,
and whoever steps a machine on, after faults too, meets no other state. -/
theorem failed_line_leaves_state (comment : String) (lines : List Line) :
    (∀ (m m' : Machine) (trouble : Trouble), m.program = Program.ofLines comment lines →
      (m.program.kindAt m.cursor).isSome → m.step = .failed trouble m' →
      ∃ content fault, m.program.contents[m.cursor]? = some content ∧ trouble = .fault fault ∧
        (fault.kind ≠ .unclosedConstruct →
          m' = m.withLoops (loopsLeft content m.nesting.loops)) ∧
        (fault.kind = .unclosedConstruct → ∃ s m₁ line,
          content = .statement s ∧ m.exec s = .next m₁ ∧
          m' = { m₁ with executed := m.executed + 1, cursor := line } ∧
          (m.LoopsInside → line = m.program.length))) ∧
    ∀ (limit : RepeatLimit) (m : Machine),
      Visited (load limit (Program.ofLines comment lines)) m → m.LoopsInside := by
  refine ⟨?_, fun limit m hm => (hm.rooted (Sound.load limit _).rooted).loopsInside⟩
  intro m m' trouble hprogram hkind hstep
  have hrunning : m.finished = false := by
    by_contra hfinished
    rw [step_of_finished (by simpa using hfinished)] at hstep
    cases hstep
  obtain ⟨kind, hkind⟩ := Option.isSome_iff_exists.mp hkind
  rw [Program.kindAt_eq, Option.bind_eq_some_iff] at hkind
  obtain ⟨content, hcontent, hkind⟩ := hkind
  cases content with
  | blank => cases hkind
  | unknown => cases hkind
  | malformed kind fault =>
      rw [step_of_malformed hrunning hcontent] at hstep
      cases hstep
      refine ⟨_, fault, hcontent, rfl, fun _ => rfl, fun hunclosed => absurd hunclosed ?_⟩
      exact kind_of_malformed (hprogram ▸ hcontent)
  | statement s =>
      rw [step_of_statement hrunning hcontent] at hstep
      cases hexec : m.exec s with
      | failed trouble' m₁ =>
          rw [hexec] at hstep
          cases hstep
          obtain ⟨fault, rfl, refusal⟩ := refusal_of_exec hexec
          refine ⟨_, fault, hcontent, rfl, fun _ => refusal.leaves, fun hunclosed => ?_⟩
          exact absurd hunclosed (refusal_line refusal).1
      | next m₁ =>
          rw [hexec] at hstep
          have effect := effect_of_exec hexec
          obtain ⟨line, construct, openedAt, rfl, rfl, hline⟩ := movedTo_of_advance effect hstep
          refine ⟨_, _, hcontent, rfl, fun hkept => absurd rfl hkept, fun _ => ?_⟩
          refine ⟨s, m₁, line, rfl, hexec, ?_, fun inside => hline inside ?_⟩
          · rw [← executed_of_effect effect]
            rfl
          · exact Program.lt_length_of_statement hcontent

/-- An `UNTIL` without a condition counts each time it is tried, and a false conditional without an
`ENDIF` is passed over before the fault is found. -/
theorem faults_count_loop_and_pass_conditional :
    (∃ m m' fault, Visited (ofSource "//" defaultLimit "REPEAT\nUNTIL X") m ∧
      m.step = .failed (.fault fault) m' ∧ fault.kind = .invalidExpression ∧
      m' = m.withLoops [.repeatLoop 0 2]) ∧
    ∃ m m' fault, Visited (ofSource "//" defaultLimit "IF 1 > 2") m ∧
      m.step = .failed (.fault fault) m' ∧ fault.kind = .unclosedConstruct ∧
      m'.cursor = 1 ∧ m'.executed = 1 := by
  constructor
  · let m := (ofSource "//" defaultLimit "REPEAT\nUNTIL X").step.machine.step.machine
    have hfails : m.step = .failed (.fault
        ⟨.invalidExpression, "Invalid condition format: 'X'", some 1⟩) m.step.machine := by rfl
    obtain ⟨hleaves, -⟩ := failed_line_leaves_state "//" (Line.ofSource "REPEAT\nUNTIL X")
    obtain ⟨content, fault, hcontent, ⟨⟩, hkept, -⟩ := hleaves m _ _ rfl rfl hfails
    have hline : m.program.contents[m.cursor]? = some (.statement (.untilMark "X")) := by rfl
    cases hcontent.symm.trans hline
    exact ⟨m, _, _, .step (.step .start), hfails, rfl, hkept (by decide)⟩
  · let m := ofSource "//" defaultLimit "IF 1 > 2"
    have hfails : m.step = .failed (.fault
        ⟨.unclosedConstruct, "Missing ENDIF for IF", some 0⟩) m.step.machine := by rfl
    obtain ⟨hleaves, hinside⟩ := failed_line_leaves_state "//" (Line.ofSource "IF 1 > 2")
    obtain ⟨content, fault, -, ⟨⟩, -, hunclosed⟩ := hleaves m _ _ rfl rfl hfails
    obtain ⟨s, m₁, line, -, -, hleft, hline⟩ := hunclosed rfl
    refine ⟨m, _, _, .start, hfails, rfl, ?_, by rw [hleft]; rfl⟩
    rw [hleft]
    exact hline (hinside defaultLimit m .start)

end Machine

end Pseudocode
