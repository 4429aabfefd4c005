import Pseudocode.Proofs.Machine.LoopStack
import Pseudocode.Proofs.Machine.Residue

namespace Pseudocode

namespace Machine

variable {m m' m₁ : Machine} {s : Statement}

def OneBranch (m : Machine) : Prop :=
  ∀ frame ∈ m.nesting.conditionals, frame.elseEntered = !frame.wasTrue

/-- What happens to the open conditionals: nothing, or the innermost one is left, or one is opened.
The new one is in exactly one of its parts, unless the program has no line that closes it and ends
there. -/
inductive Turns (m m' : Machine) : Prop where
  | kept (same : m'.nesting.conditionals = m.nesting.conditionals)
  | left (frame : IfFrame) (popped : m.nesting.conditionals = frame :: m'.nesting.conditionals)
  | opened (frame : IfFrame) (pushed : m'.nesting.conditionals = frame :: m.nesting.conditionals)
      (branch : frame.elseEntered = (!frame.wasTrue) ∨ m.program.length ≤ m'.cursor)

theorem Effect.turns (h : Effect m s m') (one : m.OneBranch) : m.Turns m' := by
  cases h with
  | ifTrue holds => exact .opened _ rfl (.inl rfl)
  | ifElse fails target mark => exact .opened _ rfl (.inl rfl)
  | ifUnclosed fails target => exact .opened _ rfl (.inr (Nat.le_refl _))
  | elseEntered top fresh wasFalse =>
      have hbranch := one _ (top ▸ List.mem_cons_self)
      rw [fresh, wasFalse] at hbranch
      cases hbranch
  | elseSkipped top fresh wasTrue target => exact .left _ top
  | ifLeft top => exact .left _ top
  | _ => exact .kept rfl

theorem le_cursor_advance (m : Machine) : m.cursor ≤ m.advance.machine.cursor := by
  have hle := Program.le_nextStatement m.program m.cursor
  obtain ⟨-, hnext⟩ | ⟨-, frame, -, hfail⟩ | ⟨-, -, hfinish⟩ := advance_cases m
  · rw [hnext]
    exact hle
  · rw [hfail]
    exact hle
  · rw [hfinish]
    exact hle

theorem Turns.advance (h : m.Turns m₁) : m.Turns m₁.count.advance.machine := by
  have hnesting : m₁.count.advance.machine.nesting = m₁.nesting := nesting_advance m₁.count
  have hcursor : m₁.cursor ≤ m₁.count.advance.machine.cursor := le_cursor_advance m₁.count
  cases h with
  | kept same => exact .kept (by rw [hnesting, same])
  | left frame popped => exact .left frame (by rw [hnesting, popped])
  | opened frame pushed branch =>
      exact .opened frame (by rw [hnesting, pushed]) (branch.imp_right (Nat.le_trans · hcursor))

theorem turns_step (settled : m.Settled) (one : m.OneBranch) : m.Turns m.step.machine := by
  cases hstep : m.step with
  | next m' =>
      obtain ⟨-, rfl⟩ | ⟨-, s, m₁, -, effect, hadvance⟩ := step_eq_next hstep
      · exact .kept rfl
      · have hturns := (effect.turns one).advance
        rwa [hadvance] at hturns
  | failed trouble m' =>
      obtain ⟨-, ⟨kind, fault, -, -, rfl⟩ | ⟨s, -, hfailed⟩⟩ := step_eq_failed settled hstep
      · exact .kept rfl
      · obtain ⟨fault, -, refusal⟩ | ⟨m₁, effect, hadvance⟩ := hfailed
        · rw [refusal.leaves]
          exact .kept rfl
        · have hturns := (effect.turns one).advance
          rwa [hadvance] at hturns

theorem OneBranch.load (limit : RepeatLimit) (program : Program) :
    (Machine.load limit program).OneBranch := by
  obtain ⟨hnesting, -, -⟩ := kept_of_advance (advance_load limit program)
  intro frame hframe
  rw [hnesting] at hframe
  cases hframe

theorem OneBranch.step {program : Program} (one : m.OneBranch) (sound : Sound program m)
    (hstep : m.step = .next m') : m'.OneBranch := by
  have hturns : m.Turns m' := by
    have hturns := turns_step sound.settled one
    rw [hstep] at hturns
    exact hturns
  cases hturns with
  | kept same =>
      intro frame hframe
      exact one frame (same ▸ hframe)
  | left top popped =>
      intro frame hframe
      exact one frame (popped ▸ List.mem_cons_of_mem top hframe)
  | opened top pushed branch =>
      obtain hbranch | hend := branch
      · rw [OneBranch, pushed]
        exact List.forall_mem_cons.mpr ⟨hbranch, one⟩
      · -- A run that goes on at the end of the program is finished, with nothing open.
        have hsound := sound.step hstep
        exfalso
        obtain hfinished | hkind := hsound.settled
        · have hclosed := (hsound.ended hfinished).2.1
          rw [pushed] at hclosed
          cases hclosed
        · obtain ⟨kind, hkind⟩ := Option.isSome_iff_exists.mp hkind
          have hlt := Program.lt_length_of_kindAt hkind
          rw [hsound.program_eq, ← sound.program_eq] at hlt
          exact Nat.not_lt_of_le hend hlt

theorem Reached.oneBranch {program : Program} {start : Machine} (sound : Sound program start)
    (one : start.OneBranch) (h : Reached start m) : m.OneBranch := by
  induction h with
  | start => exact one
  | step hm next ih => exact ih.step (hm.sound sound) next

/-- A conditional stays as it is as long as more are open than there are around it. -/
theorem Turns.suffix (h : m.Turns m') {frame : IfFrame} {around : List IfFrame}
    (hframe : frame :: around <:+ m.nesting.conditionals)
    (deep : around.length < m'.nesting.conditionals.length) :
    frame :: around <:+ m'.nesting.conditionals := by
  cases h with
  | kept same => exact same ▸ hframe
  | opened top pushed _ =>
      rw [pushed]
      exact hframe.trans (List.suffix_cons top _)
  | left top popped =>
      rw [popped] at hframe
      obtain hsame | hinner := List.suffix_cons_iff.mp hframe
      · rw [List.cons.injEq] at hsame
        rw [← hsame.2] at deep
        exact absurd deep (Nat.lt_irrefl _)
      · exact hinner

theorem suffix_runFor {program : Program} (sound : Sound program m) (one : m.OneBranch)
    {frame : IfFrame} {around : List IfFrame} (hframe : frame :: around <:+ m.nesting.conditionals)
    {steps : Nat}
    (deep : ∀ k ≤ steps, around.length < (m.runFor k).1.nesting.conditionals.length) :
    frame :: around <:+ (m.runFor steps).1.nesting.conditionals := by
  induction steps generalizing m with
  | zero => exact hframe
  | succ steps ih =>
      have hturns := turns_step sound.settled one
      cases hfinished : m.finished with
      | true =>
          simp only [runFor, hfinished, if_true]
          exact hframe
      | false =>
          have hnext : ∀ k, m.runFor (k + 1) = runOn k m.step := fun k => runOn_succ hfinished
          have hfirst := deep 1 (Nat.succ_le_succ (Nat.zero_le steps))
          rw [hnext] at hfirst ⊢
          cases hstep : m.step with
          | next m₁ =>
              rw [hstep] at hturns hfirst
              refine ih (sound.step hstep) (one.step sound hstep) ?_ fun k hk => ?_
              · exact hturns.suffix hframe hfirst
              · have hdeep := deep (k + 1) (Nat.succ_le_succ hk)
                rwa [hnext, hstep] at hdeep
          | failed trouble m₁ =>
              rw [hstep] at hturns hfirst
              exact hturns.suffix hframe hfirst

theorem exec_else (one : m.OneBranch) :
    (∃ detail,
      m.exec .elseMark = .failed (.fault ⟨.unexpectedElse, detail, some m.cursor⟩) m) ∨
    ∃ frame around, m.nesting.conditionals = frame :: around ∧ frame.wasTrue = true ∧
      (∀ line, m.matchingEndIf = some line →
        m.exec .elseMark = .next ((m.withConditionals around).movedTo (line + 1))) ∧
      (m.matchingEndIf = none → m.exec .elseMark = .next (m.movedTo m.program.length)) := by
  change (∃ detail, m.execElse = _) ∨ ∃ frame around, _ ∧ _ ∧ (∀ line, _ → m.execElse = _) ∧
    (_ → m.execElse = _)
  unfold execElse
  cases htop : m.nesting.conditionals with
  | nil => exact .inl ⟨_, rfl⟩
  | cons frame around =>
      have hbranch : frame.elseEntered = !frame.wasTrue := one frame (htop ▸ List.mem_cons_self)
      cases hwas : frame.wasTrue with
      | false =>
          rw [hwas] at hbranch
          exact .inl ⟨_, if_pos hbranch⟩
      | true =>
          rw [hwas] at hbranch
          refine .inr ⟨frame, around, rfl, hwas, fun line hline => ?_, fun hnone => ?_⟩
          · simp only [List.head?_cons, hbranch, hwas, hline, Bool.not_true, Bool.false_eq_true,
              if_false]
            rw [popThen_conditional htop]
            rfl
          · simp only [List.head?_cons, hbranch, hwas, hnone, Bool.not_true, Bool.false_eq_true,
              if_false]
            rfl

theorem advance_of_conditional_open (hend : m.program.length ≤ m.cursor)
    (hopen : m.nesting.conditionals ≠ []) :
    ∃ frame, m.nesting.innermost = some frame ∧
      m.advance = .failed (.fault (unclosed frame.construct frame.openedAt)) m := by
  have hstays : m.program.nextStatement m.cursor = m.cursor :=
    Program.nextStatement_of_length_le hend
  obtain ⟨hlt, -⟩ | ⟨-, frame, hframe, hfail⟩ | ⟨-, hnone, -⟩ := advance_cases m
  · omega
  · rw [hstays] at hfail
    exact ⟨frame, hframe, hfail⟩
  · exact absurd (Nesting.innermost_eq_none_iff.mp hnone).2.1 hopen

/-- In every run, badly nested programs included, each open conditional is in exactly one of its two
parts: in the first if its condition held, and in the `ELSE` part otherwise. It stays as it is as
long as it is open, up to the state that a fault leaves behind. Hence an `ELSE` is refused, or it
stands in a conditional whose condition held and the part behind it is passed over: the run goes on
behind the `ENDIF`, or fails because the conditional is not closed. -/
theorem one_branch_per_conditional (comment source : String) (limit : RepeatLimit) (m : Machine)
    (reached : Reached (ofSource comment limit source) m) :
    (∀ frame ∈ m.nesting.conditionals, frame.elseEntered = !frame.wasTrue) ∧
    (∀ frame around steps, frame :: around <:+ m.nesting.conditionals →
      (∀ k ≤ steps, around.length < (m.runFor k).1.nesting.conditionals.length) →
      frame :: around <:+ (m.runFor steps).1.nesting.conditionals) ∧
    ∀ line, m.finished = false → (Line.ofSource source)[m.cursor]? = some line →
      line.kind comment = .statement .elseMark →
      (∃ detail, m.step = .failed (.fault ⟨.unexpectedElse, detail, some m.cursor⟩) m) ∨
      ∃ frame around, m.nesting.conditionals = frame :: around ∧ frame.wasTrue = true ∧
        (∀ endIf, m.matchingEndIf = some endIf →
          m.step = ((m.withConditionals around).movedTo (endIf + 1)).count.advance) ∧
        (m.matchingEndIf = none → ∃ innermost, m.nesting.innermost = some innermost ∧
          m.step = .failed (.fault (unclosed innermost.construct innermost.openedAt))
            (m.movedTo m.program.length).count) := by
  have hstart : Sound (Program.ofSource comment source) (ofSource comment limit source) :=
    Sound.load limit _
  have hsound := reached.sound hstart
  have hone : m.OneBranch := reached.oneBranch hstart (OneBranch.load limit _)
  refine ⟨hone, fun frame around steps hframe deep => suffix_runFor hsound hone hframe deep, ?_⟩
  intro line hrunning hline hkind
  have hs : m.program.contents[m.cursor]? = some (.statement .elseMark) := by
    rw [hsound.program_eq, Program.ofSource, Program.contents_ofLines, List.getElem?_map, hline,
      Option.map_some, Line.content, hkind]
    rfl
  rw [step_of_statement hrunning hs]
  obtain ⟨detail, hrefused⟩ | ⟨frame, around, htop, hwas, hclosed, hunclosed⟩ := exec_else hone
  · rw [hrefused]
    exact .inl ⟨detail, rfl⟩
  · refine .inr ⟨frame, around, htop, hwas, fun endIf hendIf => ?_, fun hnone => ?_⟩
    · rw [hclosed endIf hendIf]
      rfl
    · rw [hunclosed hnone]
      refine advance_of_conditional_open (m := (m.movedTo m.program.length).count)
        (Nat.le_refl _) ?_
      change m.nesting.conditionals ≠ []
      rw [htop]
      exact List.cons_ne_nil _ _

/-- Both passes of a counting loop leave their conditional open. The first of them stays open while
the loop begins again, and the `ELSE` behind the loop is met in the second. -/
theorem else_passed_over_behind_loop :
    let source := "FOR I = 1 TO 2\nIF I < 3\nEND\nELSE\nOUTPUT I\nENDIF\nENDIF"
    ∃ (m m' : Machine) (first second : IfFrame), Reached (ofSource "//" defaultLimit source) m ∧
      m.nesting.conditionals = [first] ∧ first.elseEntered = (!first.wasTrue) ∧
      m' = (m.runFor 3).1 ∧ m'.cursor = 3 ∧ m'.nesting.conditionals = [second, first] ∧
      second.wasTrue = true ∧
      m'.step = ((m'.withConditionals [first]).movedTo 6).count.advance := by
  intro source
  let m := ((ofSource "//" defaultLimit source).runFor 2).1
  let m' := (m.runFor 3).1
  have hreached : Reached (ofSource "//" defaultLimit source) m := by
    have hrun : (ofSource "//" defaultLimit source).runFor 2 = (m, .unfinished) :=
      Prod.ext rfl (by decide +kernel)
    exact (reached_of_runFor hrun (by simp)).1
  have hreached' : Reached (ofSource "//" defaultLimit source) m' := by
    have hrun : m.runFor 3 = (m', .unfinished) := Prod.ext rfl (by decide +kernel)
    exact hreached.trans (reached_of_runFor hrun (by simp)).1
  obtain ⟨hopen, hdeep⟩ : m.nesting.conditionals.length = 1 ∧
      ∀ k ≤ 3, 0 < (m.runFor k).1.nesting.conditionals.length := by
    decide +kernel
  obtain ⟨hopen', hcursor, hrunning, hendIf, hsucceeds⟩ : m'.nesting.conditionals.length = 2 ∧
      m'.cursor = 3 ∧ m'.finished = false ∧ m'.matchingEndIf = some 5 ∧
      m'.step.trouble? = none := by
    decide +kernel
  obtain ⟨line, hline, hkind⟩ : ∃ line, (Line.ofSource source)[3]? = some line ∧
      line.kind "//" = .statement .elseMark :=
    Program.kindAt_ofLines_eq_some.mp (by decide +kernel)
  obtain ⟨first, hfirst⟩ := List.length_eq_one_iff.mp hopen
  obtain ⟨hbranch, hlife, -⟩ := one_branch_per_conditional "//" source defaultLimit m hreached
  obtain ⟨-, -, helse⟩ := one_branch_per_conditional "//" source defaultLimit m' hreached'
  obtain ⟨above, hkept⟩ := hlife first [] 3 (hfirst ▸ List.suffix_rfl) hdeep
  obtain ⟨detail, hrefused⟩ | ⟨second, around, htop, hwas, hskips, -⟩ :=
    helse line hrunning (hcursor ▸ hline) hkind
  · rw [hrefused] at hsucceeds
    cases hsucceeds
  · rw [htop, List.length_cons, Nat.succ_inj] at hopen'
    obtain ⟨outer, rfl⟩ := List.length_eq_one_iff.mp hopen'
    obtain rfl : first = outer := by
      have hlast := congrArg List.getLast? (hkept.trans htop)
      simpa using hlast
    exact ⟨m, m', first, second, hreached, hfirst, hbranch first (by simp [hfirst]), rfl, hcursor,
      htop, hwas, hskips 5 hendIf⟩

end Machine

end Pseudocode
