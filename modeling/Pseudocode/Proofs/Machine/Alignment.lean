import Pseudocode.Proofs.Machine.Nesting
import Pseudocode.Proofs.Machine.Runs

namespace Pseudocode

open Outline

namespace Machine

/-- A state of a run of a program whose lines fit, in step with the outline of the program. -/
structure InStep (program : Program) (m : Machine) (rewound : Bool) : Prop where
  program_eq : m.program = program
  fits : program.Fits
  stands : m.Stands rewound
  elses : m.ElsesPassed
  ended : m.finished = true → program.length ≤ m.cursor

section InStep

variable {program : Program} {m : Machine} {rewound : Bool}

theorem InStep.represents (h : InStep program m rewound) {kind : StatementKind}
    (hkind : m.program.kindAt m.cursor = some kind) (hne : kind ≠ .opens .repeatLoop) :
    m.nesting.Represents (m.program.openBefore m.cursor) := by
  obtain ⟨hframes, hrepeat⟩ := h.stands
  cases rewound with
  | false => simpa using hframes
  | true =>
      rw [hkind] at hrepeat
      exact absurd (Option.some.inj (hrepeat rfl)) hne

theorem InStep.running (h : InStep program m rewound) {kind : StatementKind}
    (hkind : m.program.kindAt m.cursor = some kind) : m.finished = false := by
  by_contra hfinished
  have hend := h.ended (by simpa using hfinished)
  rw [h.program_eq, Program.kindAt, List.getElem?_eq_none hend] at hkind
  cases hkind

theorem InStep.effect (h : InStep program m rewound) {s : Statement} {m₁ : Machine}
    (hkind : m.program.kindAt m.cursor = some s.kind) (effect : Effect m s m₁) :
    InStep program m₁ (decide (s.kind = .untilMark ∧ m₁.cursor < m.cursor)) ∨
      m.SkipsToEnd s m₁ := by
  obtain rfl := h.program_eq
  have hprogram : m₁.program = m.program := by cases effect <;> rfl
  have hfinished₁ : m₁.finished = m.finished := by cases effect <;> rfl
  have hin (hstands : m₁.Stands (decide (s.kind = .untilMark ∧ m₁.cursor < m.cursor))) :
      InStep m.program m₁ (decide (s.kind = .untilMark ∧ m₁.cursor < m.cursor)) :=
    ⟨hprogram, h.fits, hstands, elsesPassed_of_effect h.fits h.elses (h.represents hkind) hkind
      effect, fun hfinished => absurd (hfinished₁ ▸ hfinished) (by simp [h.running hkind])⟩
  by_cases hrepeat : s.kind = .opens .repeatLoop
  · obtain rfl : s = .repeatLoop := by cases s <;> simp_all [Statement.kind]
    refine .inl (hin (stands_plain (by simp [Statement.kind]) ?_))
    rw [hprogram]
    exact represents_of_repeat h.fits h.stands hkind effect
  · by_cases huntil : s.kind = .untilMark
    · obtain ⟨condition, rfl⟩ : ∃ condition, s = .untilMark condition := by
        cases s <;> simp_all [Statement.kind]
      refine .inl (hin ?_)
      simpa [Statement.kind] using
        stands_of_until h.fits (h.represents hkind hrepeat) hkind effect
    · refine (represents_of_effect h.fits (h.represents hkind hrepeat) hkind hrepeat huntil
        effect).imp_left fun hframes => hin (stands_plain (fun hback => huntil hback.1) ?_)
      rw [hprogram]
      exact hframes

theorem InStep.nextStatement_eq (h : InStep program m true) :
    m.program.nextStatement m.cursor = m.cursor :=
  Program.nextStatement_eq_self (by rw [h.stands.2 rfl]; rfl)

theorem InStep.movedOn (h : InStep program m rewound) :
    InStep program (m.movedTo (m.program.nextStatement m.cursor)) rewound := by
  refine ⟨h.program_eq, h.fits, ?_, ?_, fun hfinished =>
    Nat.le_trans (h.ended hfinished) (Program.le_nextStatement _ _)⟩
  · cases rewound with
    | true =>
        rw [h.nextStatement_eq]
        exact h.stands
    | false =>
        refine ⟨?_, by simp⟩
        rw [movedTo_cursor, movedTo_program, Program.openBefore_nextStatement]
        exact h.stands.1
  · exact h.elses.mono rfl (fun _ h => h) (Program.le_nextStatement _ _)

theorem InStep.advance (h : InStep program m rewound) {m' : Machine}
    (hadvance : m.advance = .next m') : InStep program m' rewound := by
  obtain ⟨-, rfl⟩ | ⟨hend, -, rfl⟩ := advance_eq_next hadvance
  · exact h.movedOn
  · exact ⟨h.movedOn.program_eq, h.fits, h.movedOn.stands, h.movedOn.elses,
      fun _ => h.program_eq ▸ hend⟩

theorem InStep.represents_left (h : InStep program m rewound)
    (hend : m.program.length ≤ m.program.nextStatement m.cursor) :
    m.nesting.Represents (program.openBefore program.length) := by
  obtain rfl := h.program_eq
  obtain ⟨hframes, hrepeat⟩ := h.stands
  cases rewound with
  | true =>
      rw [h.nextStatement_eq] at hend
      have hkind := hrepeat rfl
      rw [Program.kindAt, List.getElem?_eq_none hend] at hkind
      cases hkind
  | false =>
      rwa [← Program.openBefore_nextStatement, Program.openBefore_of_length_le hend] at hframes

theorem InStep.count (h : InStep program m rewound) : InStep program m.count rewound :=
  ⟨h.program_eq, h.fits, h.stands, h.elses, h.ended⟩

theorem InStep.merged_eq (h : InStep program m rewound) :
    m.nesting.merged =
      (if rewound then [(.repeatLoop, m.cursor)] else []) ++ program.openBefore m.cursor := by
  obtain rfl := h.program_eq
  refine Nesting.merged_eq_of_represents h.stands.1 ?_
  have hsorted := Program.openBefore_pairwise m.program m.cursor
  cases rewound with
  | false => simpa using hsorted
  | true =>
      refine List.Pairwise.cons ?_ hsorted
      exact fun outer houter => Program.lt_of_mem_openBefore houter

end InStep

/-- Whether a step from one state to another is an `UNTIL` that goes back to its loop. -/
def GoesBack (m m' : Machine) : Prop :=
  m.program.kindAt m.cursor = some .untilMark ∧ m'.cursor < m.cursor

theorem InStep.load {program : Program} (fits : program.Fits) (limit : RepeatLimit) :
    InStep program (Machine.load limit program) false := by
  have hnew : InStep program { program, limit } false := by
    refine ⟨rfl, fits, ⟨?_, by simp⟩, ?_, by simp⟩
    · intro stack
      cases stack <;> simp [Nesting.frames]
    · intro frame hframe
      cases hframe
  exact hnew.advance (advance_load limit program)

/-- One step of a run keeps in step with the outline, and goes back to a loop exactly if it is an
`UNTIL` that moves the cursor up, unless it skips a construct that is never closed. -/
theorem InStep.step {program : Program} {m m' : Machine} {rewound : Bool}
    (h : InStep program m rewound) (hstep : m.step = .next m') :
    (∃ rewound', InStep program m' rewound' ∧ (rewound' = true ↔ m.GoesBack m')) ∨
    ∃ s m₁, m.program.contents[m.cursor]? = some (.statement s) ∧ m.SkipsToEnd s m₁ ∧
      m₁.count.advance = .next m' := by
  obtain ⟨hfinished, rfl⟩ | ⟨-, s, m₁, hs, heffect, hadvance⟩ := step_eq_next hstep
  · refine .inl ⟨rewound, h, ?_⟩
    have hnone : m'.program.kindAt m'.cursor = none := by
      rw [h.program_eq, Program.kindAt, List.getElem?_eq_none (h.ended hfinished)]
      rfl
    constructor
    · rintro rfl
      rw [h.stands.2 rfl] at hnone
      cases hnone
    · rintro ⟨huntil, -⟩
      rw [hnone] at huntil
      cases huntil
  · have hkind := Program.kindAt_of_statement hs
    rcases h.effect hkind heffect with h₁ | hskip
    · left
      replace h₁ := h₁.count
      refine ⟨_, h₁.advance hadvance, ?_⟩
      have hcursor : m'.cursor = m₁.program.nextStatement m₁.cursor :=
        cursor_of_advance (m := m₁.count) hadvance
      constructor
      · intro hback
        rw [hback] at h₁
        obtain ⟨huntil, hlt⟩ := of_decide_eq_true hback
        refine ⟨by rw [hkind, huntil], ?_⟩
        rw [hcursor]
        exact h₁.nextStatement_eq.symm ▸ hlt
      · rintro ⟨huntil, hlt⟩
        rw [hkind, Option.some.injEq] at huntil
        have hle := Program.le_nextStatement m₁.program m₁.cursor
        exact decide_eq_true ⟨huntil, by omega⟩
    · exact .inr ⟨s, m₁, hs, hskip, hadvance⟩

/-- A state of a run of a program without faults, in step with the outline of the program. -/
structure Aligned (program : Program) (m : Machine) (rewound : Bool) : Prop extends
    InStep program m rewound where
  valid : program.faults = []

section Aligned

variable {program : Program} {m : Machine} {rewound : Bool}

theorem Aligned.load (valid : program.faults = []) (limit : RepeatLimit) :
    Aligned program (Machine.load limit program) false :=
  ⟨InStep.load (Program.fits_of_faults_eq_nil valid) limit, valid⟩

theorem Aligned.not_skipsToEnd (h : Aligned program m rewound) {s : Statement} {m₁ : Machine} :
    ¬ m.SkipsToEnd s m₁ := by
  obtain rfl := h.program_eq
  have hleft := Program.openBefore_length h.valid
  rintro (⟨-, -, -, left⟩ | ⟨-, -, left⟩)
  · simp [hleft] at left
  · simp [hleft] at left

theorem Aligned.effect (h : Aligned program m rewound) {s : Statement} {m₁ : Machine}
    (hkind : m.program.kindAt m.cursor = some s.kind) (effect : Effect m s m₁) :
    Aligned program m₁ (decide (s.kind = .untilMark ∧ m₁.cursor < m.cursor)) :=
  ⟨(h.toInStep.effect hkind effect).resolve_right h.not_skipsToEnd, h.valid⟩

theorem Aligned.count (h : Aligned program m rewound) : Aligned program m.count rewound :=
  ⟨h.toInStep.count, h.valid⟩

theorem Aligned.advance_ne_failed (h : Aligned program m rewound) {trouble : Trouble}
    {m' : Machine} : m.advance ≠ .failed trouble m' := by
  intro hadvance
  obtain ⟨hend, frame, hframe, -⟩ := advance_eq_failed hadvance
  have hframes := h.represents_left hend
  rw [Program.openBefore_length h.valid] at hframes
  rw [hframes.innermost_eq_none] at hframe
  cases hframe

theorem Aligned.step {m' : Machine} (h : Aligned program m rewound) (hstep : m.step = .next m') :
    ∃ rewound', Aligned program m' rewound' ∧ (rewound' = true ↔ m.GoesBack m') := by
  obtain ⟨rewound', h', hback⟩ | ⟨s, m₁, -, hskip, -⟩ := h.toInStep.step hstep
  · exact ⟨rewound', ⟨h', h.valid⟩, hback⟩
  · exact absurd hskip h.not_skipsToEnd

end Aligned

theorem Reached.aligned {program : Program} {start m : Machine}
    (hstart : ∃ rewound, Aligned program start rewound) (h : Reached start m) :
    ∃ rewound, Aligned program m rewound := by
  induction h with
  | start => exact hstart
  | step _ next ih =>
      obtain ⟨rewound, hm⟩ := ih
      obtain ⟨rewound', hm', -⟩ := hm.step next
      exact ⟨rewound', hm'⟩

def misplacedKinds : List FaultKind :=
  [.unexpectedEnd, .unexpectedEndif, .unexpectedEndwhile, .unexpectedUntil, .unclosedConstruct]

theorem ofData_kind_notMem {fault : Fault} (h : fault.OfData) (line : Int) :
    (fault.atLine line).kind ∉ misplacedKinds ∧ (fault.atLine line).kind ≠ .unexpectedElse := by
  rw [Fault.atLine_kind]
  have hkind := h.kind
  cases hk : fault.kind <;> simp_all [misplacedKinds]

/-- The faults of a statement in a program whose lines fit: those of its data, a loop that runs
away, and a further `ELSE` of a conditional. -/
theorem InStep.refusal {program : Program} {m m' : Machine} {rewound : Bool}
    (h : InStep program m rewound) {s : Statement} {fault : Fault}
    (hkind : m.program.kindAt m.cursor = some s.kind) (refusal : Refusal m s fault m') :
    fault.kind ∉ misplacedKinds ∧
    (fault.kind = .unexpectedElse → ∃ openedAt first second : Nat,
      program.ElseOf openedAt first ∧ program.ElseOf openedAt second ∧ first < second ∧
      fault.line = some (second : Int)) := by
  obtain rfl := h.program_eq
  have hframes := h.represents hkind
  have hdata : ∀ {fault : Fault}, fault.OfData →
      (fault.atLine m.cursor).kind ∉ misplacedKinds ∧
      ((fault.atLine m.cursor).kind = .unexpectedElse → ∃ openedAt first second : Nat,
        m.program.ElseOf openedAt first ∧ m.program.ElseOf openedAt second ∧ first < second ∧
        (fault.atLine m.cursor).line = some (second : Int)) := fun ofData =>
    ⟨(ofData_kind_notMem ofData _).1, fun helse => absurd helse (ofData_kind_notMem ofData _).2⟩
  cases refusal with
  | data kept ofData => exact hdata ofData
  | elseAlone none =>
      obtain ⟨frame, rest, outer, ⟨⟩, -⟩ :=
        openBefore_conditional_top h.fits (hframes (by simp [Statement.kind])) (.inl hkind) none
  | elseAgain top again =>
      obtain ⟨_, _, outer, ⟨⟩, hopen⟩ :=
        openBefore_conditional_top h.fits (hframes (by simp [Statement.kind])) (.inl hkind) top
      obtain ⟨line, hline, helse⟩ := h.elses _ (by simp [top]) again
      refine ⟨by simp [misplacedKinds], fun _ => ?_⟩
      exact ⟨_, line, m.cursor, helse, ⟨hkind, outer, hopen⟩, hline, rfl⟩
  | endIfAlone none =>
      obtain ⟨frame, rest, outer, ⟨⟩, -⟩ :=
        openBefore_conditional_top h.fits (hframes (by simp [Statement.kind])) (.inr hkind) none
  | endAlone noBlock noFor =>
      have hframes := hframes (by simp [Statement.kind])
      obtain ⟨construct, openedAt, hconstruct, hopen⟩ := openBefore_endMark h.fits hkind
      rw [hopen] at hframes
      rcases hconstruct with rfl | rfl
      · obtain ⟨frame, rest, htop, hfor, -⟩ := hframes.loop_top rfl
        obtain ⟨name, start, stop, hframe⟩ := frame.eq_counting hfor
        exact absurd (hframe ▸ htop) (noFor _ _ _ _ _)
      · obtain ⟨rest, htop⟩ := hframes.block_top
        rw [noBlock] at htop
        cases htop
  | endWhileAlone noWhile =>
      obtain ⟨frame, rest, htop, hwhile, -⟩ :=
        exists_loop_top h.fits (hframes (by simp [Statement.kind])) rfl
          Construct.whileLoop_closedAlone hkind
      obtain ⟨condition, hframe⟩ := frame.eq_whileLoop hwhile
      exact absurd (hframe ▸ htop) (noWhile _ _ _)
  | endWhileData top fails => exact hdata (Fault.ofData_of_condition fails)
  | untilAlone noRepeat =>
      obtain ⟨frame, rest, htop, hrepeat, -⟩ :=
        exists_loop_top h.fits (hframes (by simp [Statement.kind])) rfl
          Construct.repeatLoop_closedAlone hkind
      obtain ⟨count, hframe⟩ := frame.eq_repeatLoop hrepeat
      exact absurd (hframe ▸ htop) (noRepeat _ _ _)
  | untilRunaway top beyond => exact ⟨by simp [misplacedKinds], fun helse => by cases helse⟩
  | untilData top within fails => exact hdata (Fault.ofData_of_condition fails)

/-- In every run of a source text without faults, the frames merged in the order of their lines are
the constructs that are open before the cursor, with the loop at the cursor in addition just after
an `UNTIL` has gone back to it. Hence no such run fails because a statement is out of its place or
a construct is not closed, except at a further `ELSE` of a conditional that has one already. -/
theorem valid_run_follows_outline (comment source : String) (limit : RepeatLimit)
    (valid : (Program.ofSource comment source).faults = []) :
    ((ofSource comment limit source).nesting.merged =
      (Program.ofSource comment source).openBefore (ofSource comment limit source).cursor) ∧
    (∀ m m', Reached (ofSource comment limit source) m → m.step = .next m' →
      (¬ m.GoesBack m' →
        m'.nesting.merged = (Program.ofSource comment source).openBefore m'.cursor) ∧
      (m.GoesBack m' →
        (Program.ofSource comment source).kindAt m'.cursor = some (.opens .repeatLoop) ∧
        m'.nesting.merged =
          (.repeatLoop, m'.cursor) ::
            (Program.ofSource comment source).openBefore m'.cursor)) ∧
    (∀ steps m' trouble,
      (ofSource comment limit source).runFor steps = (m', .failed trouble) →
      ∃ fault, trouble = .fault fault ∧ fault.kind ∉ misplacedKinds ∧
        (fault.kind = .unexpectedElse → ∃ openedAt first second : Nat,
          (Program.ofSource comment source).ElseOf openedAt first ∧
          (Program.ofSource comment source).ElseOf openedAt second ∧ first < second ∧
          fault.line = some (second : Int))) := by
  have hstart : Aligned (Program.ofSource comment source) (ofSource comment limit source) false :=
    Aligned.load valid limit
  refine ⟨by simpa using hstart.merged_eq, ?_, ?_⟩
  · intro m m' hm hstep
    obtain ⟨rewound, haligned⟩ := hm.aligned ⟨false, hstart⟩
    obtain ⟨rewound', haligned', hback⟩ := haligned.step hstep
    constructor
    · intro hnot
      have hrewound : rewound' = false := by simpa using mt hback.mp hnot
      rw [hrewound] at haligned'
      simpa using haligned'.merged_eq
    · intro hgoes
      rw [hback.mpr hgoes] at haligned'
      exact ⟨haligned'.program_eq ▸ haligned'.stands.2 rfl, haligned'.merged_eq⟩
  · intro steps m' trouble hrun
    obtain ⟨m, hm, hfail⟩ := reached_of_runFor_failed hrun
    obtain ⟨rewound, haligned⟩ := hm.aligned ⟨false, hstart⟩
    obtain ⟨-, hfailed⟩ := step_eq_failed (hm.settled (settled_load _ _)) hfail
    rcases hfailed with ⟨kind, fault, hline, -, -⟩ | ⟨s, hs, hrefused⟩
    · rw [haligned.program_eq] at hline
      exact absurd hline (Program.not_malformed valid)
    · have hkind := Program.kindAt_of_statement hs
      rcases hrefused with ⟨fault, rfl, hrefusal⟩ | ⟨m₁, heffect, hadvance⟩
      · exact ⟨fault, rfl, haligned.refusal hkind hrefusal⟩
      · exact absurd hadvance (haligned.effect hkind heffect).count.advance_ne_failed

theorem valid_run_refuses_second_else :
    let source := "IF 1 > 2 THEN\nELSE\nREPEAT\nUNTIL 2 > 1\nELSE\nENDIF"
    (Program.ofSource "//" source).faults = [] ∧
    ∃ steps m' fault,
      (ofSource "//" defaultLimit source).runFor steps = (m', .failed (.fault fault)) ∧
      fault.kind = .unexpectedElse ∧ ∃ openedAt first second : Nat,
        (Program.ofSource "//" source).ElseOf openedAt first ∧
        (Program.ofSource "//" source).ElseOf openedAt second ∧ first < second ∧
        fault.line = some (second : Int) := by
  intro source
  have valid : (Program.ofSource "//" source).faults = [] := by decide +kernel
  have hends : ((ofSource "//" defaultLimit source).runFor 4).2 = .failed (.fault
      ⟨.unexpectedElse, "Unexpected ELSE: IF at line 1 already has an ELSE", some 4⟩) := by
    decide +kernel
  obtain ⟨m', hrun⟩ : ∃ m', (ofSource "//" defaultLimit source).runFor 4 = (m', .failed (.fault
      ⟨.unexpectedElse, "Unexpected ELSE: IF at line 1 already has an ELSE", some 4⟩)) := by
    rw [← hends]
    exact ⟨_, rfl⟩
  obtain ⟨-, -, hfaults⟩ := valid_run_follows_outline "//" source defaultLimit valid
  obtain ⟨fault, hsame, -, helse⟩ := hfaults 4 m' _ hrun
  obtain rfl := Trouble.fault.inj hsame
  exact ⟨valid, 4, m', _, hrun, rfl, helse rfl⟩

end Machine

end Pseudocode
