import Mathlib.Tactic.Common
import Pseudocode.Proofs.Machine.Effect

namespace Pseudocode

namespace Program

def contents (program : Program) : List Content := program.map CodeLine.content

@[simp] theorem contents_length (program : Program) :
    program.contents.length = program.length := by
  simp [contents]

theorem contents_getElem? (program : Program) (i : Nat) :
    program.contents[i]? = program[i]?.map CodeLine.content := by
  simp [contents]

theorem kindAt_eq (program : Program) (i : Nat) :
    program.kindAt i = program.contents[i]?.bind Content.kind? := by
  rw [contents_getElem?, kindAt]
  cases program[i]? <;> rfl

theorem kindAt_of_statement {program : Program} {i : Nat} {s : Statement}
    (h : program.contents[i]? = some (.statement s)) : program.kindAt i = some s.kind := by
  rw [kindAt_eq, h]
  rfl

theorem lt_length_of_statement {program : Program} {i : Nat} {content : Content}
    (h : program.contents[i]? = some content) : i < program.length := by
  obtain ⟨hi, -⟩ := List.getElem?_eq_some_iff.mp h
  simpa using hi

theorem lt_length_of_kindAt {program : Program} {i : Nat} {kind : StatementKind}
    (h : program.kindAt i = some kind) : i < program.length := by
  rw [kindAt_eq, Option.bind_eq_some_iff] at h
  obtain ⟨content, hcontent, -⟩ := h
  exact lt_length_of_statement hcontent

theorem kindAt_leadingGap (program : Program) (h : program.leadingGap < program.length) :
    (program.kindAt program.leadingGap).isSome := by
  induction program with
  | nil => simp [leadingGap] at h
  | cons line rest ih =>
      rw [leadingGap] at h ⊢
      cases hk : line.content.kind? with
      | some kind => simp [kindAt, hk]
      | none =>
          rw [hk] at h
          simp only [List.length_cons, Nat.add_lt_add_iff_right] at h
          simpa [kindAt] using ih h

theorem kindAt_of_lt_leadingGap {program : Program} {i : Nat} (h : i < program.leadingGap) :
    program.kindAt i = none := by
  induction program generalizing i with
  | nil => simp [kindAt]
  | cons line rest ih =>
      rw [leadingGap] at h
      cases hk : line.content.kind? with
      | some kind =>
          rw [hk] at h
          simp at h
      | none =>
          rw [hk] at h
          cases i with
          | zero => simp [kindAt, hk]
          | succ i => simpa [kindAt] using ih (Nat.lt_of_succ_lt_succ h)

theorem kindAt_drop (program : Program) (i k : Nat) :
    Program.kindAt (program.drop i) k = program.kindAt (i + k) := by
  simp [kindAt]

theorem le_nextStatement (program : Program) (i : Nat) : i ≤ program.nextStatement i :=
  Nat.le_add_right _ _

theorem kindAt_nextStatement {program : Program} {i : Nat}
    (h : program.nextStatement i < program.length) :
    (program.kindAt (program.nextStatement i)).isSome := by
  have hgap : leadingGap (program.drop i) < (program.drop i).length := by
    unfold nextStatement at h
    rw [List.length_drop]
    omega
  have hkind := kindAt_leadingGap (program.drop i) hgap
  rwa [kindAt_drop] at hkind

theorem kindAt_of_lt_nextStatement {program : Program} {i k : Nat} (hik : i ≤ k)
    (h : k < program.nextStatement i) : program.kindAt k = none := by
  have hgap : k - i < leadingGap (program.drop i) := by
    unfold nextStatement at h
    omega
  have hkind := kindAt_of_lt_leadingGap hgap
  rw [kindAt_drop] at hkind
  rwa [Nat.add_sub_cancel' hik] at hkind

theorem nextStatement_eq_self {program : Program} {i : Nat}
    (h : (program.kindAt i).isSome) : program.nextStatement i = i := by
  have hle := le_nextStatement program i
  by_contra hne
  have hnone := kindAt_of_lt_nextStatement (Nat.le_refl i)
    (show i < program.nextStatement i by omega)
  rw [hnone] at h
  simp at h

theorem nextStatement_succ {program : Program} {i : Nat} (hi : i < program.length)
    (h : program.kindAt i = none) : program.nextStatement i = program.nextStatement (i + 1) := by
  unfold nextStatement
  rw [List.drop_eq_getElem_cons hi, leadingGap]
  have hk : program[i].content.kind? = none := by
    simpa [kindAt, hi] using h
  rw [hk]
  dsimp only
  omega

theorem nextStatement_of_length_le {program : Program} {i : Nat} (hi : program.length ≤ i) :
    program.nextStatement i = i := by
  unfold nextStatement
  rw [List.drop_eq_nil_of_le hi, leadingGap]
  rfl

end Program

namespace Machine

@[simp] theorem movedTo_program (m : Machine) (line : Nat) :
    (m.movedTo line).program = m.program := rfl

@[simp] theorem movedTo_nesting (m : Machine) (line : Nat) :
    (m.movedTo line).nesting = m.nesting := rfl

@[simp] theorem movedTo_cursor (m : Machine) (line : Nat) : (m.movedTo line).cursor = line := rfl

/-- The three ways in which the cursor moves on: to a statement, to the end with a construct still
open, and to the end with none. -/
theorem advance_cases (m : Machine) :
    (m.program.nextStatement m.cursor < m.program.length ∧
      m.advance = .next (m.movedTo (m.program.nextStatement m.cursor))) ∨
    (m.program.length ≤ m.program.nextStatement m.cursor ∧
      ∃ frame, m.nesting.innermost = some frame ∧
        m.advance = .failed (.fault (unclosed frame.construct frame.openedAt))
          (m.movedTo (m.program.nextStatement m.cursor))) ∨
    (m.program.length ≤ m.program.nextStatement m.cursor ∧ m.nesting.innermost = none ∧
      m.advance =
        .next { m.movedTo (m.program.nextStatement m.cursor) with finished := true }) := by
  unfold advance
  dsimp only
  by_cases h : m.program.nextStatement m.cursor < m.program.length
  · left
    exact ⟨h, if_pos h⟩
  · right
    rw [if_neg h]
    cases hi : m.nesting.innermost with
    | some frame => exact .inl ⟨by omega, frame, rfl, rfl⟩
    | none => exact .inr ⟨by omega, rfl, rfl⟩

theorem advance_eq_next {m m' : Machine} (h : m.advance = .next m') :
    (m.program.nextStatement m.cursor < m.program.length ∧
      m' = m.movedTo (m.program.nextStatement m.cursor)) ∨
    (m.program.length ≤ m.program.nextStatement m.cursor ∧ m.nesting.innermost = none ∧
      m' = { m.movedTo (m.program.nextStatement m.cursor) with finished := true }) := by
  obtain ⟨hlt, hnext⟩ | ⟨-, frame, -, hfail⟩ | ⟨hend, hnone, hfinish⟩ := advance_cases m
  · exact .inl ⟨hlt, Outcome.next.inj (h.symm.trans hnext)⟩
  · cases h.symm.trans hfail
  · exact .inr ⟨hend, hnone, Outcome.next.inj (h.symm.trans hfinish)⟩

theorem advance_eq_failed {m m' : Machine} {trouble : Trouble}
    (h : m.advance = .failed trouble m') :
    m.program.length ≤ m.program.nextStatement m.cursor ∧
      ∃ frame, m.nesting.innermost = some frame ∧
        trouble = .fault (unclosed frame.construct frame.openedAt) := by
  obtain ⟨-, hnext⟩ | ⟨hend, frame, hframe, hfail⟩ | ⟨-, -, hfinish⟩ := advance_cases m
  · cases h.symm.trans hnext
  · exact ⟨hend, frame, hframe, (Outcome.failed.inj (h.symm.trans hfail)).1⟩
  · cases h.symm.trans hfinish

theorem cursor_of_advance {m m' : Machine} (h : m.advance = .next m') :
    m'.cursor = m.program.nextStatement m.cursor := by
  obtain ⟨-, rfl⟩ | ⟨-, -, rfl⟩ := advance_eq_next h <;> rfl

theorem advance_of_statement {m : Machine} {s : Statement}
    (h : m.program.contents[m.cursor]? = some (.statement s)) : m.advance = .next m := by
  have hnext : m.program.nextStatement m.cursor = m.cursor :=
    Program.nextStatement_eq_self (by rw [Program.kindAt_of_statement h]; rfl)
  unfold advance
  simp only [hnext, if_pos (Program.lt_length_of_statement h)]

theorem step_of_finished {m : Machine} (h : m.finished = true) : m.step = .next m := if_pos h

theorem step_of_statement {m : Machine} {s : Statement} (hm : m.finished = false)
    (h : m.program.contents[m.cursor]? = some (.statement s)) :
    m.step = (m.exec s).andThen fun m => m.count.advance := by
  rw [Program.contents_getElem?, Option.map_eq_some_iff] at h
  obtain ⟨code, hcode, hcontent⟩ := h
  unfold step
  simp only [hm, hcode, hcontent, Bool.false_eq_true, if_false]

theorem step_of_malformed {m : Machine} {kind : StatementKind} {fault : Fault}
    (hm : m.finished = false)
    (h : m.program.contents[m.cursor]? = some (.malformed kind fault)) :
    m.step = .failed (.fault fault) m := by
  rw [Program.contents_getElem?, Option.map_eq_some_iff] at h
  obtain ⟨code, hcode, hcontent⟩ := h
  unfold step
  simp only [hm, hcode, hcontent, Bool.false_eq_true, if_false]

theorem step_eq_next {m m' : Machine} (h : m.step = .next m') :
    (m.finished = true ∧ m' = m) ∨
    (m.finished = false ∧ ∃ s m₁, m.program.contents[m.cursor]? = some (.statement s) ∧
      Effect m s m₁ ∧ m₁.count.advance = .next m') := by
  unfold step at h
  split at h
  · next hfinished =>
      cases h
      exact .inl ⟨hfinished, rfl⟩
  · next hrunning =>
      right
      refine ⟨by simpa using hrunning, ?_⟩
      split at h
      · cases h
      · next line hline =>
          split at h
          · next s hs =>
              cases hexec : m.exec s with
              | next m₁ =>
                  rw [hexec] at h
                  refine ⟨s, m₁, ?_, effect_of_exec hexec, h⟩
                  rw [Program.contents_getElem?, hline, Option.map_some, hs]
              | failed trouble m₁ =>
                  rw [hexec] at h
                  cases h
          all_goals cases h

/-- The line at the cursor holds a statement, or the run is finished. -/
def Settled (m : Machine) : Prop := m.finished = true ∨ (m.program.kindAt m.cursor).isSome

theorem settled_of_advance {m m' : Machine} (h : m.advance = .next m') : m'.Settled := by
  obtain ⟨hlt, rfl⟩ | ⟨-, -, rfl⟩ := advance_eq_next h
  · exact .inr (Program.kindAt_nextStatement hlt)
  · exact .inl rfl

theorem settled_of_step {m m' : Machine} (hm : m.Settled) (h : m.step = .next m') :
    m'.Settled := by
  obtain ⟨-, rfl⟩ | ⟨-, s, m₁, -, -, hadvance⟩ := step_eq_next h
  · exact hm
  · exact settled_of_advance hadvance

theorem advance_load (limit : RepeatLimit) (program : Program) :
    advance { program, limit } = .next (load limit program) := by
  obtain ⟨-, hnext⟩ | ⟨-, frame, hframe, -⟩ | ⟨-, -, hfinish⟩ :=
    advance_cases { program, limit }
  · rw [load, hnext]
    rfl
  · cases hframe
  · rw [load, hfinish]
    rfl

theorem settled_load (limit : RepeatLimit) (program : Program) :
    (load limit program).Settled :=
  settled_of_advance (advance_load limit program)

theorem step_eq_failed {m m' : Machine} {trouble : Trouble} (hm : m.Settled)
    (h : m.step = .failed trouble m') :
    m.finished = false ∧
    ((∃ kind fault, m.program.contents[m.cursor]? = some (.malformed kind fault) ∧
        trouble = .fault fault ∧ m' = m) ∨
      ∃ s, m.program.contents[m.cursor]? = some (.statement s) ∧
        ((∃ fault, trouble = .fault fault ∧ Refusal m s fault m') ∨
          ∃ m₁, Effect m s m₁ ∧ m₁.count.advance = .failed trouble m')) := by
  unfold step at h
  split at h
  · cases h
  · next hrunning =>
      have hfinished : m.finished = false := by simpa using hrunning
      refine ⟨hfinished, ?_⟩
      obtain hm | hm := hm
      · rw [hm] at hfinished
        cases hfinished
      · rw [Program.kindAt_eq, Program.contents_getElem?] at hm
        split at h
        · next hline =>
            rw [hline] at hm
            cases hm
        · next line hline =>
            rw [hline] at hm
            rw [Program.contents_getElem?, hline]
            simp only [Option.map_some]
            split at h
            · next s hs =>
                refine .inr ⟨s, by rw [hs], ?_⟩
                cases hexec : m.exec s with
                | next m₁ =>
                    rw [hexec] at h
                    exact .inr ⟨m₁, effect_of_exec hexec, h⟩
                | failed trouble' m₁ =>
                    rw [hexec] at h
                    cases h
                    exact .inl (refusal_of_exec hexec)
            · next kind fault hs =>
                cases h
                exact .inl ⟨kind, fault, by rw [hs], rfl, rfl⟩
            · next hs =>
                simp [hs, Content.kind?] at hm
            · next hs =>
                simp [hs, Content.kind?] at hm

theorem exists_fault_of_step {m m' : Machine} {trouble : Trouble} (hm : m.Settled)
    (h : m.step = .failed trouble m') : ∃ fault, trouble = .fault fault := by
  obtain ⟨-, ⟨kind, fault, -, rfl, -⟩ | ⟨s, -, ⟨fault, rfl, -⟩ | ⟨m₁, -, hadvance⟩⟩⟩ :=
    step_eq_failed hm h
  · exact ⟨fault, rfl⟩
  · exact ⟨fault, rfl⟩
  · obtain ⟨-, frame, -, rfl⟩ := advance_eq_failed hadvance
    exact ⟨_, rfl⟩

/-- The states that a run reaches by carrying out statements that succeed. -/
inductive Reached (start : Machine) : Machine → Prop where
  | start : Reached start start
  | step {m m' : Machine} (reached : Reached start m) (next : m.step = .next m') :
      Reached start m'

theorem Reached.settled {start m : Machine} (hstart : start.Settled) (h : Reached start m) :
    m.Settled := by
  induction h with
  | start => exact hstart
  | step _ next ih => exact settled_of_step ih next

theorem Reached.trans {start m m' : Machine} (h : Reached start m) (h' : Reached m m') :
    Reached start m' := by
  induction h' with
  | start => exact h
  | step _ next ih => exact ih.step next

theorem reached_of_runFor_failed {m m' : Machine} {n : Nat} {trouble : Trouble}
    (h : m.runFor n = (m', .failed trouble)) :
    ∃ m₀, Reached m m₀ ∧ m₀.step = .failed trouble m' := by
  suffices ∀ start, Reached start m → ∃ m₀, Reached start m₀ ∧ m₀.step = .failed trouble m' from
    this m .start
  intro start hm
  induction n generalizing m with
  | zero =>
      rw [runFor] at h
      split at h <;> cases h
  | succ n ih =>
      rw [runFor] at h
      split at h
      · cases h
      · split at h
        · next m₁ hstep => exact ih h (.step hm hstep)
        · next hstep =>
            cases h
            exact ⟨m, hm, hstep⟩

end Machine

end Pseudocode
