import Pseudocode.Proofs.Machine.Steps

namespace Pseudocode

namespace Machine

theorem runFor_add {m : Machine} {n : Nat} (h : (m.runFor n).2 ≠ .unfinished) (k : Nat) :
    m.runFor (n + k) = m.runFor n := by
  induction n generalizing m with
  | zero =>
      by_cases hfinished : m.finished = true
      · cases k <;> simp [runFor, hfinished]
      · simp [runFor, hfinished] at h
  | succ n ih =>
      rw [Nat.add_right_comm]
      rw [runFor] at h ⊢
      rw [runFor]
      split
      · rfl
      · next hrunning =>
          rw [if_neg hrunning] at h
          cases hstep : m.step with
          | next m₁ =>
              rw [hstep] at h
              exact ih h
          | failed trouble m₁ => rfl

/-- What a run leaves behind: the lines that were written, the variables in the order of their
first assignments, and the trouble that ended it, if one did. -/
structure Report where
  output : Array String
  bindings : List (String × Value)
  trouble : Option Trouble

def report (m : Machine) : Ending → Report
  | .failed trouble => ⟨m.output, m.store.bindings, some trouble⟩
  | _ => ⟨m.output, m.store.bindings, none⟩

def RunsTo (m : Machine) (report : Report) : Prop :=
  ∃ steps m' ending, m.runFor steps = (m', ending) ∧ ending ≠ .unfinished ∧
    m'.report ending = report

theorem RunsTo.unique {m : Machine} {report report' : Report} (h : m.RunsTo report)
    (h' : m.RunsTo report') : report = report' := by
  obtain ⟨n, m₁, ending, hrun, hended, rfl⟩ := h
  obtain ⟨n', m₁', ending', hrun', hended', rfl⟩ := h'
  have hmore := runFor_add (show (m.runFor n).2 ≠ .unfinished by rwa [hrun]) n'
  have hmore' := runFor_add (show (m.runFor n').2 ≠ .unfinished by rwa [hrun']) n
  rw [Nat.add_comm, hmore, hrun, hrun'] at hmore'
  cases hmore'
  rfl

end Machine

/-- A number of statements, each carried out by a machine that is not finished, lead from one
outcome to another. -/
inductive Leads : Nat → Outcome → Outcome → Prop where
  | refl (outcome : Outcome) : Leads 0 outcome outcome
  | step {n : Nat} {m : Machine} {outcome : Outcome} (running : m.finished = false)
      (rest : Leads n m.step outcome) : Leads (n + 1) (.next m) outcome

theorem Leads.trans {a b : Nat} {first middle last : Outcome} (h : Leads a first middle)
    (h' : Leads b middle last) : Leads (a + b) first last := by
  induction h with
  | refl => rwa [Nat.zero_add]
  | step running _ ih =>
      rw [Nat.add_right_comm]
      exact .step running (ih h')

theorem Leads.snoc {k : Nat} {outcome : Outcome} {m : Machine} (h : Leads k outcome (.next m))
    (running : m.finished = false) : Leads (k + 1) outcome m.step :=
  h.trans (.step running (.refl _))

def runOn (n : Nat) : Outcome → Machine × Ending
  | .next m => m.runFor n
  | .failed trouble m => (m, .failed trouble)

def Halts (n : Nat) (outcome : Outcome) : Prop := (runOn n outcome).2 ≠ .unfinished

theorem runOn_succ {n : Nat} {m : Machine} (running : m.finished = false) :
    runOn (n + 1) (.next m) = runOn n m.step := by
  rw [runOn, Machine.runFor, running]
  cases m.step <;> rfl

/-- A run that ends has passed through every outcome that it leads to. -/
theorem Leads.runOn_eq {k n : Nat} {outcome outcome' : Outcome} (h : Leads k outcome outcome')
    (halts : Halts n outcome) : k ≤ n ∧ runOn n outcome = runOn (n - k) outcome' := by
  induction h generalizing n with
  | refl => exact ⟨Nat.zero_le n, rfl⟩
  | step running _ ih =>
      cases n with
      | zero =>
          refine absurd ?_ halts
          rw [runOn, Machine.runFor, running]
          rfl
      | succ n =>
          rw [Halts, runOn_succ running] at halts
          obtain ⟨hle, hrun⟩ := ih halts
          refine ⟨Nat.succ_le_succ hle, ?_⟩
          rw [runOn_succ running, hrun, Nat.add_sub_add_right]

theorem Leads.halts {k n : Nat} {outcome outcome' : Outcome} (h : Leads k outcome outcome')
    (halts : Halts n outcome) : k ≤ n ∧ Halts (n - k) outcome' := by
  obtain ⟨hle, hrun⟩ := h.runOn_eq halts
  rw [Halts, hrun] at halts
  exact ⟨hle, halts⟩

theorem Leads.runOn_add {k n : Nat} {outcome outcome' : Outcome} (h : Leads k outcome outcome') :
    runOn (k + n) outcome = runOn n outcome' := by
  induction h with
  | refl => rw [Nat.zero_add]
  | step running _ ih => rw [Nat.add_right_comm, runOn_succ running, ih]

namespace Machine

theorem Reached.leads {start m : Machine} (h : Reached start m) :
    ∃ k, Leads k (.next start) (.next m) := by
  induction h with
  | start => exact ⟨0, .refl _⟩
  | @step m m' _ next ih =>
      obtain ⟨k, hleads⟩ := ih
      cases hfinished : m.finished with
      | true =>
          cases (step_of_finished hfinished).symm.trans next
          exact ⟨k, hleads⟩
      | false => exact ⟨k + 1, next ▸ hleads.snoc hfinished⟩

theorem reached_of_leads {k : Nat} {start m : Machine} (h : Leads k (.next start) (.next m)) :
    Reached start m := by
  suffices ∀ {n : Nat} {first last : Outcome}, Leads n first last → ∀ m₀, first = .next m₀ →
      Reached start m₀ → last = .next m → Reached start m from
    this h start rfl .start rfl
  intro n first last hleads
  clear h
  induction hleads with
  | refl =>
      rintro m₀ rfl hm₀ hlast
      cases hlast
      exact hm₀
  | @step _ m₁ _ _ rest ih =>
      intro m₀ hfirst hm₀ hlast
      cases hfirst
      cases hstep : m₁.step with
      | next m₂ => exact ih m₂ hstep (.step hm₀ hstep) hlast
      | failed trouble m₂ =>
          rw [hstep, hlast] at rest
          cases rest

theorem reached_of_runFor {start m : Machine} {steps : Nat} {ending : Ending}
    (h : start.runFor steps = (m, ending)) (kept : ∀ trouble, ending ≠ .failed trouble) :
    Reached start m ∧ (ending = .done → m.finished = true) := by
  suffices ∀ state, Reached start state → state.runFor steps = (m, ending) →
      Reached start m ∧ (ending = .done → m.finished = true) from this start .start h
  clear h
  induction steps with
  | zero =>
      intro state hstate hrun
      cases hrun
      exact ⟨hstate, by simp⟩
  | succ steps ih =>
      intro state hstate hrun
      rw [runFor] at hrun
      split at hrun
      · next hfinished =>
          cases hrun
          exact ⟨hstate, fun _ => hfinished⟩
      · split at hrun
        · next next hstep => exact ih next (.step hstate hstep) hrun
        · cases hrun
          exact absurd rfl (kept _)

theorem exists_runFor_done_iff {start m : Machine} :
    (∃ steps, start.runFor steps = (m, .done)) ↔ Reached start m ∧ m.finished = true := by
  constructor
  · rintro ⟨steps, hrun⟩
    obtain ⟨hreached, hfinished⟩ := reached_of_runFor hrun (by simp)
    exact ⟨hreached, hfinished rfl⟩
  · rintro ⟨hreached, hfinished⟩
    obtain ⟨k, hleads⟩ := hreached.leads
    refine ⟨k, ?_⟩
    have hrun := hleads.runOn_add (n := 0)
    rwa [Nat.add_zero, runOn, runOn, runFor, hfinished] at hrun

end Machine

end Pseudocode
