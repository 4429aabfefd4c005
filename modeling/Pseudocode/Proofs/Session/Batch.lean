import Pseudocode.Proofs.Machine.Runs
import Pseudocode.Session

namespace Pseudocode

/-- The state of a machine after it was told some times to carry out a statement, whether that
failed or not. -/
def Machine.afterCalls : (calls : Nat) → Machine → Machine
  | 0, m => m
  | calls + 1, m => afterCalls calls m.step.machine

inductive Operation where
  | step
  | resume
  | addBreakpoint (line : Int)
  | removeBreakpoint (line : Int)
  | clearBreakpoints

namespace Session

/-- How many statements the next tick carries out: none if the session is done or pauses at a
breakpoint, else one. -/
def tickCount (s : Session) : Nat := if s.isDone || s.pausesAt.isSome then 0 else 1

def countWhileReady : (steps : Nat) → Session → Nat
  | 0, _ => 0
  | steps + 1, s => if s.state = .ready then s.tickCount + countWhileReady steps s.step else 0

def resumeCount (steps : Nat) (s : Session) : Nat :=
  if s.state = .paused then s.tickCount + countWhileReady steps s.step
  else countWhileReady steps s

/-- An operation returns, after some statements, and leaves a session behind. Only a session that
is resumed may fail to return: it does so once it is not ready any more. -/
inductive Performs : Session → Operation → Nat → Session → Prop where
  | step (s : Session) : Performs s .step s.tickCount s.step
  | resume (s : Session) (steps : Nat) (returns : (s.resume steps).state ≠ .ready) :
      Performs s .resume (s.resumeCount steps) (s.resume steps)
  | addBreakpoint (s : Session) (line : Int) :
      Performs s (.addBreakpoint line) 0 (s.addBreakpoint line)
  | removeBreakpoint (s : Session) (line : Int) :
      Performs s (.removeBreakpoint line) 0 (s.removeBreakpoint line)
  | clearBreakpoints (s : Session) : Performs s .clearBreakpoints 0 s.clearBreakpoints

inductive PerformsAll : Session → List Operation → Nat → Session → Prop where
  | nil (s : Session) : PerformsAll s [] 0 s
  | cons {s s' s'' : Session} {operation : Operation} {operations : List Operation} {k n : Nat}
      (first : Performs s operation k s') (rest : PerformsAll s' operations n s'') :
      PerformsAll s (operation :: operations) (k + n) s''

def report (s : Session) : Machine.Report :=
  ⟨s.machine.output, s.machine.store.bindings, s.fault.map .fault⟩

/-- A session stands where a run is after some statements: before a further one, at the end of the
program, or at a fault. -/
inductive Follows (start : Machine) (k : Nat) (s : Session) : Prop where
  | running (leads : Leads k (.next start) (.next s.machine))
      (unfinished : s.machine.finished = false) (settled : s.machine.Settled)
      (state : s.state = .ready ∨ s.state = .paused) (noFault : s.fault = none)
  | finished (leads : Leads k (.next start) (.next s.machine)) (done : s.machine.finished = true)
      (state : s.state = .finished) (noFault : s.fault = none)
  | failed {fault : Fault} (leads : Leads k (.next start) (.failed (.fault fault) s.machine))
      (state : s.state = .error) (fault_eq : s.fault = some fault)

variable {start : Machine} {k n : Nat} {s s' : Session}

theorem machine_of_leads {first last : Outcome} (h : Leads k first last) :
    last.machine = first.machine.afterCalls k := by
  induction h with
  | refl => rfl
  | step _ _ ih => exact ih

theorem follows_load (limit : RepeatLimit) (program : Program) (breakpoints : List Int) :
    Follows (Machine.load limit program) 0
      (ofMachine (Machine.load limit program) breakpoints) := by
  cases hfinished : (Machine.load limit program).finished with
  | true =>
      refine .finished (.refl _) hfinished ?_ rfl
      simp [ofMachine, hfinished]
  | false =>
      refine .running (.refl _) hfinished (Machine.settled_load limit program) (.inl ?_) rfl
      simp [ofMachine, hfinished]

theorem isDone_iff : s.isDone = true ↔ s.state = .finished ∨ s.state = .error := by
  simp [isDone]

theorem tickCount_of_isDone (h : s.isDone = true) : s.tickCount = 0 := by
  simp [tickCount, h]

theorem step_of_isDone (h : s.isDone = true) : s.step = s := by
  simp [step, h]

theorem Follows.execute (leads : Leads k (.next start) (.next s.machine))
    (running : s.machine.finished = false) (settled : s.machine.Settled)
    (noFault : s.fault = none) :
    Follows start (k + 1) s.execute := by
  have hleads := leads.snoc running
  unfold Session.execute
  cases hstep : s.machine.step with
  | next m =>
      rw [hstep] at hleads
      cases hfinished : m.finished with
      | true => exact .finished hleads hfinished (if_pos hfinished) noFault
      | false =>
          refine .running hleads hfinished (Machine.settled_of_step settled hstep) (.inl ?_) noFault
          exact if_neg (by simp [hfinished])
  | failed trouble m =>
      obtain ⟨fault, rfl⟩ := Machine.exists_fault_of_step settled hstep
      rw [hstep] at hleads
      exact .failed hleads rfl rfl

theorem Follows.step (h : Follows start k s) : Follows start (k + s.tickCount) s.step := by
  cases h with
  | running leads unfinished settled state noFault =>
      have hdone : s.isDone = false := by
        rcases state with hstate | hstate <;> simp [isDone, hstate]
      unfold Session.step tickCount
      rw [hdone]
      cases hpause : s.pausesAt with
      | some line => exact .running leads unfinished settled (.inr rfl) noFault
      | none => exact .execute leads unfinished settled noFault
  | finished leads done state noFault =>
      have hdone : s.isDone = true := isDone_iff.mpr (.inl state)
      rw [tickCount_of_isDone hdone, step_of_isDone hdone]
      exact .finished leads done state noFault
  | failed leads state fault_eq =>
      have hdone : s.isDone = true := isDone_iff.mpr (.inr state)
      rw [tickCount_of_isDone hdone, step_of_isDone hdone]
      exact .failed leads state fault_eq

theorem Follows.stepWhileReady (h : Follows start k s) (steps : Nat) :
    Follows start (k + s.countWhileReady steps) (s.stepWhileReady steps) := by
  induction steps generalizing k s with
  | zero => exact h
  | succ steps ih =>
      rw [Session.stepWhileReady, countWhileReady]
      split
      · rw [← Nat.add_assoc]
        exact ih h.step
      · exact h

theorem Follows.resume (h : Follows start k s) (steps : Nat) :
    Follows start (k + s.resumeCount steps) (s.resume steps) := by
  unfold Session.resume resumeCount
  split
  · rw [← Nat.add_assoc]
    exact h.step.stepWhileReady steps
  · exact h.stepWhileReady steps

theorem Follows.withBreakpoints (h : Follows start k s) (breakpoints : Breakpoints) :
    Follows start k { s with breakpoints } := by
  cases h with
  | running leads unfinished settled state noFault =>
      exact .running leads unfinished settled state noFault
  | finished leads done state noFault => exact .finished leads done state noFault
  | failed leads state fault_eq => exact .failed leads state fault_eq

theorem Follows.performs {operation : Operation} (h : Follows start k s)
    (performs : Performs s operation n s') : Follows start (k + n) s' := by
  cases performs with
  | step => exact h.step
  | resume steps returns => exact h.resume steps
  | addBreakpoint line => exact h.withBreakpoints _
  | removeBreakpoint line => exact h.withBreakpoints _
  | clearBreakpoints => exact h.withBreakpoints _

theorem Follows.performsAll {operations : List Operation} (h : Follows start k s)
    (performs : PerformsAll s operations n s') : Follows start (k + n) s' := by
  induction performs generalizing k with
  | nil => exact h
  | cons first _ ih =>
      rw [← Nat.add_assoc]
      exact ih (h.performs first)

theorem Follows.machine_eq (h : Follows start k s) : s.machine = start.afterCalls k := by
  cases h with
  | running leads => exact machine_of_leads leads
  | finished leads => exact machine_of_leads leads
  | failed leads => exact machine_of_leads leads

theorem Follows.fault_eq_none (h : Follows start k s) (unfailed : s.state ≠ .error) :
    s.fault = none := by
  cases h with
  | running _ _ _ _ noFault => exact noFault
  | finished _ _ _ noFault => exact noFault
  | failed _ state => exact absurd state unfailed

theorem Follows.exists_fault (h : Follows start k s) (failed : s.state = .error) :
    ∃ fault, s.fault = some fault := by
  cases h with
  | running _ _ _ state => rcases state with hstate | hstate <;> simp [hstate] at failed
  | finished _ _ state => simp [state] at failed
  | failed _ _ fault_eq => exact ⟨_, fault_eq⟩

/-- What a session that is done shows is what the run leaves behind. -/
theorem Follows.runsTo (h : Follows start k s) (done : s.isDone = true) :
    start.RunsTo s.report := by
  rw [isDone_iff] at done
  cases h with
  | running _ _ _ state =>
      rcases state with hstate | hstate <;> simp [hstate] at done
  | finished leads finished _ noFault =>
      refine ⟨k, s.machine, .done, ?_, by simp, ?_⟩
      · have hrun := leads.runOn_add (n := 0)
        rw [Nat.add_zero, runOn, runOn, Machine.runFor, finished] at hrun
        exact hrun
      · rw [Session.report, noFault]
        rfl
  | @failed fault leads _ fault_eq =>
      refine ⟨k, s.machine, .failed (.fault fault), ?_, by simp, ?_⟩
      · have hrun := leads.runOn_add (n := 0)
        exact hrun
      · rw [Session.report, fault_eq]
        rfl

theorem stepWhileReady_of_ne_ready (h : s.state ≠ .ready) (steps : Nat) :
    s.stepWhileReady steps = s ∧ s.countWhileReady steps = 0 := by
  cases steps with
  | zero => exact ⟨rfl, rfl⟩
  | succ steps => exact ⟨if_neg h, if_neg h⟩

theorem resume_of_isDone (h : s.isDone = true) (steps : Nat) : s.resume steps = s := by
  have hpaused : s.state ≠ .paused := by
    rcases isDone_iff.mp h with hstate | hstate <;> simp [hstate]
  have hready : s.state ≠ .ready := by
    rcases isDone_iff.mp h with hstate | hstate <;> simp [hstate]
  rw [Session.resume, if_neg hpaused]
  exact (stepWhileReady_of_ne_ready hready steps).1

theorem Performs.of_isDone {operation : Operation} (performs : Performs s operation n s')
    (done : s.isDone = true) :
    s'.machine = s.machine ∧ s'.fault = s.fault ∧ s'.state = s.state := by
  cases performs with
  | step =>
      rw [step_of_isDone done]
      exact ⟨rfl, rfl, rfl⟩
  | resume steps returns =>
      rw [resume_of_isDone done]
      exact ⟨rfl, rfl, rfl⟩
  | addBreakpoint line => exact ⟨rfl, rfl, rfl⟩
  | removeBreakpoint line => exact ⟨rfl, rfl, rfl⟩
  | clearBreakpoints => exact ⟨rfl, rfl, rfl⟩

theorem PerformsAll.of_isDone {operations : List Operation}
    (performs : PerformsAll s operations n s') (done : s.isDone = true) :
    s'.machine = s.machine ∧ s'.fault = s.fault ∧ s'.state = s.state := by
  induction performs with
  | nil => exact ⟨rfl, rfl, rfl⟩
  | cons first _ ih =>
      obtain ⟨hmachine, hfault, hstate⟩ := first.of_isDone done
      obtain ⟨hmachine', hfault', hstate'⟩ := ih (by unfold isDone at done ⊢; rwa [hstate])
      exact ⟨hmachine'.trans hmachine, hfault'.trans hfault, hstate'.trans hstate⟩

/-- However a session is paced, its machine is where a new machine is after as many calls as there
were ticks that did not pause. Once the session is done, it shows what a run of the same source
text leaves behind, and nothing that is done later changes that. -/
theorem stepping_is_running (comment source : String) (limit : RepeatLimit)
    (breakpoints : List Int) (operations : List Operation) (n : Nat) (s : Session)
    (performs : PerformsAll (Session.start comment limit source breakpoints) operations n s) :
    s.machine = (Machine.ofSource comment limit source).afterCalls n ∧
    (s.isDone = true →
      (∀ report, (Machine.ofSource comment limit source).RunsTo report ↔ report = s.report) ∧
      ∀ operations' n' s', PerformsAll s operations' n' s' →
        s'.machine = s.machine ∧ s'.state = s.state ∧ s'.report = s.report) := by
  have hstart : Follows (Machine.ofSource comment limit source) 0
      (Session.start comment limit source breakpoints) :=
    follows_load limit (Program.ofSource comment source) breakpoints
  have hfollows := hstart.performsAll performs
  rw [Nat.zero_add] at hfollows
  refine ⟨hfollows.machine_eq, fun done => ⟨fun report => ?_, ?_⟩⟩
  · have hruns := hfollows.runsTo done
    constructor
    · intro h
      exact h.unique hruns
    · rintro rfl
      exact hruns
  · intro operations' n' s' later
    obtain ⟨hmachine, hfault, hstate⟩ := later.of_isDone done
    refine ⟨hmachine, hstate, ?_⟩
    rw [Session.report, hmachine, hfault]
    rfl

theorem stepping_is_running_past_breakpoint :
    let source := "X = 1\nOUTPUT X\nX = X + 1\nOUTPUT X"
    let fresh := Session.start "//" defaultLimit source [1]
    let paused := fresh.resume 10
    let last := (paused.removeBreakpoint 1).resume 10
    paused.state = .paused ∧ last.isDone = true ∧
    last.machine = (Machine.ofSource "//" defaultLimit source).afterCalls 4 ∧
    ∀ report, (Machine.ofSource "//" defaultLimit source).RunsTo report ↔
      report = last.report := by
  intro source fresh paused last
  have done : last.isDone = true := by decide +kernel
  have performs : PerformsAll fresh [.resume, .removeBreakpoint 1, .resume]
      (fresh.resumeCount 10 + (0 + ((paused.removeBreakpoint 1).resumeCount 10 + 0))) last :=
    .cons (.resume fresh 10 (by decide +kernel)) (.cons (.removeBreakpoint paused 1)
      (.cons (.resume (paused.removeBreakpoint 1) 10 (by decide +kernel)) (.nil last)))
  have hcount : fresh.resumeCount 10 + (0 + ((paused.removeBreakpoint 1).resumeCount 10 + 0)) =
      4 := by decide +kernel
  rw [hcount] at performs
  obtain ⟨hmachine, hdone⟩ := stepping_is_running "//" source defaultLimit [1] _ 4 last performs
  exact ⟨by decide +kernel, done, hmachine, (hdone done).1⟩

end Session

end Pseudocode
