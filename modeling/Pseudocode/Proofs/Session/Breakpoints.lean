import Pseudocode.Proofs.Session.Batch

namespace Pseudocode

namespace Outcome

/-- The states before each of the next `n` statements, one that fails included. -/
def visits : (n : Nat) → Outcome → List Machine
  | 0, _ => []
  | _ + 1, failed _ _ => []
  | n + 1, next m => if m.finished then [] else m :: visits n m.step

theorem visits_of_running {m : Machine} (running : m.finished = false) (n : Nat) :
    (next m).visits (n + 1) = m :: m.step.visits n := by
  rw [visits, running]
  rfl

theorem getElem?_visits {n i : Nat} {outcome : Outcome} {m : Machine} :
    (outcome.visits n)[i]? = some m ↔ i < n ∧ runOn i outcome = (m, .unfinished) := by
  induction n generalizing i outcome with
  | zero => simp [visits]
  | succ n ih =>
      cases outcome with
      | failed trouble m₀ => simp [visits, runOn]
      | next m₀ =>
          cases hfinished : m₀.finished with
          | true => cases i <;> simp [visits, runOn, Machine.runFor, hfinished]
          | false =>
              rw [visits_of_running hfinished]
              cases i with
              | zero => simp [runOn, Machine.runFor, hfinished]
              | succ i =>
                  rw [List.getElem?_cons_succ, ih, runOn_succ hfinished, Nat.succ_lt_succ_iff]

end Outcome

namespace Breakpoints

theorem mem_insertLine {line other : Int} {lines : List Int} :
    other ∈ insertLine line lines ↔ other = line ∨ other ∈ lines := by
  induction lines with
  | nil => simp [insertLine]
  | cons first rest ih =>
      rw [insertLine]
      split
      · exact List.mem_cons
      · split
        · next heq => simp [heq]
        · rw [List.mem_cons, ih, List.mem_cons]
          exact or_left_comm

theorem mem_foldl_add {line : Int} {lines : List Int} {breakpoints : Breakpoints} :
    line ∈ (lines.foldl add breakpoints).lines ↔ line ∈ breakpoints.lines ∨ line ∈ lines := by
  induction lines generalizing breakpoints with
  | nil => simp
  | cons first rest ih =>
      rw [List.foldl_cons, ih, add, mem_insertLine, List.mem_cons, or_comm (a := line = first),
        or_assoc]

@[simp] theorem has_ofList (lines : List Int) (line : Nat) :
    (ofList lines).has line = decide ((line : Int) ∈ lines) := by
  simp [has, ofList, mem_foldl_add, List.contains_eq_mem]

end Breakpoints

namespace Session

def behind (breakpoints : Breakpoints) : Outcome → Session
  | .next machine =>
      { machine, breakpoints, state := if machine.finished then .finished else .ready }
  | .failed trouble machine =>
      { machine, breakpoints, state := .error
        fault := match trouble with | .fault fault => some fault | _ => none }

def pausedAt (breakpoints : Breakpoints) (machine : Machine) : Session :=
  { machine, breakpoints, state := .paused, acknowledged := machine.currentLine }

variable {s s' : Session} {k n : Nat}

theorem execute_eq_behind (noFault : s.fault = none) :
    s.execute = behind s.breakpoints s.machine.step := by
  unfold execute behind
  cases s.machine.step with
  | next m => simp [noFault]
  | failed trouble m => cases trouble <;> rfl

theorem execute_state_ne_paused (s : Session) : s.execute.state ≠ .paused := by
  unfold execute
  cases s.machine.step with
  | next m => cases hfinished : m.finished <;> simp [hfinished]
  | failed trouble m => simp

theorem currentLine_of_pausesAt {line : Nat} (h : s.pausesAt = some line) :
    s.machine.currentLine = some line := by
  unfold pausesAt at h
  split at h
  · cases h
  · next here hline =>
      split at h
      · cases h
        exact hline
      · cases h

def Acknowledges (s : Session) : Prop :=
  s.state = .paused → s.acknowledged = s.machine.currentLine

theorem pausesAt_of_acknowledged (h : s.acknowledged = s.machine.currentLine) :
    s.pausesAt = none := by
  unfold pausesAt
  split
  · rfl
  · next line hline => simp [h, hline]

theorem Acknowledges.step (h : s.Acknowledges) : s.step.Acknowledges := by
  unfold Session.step
  split
  · exact h
  · split
    · next line hpause => exact fun _ => (currentLine_of_pausesAt hpause).symm
    · exact fun hpaused => absurd hpaused s.execute_state_ne_paused

theorem Acknowledges.stepWhileReady (h : s.Acknowledges) (steps : Nat) :
    (s.stepWhileReady steps).Acknowledges := by
  induction steps generalizing s with
  | zero => exact h
  | succ steps ih =>
      rw [Session.stepWhileReady]
      split
      · exact ih h.step
      · exact h

theorem Acknowledges.performs {operation : Operation} (h : s.Acknowledges)
    (performs : Performs s operation k s') : s'.Acknowledges := by
  cases performs with
  | step => exact h.step
  | resume steps returns =>
      unfold Session.resume
      split
      · exact h.step.stepWhileReady steps
      · exact h.stepWhileReady steps
  | addBreakpoint line => exact h
  | removeBreakpoint line => exact h
  | clearBreakpoints => exact h

theorem Acknowledges.performsAll {operations : List Operation} (h : s.Acknowledges)
    (performs : PerformsAll s operations k s') : s'.Acknowledges := by
  induction performs with
  | nil => exact h
  | cons first _ ih => exact ih (h.performs first)

theorem performs_resume_iff :
    Performs s .resume k s' ↔
      ∃ steps, (s.resume steps).state ≠ .ready ∧ k = s.resumeCount steps ∧
        s' = s.resume steps := by
  constructor
  · intro h
    cases h with
    | resume steps returns => exact ⟨steps, returns, rfl, rfl⟩
  · rintro ⟨steps, returns, rfl, rfl⟩
    exact .resume s steps returns

theorem performsAll_cons_iff {operation : Operation} {operations : List Operation} :
    PerformsAll s (operation :: operations) k s' ↔
      ∃ a b middle, Performs s operation a middle ∧ PerformsAll middle operations b s' ∧
        k = a + b := by
  constructor
  · intro h
    cases h with
    | cons first rest => exact ⟨_, _, _, first, rest, rfl⟩
  · rintro ⟨a, b, middle, first, rest, rfl⟩
    exact .cons first rest

/-- Whether the next tick of a session carries out a statement. -/
structure Executes (s : Session) : Prop where
  notDone : s.isDone = false
  noPause : s.pausesAt = none

theorem Executes.step_eq (h : s.Executes) : s.step = s.execute := by
  simp [step, h.notDone, h.noPause]

theorem Executes.tickCount_eq (h : s.Executes) : s.tickCount = 1 := by
  simp [tickCount, h.notDone, h.noPause]

theorem Executes.resume_step (h : s.Executes) (steps : Nat) :
    s.step.resume steps = s.step.stepWhileReady steps ∧
      s.step.resumeCount steps = s.step.countWhileReady steps := by
  have hnext : s.step.state ≠ .paused := by
    rw [h.step_eq]
    exact s.execute_state_ne_paused
  exact ⟨if_neg hnext, if_neg hnext⟩

/-- To resume a session that does not pause at once is to carry out a statement and then resume. -/
theorem Executes.performs_resume (h : s.Executes) :
    Performs s .resume k s' ↔ ∃ rest, k = rest + 1 ∧ Performs s.step .resume rest s' := by
  simp only [performs_resume_iff, h.resume_step]
  by_cases hpaused : s.state = .paused
  · simp only [resume, resumeCount, if_pos hpaused, h.tickCount_eq]
    constructor
    · rintro ⟨steps, returns, rfl, rfl⟩
      exact ⟨_, Nat.add_comm _ _, steps, returns, rfl, rfl⟩
    · rintro ⟨rest, rfl, steps, returns, rfl, rfl⟩
      exact ⟨steps, returns, Nat.add_comm _ _, rfl⟩
  · have hready : s.state = .ready := by
      have hdone := h.notDone
      cases hstate : s.state <;> simp_all [isDone]
    simp only [resume, resumeCount, if_neg hpaused]
    constructor
    · rintro ⟨steps, returns, rfl, rfl⟩
      cases steps with
      | zero => exact absurd hready returns
      | succ steps =>
          rw [stepWhileReady, if_pos hready] at returns ⊢
          rw [countWhileReady, if_pos hready, h.tickCount_eq]
          exact ⟨_, Nat.add_comm _ _, steps, returns, rfl, rfl⟩
    · rintro ⟨rest, rfl, steps, returns, rfl, rfl⟩
      refine ⟨steps + 1, ?_⟩
      rw [stepWhileReady, if_pos hready, countWhileReady, if_pos hready, h.tickCount_eq]
      exact ⟨returns, Nat.add_comm _ _, rfl⟩

theorem Executes.performsAll_resume (h : s.Executes) {operations : List Operation} :
    PerformsAll s (.resume :: operations) k s' ↔
      ∃ rest, k = rest + 1 ∧ PerformsAll s.step (.resume :: operations) rest s' := by
  simp only [performsAll_cons_iff, h.performs_resume]
  constructor
  · rintro ⟨_, b, middle, ⟨a, rfl, first⟩, later, rfl⟩
    exact ⟨a + b, Nat.add_right_comm _ _ _, a, b, middle, first, later, rfl⟩
  · rintro ⟨_, rfl, a, b, middle, first, later, rfl⟩
    exact ⟨a + 1, b, middle, ⟨a, rfl, first⟩, later, Nat.add_right_comm _ _ _⟩

theorem executes_pausedAt (breakpoints : Breakpoints) (m : Machine) :
    (pausedAt breakpoints m).Executes ∧
      (pausedAt breakpoints m).step = behind breakpoints m.step := by
  have hexecutes : (pausedAt breakpoints m).Executes := ⟨rfl, pausesAt_of_acknowledged rfl⟩
  exact ⟨hexecutes, hexecutes.step_eq.trans (execute_eq_behind rfl)⟩

section Running

variable {breakpoints : Breakpoints} {m : Machine} (running : m.finished = false)

include running

theorem pausesAt_behind :
    (behind breakpoints (.next m)).state = .ready ∧
      (behind breakpoints (.next m)).pausesAt =
        if breakpoints.has m.cursor then some m.cursor else none := by
  simp [behind, pausesAt, Machine.currentLine, running]

theorem performs_resume_of_has (has : breakpoints.has m.cursor = true) :
    Performs (behind breakpoints (.next m)) .resume k s' ↔
      k = 0 ∧ s' = pausedAt breakpoints m := by
  obtain ⟨hready, hpause⟩ : (behind breakpoints (.next m)).state = .ready ∧ _ :=
    pausesAt_behind running
  rw [if_pos has] at hpause
  have hstep : (behind breakpoints (.next m)).step = pausedAt breakpoints m := by
    rw [step, hpause, if_neg (by simp [isDone, hready])]
    simp [behind, pausedAt, Machine.currentLine, running]
  have htick : (behind breakpoints (.next m)).tickCount = 0 := by
    simp [tickCount, hpause]
  have hstays := stepWhileReady_of_ne_ready (s := pausedAt breakpoints m) (by simp [pausedAt])
  have hresume : ∀ steps,
      (behind breakpoints (.next m)).resume (steps + 1) = pausedAt breakpoints m ∧
        (behind breakpoints (.next m)).resumeCount (steps + 1) = 0 := by
    intro steps
    simp only [resume, resumeCount, hready, stepWhileReady, countWhileReady, hstep, htick]
    simpa using hstays steps
  rw [performs_resume_iff]
  constructor
  · rintro ⟨steps, returns, rfl, rfl⟩
    cases steps with
    | zero => exact absurd (by simp [resume, stepWhileReady, hready]) returns
    | succ steps => exact (hresume steps).symm
  · rintro ⟨rfl, rfl⟩
    refine ⟨1, ?_, (hresume 0).2.symm, (hresume 0).1.symm⟩
    rw [(hresume 0).1]
    simp [pausedAt]

theorem executes_behind (free : breakpoints.has m.cursor = false) :
    (behind breakpoints (.next m)).Executes ∧
      (behind breakpoints (.next m)).step = behind breakpoints m.step := by
  obtain ⟨hready, hpause⟩ : (behind breakpoints (.next m)).state = .ready ∧ _ :=
    pausesAt_behind running
  rw [free] at hpause
  have hexecutes : (behind breakpoints (.next m)).Executes := ⟨by simp [isDone, hready], hpause⟩
  exact ⟨hexecutes, hexecutes.step_eq.trans (execute_eq_behind rfl)⟩

end Running

theorem exists_running_of_isDone {breakpoints : Breakpoints} {outcome : Outcome}
    (h : (behind breakpoints outcome).isDone = false) :
    ∃ m, outcome = .next m ∧ m.finished = false := by
  cases outcome with
  | failed trouble m => cases h
  | next m =>
      cases running : m.finished with
      | true => simp [behind, isDone, running] at h
      | false => exact ⟨m, rfl, running⟩

/-- The states before the statements at breakpoints among the next `n` statements. -/
def hits (breakpoints : Breakpoints) (n : Nat) (outcome : Outcome) : List Machine :=
  (outcome.visits n).filter fun m => breakpoints.has m.cursor

theorem hits_of_running {m : Machine} (running : m.finished = false) (breakpoints : Breakpoints)
    (n : Nat) :
    hits breakpoints (n + 1) (.next m) =
      if breakpoints.has m.cursor then m :: hits breakpoints n m.step
      else hits breakpoints n m.step := by
  rw [hits, Outcome.visits_of_running running, List.filter_cons]
  rfl

theorem performsAll_of_hits {breakpoints : Breakpoints} {outcome : Outcome} {i : Nat} {m : Machine}
    (h : (hits breakpoints n outcome)[i]? = some m) :
    ∃ k, PerformsAll (behind breakpoints outcome) (List.replicate (i + 1) .resume) k
      (pausedAt breakpoints m) := by
  induction n, outcome using Outcome.visits.induct generalizing i with
  | case1 => cases h
  | case2 => cases h
  | case3 n m₀ finished => simp [hits, Outcome.visits, finished] at h
  | case4 n m₀ unfinished ih =>
      have running : m₀.finished = false := by simpa using unfinished
      rw [hits_of_running running] at h
      cases has : breakpoints.has m₀.cursor with
      | false =>
          rw [has] at h
          obtain ⟨k, hlater⟩ := ih h
          obtain ⟨hexecutes, hstep⟩ := executes_behind running has
          refine ⟨k + 1, ?_⟩
          rw [List.replicate_succ, hexecutes.performsAll_resume, hstep]
          exact ⟨k, rfl, hlater⟩
      | true =>
          rw [if_pos has] at h
          have hfirst := (performs_resume_of_has (k := 0) running has).mpr ⟨rfl, rfl⟩
          cases i with
          | zero =>
              cases h
              exact ⟨0, .cons hfirst (.nil _)⟩
          | succ i =>
              obtain ⟨k, hlater⟩ := ih h
              obtain ⟨hexecutes, hstep⟩ := executes_pausedAt breakpoints m₀
              refine ⟨0 + (k + 1), ?_⟩
              rw [List.replicate_succ]
              refine .cons hfirst ?_
              rw [List.replicate_succ, hexecutes.performsAll_resume, hstep]
              exact ⟨k, rfl, hlater⟩

theorem hits_of_performsAll {breakpoints : Breakpoints} {outcome : Outcome} {i : Nat}
    (performs : PerformsAll (behind breakpoints outcome) (List.replicate (i + 1) .resume) k s)
    (paused : s.state = .paused) :
    ∃ n, (hits breakpoints n outcome)[i]? = some s.machine := by
  -- By the number of statements: behind a pause, and where there is none, one is carried out.
  induction k using Nat.strongRecOn generalizing outcome i with
  | ind k ih =>
      have hgoes : (behind breakpoints outcome).isDone = false := by
        by_contra hover
        have hdone : (behind breakpoints outcome).isDone = true := by simpa using hover
        have hstate := (performs.of_isDone hdone).2.2
        rw [isDone_iff, ← hstate, paused] at hdone
        simp at hdone
      obtain ⟨m₀, rfl, running⟩ := exists_running_of_isDone hgoes
      rw [List.replicate_succ] at performs
      cases has : breakpoints.has m₀.cursor with
      | false =>
          obtain ⟨hexecutes, hstep⟩ := executes_behind running has
          rw [hexecutes.performsAll_resume, hstep] at performs
          obtain ⟨rest, rfl, hlater⟩ := performs
          obtain ⟨n, hhits⟩ := ih rest (Nat.lt_succ_self _) hlater
          refine ⟨n + 1, ?_⟩
          rw [hits_of_running running, has]
          exact hhits
      | true =>
          simp only [performsAll_cons_iff, performs_resume_of_has running has] at performs
          obtain ⟨_, b, _, ⟨rfl, rfl⟩, hlater, rfl⟩ := performs
          cases i with
          | zero =>
              cases hlater
              refine ⟨1, ?_⟩
              rw [hits_of_running running, if_pos has]
              rfl
          | succ i =>
              obtain ⟨hexecutes, hstep⟩ := executes_pausedAt breakpoints m₀
              rw [List.replicate_succ, hexecutes.performsAll_resume, hstep] at hlater
              obtain ⟨rest, rfl, hlater⟩ := hlater
              obtain ⟨n, hhits⟩ := ih rest (by omega) hlater
              refine ⟨n + 1, ?_⟩
              rw [hits_of_running running, if_pos has]
              exact hhits

/-- The states that a run visits are those in which it stands before one of its statements. A
session that is resumed again and again pauses once for each visit to a line with a breakpoint, in
the order of the visits and in the state of the run before the statement. To resume a session that
is paused carries out at least one statement. -/
theorem pauses_once_per_visit (comment source : String) (limit : RepeatLimit)
    (breakpoints : List Int) :
    (∀ n i m, ((Outcome.next (Machine.ofSource comment limit source)).visits n)[i]? = some m ↔
      i < n ∧ (Machine.ofSource comment limit source).runFor i = (m, .unfinished)) ∧
    (∀ i m,
      (∃ k s, PerformsAll (Session.start comment limit source breakpoints)
        (List.replicate (i + 1) .resume) k s ∧ s.state = .paused ∧ s.machine = m) ↔
      ∃ n, (((Outcome.next (Machine.ofSource comment limit source)).visits n).filter
        fun m => (m.cursor : Int) ∈ breakpoints)[i]? = some m) ∧
    ∀ operations n s, PerformsAll (Session.start comment limit source breakpoints) operations n s →
      s.state = .paused → ∀ k s', Performs s .resume k s' → 1 ≤ k := by
  have hhits : ∀ n, hits (.ofList breakpoints) n (.next (Machine.ofSource comment limit source)) =
      ((Outcome.next (Machine.ofSource comment limit source)).visits n).filter
        fun m => (m.cursor : Int) ∈ breakpoints := by
    simp [hits]
  refine ⟨fun n i m => Outcome.getElem?_visits, fun i m => ?_, ?_⟩
  · simp only [← hhits]
    constructor
    · rintro ⟨k, s, performs, paused, rfl⟩
      exact hits_of_performsAll performs paused
    · rintro ⟨n, hvisit⟩
      obtain ⟨k, performs⟩ := performsAll_of_hits hvisit
      exact ⟨k, _, performs, rfl, rfl⟩
  · intro operations n s performs paused k s' hresume
    have hstart : (Session.start comment limit source breakpoints).Acknowledges := by
      intro hpaused
      simp only [Session.start, ofMachine] at hpaused
      split at hpaused <;> cases hpaused
    have hexecutes : s.Executes :=
      ⟨by simp [isDone, paused], pausesAt_of_acknowledged (hstart.performsAll performs paused)⟩
    obtain ⟨rest, rfl, -⟩ := hexecutes.performs_resume.mp hresume
    exact Nat.le_add_left 1 rest

theorem pauses_twice_at_end :
    let source := "FOR I = 1 TO 2\nEND"
    ∃ k s, PerformsAll (Session.start "//" defaultLimit source [1]) [.resume, .resume] k s ∧
      s.state = .paused ∧ s.machine.cursor = 1 := by
  intro source
  let hit := ((Outcome.next (Machine.ofSource "//" defaultLimit source)).visits 3).filter
    fun m => (m.cursor : Int) ∈ [(1 : Int)]
  have hcursors : hit.map (·.cursor) = [1, 1] := by decide +kernel
  obtain ⟨m, hvisit, hcursor⟩ : ∃ m, hit[1]? = some m ∧ m.cursor = 1 := by
    have hsecond : (hit.map (·.cursor))[1]? = some 1 := by rw [hcursors]; rfl
    rwa [List.getElem?_map, Option.map_eq_some_iff] at hsecond
  obtain ⟨-, hpauses, -⟩ := pauses_once_per_visit "//" source defaultLimit [1]
  obtain ⟨k, s, performs, paused, rfl⟩ := (hpauses 1 m).mpr ⟨3, hvisit⟩
  exact ⟨k, s, performs, paused, hcursor⟩

end Session

end Pseudocode
