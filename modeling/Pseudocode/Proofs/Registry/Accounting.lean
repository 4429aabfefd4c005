import Pseudocode.Proofs.Machine.Residue
import Pseudocode.Proofs.Registry.Isolation

/-!
Counting steps. A request counts the ticks that it makes of a session, and a machine counts the
statements that it carries out. The two differ by a tick that pauses and by one whose statement
fails, and a request ends with either.
-/

namespace Pseudocode

namespace Machine

variable {m m' : Machine}

theorem executed_of_step_next (running : m.finished = false) (h : m.step = .next m') :
    m'.executed = m.executed + 1 := by
  obtain ⟨hfinished, -⟩ | ⟨-, s, m₁, -, effect, hadvance⟩ := step_eq_next h
  · rw [running] at hfinished
    cases hfinished
  · have hcount : m₁.count.executed = m.executed + 1 :=
      congrArg (· + 1) (executed_of_effect effect)
    obtain ⟨-, rfl⟩ | ⟨-, -, rfl⟩ := advance_eq_next hadvance
    · exact hcount
    · exact hcount

/-- A statement that fails is not counted, unless it was the last one and has left a construct
open. -/
theorem executed_of_step_failed {comment : String} {lines : List Line} {fault : Fault}
    (hprogram : m.program = Program.ofLines comment lines) (settled : m.Settled)
    (h : m.step = .failed (.fault fault) m') :
    m'.executed = m.executed + if fault.kind = .unclosedConstruct then 1 else 0 := by
  obtain ⟨-, ⟨kind, fault', hcontent, hfault, rfl⟩ |
    ⟨s, -, ⟨fault', hfault, refusal⟩ | ⟨m₁, effect, hadvance⟩⟩⟩ := step_eq_failed settled h
  · cases hfault
    rw [if_neg (kind_of_malformed (hprogram ▸ hcontent))]
    rfl
  · cases hfault
    rw [if_neg (refusal_line refusal).1, refusal.leaves]
    rfl
  · obtain ⟨line, construct, openedAt, hfault, rfl, -⟩ := movedTo_of_advance effect hadvance
    cases hfault
    have hkind : (unclosed construct openedAt).kind = .unclosedConstruct := rfl
    rw [if_pos hkind]
    exact congrArg (· + 1) (executed_of_effect effect)

end Machine

namespace Session

variable {s s' : Session} {n : Nat}

/-- Whether a statement has failed since a session was as it was before, other than by leaving a
construct open at the end of the program. -/
def failedSince (before after : Session) : Bool :=
  before.fault.isNone && after.fault.any fun fault => fault.kind ≠ .unclosedConstruct

/-- Some ticks, of which the first is made in a session that is not done and each further one in a
session that is ready. -/
inductive Ticks : Session → Nat → Session → Prop where
  | none (s : Session) : Ticks s 0 s
  | cons {s s' : Session} {n : Nat} (running : s.isDone = false)
      (onward : n = 0 ∨ s.step.state = .ready) (rest : Ticks s.step n s') : Ticks s (n + 1) s'

/-- The steps that a request has counted are the statements that were carried out meanwhile, one
for a pause at the end, and one for a statement that has failed. -/
structure Accounted (before after : Session) (steps : Nat) : Prop where
  ticks : Ticks before steps after
  within : steps ≤ maxSteps
  grows : before.machine.executed ≤ after.machine.executed
  balance : steps = (after.machine.executed - before.machine.executed) +
    (if 0 < steps ∧ after.state = .paused then 1 else 0) +
    (if failedSince before after then 1 else 0)

theorem spend_of_ne_ready (h : s.state ≠ .ready) (budget : Nat) : s.spend budget = (s, 0) := by
  cases budget with
  | zero => rfl
  | succ budget => exact if_neg h

theorem spend_snd_eq_zero_or_ready (s : Session) (budget : Nat) :
    (s.spend budget).2 = 0 ∨ s.state = .ready := by
  by_cases hready : s.state = .ready
  · exact .inr hready
  · rw [spend_of_ne_ready hready]
    exact .inl rfl

theorem isDone_of_ready (ready : s.state = .ready) : s.isDone = false := by
  simp [isDone, ready]

theorem isDone_of_paused (paused : s.state = .paused) : s.isDone = false := by
  simp [isDone, paused]

theorem ticks_spend (budget : Nat) (s : Session) :
    Ticks s (s.spend budget).2 (s.spend budget).1 := by
  induction budget generalizing s with
  | zero => exact .none s
  | succ budget ih =>
      rw [spend]
      split
      · next ready =>
          exact .cons (isDone_of_ready ready) (spend_snd_eq_zero_or_ready _ _) (ih s.step)
      · exact .none s

theorem ticks_advance (s : Session) : Ticks s s.advance.2 s.advance.1 := by
  unfold advance
  split
  · next paused =>
      exact .cons (isDone_of_paused paused) (spend_snd_eq_zero_or_ready _ _) (ticks_spend _ _)
  · exact ticks_spend _ _

theorem ticks_stepUpTo (count : Nat) (s : Session) :
    Ticks s (s.stepUpTo count).2 (s.stepUpTo count).1 := by
  induction count generalizing s with
  | zero => exact .none s
  | succ count ih =>
      rw [stepUpTo]
      cases hdone : s.isDone with
      | true => exact .none s
      | false =>
          rw [if_neg (by simp)]
          dsimp only
          split
          · next ready => exact .cons hdone (.inr ready) (ih s.step)
          · exact .cons hdone (.inl rfl) (.none s.step)

theorem spend_snd_le (budget : Nat) (s : Session) : (s.spend budget).2 ≤ budget := by
  induction budget generalizing s with
  | zero => exact Nat.le_refl _
  | succ budget ih =>
      rw [spend]
      split
      · exact Nat.succ_le_succ (ih s.step)
      · exact Nat.zero_le _

theorem advance_snd_le (s : Session) : s.advance.2 ≤ maxSteps := by
  unfold advance
  split
  · exact Nat.succ_le_succ (spend_snd_le (maxSteps - 1) s.step)
  · exact spend_snd_le maxSteps s

theorem stepUpTo_snd_le (count : Nat) (s : Session) : (s.stepUpTo count).2 ≤ count := by
  induction count generalizing s with
  | zero => exact Nat.le_refl _
  | succ count ih =>
      rw [stepUpTo]
      split
      · exact Nat.zero_le _
      · dsimp only
        split
        · exact Nat.succ_le_succ (ih s.step)
        · exact Nat.succ_le_succ (Nat.zero_le count)

def OfCode (s : Session) : Prop :=
  ∃ code k, Follows (Machine.ofSource defaultComment defaultLimit code) k s

theorem ofCode_start (code : String) (breakpoints : List Int) :
    (Session.start defaultComment defaultLimit code breakpoints).OfCode :=
  ⟨code, 0, follows_load defaultLimit (Program.ofSource defaultComment code) breakpoints⟩

theorem OfCode.step (h : s.OfCode) : s.step.OfCode := by
  obtain ⟨code, k, hfollows⟩ := h
  exact ⟨code, _, hfollows.step⟩

theorem OfCode.serve (h : s.OfCode) (inquiry : Inquiry) : (s.serve inquiry).1.OfCode := by
  obtain ⟨code, k, hfollows⟩ := h
  obtain ⟨n, hnext⟩ := hfollows.serve inquiry
  exact ⟨code, n, hnext⟩

theorem OfCode.fault_eq_none (h : s.OfCode) (running : s.isDone = false) : s.fault = none := by
  obtain ⟨code, k, hfollows⟩ := h
  refine hfollows.fault_eq_none fun failed => ?_
  simp [isDone, failed] at running

theorem OfCode.tick (h : s.OfCode) (running : s.isDone = false) :
    s.machine.executed ≤ s.step.machine.executed ∧
    s.machine.executed + 1 = s.step.machine.executed +
      (if s.step.state = .paused then 1 else 0) +
      (if failedSince s s.step then 1 else 0) := by
  have noFault := h.fault_eq_none running
  obtain ⟨code, k, hfollows⟩ := h
  cases hfollows with
  | finished _ _ state _ => simp [isDone, state] at running
  | failed _ state _ => simp [isDone, state] at running
  | running leads unfinished settled _ _ =>
      unfold Session.step failedSince
      rw [running]
      cases hpause : s.pausesAt with
      | some line => simp [noFault]
      | none =>
          unfold execute
          cases hstep : s.machine.step with
          | next m =>
              have hcount := Machine.executed_of_step_next unfinished hstep
              cases hfinished : m.finished <;> simp [noFault, hcount, hfinished]
          | failed trouble m =>
              obtain ⟨fault, rfl⟩ := Machine.exists_fault_of_step settled hstep
              have hsound := (Machine.reached_of_leads leads).sound (Machine.Sound.load _ _)
              have hcount := Machine.executed_of_step_failed hsound.program_eq settled hstep
              by_cases hkind : fault.kind = .unclosedConstruct <;> simp [noFault, hcount, hkind]

theorem Ticks.tally (ticks : Ticks s n s') (h : s.OfCode) :
    s.machine.executed ≤ s'.machine.executed ∧
    s.machine.executed + n = s'.machine.executed +
      (if 0 < n ∧ s'.state = .paused then 1 else 0) +
      (if failedSince s s' then 1 else 0) := by
  induction ticks with
  | none s => cases hfault : s.fault <;> simp [failedSince, hfault]
  | @cons s s' n running onward rest ih =>
      obtain ⟨hgrows, htick⟩ := h.tick running
      obtain ⟨hgrows', htally⟩ := ih h.step
      refine ⟨Nat.le_trans hgrows hgrows', ?_⟩
      cases rest with
      | none => simpa using htick
      | cons running' onward' rest =>
          have ready := onward.resolve_left (Nat.succ_ne_zero _)
          have hfault := h.fault_eq_none running
          have hfault' := h.step.fault_eq_none running'
          have hsame : failedSince s s' = failedSince s.step s' := by
            simp [failedSince, hfault, hfault']
          have hexecuted : s.machine.executed + 1 = s.step.machine.executed := by
            simpa [failedSince, hfault', ready] using htick
          simp only [Nat.zero_lt_succ, true_and] at htally ⊢
          rw [hsame]
          omega

theorem Ticks.accounted (ticks : Ticks s n s') (h : s.OfCode) (within : n ≤ maxSteps) :
    Accounted s s' n := by
  obtain ⟨hgrows, htally⟩ := ticks.tally h
  exact ⟨ticks, within, hgrows, by omega⟩

theorem breakpoints_step (s : Session) : s.step.breakpoints = s.breakpoints := by
  unfold step execute
  split
  · rfl
  · split
    · rfl
    · split <;> rfl

theorem Ticks.not_paused (ticks : Ticks s n s') (clear : s.breakpoints.lines = [])
    (unpaused : s.state ≠ .paused) : s'.state ≠ .paused := by
  induction ticks with
  | none s => exact unpaused
  | @cons s s' n running onward rest ih =>
      have hpause : s.pausesAt = Option.none := by
        unfold pausesAt Breakpoints.has
        rw [clear]
        cases s.machine.currentLine <;> rfl
      have hstep : s.step = s.execute := by simp [step, running, hpause]
      apply ih
      · rw [breakpoints_step, clear]
      · rw [hstep]
        exact execute_state_ne_paused s

end Session

def Snapshot.ReportsLimit (snapshot : Snapshot) : Prop :=
  ∃ complaint, snapshot.complaint = some complaint ∧ complaint.kind = "StepLimit"

namespace Session

variable {s : Session}

theorem not_reportsLimit_snapshot (s : Session) : ¬ s.snapshot.ReportsLimit := by
  rintro ⟨complaint, hcomplaint, hkind⟩
  obtain ⟨fault, -, rfl⟩ := Option.map_eq_some_iff.mp hcomplaint
  exact fault.kind.name_ne_stepLimit hkind

theorem reportsLimit_progressAfter {steps : Nat} :
    (s.progressAfter steps).snapshot.ReportsLimit ↔ s.state = .ready := by
  unfold progressAfter
  constructor
  · intro hlimit
    by_contra hready
    rw [if_neg hready] at hlimit
    exact s.not_reportsLimit_snapshot hlimit
  · intro ready
    rw [if_pos ready]
    exact ⟨_, rfl, rfl⟩

theorem success_progress (s : Session) (steps : Nat) :
    (s.progress steps).success = true ↔ (s.progress steps).snapshot.complaint = none := by
  change s.fault.isNone = true ↔ s.fault.map Complaint.fault = none
  rw [Option.isNone_iff_eq_none, Option.map_eq_none_iff]

theorem success_progressAfter (s : Session) (steps : Nat) :
    (s.progressAfter steps).success = true ↔
      (s.progressAfter steps).snapshot.complaint = none := by
  unfold progressAfter
  split
  · constructor
    · intro hsuccess
      cases hsuccess
    · intro hnone
      cases hnone
  · exact s.success_progress steps

theorem steps_progressAfter (s : Session) (steps : Nat) :
    (s.progressAfter steps).steps = steps := by
  unfold progressAfter
  split
  · rfl
  · rfl

theorem progressOfRun_eq (unpaused : s.state ≠ .paused) (steps : Nat) :
    s.progressOfRun steps = s.progressAfter steps := by
  unfold progressOfRun progressAfter isDone
  cases hstate : s.state with
  | paused => exact absurd hstate unpaused
  | _ => rfl

end Session

namespace Registry

variable {registry : Registry} {fresh name : String} {s : Session}

def AllOfCode (registry : Registry) : Prop := ∀ entry ∈ registry.sessions, entry.2.OfCode

theorem AllOfCode.get? (h : registry.AllOfCode) (opened : registry.get? name = some s) :
    s.OfCode :=
  h (name, s) (mem_of_lookup opened)

theorem AllOfCode.replace (h : registry.AllOfCode) (hs : s.OfCode) :
    (registry.replace name s).AllOfCode := by
  intro entry hentry
  obtain ⟨old, hold, rfl⟩ := List.mem_map.mp hentry
  split
  · exact hs
  · exact h old hold

theorem AllOfCode.insert (h : registry.AllOfCode) (hs : s.OfCode) :
    (registry.insert fresh s).AllOfCode := by
  intro entry hentry
  rw [sessions_insert, List.mem_append, List.mem_singleton] at hentry
  rcases hentry with hold | rfl
  · exact h entry (List.mem_of_mem_filter ((prune_suffix registry).subset hold))
  · exact hs

theorem AllOfCode.withSession {answer : Session → Registry × Answer} (h : registry.AllOfCode)
    (answered : ∀ s, s.OfCode → (answer s).1.AllOfCode) :
    (registry.withSession name answer).1.AllOfCode := by
  unfold Registry.withSession
  split
  · exact h
  · next s opened => exact answered s (h.get? opened)

theorem AllOfCode.handle (h : registry.AllOfCode) (fresh : String) (request : Request) :
    (registry.handle fresh request).1.AllOfCode := by
  cases request with
  | run code => exact h
  | validate code => exact h
  | create code breakpoints => exact h.insert (Session.ofCode_start code _)
  | state name => exact h.withSession fun s hs => h
  | step name count => exact h.withSession fun s hs => h.replace (hs.serve (.step count))
  | resume name => exact h.withSession fun s hs => h.replace (hs.serve .resume)
  | setBreakpoint name line enabled =>
      exact h.withSession fun s hs => h.replace (hs.serve (.setBreakpoint line enabled))
  | clearBreakpoints name =>
      exact h.withSession fun s hs => h.replace (hs.serve .clearBreakpoints)
  | close name =>
      exact h.withSession fun s hs entry hentry => h entry (List.mem_of_mem_filter hentry)

theorem AllOfCode.served (h : registry.AllOfCode) (requests : List (String × Request)) :
    (registry.served requests).AllOfCode := by
  induction requests generalizing registry with
  | nil => exact h
  | cons entry rest ih => exact ih (h.handle entry.1 entry.2)

theorem allOfCode_empty : ({} : Registry).AllOfCode := by
  intro entry hentry
  cases hentry

theorem handle_run (registry : Registry) (fresh code : String) :
    let ran := (Session.start defaultComment defaultLimit code []).advance
    registry.handle fresh (.run code) = (registry, .ran (ran.1.progressAfter ran.2)) := by
  intro ran
  have hunpaused : ran.1.state ≠ .paused := by
    refine (Session.ticks_advance _).not_paused rfl ?_
    change (if _ then SessionState.finished else .ready) ≠ .paused
    split <;> simp
  rw [← Session.progressOfRun_eq hunpaused]
  simp only [handle, ran]

theorem handle_step (opened : registry.get? name = some s) (fresh : String) (count : Int) :
    let ticked := s.stepUpTo (min (max count 1) maxSteps).toNat
    registry.handle fresh (.step name count) =
      (registry.replace name ticked.1, .advanced (ticked.1.progress ticked.2)) := by
  simp [handle, withSession, opened]

/-- Every request that makes steps counts them right: no more than are allowed, and as many as
statements were carried out, with one more if the request ends with a pause, and one more if a
statement has failed other than by leaving a construct open. An answer reports success exactly if it
has no complaint, and the limit is complained of exactly if a session that was to go on by itself is
still ready. -/
theorem requests_account_for_steps (requests : List (String × Request)) (fresh : String) :
    let registry := ({} : Registry).served requests
    (∀ code, ∃ after progress,
      let before := Session.start defaultComment defaultLimit code []
      registry.handle fresh (.run code) = (registry, .ran progress) ∧
      before.advance = (after, progress.steps) ∧ before.Accounted after progress.steps ∧
      (progress.success = true ↔ progress.snapshot.complaint = none) ∧
      (progress.snapshot.ReportsLimit ↔ after.state = .ready)) ∧
    ∀ name before, registry.get? name = some before →
      (∀ count, ∃ after progress,
        registry.handle fresh (.step name count) =
          (registry.replace name after, .advanced progress) ∧
        (registry.replace name after).get? name = some after ∧
        before.Accounted after progress.steps ∧
        (progress.success = true ↔ progress.snapshot.complaint = none)) ∧
      ∃ after progress,
        registry.handle fresh (.resume name) =
          (registry.replace name after, .advanced progress) ∧
        (registry.replace name after).get? name = some after ∧
        before.Accounted after progress.steps ∧
        (progress.success = true ↔ progress.snapshot.complaint = none) ∧
        (progress.snapshot.ReportsLimit ↔ after.state = .ready) := by
  intro registry
  have hregistry : registry.AllOfCode := allOfCode_empty.served requests
  constructor
  · intro code
    let before := Session.start defaultComment defaultLimit code []
    refine ⟨before.advance.1, before.advance.1.progressAfter before.advance.2,
      handle_run registry fresh code, ?_, ?_, Session.success_progressAfter _ _,
      Session.reportsLimit_progressAfter⟩
    · rw [Session.steps_progressAfter]
    · rw [Session.steps_progressAfter]
      exact before.ticks_advance.accounted (Session.ofCode_start code []) before.advance_snd_le
  · intro name before opened
    have hbefore := hregistry.get? opened
    constructor
    · intro count
      let ticked := before.stepUpTo (min (max count 1) maxSteps).toNat
      refine ⟨ticked.1, ticked.1.progress ticked.2, handle_step opened fresh count,
        get?_replace opened _, ?_, Session.success_progress _ _⟩
      have hticks := Session.ticks_stepUpTo (min (max count 1) maxSteps).toNat before
      have hcount := Session.stepUpTo_snd_le (min (max count 1) maxSteps).toNat before
      exact hticks.accounted hbefore (by omega)
    · refine ⟨before.advance.1, before.advance.1.progressAfter before.advance.2,
        handle_resume fresh opened, get?_replace opened _, ?_, Session.success_progressAfter _ _,
        Session.reportsLimit_progressAfter⟩
      rw [Session.steps_progressAfter]
      exact before.ticks_advance.accounted hbefore before.advance_snd_le

/-- A session that is paused before a statement which fails: the statement is a step, but it is not
counted as carried out. -/
theorem failed_statement_is_a_step :
    let registry := ({} : Registry).served
      [("a", .create "OUTPUT 1\nENDIF" [2]), ("", .resume "a")]
    ∃ before after progress, registry.get? "a" = some before ∧ before.state = .paused ∧
      registry.handle "b" (.resume "a") = (registry.replace "a" after, .advanced progress) ∧
      progress.steps = 1 ∧ before.Accounted after 1 ∧ before.failedSince after = true ∧
      progress.success = false ∧ ¬ progress.snapshot.ReportsLimit := by
  intro registry
  let first := Session.start defaultComment defaultLimit "OUTPUT 1\nENDIF" ([2].map (· - 1))
  let before := first.advance.1
  have opened : registry.get? "a" = some before := rfl
  obtain ⟨-, hopen⟩ := requests_account_for_steps
    [("a", .create "OUTPUT 1\nENDIF" [2]), ("", .resume "a")] "b"
  obtain ⟨-, after, progress, hhandle, hkept, haccounted, -, hlimit⟩ := hopen "a" before opened
  obtain ⟨hreplaced, hanswer⟩ := Prod.mk.inj ((handle_resume "b" opened).symm.trans hhandle)
  obtain rfl := Answer.advanced.inj hanswer
  rw [← hreplaced, get?_replace opened] at hkept
  obtain rfl := Option.some.inj hkept
  obtain ⟨hpaused, hsteps, hfailed, hsuccess, hstate⟩ : before.state = .paused ∧
      (before.advance.1.progressAfter before.advance.2).steps = 1 ∧
      before.failedSince before.advance.1 = true ∧
      (before.advance.1.progressAfter before.advance.2).success = false ∧
      before.advance.1.state = .error := by decide +kernel
  refine ⟨before, _, _, opened, hpaused, hhandle, hsteps, hsteps ▸ haccounted, hfailed, hsuccess,
    ?_⟩
  rw [hlimit, hstate]
  simp

end Registry

end Pseudocode
