import Pseudocode.Proofs.Session.Breakpoints
import Pseudocode.Proofs.Source.Insertion
import Pseudocode.Proofs.Text.Lines
import Pseudocode.Registry

namespace Pseudocode

namespace Session

variable {s s' : Session}

theorem stepWhileReady_add (a b : Nat) (s : Session) :
    s.stepWhileReady (a + b) = (s.stepWhileReady a).stepWhileReady b := by
  induction a generalizing s with
  | zero => rw [Nat.zero_add]; rfl
  | succ a ih =>
      rw [Nat.add_right_comm, stepWhileReady, stepWhileReady]
      split
      · exact ih s.step
      · next hready => exact (stepWhileReady_of_ne_ready hready b).1.symm

theorem resume_add (a b : Nat) (s : Session) :
    s.resume (a + b) = (s.resume a).stepWhileReady b := by
  unfold resume
  split
  · exact stepWhileReady_add a b s.step
  · exact stepWhileReady_add a b s

theorem resume_add_of_ready {a : Nat} (ready : (s.resume a).state = .ready) (b : Nat) :
    s.resume (a + b) = (s.resume a).resume b := by
  have hpaused : (s.resume a).state ≠ .paused := by
    rw [ready]
    simp
  rw [resume_add]
  exact (if_neg hpaused).symm

theorem resume_eq_of_stopped {a b : Nat} (ha : (s.resume a).state ≠ .ready)
    (hb : (s.resume b).state ≠ .ready) : s.resume a = s.resume b := by
  have hmore : ∀ {c : Nat}, (s.resume c).state ≠ .ready → ∀ d, s.resume (c + d) = s.resume c :=
    fun hc d => (resume_add _ d s).trans (stepWhileReady_of_ne_ready hc d).1
  calc s.resume a
      = s.resume (a + b) := (hmore ha b).symm
    _ = s.resume (b + a) := by rw [Nat.add_comm]
    _ = s.resume b := hmore hb a

theorem spend_fst (budget : Nat) (s : Session) : (s.spend budget).1 = s.stepWhileReady budget := by
  induction budget generalizing s with
  | zero => rfl
  | succ budget ih =>
      rw [spend, stepWhileReady]
      split
      · exact ih s.step
      · rfl

theorem spend_snd_of_ready {budget : Nat} (ready : (s.spend budget).1.state = .ready) :
    (s.spend budget).2 = budget := by
  induction budget generalizing s with
  | zero => rfl
  | succ budget ih =>
      rw [spend] at ready ⊢
      split at ready
      · next hready =>
          rw [if_pos hready]
          exact congrArg (· + 1) (ih ready)
      · next hnot => exact absurd ready hnot

/-- How many steps a request has left once it has carried out the statement at which a session is
paused. -/
def allowance (s : Session) : Nat := if s.state = .paused then maxSteps - 1 else maxSteps

theorem allowance_pos (s : Session) : 0 < s.allowance := by
  unfold allowance
  split <;> decide

theorem allowance_le (s : Session) : s.allowance ≤ maxSteps := by
  unfold allowance
  split
  · exact Nat.sub_le _ _
  · exact Nat.le_refl _

theorem advance_fst (s : Session) : s.advance.1 = s.resume s.allowance := by
  unfold advance resume allowance
  split
  · exact spend_fst _ _
  · exact spend_fst _ _

theorem advance_snd_of_ready (ready : s.advance.1.state = .ready) : s.advance.2 = maxSteps := by
  unfold advance at ready ⊢
  split at ready
  · next hpaused =>
      rw [if_pos hpaused]
      have hspent := spend_snd_of_ready ready
      change (spend (maxSteps - 1) s.step).2 + 1 = maxSteps
      rw [hspent]
      decide
  · next hpaused =>
      rw [if_neg hpaused]
      exact spend_snd_of_ready ready

@[simp] theorem state_progress (s : Session) (steps : Nat) :
    (s.progress steps).snapshot.state = s.state := rfl

/-- What a client is told of a session that was to go on by itself: one that is still ready was
stopped by the limit on statements. -/
def progressAfter (s : Session) (steps : Nat) : Progress :=
  if s.state = .ready then (s.progress steps).atLimit s.machine.cursor else s.progress steps

theorem progressOfResume_advance (s : Session) :
    s.advance.1.progressOfResume s.advance.2 = s.advance.1.progressAfter s.advance.2 := by
  unfold progressOfResume progressAfter
  by_cases ready : s.advance.1.state = .ready
  · rw [if_pos ready, if_pos ⟨ready, Nat.le_of_eq (advance_snd_of_ready ready).symm⟩]
  · rw [if_neg ready, if_neg fun h => ready h.1]

/-- A session without breakpoints, in a program that has only `OUTPUT` statements. -/
structure Writing (s : Session) : Prop where
  ready : s.state = .ready
  free : s.breakpoints = {}
  unfinished : s.machine.finished = false
  closed : s.machine.nesting = {}
  inside : s.machine.cursor < s.machine.program.length
  outputs : ∀ i < s.machine.program.length, ∃ text,
    s.machine.program.contents[i]? = some (.statement (.output text))

theorem Writing.step_eq (h : s.Writing) : s.step = s.execute := by
  have hdone : s.isDone = false := by simp [isDone, h.ready]
  have hpause : s.pausesAt = none := by
    simp [pausesAt, Machine.currentLine, h.unfinished, h.free, Breakpoints.has]
  exact Executes.step_eq ⟨hdone, hpause⟩

theorem Writing.step (h : s.Writing) :
    (s.machine.cursor + 1 < s.machine.program.length → s.step.Writing ∧
      s.step.machine.cursor = s.machine.cursor + 1 ∧
      s.step.machine.program = s.machine.program) ∧
    (s.machine.cursor + 1 = s.machine.program.length → s.step.state = .finished) := by
  obtain ⟨text, htext⟩ := h.outputs _ h.inside
  let m : Machine := { s.machine with
    output := s.machine.output.push (Machine.outputText s.machine.store text)
    cursor := s.machine.cursor + 1
    executed := s.machine.executed + 1 }
  have hstep : s.machine.step = m.advance := Machine.step_of_statement h.unfinished htext
  rw [h.step_eq, execute, hstep]
  constructor
  · intro hinside
    obtain ⟨next, hnext⟩ := h.outputs _ hinside
    rw [Machine.advance_of_statement (m := m) hnext]
    refine ⟨⟨?_, h.free, h.unfinished, h.closed, hinside, h.outputs⟩, rfl, rfl⟩
    simp [m, h.unfinished]
  · intro hend
    have hlast : m.program.nextStatement m.cursor = m.program.length :=
      (Program.nextStatement_of_length_le (Nat.le_of_eq hend.symm)).trans hend
    have hclosed : m.nesting.innermost = none := by
      rw [show m.nesting = {} from h.closed]
      rfl
    have hadvance : m.advance = .next { m with cursor := m.program.length, finished := true } := by
      simp [Machine.advance, hlast, hclosed]
    rw [hadvance]
    rfl

theorem Writing.stepWhileReady (h : s.Writing) (steps : Nat)
    (hinside : s.machine.cursor + steps < s.machine.program.length) :
    (s.stepWhileReady steps).Writing ∧
      (s.stepWhileReady steps).machine.cursor = s.machine.cursor + steps ∧
      (s.stepWhileReady steps).machine.program = s.machine.program := by
  induction steps generalizing s with
  | zero => exact ⟨h, rfl, rfl⟩
  | succ steps ih =>
      obtain ⟨hstep, hcursor, hprogram⟩ := h.step.1 (by omega)
      rw [Session.stepWhileReady, if_pos h.ready]
      have hrest := ih hstep (by rw [hcursor, hprogram]; omega)
      rw [hcursor, hprogram, Nat.add_right_comm] at hrest
      exact hrest

theorem Writing.resume (h : s.Writing) (hstart : s.machine.cursor = 0) :
    (∀ steps < s.machine.program.length, (s.resume steps).state = .ready) ∧
    (s.resume s.machine.program.length).state = .finished := by
  have hunpaused : s.state ≠ .paused := by
    rw [h.ready]
    simp
  have hresume : ∀ steps, s.resume steps = s.stepWhileReady steps := fun steps => if_neg hunpaused
  constructor
  · intro steps hsteps
    rw [hresume]
    exact (h.stepWhileReady steps (by omega)).1.ready
  · obtain ⟨last, hlast⟩ : ∃ last, s.machine.program.length = last + 1 :=
      Nat.exists_eq_add_one_of_ne_zero (by have := h.inside; omega)
    obtain ⟨hwriting, hcursor, hprogram⟩ := h.stepWhileReady last (by omega)
    rw [hresume, hlast, stepWhileReady_add, Session.stepWhileReady, if_pos hwriting.ready]
    exact hwriting.step.2 (by rw [hcursor, hprogram]; omega)

def writingSource (count : Nat) : String := Text.unlines (List.replicate count "OUTPUT a")

theorem lines_writingSource (count : Nat) :
    Text.lines (writingSource count).toList = List.replicate count "OUTPUT a".toList := by
  have hplain : ("OUTPUT a".toList.all fun c => !Text.isBreak c) = true := by decide +kernel
  have hlines : Text.AreLines (List.replicate count "OUTPUT a".toList) := by
    intro text htext c hc
    rw [List.eq_of_mem_replicate htext] at hc
    simpa using List.all_eq_true.mp hplain c hc
  have hunlines := Text.lines_unlines hlines
  rwa [List.map_replicate] at hunlines

theorem contents_writingSource {count i : Nat} (hi : i < count) :
    (Program.ofSource defaultComment (writingSource count)).contents[i]? =
      some (.statement (.output "a")) := by
  have hfirst : (Line.ofChars 0 "OUTPUT a".toList).content defaultComment =
      .statement (.output "a") := by decide +kernel
  have hmatches := Line.content_ofChars_matches defaultComment 0 i "OUTPUT a".toList
  rw [hfirst] at hmatches
  rw [Program.contents_ofSource, lines_writingSource, List.getElem?_replicate, if_pos hi]
  rw [Option.map_some]
  generalize (Line.ofChars i "OUTPUT a".toList).content defaultComment = content at hmatches ⊢
  cases hmatches
  rfl

theorem writing_start (limit : RepeatLimit) {count : Nat} (hcount : 0 < count) :
    (start defaultComment limit (writingSource count) []).Writing ∧
      (start defaultComment limit (writingSource count) []).machine.cursor = 0 ∧
      (start defaultComment limit (writingSource count) []).machine.program.length = count := by
  let program := Program.ofSource defaultComment (writingSource count)
  let m : Machine := { program, limit }
  have hlength : program.length = count := by
    rw [Program.length_ofSource, lines_writingSource, List.length_replicate]
  have hload : Machine.ofSource defaultComment limit (writingSource count) = m :=
    congrArg Outcome.machine (Machine.advance_of_statement (m := m) (contents_writingSource hcount))
  rw [start, hload]
  refine ⟨⟨rfl, rfl, rfl, rfl, ?_, ?_⟩, rfl, hlength⟩
  · exact Nat.lt_of_lt_of_eq hcount hlength.symm
  · intro i hi
    exact ⟨"a", contents_writingSource (Nat.lt_of_lt_of_eq hi hlength)⟩

theorem resume_writingSource (limit : RepeatLimit) {count : Nat} (hcount : 0 < count) :
    (∀ steps < count,
      ((start defaultComment limit (writingSource count) []).resume steps).state = .ready) ∧
    ((start defaultComment limit (writingSource count) []).resume count).state = .finished := by
  obtain ⟨hwriting, hcursor, hlength⟩ := writing_start limit hcount
  have hresume := hwriting.resume hcursor
  rwa [hlength] at hresume

end Session

theorem FaultKind.name_ne_stepLimit (kind : FaultKind) : kind.name ≠ "StepLimit" := by
  cases kind <;> decide

/-- Whether an answer says that a session is still ready after all the statements that one request
may carry out. -/
def Answer.IsLimited (answer : Answer) : Prop :=
  answer.success = false ∧ ∃ progress complaint, answer = .advanced progress ∧
    progress.steps = maxSteps ∧ progress.snapshot.state = .ready ∧
    progress.snapshot.complaint = some complaint ∧ complaint.kind = "StepLimit"

namespace Registry

variable {registry : Registry} {name : String} {s : Session}

theorem get?_replace (h : registry.get? name = some s) (s' : Session) :
    (registry.replace name s').get? name = some s' := by
  obtain ⟨sessions⟩ := registry
  simp only [get?, replace] at h ⊢
  induction sessions with
  | nil => cases h
  | cons entry rest ih =>
      rw [List.map_cons]
      cases hname : entry.1 == name with
      | true => exact List.lookup_cons_self
      | false =>
          have hother : (name == entry.1) = false := by rwa [BEq.comm]
          rw [List.lookup_cons, hother] at h
          rw [if_neg (by simp), List.lookup_cons, hother]
          exact ih h

theorem replace_replace (registry : Registry) (name : String) (s s' : Session) :
    (registry.replace name s).replace name s' = registry.replace name s' := by
  unfold replace
  rw [List.map_map]
  congr 1
  refine List.map_congr_left fun entry _ => ?_
  simp only [Function.comp_apply]
  cases hname : entry.1 == name with
  | true => simp
  | false => simp [hname]

/-- The registry after some requests, each with the name that a new session would take. -/
def served (registry : Registry) (requests : List (String × Request)) : Registry :=
  requests.foldl (fun registry request => (registry.handle request.1 request.2).1) registry

/-- The answer to a request to resume a session that was asked for some times before. -/
def resumeAnswer (registry : Registry) (fresh name : String) (before : Nat) : Answer :=
  ((registry.served (List.replicate before (fresh, .resume name))).handle fresh (.resume name)).2

section Open

variable (fresh : String) (opened : registry.get? name = some s)

include opened

theorem handle_resume :
    registry.handle fresh (.resume name) =
      (registry.replace name s.advance.1,
        .advanced (s.advance.1.progressAfter s.advance.2)) := by
  rw [← Session.progressOfResume_advance]
  simp [handle, withSession, opened]

theorem served_resume (n : Nat) :
    registry.served (List.replicate (n + 1) (fresh, .resume name)) =
      (registry.replace name s.advance.1).served (List.replicate n (fresh, .resume name)) := by
  rw [List.replicate_succ, served, List.foldl_cons, handle_resume fresh opened]
  rfl

theorem resumeAnswer_zero :
    registry.resumeAnswer fresh name 0 =
      .advanced (s.advance.1.progressAfter s.advance.2) := by
  change (registry.handle fresh (.resume name)).2 = _
  rw [handle_resume fresh opened]

theorem resumeAnswer_succ (n : Nat) :
    registry.resumeAnswer fresh name (n + 1) =
      (registry.replace name s.advance.1).resumeAnswer fresh name n := by
  rw [resumeAnswer, served_resume fresh opened]
  rfl

theorem isLimited_of_ready (ready : s.advance.1.state = .ready) :
    (registry.resumeAnswer fresh name 0).IsLimited := by
  rw [resumeAnswer_zero fresh opened, Session.advance_snd_of_ready ready, Session.progressAfter,
    if_pos ready]
  exact ⟨rfl, _, _, rfl, rfl, ready, rfl, rfl⟩

end Open

theorem isLimited_of_endless {fresh : String} (opened : registry.get? name = some s)
    (endless : ∀ steps, (s.resume steps).state = .ready) (n : Nat) :
    (registry.resumeAnswer fresh name n).IsLimited := by
  induction n generalizing registry s with
  | zero =>
      apply isLimited_of_ready fresh opened
      rw [Session.advance_fst]
      exact endless _
  | succ n ih =>
      rw [resumeAnswer_succ fresh opened]
      refine ih (get?_replace opened _) fun steps => ?_
      rw [Session.advance_fst, ← Session.resume_add_of_ready (endless _)]
      exact endless _

/-- The requests before the one in which a session stops end at the limit, and that one leaves the
session as if it had been resumed once. -/
theorem exists_resumed {fresh : String} {steps : Nat} (opened : registry.get? name = some s)
    (stopped : (s.resume steps).state ≠ .ready) :
    ∃ n, (∀ i < n, (registry.resumeAnswer fresh name i).IsLimited) ∧
      (∃ count, registry.resumeAnswer fresh name n =
        .advanced ((s.resume steps).progressAfter count)) ∧
      registry.served (List.replicate (n + 1) (fresh, .resume name)) =
        registry.replace name (s.resume steps) := by
  induction steps using Nat.strongRecOn generalizing registry s with
  | ind steps ih =>
      by_cases ready : s.advance.1.state = .ready
      · have hready := ready
        rw [Session.advance_fst] at hready
        obtain ⟨rest, rfl⟩ : ∃ rest, steps = s.allowance + rest := by
          refine Nat.exists_eq_add_of_le (Nat.le_of_not_lt fun hlt => ?_)
          obtain ⟨more, hmore⟩ := Nat.exists_eq_add_of_lt hlt
          rw [hmore, Nat.add_assoc, Session.resume_add,
            (Session.stepWhileReady_of_ne_ready stopped _).1] at hready
          exact stopped hready
        have hrest : s.resume (s.allowance + rest) = s.advance.1.resume rest := by
          rw [Session.advance_fst, Session.resume_add_of_ready hready]
        rw [hrest] at stopped ⊢
        have hlt : rest < s.allowance + rest := Nat.lt_add_of_pos_left s.allowance_pos
        obtain ⟨n, hlimited, hanswer, hserved⟩ := ih rest hlt (get?_replace opened _) stopped
        refine ⟨n + 1, ?_, ?_, ?_⟩
        · intro i hi
          cases i with
          | zero => exact isLimited_of_ready fresh opened ready
          | succ i =>
              rw [resumeAnswer_succ fresh opened]
              exact hlimited i (Nat.lt_of_succ_lt_succ hi)
        · rw [resumeAnswer_succ fresh opened]
          exact hanswer
        · rw [served_resume fresh opened, hserved, replace_replace]
      · have hsame : s.advance.1 = s.resume steps := by
          rw [Session.advance_fst] at ready ⊢
          exact Session.resume_eq_of_stopped ready stopped
        refine ⟨0, by simp, ⟨s.advance.2, ?_⟩, ?_⟩
        · rw [resumeAnswer_zero fresh opened, hsame]
        · rw [served_resume fresh opened, hsame]
          rfl

/-- Resuming a session by requests does what resuming it without a limit does. If that returns, then
some number of requests end at the limit, each after as many statements as are allowed, and the
next one does not and leaves the very same session behind. If it does not return, then every request
ends at the limit. -/
theorem resume_requests_refine_resume (registry : Registry) (fresh name : String) (s : Session)
    (opened : registry.get? name = some s) :
    (∀ k s', s.Performs .resume k s' → ∃ n,
      (∀ i < n, (registry.resumeAnswer fresh name i).IsLimited) ∧
      (∃ count, registry.resumeAnswer fresh name n = .advanced (s'.progress count) ∧
        ∀ complaint, s'.snapshot.complaint = some complaint → complaint.kind ≠ "StepLimit") ∧
      registry.served (List.replicate (n + 1) (fresh, .resume name)) = registry.replace name s' ∧
      (registry.replace name s').get? name = some s') ∧
    ((¬ ∃ k s', s.Performs .resume k s') →
      ∀ i, (registry.resumeAnswer fresh name i).IsLimited) := by
  constructor
  · intro k s' performs
    obtain ⟨steps, stopped, -, rfl⟩ := Session.performs_resume_iff.mp performs
    obtain ⟨n, hlimited, ⟨count, hanswer⟩, hserved⟩ := exists_resumed opened stopped
    refine ⟨n, hlimited, ⟨count, ?_, ?_⟩, hserved, get?_replace opened _⟩
    · rw [hanswer, Session.progressAfter, if_neg stopped]
    · intro complaint hcomplaint
      obtain ⟨fault, -, rfl⟩ := Option.map_eq_some_iff.mp hcomplaint
      exact fault.kind.name_ne_stepLimit
  · intro endless
    refine isLimited_of_endless opened fun steps => ?_
    by_contra hstopped
    exact endless ⟨_, _, .resume s steps hstopped⟩

/-- A session that needs one statement more than one request may carry out. -/
theorem resume_requests_reach_limit :
    let registry :=
      ({} : Registry).served [("a", .create (Session.writingSource (maxSteps + 1)) [])]
    ∃ n s', 0 < n ∧ (∀ i < n, (registry.resumeAnswer "b" "a" i).IsLimited) ∧
      (∃ count, registry.resumeAnswer "b" "a" n = .advanced (s'.progress count)) ∧
      registry.served (List.replicate (n + 1) ("b", .resume "a")) = registry.replace "a" s' ∧
      s'.state = .finished := by
  intro registry
  let s := Session.start defaultComment defaultLimit (Session.writingSource (maxSteps + 1)) []
  have opened : registry.get? "a" = some s := rfl
  obtain ⟨hready, hfinished⟩ :=
    Session.resume_writingSource defaultLimit (Nat.add_one_pos maxSteps)
  have performs : s.Performs .resume (s.resumeCount (maxSteps + 1)) (s.resume (maxSteps + 1)) :=
    .resume s _ fun hstate => by cases hfinished.symm.trans hstate
  obtain ⟨hreturns, -⟩ := resume_requests_refine_resume registry "b" "a" s opened
  obtain ⟨n, hlimited, ⟨count, hanswer, -⟩, hserved, -⟩ := hreturns _ _ performs
  refine ⟨n, _, Nat.pos_of_ne_zero ?_, hlimited, ⟨count, hanswer⟩, hserved, hfinished⟩
  rintro rfl
  have hfirst : (registry.resumeAnswer "b" "a" 0).IsLimited := by
    apply isLimited_of_ready "b" opened
    rw [Session.advance_fst]
    exact hready _ (Nat.lt_add_one_of_le s.allowance_le)
  obtain ⟨-, progress, -, hprogress, -, hstate, -⟩ := hfirst
  obtain rfl := Answer.advanced.inj (hprogress.symm.trans hanswer)
  rw [Session.state_progress, hfinished] at hstate
  cases hstate

end Registry

end Pseudocode
