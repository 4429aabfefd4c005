import Pseudocode.Proofs.Machine.Growth
import Pseudocode.Proofs.Machine.Runs
import Pseudocode.Proofs.Structured.Evaluation

/-!
When the lines of a program do what a behaviour says. A machine is followed from where its cursor
is about to be set to a line: from there it carries out a counted number of statements, and either
arrives behind the lines with the same frames open or fails. Conversely, a run that ends has gone
through a completion of the behaviour.
-/

namespace Pseudocode

theorem Leads.consistent {n : Nat} {outcome outcome' : Outcome} (h : Leads n outcome outcome')
    (consistent : outcome.machine.store.Consistent) : outcome'.machine.store.Consistent := by
  induction h with
  | refl => exact consistent
  | step _ _ ih => exact ih (Machine.consistent_step consistent)

namespace Structured

section Standing

variable (program : Program) (limit : RepeatLimit)

def standing (line : Nat) (memory : Memory) (nesting : Nesting) (executed : Nat) : Machine :=
  { program, limit, cursor := line, store := memory.store, nesting, output := memory.output,
    executed }

def poised (line : Nat) (memory : Memory) (nesting : Nesting) (executed : Nat) : Outcome :=
  (standing program limit line memory nesting executed).advance

/-- What a completion is for a machine: it is about to be set to a line with given frames open, or
it has failed. -/
def Arrives (line : Nat) (nesting : Nesting) : Completion → Outcome → Prop
  | .normal memory, outcome =>
      ∃ executed, outcome = poised program limit line memory nesting executed
  | .fault fault memory, outcome =>
      ∃ m, outcome = .failed (.fault fault) m ∧ m.store = memory.store ∧ m.output = memory.output

def Ends (line : Nat) (nesting : Nesting) (completion : Completion) (outcome : Outcome) : Prop :=
  ∃ n outcome', Leads n outcome outcome' ∧ Arrives program limit line nesting completion outcome'

/-- Some statements bring a machine from a line to another and change only what is open. -/
def Skips (line : Nat) (nesting : Nesting) (line' : Nat) (nesting' : Nesting) : Prop :=
  ∀ memory executed, ∃ n executed',
    Leads n (poised program limit line memory nesting executed)
      (poised program limit line' memory nesting' executed')

/-- The lines from one to another do what a behaviour says, with given frames open before and
behind them, in every memory whose variables have values of their declared types. -/
structure Realizes (line : Nat) (nesting : Nesting) (line' : Nat) (nesting' : Nesting)
    (behaviour : Behaviour) : Prop where
  ends : ∀ {memory completion} executed, memory.store.Consistent → behaviour memory completion →
    Ends program limit line' nesting' completion
      (poised program limit line memory nesting executed)
  completes : ∀ {n memory executed}, memory.store.Consistent →
    Halts n (poised program limit line memory nesting executed) →
    ∃ completion, behaviour memory completion

/-- The end of an iteration does what a verdict says: it comes to the first line of the body, it
comes behind the loop, or it fails. -/
def Concludes (first : Nat) (inside : Nesting) (behind : Nat) (outside : Nesting)
    (memory : Memory) : Verdict → Outcome → Prop
  | .again next, outcome =>
      ∃ n executed, Leads (n + 1) outcome (poised program limit first next inside executed)
  | .leave, outcome =>
      ∃ n executed, Leads n outcome (poised program limit behind memory outside executed)
  | .fault fault, outcome => Ends program limit behind outside (.fault fault memory) outcome

end Standing

section Ends

variable {program : Program} {limit : RepeatLimit} {line line' n : Nat}
  {nesting nesting' : Nesting} {memory : Memory} {completion : Completion}
  {outcome outcome' : Outcome}

theorem Ends.after (hends : Ends program limit line nesting completion outcome')
    (h : Leads n outcome outcome') : Ends program limit line nesting completion outcome := by
  obtain ⟨k, last, hleads, harrives⟩ := hends
  exact ⟨n + k, last, h.trans hleads, harrives⟩

theorem store_poised (program : Program) (limit : RepeatLimit) (line : Nat) (memory : Memory)
    (nesting : Nesting) (executed : Nat) :
    (poised program limit line memory nesting executed).machine.store = memory.store :=
  (Machine.advance_keeps _).2.2

theorem consistent_of_leads {memory' : Memory} {executed executed' : Nat}
    (h : Leads n (poised program limit line memory nesting executed)
      (poised program limit line' memory' nesting' executed'))
    (consistent : memory.store.Consistent) : memory'.store.Consistent := by
  rw [← store_poised program limit line memory nesting executed] at consistent
  rw [← store_poised program limit line' memory' nesting' executed']
  exact h.consistent consistent

theorem Ends.goOn {start : Memory} {line₀ executed : Nat} {nesting₀ : Nesting}
    (h : Ends program limit line nesting (.normal memory)
      (poised program limit line₀ start nesting₀ executed)) (consistent : start.store.Consistent)
    (hrest : ∀ executed, memory.store.Consistent → Ends program limit line' nesting' completion
      (poised program limit line memory nesting executed)) :
    Ends program limit line' nesting' completion
      (poised program limit line₀ start nesting₀ executed) := by
  obtain ⟨k, last, hleads, executed', rfl⟩ := h
  exact (hrest executed' (consistent_of_leads hleads consistent)).after hleads

theorem Ends.stop {fault : Fault}
    (h : Ends program limit line nesting (.fault fault memory) outcome) :
    Ends program limit line' nesting' (.fault fault memory) outcome := h

end Ends

namespace Realizes

variable {program : Program} {limit : RepeatLimit} {line line' line'' : Nat}
  {nesting nesting' nesting'' : Nesting} {behaviour : Behaviour}

theorem pass : Realizes program limit line nesting line nesting pass where
  ends := by
    rintro memory _ executed - rfl
    exact ⟨0, _, .refl _, executed, rfl⟩
  completes := fun _ _ => ⟨_, rfl⟩

theorem before (hskip : Skips program limit line nesting line' nesting')
    (h : Realizes program limit line' nesting' line'' nesting'' behaviour) :
    Realizes program limit line nesting line'' nesting'' behaviour where
  ends := by
    intro memory completion executed consistent hbehaviour
    obtain ⟨n, executed', hleads⟩ := hskip memory executed
    exact (h.ends executed' consistent hbehaviour).after hleads
  completes := by
    intro n memory executed consistent hhalts
    obtain ⟨k, executed', hleads⟩ := hskip memory executed
    exact h.completes consistent (hleads.halts hhalts).2

theorem behind (h : Realizes program limit line nesting line' nesting' behaviour)
    (hskip : Skips program limit line' nesting' line'' nesting'') :
    Realizes program limit line nesting line'' nesting'' behaviour where
  ends := by
    intro memory completion executed consistent hbehaviour
    have hends := h.ends executed consistent hbehaviour
    cases completion with
    | normal middle =>
        refine hends.goOn consistent fun executed' _ => ?_
        obtain ⟨n, last, hleads⟩ := hskip middle executed'
        exact ⟨n, _, hleads, last, rfl⟩
    | fault fault middle => exact hends.stop
  completes := h.completes

theorem sequence {first second : Behaviour}
    (h : Realizes program limit line nesting line' nesting' first)
    (h' : Realizes program limit line' nesting' line'' nesting'' second) :
    Realizes program limit line nesting line'' nesting'' (Sequence first second) where
  ends := by
    intro memory completion executed consistent hbehaviour
    cases hbehaviour with
    | both fine rest =>
        exact (h.ends executed consistent fine).goOn consistent fun executed' hmiddle =>
          h'.ends executed' hmiddle rest
    | stopped stop => exact (h.ends executed consistent stop).stop
  completes := by
    intro n memory executed consistent hhalts
    obtain ⟨completion, hfirst⟩ := h.completes consistent hhalts
    cases completion with
    | fault fault middle => exact ⟨_, .stopped hfirst⟩
    | normal middle =>
        obtain ⟨k, _, hleads, executed', rfl⟩ := h.ends executed consistent hfirst
        obtain ⟨completion, hsecond⟩ :=
          h'.completes (consistent_of_leads hleads consistent) (hleads.halts hhalts).2
        exact ⟨completion, .both hfirst hsecond⟩

theorem iterations {verdict : Nat → Memory → Verdict} {body : Behaviour} {closer : Nat}
    {inside : Nat → Nesting}
    (hbody : ∀ count, Realizes program limit line (inside count) closer (inside count) body)
    (hclose : ∀ count memory executed, memory.store.Consistent →
      Concludes program limit line (inside (count + 1)) line' nesting' memory
        (verdict (count + 1) memory)
        (poised program limit closer memory (inside count) executed)) (count : Nat) :
    Realizes program limit line (inside count) line' nesting' (Iterations verdict body count) where
  ends := by
    intro memory completion executed consistent hbehaviour
    induction hbehaviour generalizing executed with
    | stopped stop => exact ((hbody _).ends executed consistent stop).stop
    | @refused count _ middle _ fine refuse =>
        refine ((hbody _).ends executed consistent fine).goOn consistent fun executed' hmiddle => ?_
        have hconclude := hclose count middle executed' hmiddle
        rwa [refuse] at hconclude
    | @left count _ middle fine leave =>
        refine ((hbody _).ends executed consistent fine).goOn consistent fun executed' hmiddle => ?_
        have hconclude := hclose count middle executed' hmiddle
        rw [leave] at hconclude
        obtain ⟨n, last, hleads⟩ := hconclude
        exact ⟨n, _, hleads, last, rfl⟩
    | @more count _ middle _ _ fine again _ ih =>
        refine ((hbody _).ends executed consistent fine).goOn consistent fun executed' hmiddle => ?_
        have hconclude := hclose count middle executed' hmiddle
        rw [again] at hconclude
        obtain ⟨n, last, hleads⟩ := hconclude
        exact (ih last (consistent_of_leads hleads hmiddle)).after hleads
  completes := by
    intro n
    -- Every iteration takes a statement, so that fewer are left for the next one.
    induction n using Nat.strongRecOn generalizing count with
    | ind n ih =>
        intro memory executed consistent hhalts
        obtain ⟨completion, hfirst⟩ := (hbody count).completes consistent hhalts
        cases completion with
        | fault fault middle => exact ⟨_, .stopped hfirst⟩
        | normal middle =>
            obtain ⟨k, _, hleads, executed', rfl⟩ := (hbody count).ends executed consistent hfirst
            have hmiddle := consistent_of_leads hleads consistent
            have hrest := (hleads.halts hhalts).2
            have hconclude := hclose count middle executed' hmiddle
            cases hverdict : verdict (count + 1) middle with
            | fault fault => exact ⟨_, .refused hfirst hverdict⟩
            | leave => exact ⟨_, .left hfirst hverdict⟩
            | again next =>
                rw [hverdict] at hconclude
                obtain ⟨k', last, hleads'⟩ := hconclude
                obtain ⟨hle, hmore⟩ := hleads'.halts hrest
                obtain ⟨completion, hcompletion⟩ :=
                  ih _ (by omega) (count + 1) (consistent_of_leads hleads' hmiddle) hmore
                exact ⟨completion, .more hfirst hverdict hcompletion⟩

end Realizes

section Statement

variable {program : Program} {limit : RepeatLimit} {line line' : Nat} {memory memory' : Memory}
  {nesting nesting' : Nesting} {executed : Nat} {s : Statement}

theorem leads_exec (limit : RepeatLimit) (memory : Memory) (nesting : Nesting) (executed : Nat)
    (h : program.contents[line]? = some (.statement s)) :
    Leads 1 (poised program limit line memory nesting executed)
      (((standing program limit line memory nesting executed).exec s).andThen fun m =>
        m.count.advance) := by
  have hpoised : poised program limit line memory nesting executed =
      .next (standing program limit line memory nesting executed) :=
    Machine.advance_of_statement h
  rw [hpoised]
  refine .step rfl ?_
  rw [Machine.step_of_statement rfl h]
  exact .refl _

theorem leads_next (h : program.contents[line]? = some (.statement s))
    (hexec : (standing program limit line memory nesting executed).exec s =
      .next (standing program limit line' memory' nesting' executed)) :
    Leads 1 (poised program limit line memory nesting executed)
      (poised program limit line' memory' nesting' (executed + 1)) := by
  have hleads := leads_exec limit memory nesting executed h
  rwa [hexec] at hleads

theorem ends_fail {behind : Nat} {outside : Nesting} {fault : Fault}
    (h : program.contents[line]? = some (.statement s))
    (hexec : (standing program limit line memory nesting executed).exec s =
      (standing program limit line memory nesting' executed).fail fault) :
    Ends program limit behind outside (.fault (fault.atLine line) memory)
      (poised program limit line memory nesting executed) := by
  have hleads := leads_exec limit memory nesting executed h
  rw [hexec] at hleads
  exact ⟨1, _, hleads, _, rfl, rfl, rfl⟩

theorem skips_of_exec (h : program.contents[line]? = some (.statement s))
    (hexec : ∀ memory executed, (standing program limit line memory nesting executed).exec s =
      .next (standing program limit line' memory nesting' executed)) :
    Skips program limit line nesting line' nesting' := by
  intro memory executed
  exact ⟨1, _, leads_next h (hexec memory executed)⟩

theorem skips_gap {content : Content} (h : program.contents[line]? = some content)
    (silent : content.kind? = none) : Skips program limit line nesting (line + 1) nesting := by
  intro memory executed
  have hkind : program.kindAt line = none := by
    rw [Program.kindAt_eq, h]
    exact silent
  have hsame : poised program limit line memory nesting executed =
      poised program limit (line + 1) memory nesting executed := by
    unfold poised Machine.advance standing
    dsimp only
    rw [Program.nextStatement_succ (Program.lt_length_of_statement h) hkind]
  rw [hsame]
  exact ⟨0, executed, .refl _⟩

theorem realizes_write {text : String}
    (h : program.contents[line]? = some (.statement (.output text))) :
    Realizes program limit line nesting (line + 1) nesting (write text) where
  ends := by
    rintro memory _ executed - rfl
    exact ⟨1, _, leads_next h rfl, _, rfl⟩
  completes := fun _ _ => ⟨_, rfl⟩

theorem realizes_assign {name expression : String}
    (h : program.contents[line]? = some (.statement (.assign name expression))) :
    Realizes program limit line nesting (line + 1) nesting (assign line name expression) where
  ends := by
    intro memory completion executed _ hbehaviour
    let m := standing program limit line memory nesting executed
    have hexec : m.exec (.assign name expression) = m.execAssign name expression := rfl
    have hstored : m.store = memory.store := rfl
    unfold Machine.execAssign at hexec
    unfold assign at hbehaviour
    rw [hstored] at hexec
    cases hvalue : Expr.evaluate memory.store expression with
    | error fault =>
        simp only [hvalue] at hbehaviour hexec
        subst hbehaviour
        exact ends_fail h hexec
    | ok value =>
        simp only [hvalue] at hbehaviour hexec
        cases hstore : (Store.assign name value).run memory.store with
        | error fault store =>
            rw [Machine.assignThen_of_error (m := m) hstore] at hexec
            simp only [hstore] at hbehaviour
            subst hbehaviour
            exact ends_fail h hexec
        | ok v store =>
            rw [Machine.assignThen_of_ok (m := m) hstore] at hexec
            simp only [hstore] at hbehaviour
            subst hbehaviour
            have hleads : Leads 1 (poised program limit line memory nesting executed)
                (poised program limit (line + 1) { memory with store } nesting (executed + 1)) :=
              leads_next h hexec
            exact ⟨1, _, hleads, _, rfl⟩
  completes := by
    intro n memory executed _ _
    unfold assign
    split
    · exact ⟨_, rfl⟩
    · split
      · exact ⟨_, rfl⟩
      · exact ⟨_, rfl⟩

end Statement

end Structured

end Pseudocode
