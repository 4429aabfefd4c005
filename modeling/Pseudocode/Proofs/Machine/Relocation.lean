import Pseudocode.Proofs.Machine.Runs
import Pseudocode.Proofs.Machine.Safety
import Pseudocode.Proofs.Source.Insertion

/-!
Runs of two programs that differ in lines without statements. The machines stay alike, statement by
statement, with every line that the one knows at its new place in the other. Since places keep their
order, frames are compared with the same result.
-/

namespace Pseudocode

def IfFrame.relocate (place : Nat → Nat) (frame : IfFrame) : IfFrame :=
  { frame with openedAt := place frame.openedAt }

def LoopFrame.relocate (place : Nat → Nat) : LoopFrame → LoopFrame
  | counting openedAt name start stop => counting (place openedAt) name start stop
  | whileLoop openedAt condition => whileLoop (place openedAt) condition
  | repeatLoop openedAt count => repeatLoop (place openedAt) count

def Frame.relocate (place : Nat → Nat) : Frame → Frame
  | block openedAt => block (place openedAt)
  | conditional frame => conditional (frame.relocate place)
  | loop frame => loop (frame.relocate place)

@[simp] theorem Frame.relocate_openedAt (place : Nat → Nat) (frame : Frame) :
    (frame.relocate place).openedAt = place frame.openedAt := by
  cases frame with
  | block openedAt => rfl
  | conditional frame => rfl
  | loop frame => cases frame <;> rfl

namespace Nesting

def relocate (place : Nat → Nat) (nesting : Nesting) : Nesting where
  blocks := nesting.blocks.map place
  conditionals := nesting.conditionals.map (IfFrame.relocate place)
  loops := nesting.loops.map (LoopFrame.relocate place)

section Fields

variable (place : Nat → Nat) (nesting : Nesting)

@[simp] theorem relocate_blocks :
    (nesting.relocate place).blocks = nesting.blocks.map place := rfl

@[simp] theorem relocate_conditionals :
    (nesting.relocate place).conditionals =
      nesting.conditionals.map (IfFrame.relocate place) := rfl

@[simp] theorem relocate_loops :
    (nesting.relocate place).loops = nesting.loops.map (LoopFrame.relocate place) := rfl

end Fields

theorem tops_relocate (place : Nat → Nat) (nesting : Nesting) :
    (nesting.relocate place).tops = nesting.tops.map (Frame.relocate place) := by
  obtain ⟨blocks, conditionals, loops⟩ := nesting
  cases blocks <;> cases conditionals <;> cases loops <;> rfl

theorem pop?_relocate (place : Nat → Nat) (nesting : Nesting) (stack : StackName) :
    (nesting.relocate place).pop? stack =
      (nesting.pop? stack).map fun popped =>
        (popped.1.relocate place, popped.2.relocate place) := by
  obtain ⟨blocks, conditionals, loops⟩ := nesting
  cases stack with
  | block => cases blocks <;> rfl
  | conditional => cases conditionals <;> rfl
  | loop => cases loops <;> rfl

theorem later_relocate {place : Nat → Nat} (hplace : StrictMono place) (a b : Frame) :
    later (a.relocate place) (b.relocate place) = (later a b).relocate place := by
  simp only [later, Frame.relocate_openedAt, hplace.lt_iff_lt]
  split <;> rfl

theorem innermost_relocate {place : Nat → Nat} (hplace : StrictMono place) (nesting : Nesting) :
    (nesting.relocate place).innermost = nesting.innermost.map (Frame.relocate place) := by
  unfold innermost
  rw [tops_relocate]
  cases nesting.tops with
  | nil => rfl
  | cons frame rest =>
      have hfold : ∀ frame, (rest.map (Frame.relocate place)).foldl later
          (frame.relocate place) = (rest.foldl later frame).relocate place := by
        induction rest with
        | nil => exact fun _ => rfl
        | cons next rest ih =>
            intro frame
            rw [List.map_cons, List.foldl_cons, List.foldl_cons, later_relocate hplace, ih]
      exact congrArg some (hfold frame)

end Nesting

namespace Machine

def relocate (program : Program) (place : Nat → Nat) (m : Machine) : Machine :=
  { m with program, cursor := place m.cursor, nesting := m.nesting.relocate place }

section Fields

variable (program : Program) (place : Nat → Nat) (m : Machine)

@[simp] theorem relocate_program : (m.relocate program place).program = program := rfl

@[simp] theorem relocate_cursor : (m.relocate program place).cursor = place m.cursor := rfl

@[simp] theorem relocate_store : (m.relocate program place).store = m.store := rfl

@[simp] theorem relocate_limit : (m.relocate program place).limit = m.limit := rfl

@[simp] theorem relocate_finished : (m.relocate program place).finished = m.finished := rfl

@[simp] theorem relocate_nesting :
    (m.relocate program place).nesting = m.nesting.relocate place := rfl

end Fields

/-- Two outcomes that are alike up to places: both go on, with cursors that correspond, or both
fail with the same kind of fault at corresponding lines. -/
inductive Alike (program : Program) (place : Nat → Nat) (near : Nat → Nat → Prop) :
    Outcome → Outcome → Prop where
  | next {m : Machine} {cursor : Nat} (hnear : near m.cursor cursor) :
      Alike program place near (.next m) (.next ((m.relocate program place).movedTo cursor))
  | failed {m : Machine} {fault fault' : Fault} {line : Nat} (hkind : fault'.kind = fault.kind)
      (hline : fault.line = some (line : Int)) (hline' : fault'.line = some (place line : Int)) :
      Alike program place near (.failed (.fault fault) m)
        (.failed (.fault fault') (m.relocate program place))

section Exec

variable {program' : Program} {place : Nat → Nat} {m : Machine}

/-- Outcomes of a statement at a line and at its new place. The cursors may stand at different
lines between statements, but the same statement comes next. -/
def AlikeAfter (program' : Program) (place : Nat → Nat) (m : Machine) : Outcome → Outcome → Prop :=
  Alike program' place fun i j => program'.nextStatement j = place (m.program.nextStatement i)

theorem alike_fail {fault : Fault} (ofData : fault.OfData) :
    AlikeAfter program' place m (m.fail fault) ((m.relocate program' place).fail fault) :=
  .failed (by simp) (ofData.line_atLine _) (ofData.line_atLine _)

theorem alike_refuse (kind : FaultKind) (detail detail' : String) :
    AlikeAfter program' place m (m.refuse kind detail)
      ((m.relocate program' place).refuse kind detail') :=
  .failed rfl rfl rfl

theorem alike_goTo (spaced : m.program.Spaced program' place) (line : Nat) :
    AlikeAfter program' place m (m.goTo line) ((m.relocate program' place).goTo (place line)) :=
  .next (spaced.nextStatement line)

theorem alike_goTo_succ (spaced : m.program.Spaced program' place) (line : Nat) :
    AlikeAfter program' place m (m.goTo (line + 1))
      ((m.relocate program' place).goTo (place line + 1)) :=
  .next (spaced.nextStatement_succ line)

theorem alike_goOn (spaced : m.program.Spaced program' place) :
    AlikeAfter program' place m m.goOn (m.relocate program' place).goOn :=
  alike_goTo_succ spaced m.cursor

theorem alike_goBehind (spaced : m.program.Spaced program' place) (target : Option Nat) :
    AlikeAfter program' place m (m.goBehind target)
      ((m.relocate program' place).goBehind (target.map place)) := by
  cases target with
  | none =>
      have hend := alike_goTo spaced m.program.length
      rwa [spaced.place_length] at hend
  | some line => exact alike_goTo_succ spaced line

theorem alike_popThen {stack : StackName} {next next' : Machine → Outcome}
    (hopen : (m.nesting.pop? stack).isSome = true)
    (hnext : ∀ nesting, AlikeAfter program' place m (next { m with nesting })
      (next' (relocate program' place { m with nesting }))) :
    AlikeAfter program' place m (m.popThen stack next)
      ((m.relocate program' place).popThen stack next') := by
  obtain ⟨⟨frame, nesting⟩, hpop⟩ := Option.isSome_iff_exists.mp hopen
  simp only [popThen, relocate_nesting, Nesting.pop?_relocate, hpop, Option.map_some]
  exact hnext nesting

theorem alike_assignThen {name : String} {value : Value} {next next' : Machine → Outcome}
    (hnext : ∀ store, AlikeAfter program' place m (next { m with store })
      (next' (relocate program' place { m with store }))) :
    AlikeAfter program' place m (m.assignThen name value next)
      ((m.relocate program' place).assignThen name value next') := by
  cases hassign : (Store.assign name value).run m.store with
  | ok v store =>
      rw [assignThen_of_ok hassign, assignThen_of_ok (m := m.relocate program' place) hassign]
      exact hnext store
  | error fault store =>
      rw [assignThen_of_error hassign,
        assignThen_of_error (m := m.relocate program' place) hassign]
      exact alike_fail (Fault.ofData_of_assign hassign)

theorem alike_execAssign (spaced : m.program.Spaced program' place) (name expression : String) :
    AlikeAfter program' place m (m.execAssign name expression)
      ((m.relocate program' place).execAssign name expression) := by
  simp only [execAssign, relocate_store]
  cases hvalue : Expr.evaluate m.store expression with
  | error fault => exact alike_fail (Fault.ofData_of_evaluate hvalue)
  | ok value => exact alike_assignThen fun store => alike_goOn (m := { m with store }) spaced

theorem alike_execIf (spaced : m.program.Spaced program' place) (condition : String) :
    AlikeAfter program' place m (m.execIf condition)
      ((m.relocate program' place).execIf condition) := by
  have htarget : (m.relocate program' place).elseOrEndIf = m.elseOrEndIf.map place :=
    spaced.scan _ _ _ _
  simp only [execIf, relocate_store, relocate_program, htarget]
  cases hcondition : Condition.evaluate m.store condition with
  | error fault => exact alike_fail (Fault.ofData_of_condition hcondition)
  | ok holds =>
      let opened := m.withConditionals (⟨m.cursor, holds, false⟩ :: m.nesting.conditionals)
      cases holds with
      | true => exact alike_goOn (m := opened) spaced
      | false =>
          cases m.elseOrEndIf with
          | none => exact alike_goBehind (m := opened) spaced none
          | some line =>
              simp only [Option.map_some, spaced.kindAt, Bool.false_eq_true, if_false]
              split
              · exact alike_goTo_succ
                  (m := m.withConditionals (⟨m.cursor, false, true⟩ :: m.nesting.conditionals))
                  spaced line
              · exact alike_popThen (m := opened) rfl fun nesting =>
                  alike_goTo_succ (m := { opened with nesting }) spaced line

theorem alike_execElse (spaced : m.program.Spaced program' place) :
    AlikeAfter program' place m m.execElse (m.relocate program' place).execElse := by
  have htarget : (m.relocate program' place).matchingEndIf = m.matchingEndIf.map place :=
    spaced.scan _ _ _ _
  simp only [execElse, relocate_nesting, Nesting.relocate_conditionals, htarget]
  cases top : m.nesting.conditionals with
  | nil => exact alike_refuse _ _ _
  | cons frame rest =>
      simp only [List.map_cons, List.head?_cons, List.tail_cons, IfFrame.relocate]
      split
      · exact alike_refuse _ _ _
      · split
        · exact alike_goOn
            (m := m.withConditionals ({ frame with elseEntered := true } :: rest)) spaced
        · cases m.matchingEndIf with
          | none => exact alike_goBehind spaced none
          | some line =>
              refine alike_popThen (by simp [Nesting.pop?, Nesting.frames, top]) fun nesting => ?_
              exact alike_goTo_succ (m := { m with nesting }) spaced line

theorem alike_execEndIf (spaced : m.program.Spaced program' place) :
    AlikeAfter program' place m m.execEndIf (m.relocate program' place).execEndIf := by
  simp only [execEndIf, relocate_nesting, Nesting.relocate_conditionals, List.isEmpty_map]
  split
  · exact alike_refuse _ _ _
  · next hopen =>
      refine alike_popThen (by simpa [Nesting.pop?, Nesting.frames] using hopen) fun nesting => ?_
      exact alike_goOn (m := { m with nesting }) spaced

theorem alike_execFor (spaced : m.program.Spaced program' place) (name start stop : String) :
    AlikeAfter program' place m (m.execFor name start stop)
      ((m.relocate program' place).execFor name start stop) := by
  simp only [execFor, relocate_store]
  split
  · next fault h => exact alike_fail (ofData_of_bounds h)
  · next first last h =>
      refine alike_assignThen fun store => ?_
      exact alike_goOn
        (m := withLoops { m with store } (.counting m.cursor name first last :: m.nesting.loops))
        spaced

theorem alike_closeFor (spaced : m.program.Spaced program' place)
    (hopen : (m.nesting.pop? .loop).isSome = true) (openedAt : Nat) (name : String)
    (stop : Float) :
    AlikeAfter program' place m (m.closeFor openedAt name stop)
      ((m.relocate program' place).closeFor (place openedAt) name stop) := by
  have hleave : AlikeAfter program' place m (m.popThen .loop goOn)
      ((m.relocate program' place).popThen .loop goOn) :=
    alike_popThen hopen fun nesting => alike_goOn (m := { m with nesting }) spaced
  simp only [closeFor, relocate_store]
  split
  · split
    · exact alike_assignThen fun store => alike_goTo_succ (m := { m with store }) spaced openedAt
    · exact hleave
  · exact hleave

theorem alike_execEnd (spaced : m.program.Spaced program' place) :
    AlikeAfter program' place m m.execEnd (m.relocate program' place).execEnd := by
  simp only [execEnd, relocate_nesting, Nesting.relocate_loops, Nesting.relocate_blocks]
  have hclose : ∀ openedAt name start stop rest,
      m.nesting.loops = .counting openedAt name start stop :: rest →
      AlikeAfter program' place m (m.closeFor openedAt name stop)
        ((m.relocate program' place).closeFor (place openedAt) name stop) :=
    fun openedAt name start stop rest top =>
      alike_closeFor spaced (by simp [Nesting.pop?, Nesting.frames, top]) openedAt name stop
  cases blocks : m.nesting.blocks with
  | nil =>
      cases loops : m.nesting.loops with
      | nil => exact alike_refuse _ _ _
      | cons frame rest =>
          cases frame with
          | counting openedAt name start stop => exact hclose _ _ _ _ _ loops
          | whileLoop openedAt condition => exact alike_refuse _ _ _
          | repeatLoop openedAt count => exact alike_refuse _ _ _
  | cons block more =>
      have hblock : AlikeAfter program' place m (m.popThen .block goOn)
          ((m.relocate program' place).popThen .block goOn) :=
        alike_popThen (by simp [Nesting.pop?, Nesting.frames, blocks]) fun nesting =>
          alike_goOn (m := { m with nesting }) spaced
      cases loops : m.nesting.loops with
      | nil => exact hblock
      | cons frame rest =>
          cases frame with
          | counting openedAt name start stop =>
              simp only [List.map_cons, List.head?_cons, LoopFrame.relocate,
                spaced.strictMono.lt_iff_lt]
              split
              · exact hclose _ _ _ _ _ loops
              · exact hblock
          | whileLoop openedAt condition => exact hblock
          | repeatLoop openedAt count => exact hblock

theorem alike_execWhile (spaced : m.program.Spaced program' place) (condition : String) :
    AlikeAfter program' place m (m.execWhile condition)
      ((m.relocate program' place).execWhile condition) := by
  have htarget : (m.relocate program' place).matchingEndWhile = m.matchingEndWhile.map place :=
    spaced.scan _ _ _ _
  simp only [execWhile, relocate_store, htarget]
  cases hcondition : Condition.evaluate m.store condition with
  | error fault => exact alike_fail (Fault.ofData_of_condition hcondition)
  | ok holds =>
      cases holds with
      | true =>
          exact alike_goOn (m := m.withLoops (.whileLoop m.cursor condition :: m.nesting.loops))
            spaced
      | false => exact alike_goBehind spaced m.matchingEndWhile

theorem alike_execEndWhile (spaced : m.program.Spaced program' place) :
    AlikeAfter program' place m m.execEndWhile (m.relocate program' place).execEndWhile := by
  simp only [execEndWhile, relocate_nesting, Nesting.relocate_loops]
  cases top : m.nesting.loops with
  | nil => exact alike_refuse _ _ _
  | cons frame rest =>
      cases frame with
      | counting openedAt name start stop => exact alike_refuse _ _ _
      | repeatLoop openedAt count => exact alike_refuse _ _ _
      | whileLoop openedAt condition =>
          simp only [List.map_cons, List.head?_cons, LoopFrame.relocate]
          refine alike_popThen (by simp [Nesting.pop?, Nesting.frames, top]) fun nesting => ?_
          simp only [relocate_store]
          cases hcondition : Condition.evaluate m.store condition with
          | error fault =>
              exact alike_fail (m := { m with nesting }) (Fault.ofData_of_condition hcondition)
          | ok holds =>
              cases holds with
              | true => exact alike_goTo (m := { m with nesting }) spaced openedAt
              | false => exact alike_goOn (m := { m with nesting }) spaced

theorem alike_execRepeat (spaced : m.program.Spaced program' place) :
    AlikeAfter program' place m m.execRepeat (m.relocate program' place).execRepeat := by
  have hopen : AlikeAfter program' place m
      (m.withLoops (.repeatLoop m.cursor 0 :: m.nesting.loops)).goOn
      ((m.relocate program' place).withLoops (.repeatLoop (place m.cursor) 0 ::
        m.nesting.loops.map (LoopFrame.relocate place))).goOn :=
    alike_goOn (m := m.withLoops (.repeatLoop m.cursor 0 :: m.nesting.loops)) spaced
  simp only [execRepeat, relocate_nesting, Nesting.relocate_loops, relocate_cursor]
  cases hloops : m.nesting.loops with
  | nil =>
      rw [hloops] at hopen
      exact hopen
  | cons frame rest =>
      rw [hloops] at hopen
      cases frame with
      | counting openedAt name start stop => exact hopen
      | whileLoop openedAt condition => exact hopen
      | repeatLoop openedAt count =>
          simp only [List.map_cons, List.head?_cons, LoopFrame.relocate,
            spaced.strictMono.injective.eq_iff]
          split
          · exact alike_goOn spaced
          · exact hopen

theorem alike_execUntil (spaced : m.program.Spaced program' place) (condition : String) :
    AlikeAfter program' place m (m.execUntil condition)
      ((m.relocate program' place).execUntil condition) := by
  simp only [execUntil, relocate_nesting, Nesting.relocate_loops, relocate_limit, relocate_store]
  cases m.nesting.loops with
  | nil => exact alike_refuse _ _ _
  | cons frame rest =>
      cases frame with
      | counting openedAt name start stop => exact alike_refuse _ _ _
      | whileLoop openedAt condition => exact alike_refuse _ _ _
      | repeatLoop openedAt count =>
          let counted := m.withLoops (.repeatLoop openedAt (count + 1) :: rest)
          simp only [List.map_cons, List.head?_cons, List.tail_cons, LoopFrame.relocate]
          by_cases hbeyond : m.limit.bound < (count + 1 : Int)
          · simp only [hbeyond, if_true]
            exact alike_refuse (m := counted) _ _ _
          · simp only [hbeyond, if_false]
            cases hcondition : Condition.evaluate m.store condition with
            | error fault =>
                exact alike_fail (m := counted) (Fault.ofData_of_condition hcondition)
            | ok holds =>
                cases holds with
                | true =>
                    exact alike_popThen (m := counted) rfl fun nesting =>
                      alike_goOn (m := { counted with nesting }) spaced
                | false => exact alike_goTo (m := counted) spaced openedAt

theorem alike_exec (spaced : m.program.Spaced program' place) (s : Statement) :
    AlikeAfter program' place m (m.exec s) ((m.relocate program' place).exec s) := by
  cases s with
  | block => exact alike_goOn (m := m.withBlocks (m.cursor :: m.nesting.blocks)) spaced
  | output text =>
      exact alike_goOn (m := { m with output := m.output.push (outputText m.store text) }) spaced
  | assign name expression => exact alike_execAssign spaced name expression
  | conditional condition => exact alike_execIf spaced condition
  | elseMark => exact alike_execElse spaced
  | endIf => exact alike_execEndIf spaced
  | forLoop name start stop => exact alike_execFor spaced name start stop
  | endMark => exact alike_execEnd spaced
  | whileLoop condition => exact alike_execWhile spaced condition
  | endWhile => exact alike_execEndWhile spaced
  | repeatLoop => exact alike_execRepeat spaced
  | untilMark condition => exact alike_execUntil spaced condition

end Exec

def AlikeAt (program' : Program) (place : Nat → Nat) : Outcome → Outcome → Prop :=
  Alike program' place fun i j => j = place i

section Run

variable {program' : Program} {place : Nat → Nat} {m : Machine}

theorem alike_advance (spaced : m.program.Spaced program' place) {cursor : Nat}
    (hnear : program'.nextStatement cursor = place (m.program.nextStatement m.cursor)) :
    AlikeAt program' place m.advance ((m.relocate program' place).movedTo cursor).advance := by
  have hend : place (m.program.nextStatement m.cursor) < program'.length ↔
      m.program.nextStatement m.cursor < m.program.length := by
    rw [← spaced.place_length, spaced.strictMono.lt_iff_lt]
  have hinnermost := Nesting.innermost_relocate spaced.strictMono m.nesting
  unfold advance
  simp only [movedTo, relocate_program, relocate_nesting, hnear, hend, hinnermost]
  split
  · exact .next (m := m.movedTo _) rfl
  · cases m.nesting.innermost with
    | none =>
        exact .next
          (m := { m with cursor := m.program.nextStatement m.cursor, finished := true }) rfl
    | some frame => exact .failed (m := m.movedTo _) rfl rfl (by simp [unclosed])

theorem alike_step (spaced : m.program.Spaced program' place) (located : m.program.Located)
    (located' : program'.Located) (settled : m.Settled) :
    AlikeAt program' place m.step (m.relocate program' place).step := by
  cases hfinished : m.finished with
  | true =>
      simp only [step, relocate_finished, hfinished, if_true]
      exact .next rfl
  | false =>
      obtain hdone | hkind := settled
      · rw [hfinished] at hdone
        cases hdone
      · obtain ⟨kind, hkind⟩ := Option.isSome_iff_exists.mp hkind
        rw [Program.kindAt_eq, Option.bind_eq_some_iff] at hkind
        obtain ⟨content, hcontent, hkind⟩ := hkind
        obtain ⟨content', hcontent', hmatches⟩ := spaced.contents hcontent
        cases hmatches with
        | blank => cases hkind
        | unknown => cases hkind
        | malformed hsame =>
            rw [step_of_malformed hfinished hcontent,
              step_of_malformed (m := m.relocate program' place) hfinished hcontent']
            obtain ⟨cause, ofData, rfl⟩ := located _ _ _ hcontent
            obtain ⟨cause', ofData', rfl⟩ := located' _ _ _ hcontent'
            exact .failed hsame (ofData.line_atLine _) (ofData'.line_atLine _)
        | statement s =>
            rw [step_of_statement hfinished hcontent,
              step_of_statement (m := m.relocate program' place) hfinished hcontent']
            have hexec := alike_exec spaced s
            generalize houtcome : m.exec s = outcome at hexec ⊢
            generalize (m.relocate program' place).exec s = outcome' at hexec ⊢
            cases hexec with
            | @next m₁ cursor hnear =>
                have hprogram := (running_of_effect (effect_of_exec houtcome)).1
                rw [← hprogram] at spaced hnear
                exact alike_advance (m := m₁.count) spaced hnear
            | failed hsame hline hline' => exact .failed hsame hline hline'

end Run

theorem load_relocate {program program' : Program} {place : Nat → Nat}
    (spaced : program.Spaced program' place) (limit : RepeatLimit) :
    load limit program' = (load limit program).relocate program' place := by
  have halike : AlikeAt program' place (advance { program, limit })
      (advance { program := program', limit }) :=
    alike_advance (m := { program, limit }) spaced spaced.nextStatement_zero
  rw [advance_load, advance_load] at halike
  generalize load limit program' = m' at halike ⊢
  cases halike with
  | next hcursor =>
      rw [hcursor]
      rfl

end Machine

/-- Endings of two runs that are alike: one is done if the other is, and fails if the other does,
with a fault of the same kind at the new place of a line. -/
inductive Ending.Moved (length : Nat) (place : Nat → Nat) : Ending → Ending → Prop where
  | done : Moved length place .done .done
  | unfinished : Moved length place .unfinished .unfinished
  | failed {fault fault' : Fault} {line : Nat} (hkind : fault'.kind = fault.kind)
      (hlt : line < length) (hline : fault.line = some (line : Int))
      (hline' : fault'.line = some (place line : Int)) :
      Moved length place (.failed (.fault fault)) (.failed (.fault fault'))

namespace Machine

theorem runFor_relocate {program program' : Program} {place : Nat → Nat}
    (spaced : program.Spaced program' place) (located : program.Located)
    (located' : program'.Located) {m : Machine} (sound : Sound program m) (steps : Nat) :
    ((m.relocate program' place).runFor steps).1 = (m.runFor steps).1.relocate program' place ∧
      Ending.Moved program.length place (m.runFor steps).2
        ((m.relocate program' place).runFor steps).2 := by
  induction steps generalizing m with
  | zero =>
      refine ⟨rfl, ?_⟩
      rw [runFor, runFor, relocate_finished]
      cases m.finished with
      | true => exact .done
      | false => exact .unfinished
  | succ steps ih =>
      rw [runFor, runFor, relocate_finished]
      split
      · exact ⟨rfl, .done⟩
      · obtain rfl := sound.program_eq
        have hstep := alike_step spaced located located' sound.settled
        generalize houtcome : m.step = outcome at hstep ⊢
        generalize (m.relocate program' place).step = outcome' at hstep ⊢
        cases hstep with
        | next hcursor =>
            rw [hcursor]
            exact ih (sound.step houtcome)
        | failed hkind hline hline' =>
            exact ⟨rfl, .failed hkind (sound.fault_line_lt located houtcome hline) hline hline'⟩

def ofTexts (comment : String) (limit : RepeatLimit) (texts : List (List Char)) : Machine :=
  load limit (Program.ofLines comment (texts.mapIdx Line.ofChars))

theorem ofSource_eq_ofTexts (comment : String) (limit : RepeatLimit) (source : String) :
    ofSource comment limit source = ofTexts comment limit (Text.lines source.toList) := rfl

/-- Empty lines, comments and lines that are not recognized may be put in anywhere: after any number
of statements the output, the variables and the count of statements are the same, and the runs end
alike. -/
theorem run_unchanged_by_silent_lines (comment : String) (limit : RepeatLimit)
    {texts texts' : List (List Char)} {place : Nat → Nat}
    (inserted : Insertion (· = ·) (Text.Silent comment) texts texts' place) (steps : Nat) :
    ((ofTexts comment limit texts').runFor steps).1.output =
        ((ofTexts comment limit texts).runFor steps).1.output ∧
      ((ofTexts comment limit texts').runFor steps).1.store =
        ((ofTexts comment limit texts).runFor steps).1.store ∧
      ((ofTexts comment limit texts').runFor steps).1.executed =
        ((ofTexts comment limit texts).runFor steps).1.executed ∧
      Ending.Moved texts.length place ((ofTexts comment limit texts).runFor steps).2
        ((ofTexts comment limit texts').runFor steps).2 := by
  have spaced := Program.spaced_ofLines inserted
  have hload : ofTexts comment limit texts' = (ofTexts comment limit texts).relocate _ place :=
    load_relocate spaced limit
  have sound : Sound _ (ofTexts comment limit texts) := Sound.load limit _
  obtain ⟨hmachine, hending⟩ := runFor_relocate spaced
    (Program.located_ofLines comment (Line.counted_mapIdx texts))
    (Program.located_ofLines comment (Line.counted_mapIdx texts')) sound steps
  rw [Program.length_ofLines, List.length_mapIdx] at hending
  rw [hload, hmachine]
  exact ⟨rfl, rfl, rfl, hending⟩

theorem unclosed_run_unchanged_by_silent_lines :
    let source := "FOR I = 1 TO 2\nBEGIN\nIF I > 5\nOUTPUT I"
    let source' := "// count\nFOR I = 1 TO 2\n\nBEGIN\nmystery\nIF I > 5\nOUTPUT I\n  "
    ∃ place, Insertion (· = ·) (Text.Silent "//") (Text.lines source.toList)
        (Text.lines source'.toList) place ∧
      ((ofSource "//" defaultLimit source).runFor 3).2 =
        .failed (.fault ⟨.unclosedConstruct, "Missing ENDIF for IF", some 2⟩) ∧
      ((ofSource "//" defaultLimit source').runFor 3).1.executed = 3 ∧
      ∃ fault, ((ofSource "//" defaultLimit source').runFor 3).2 = .failed (.fault fault) ∧
        fault.kind = .unclosedConstruct ∧ fault.line = some 5 := by
  intro source source'
  have hlines : Text.lines source.toList = ["FOR I = 1 TO 2".toList, "BEGIN".toList,
      "IF I > 5".toList, "OUTPUT I".toList] := by
    decide +kernel
  have hlines' : Text.lines source'.toList = ["// count".toList, "FOR I = 1 TO 2".toList, [],
      "BEGIN".toList, "mystery".toList, "IF I > 5".toList, "OUTPUT I".toList, "  ".toList] := by
    decide +kernel
  obtain ⟨place, hplace, inserted⟩ : ∃ place, place 2 = 5 ∧ Insertion (· = ·) (Text.Silent "//")
      (Text.lines source.toList) (Text.lines source'.toList) place := by
    rw [hlines, hlines']
    refine ⟨_, ?_, .insert ?_ <| .keep rfl <| .insert ?_ <| .keep rfl <| .insert ?_ <| .keep rfl <|
      .keep rfl <| .insert ?_ .done⟩
    · rfl
    all_goals decide +kernel
  have hends : ((ofSource "//" defaultLimit source).runFor 3).2 =
      .failed (.fault ⟨.unclosedConstruct, "Missing ENDIF for IF", some 2⟩) := by
    decide +kernel
  obtain ⟨-, -, hexecuted, hending⟩ :=
    run_unchanged_by_silent_lines "//" defaultLimit inserted 3
  rw [← ofSource_eq_ofTexts, ← ofSource_eq_ofTexts] at hexecuted hending
  refine ⟨place, inserted, hends, hexecuted.trans (by decide +kernel), ?_⟩
  rw [hends] at hending
  generalize ((ofSource "//" defaultLimit source').runFor 3).2 = ending at hending ⊢
  cases hending with
  | failed hkind hlt hline hline' =>
      cases hline
      rw [hplace] at hline'
      exact ⟨_, rfl, hkind, hline'⟩

end Machine

end Pseudocode
