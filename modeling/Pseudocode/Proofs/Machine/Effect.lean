import Pseudocode.Machine.Run
import Pseudocode.Proofs.Fault

/-!
What a statement can do to a machine, said once: one rule for each way in which a statement
succeeds, and one for each way in which it fails. Invariants of runs are proved by cases on these
rules, so that the statements themselves are opened only here.
-/

namespace Pseudocode

namespace Machine

def movedTo (m : Machine) (line : Nat) : Machine := { m with cursor := line }

/-- Whether the counting loop that was opened at a line is what `END` closes: no block was opened
behind it. -/
def Nearest (m : Machine) (openedAt : Nat) : Prop :=
  ∀ block blocks, m.nesting.blocks = block :: blocks → block < openedAt

/-- How a statement that succeeds changes the machine, before the cursor moves on to the next
statement. -/
inductive Effect (m : Machine) : Statement → Machine → Prop where
  | blockOpened :
      Effect m .block ((m.withBlocks (m.cursor :: m.nesting.blocks)).movedTo (m.cursor + 1))
  | written (text : String) :
      Effect m (.output text)
        (movedTo { m with output := m.output.push (outputText m.store text) } (m.cursor + 1))
  | assigned {name expression : String} {value : Value} {v : Variable} {store : Store}
      (evaluated : Expr.evaluate m.store expression = .ok value)
      (stored : (Store.assign name value).run m.store = .ok v store) :
      Effect m (.assign name expression) (movedTo { m with store } (m.cursor + 1))
  | ifTrue {condition : String} (holds : Condition.evaluate m.store condition = .ok true) :
      Effect m (.conditional condition)
        ((m.withConditionals (⟨m.cursor, true, false⟩ :: m.nesting.conditionals)).movedTo
          (m.cursor + 1))
  | ifElse {condition : String} {line : Nat}
      (fails : Condition.evaluate m.store condition = .ok false)
      (target : m.elseOrEndIf = some line) (mark : m.program.kindAt line = some .elseMark) :
      Effect m (.conditional condition)
        ((m.withConditionals (⟨m.cursor, false, true⟩ :: m.nesting.conditionals)).movedTo
          (line + 1))
  | ifSkipped {condition : String} {line : Nat}
      (fails : Condition.evaluate m.store condition = .ok false)
      (target : m.elseOrEndIf = some line) (mark : m.program.kindAt line ≠ some .elseMark) :
      Effect m (.conditional condition) (m.movedTo (line + 1))
  | ifUnclosed {condition : String}
      (fails : Condition.evaluate m.store condition = .ok false)
      (target : m.elseOrEndIf = none) :
      Effect m (.conditional condition)
        ((m.withConditionals (⟨m.cursor, false, false⟩ :: m.nesting.conditionals)).movedTo
          m.program.length)
  | elseEntered {frame : IfFrame} {rest : List IfFrame}
      (top : m.nesting.conditionals = frame :: rest) (fresh : frame.elseEntered = false)
      (wasFalse : frame.wasTrue = false) :
      Effect m .elseMark
        ((m.withConditionals ({ frame with elseEntered := true } :: rest)).movedTo (m.cursor + 1))
  | elseSkipped {frame : IfFrame} {rest : List IfFrame} {line : Nat}
      (top : m.nesting.conditionals = frame :: rest) (fresh : frame.elseEntered = false)
      (wasTrue : frame.wasTrue = true) (target : m.matchingEndIf = some line) :
      Effect m .elseMark ((m.withConditionals rest).movedTo (line + 1))
  | elseUnclosed {frame : IfFrame} {rest : List IfFrame}
      (top : m.nesting.conditionals = frame :: rest) (fresh : frame.elseEntered = false)
      (wasTrue : frame.wasTrue = true) (target : m.matchingEndIf = none) :
      Effect m .elseMark (m.movedTo m.program.length)
  | ifLeft {frame : IfFrame} {rest : List IfFrame}
      (top : m.nesting.conditionals = frame :: rest) :
      Effect m .endIf ((m.withConditionals rest).movedTo (m.cursor + 1))
  | forOpened {name start stop : String} {first last : Float} {v : Variable} {store : Store}
      (startsAt : evaluateBound m.store start = .ok first)
      (stopsAt : evaluateBound m.store stop = .ok last)
      (stored : (Store.assign name (.number first)).run m.store = .ok v store) :
      Effect m (.forLoop name start stop)
        ((withLoops { m with store }
          (.counting m.cursor name first last :: m.nesting.loops)).movedTo (m.cursor + 1))
  | forAgain {openedAt : Nat} {name : String} {start stop x : Float} {rest : List LoopFrame}
      {v : Variable} {store : Store}
      (top : m.nesting.loops = .counting openedAt name start stop :: rest)
      (nearest : m.Nearest openedAt) (value : m.store.lookup name = some (.number x))
      (below : x < stop)
      (stored : (Store.assign name (.number (x + 1.0))).run m.store = .ok v store) :
      Effect m .endMark (movedTo { m with store } (openedAt + 1))
  | forLeft {openedAt : Nat} {name : String} {start stop : Float} {rest : List LoopFrame}
      (top : m.nesting.loops = .counting openedAt name start stop :: rest)
      (nearest : m.Nearest openedAt)
      (reached : ∀ x, m.store.lookup name = some (.number x) → ¬ x < stop) :
      Effect m .endMark ((m.withLoops rest).movedTo (m.cursor + 1))
  | blockLeft {block : Nat} {blocks : List Nat} (top : m.nesting.blocks = block :: blocks)
      (nearest : ∀ openedAt name start stop rest,
        m.nesting.loops = .counting openedAt name start stop :: rest → openedAt ≤ block) :
      Effect m .endMark ((m.withBlocks blocks).movedTo (m.cursor + 1))
  | whileOpened {condition : String} (holds : Condition.evaluate m.store condition = .ok true) :
      Effect m (.whileLoop condition)
        ((m.withLoops (.whileLoop m.cursor condition :: m.nesting.loops)).movedTo (m.cursor + 1))
  | whileSkipped {condition : String} {line : Nat}
      (fails : Condition.evaluate m.store condition = .ok false)
      (target : m.matchingEndWhile = some line) :
      Effect m (.whileLoop condition) (m.movedTo (line + 1))
  | whileUnclosed {condition : String}
      (fails : Condition.evaluate m.store condition = .ok false)
      (target : m.matchingEndWhile = none) :
      Effect m (.whileLoop condition) (m.movedTo m.program.length)
  | whileAgain {openedAt : Nat} {condition : String} {rest : List LoopFrame}
      (top : m.nesting.loops = .whileLoop openedAt condition :: rest)
      (holds : Condition.evaluate m.store condition = .ok true) :
      Effect m .endWhile ((m.withLoops rest).movedTo openedAt)
  | whileLeft {openedAt : Nat} {condition : String} {rest : List LoopFrame}
      (top : m.nesting.loops = .whileLoop openedAt condition :: rest)
      (fails : Condition.evaluate m.store condition = .ok false) :
      Effect m .endWhile ((m.withLoops rest).movedTo (m.cursor + 1))
  | repeatOpened
      (fresh : ∀ count rest, m.nesting.loops ≠ .repeatLoop m.cursor count :: rest) :
      Effect m .repeatLoop
        ((m.withLoops (.repeatLoop m.cursor 0 :: m.nesting.loops)).movedTo (m.cursor + 1))
  | repeatAgain {count : Nat} {rest : List LoopFrame}
      (top : m.nesting.loops = .repeatLoop m.cursor count :: rest) :
      Effect m .repeatLoop (m.movedTo (m.cursor + 1))
  | untilLeft {condition : String} {openedAt count : Nat} {rest : List LoopFrame}
      (top : m.nesting.loops = .repeatLoop openedAt count :: rest)
      (within : (count + 1 : Int) ≤ m.limit.bound)
      (holds : Condition.evaluate m.store condition = .ok true) :
      Effect m (.untilMark condition) ((m.withLoops rest).movedTo (m.cursor + 1))
  | untilAgain {condition : String} {openedAt count : Nat} {rest : List LoopFrame}
      (top : m.nesting.loops = .repeatLoop openedAt count :: rest)
      (within : (count + 1 : Int) ≤ m.limit.bound)
      (fails : Condition.evaluate m.store condition = .ok false) :
      Effect m (.untilMark condition)
        ((m.withLoops (.repeatLoop openedAt (count + 1) :: rest)).movedTo openedAt)

/-- How a statement fails: its fault, and the machine that it leaves behind. -/
inductive Refusal (m : Machine) : Statement → Fault → Machine → Prop where
  | data {s : Statement} {fault : Fault} (kept : s.kind ≠ .endWhile ∧ s.kind ≠ .untilMark)
      (ofData : fault.OfData) : Refusal m s (fault.atLine m.cursor) m
  | elseAlone (none : m.nesting.conditionals = []) :
      Refusal m .elseMark ⟨.unexpectedElse, "Unexpected ELSE", some m.cursor⟩ m
  | elseAgain {frame : IfFrame} {rest : List IfFrame} {detail : String}
      (top : m.nesting.conditionals = frame :: rest) (again : frame.elseEntered = true) :
      Refusal m .elseMark ⟨.unexpectedElse, detail, some m.cursor⟩ m
  | endIfAlone (none : m.nesting.conditionals = []) :
      Refusal m .endIf ⟨.unexpectedEndif, "Unexpected ENDIF", some m.cursor⟩ m
  | endAlone (noBlock : m.nesting.blocks = [])
      (noFor : ∀ openedAt name start stop rest,
        m.nesting.loops ≠ .counting openedAt name start stop :: rest) :
      Refusal m .endMark ⟨.unexpectedEnd, "Unexpected END", some m.cursor⟩ m
  | endWhileAlone
      (noWhile : ∀ openedAt condition rest,
        m.nesting.loops ≠ .whileLoop openedAt condition :: rest) :
      Refusal m .endWhile ⟨.unexpectedEndwhile, "Unexpected ENDWHILE", some m.cursor⟩ m
  | endWhileData {openedAt : Nat} {condition : String} {rest : List LoopFrame} {fault : Fault}
      (top : m.nesting.loops = .whileLoop openedAt condition :: rest)
      (fails : Condition.evaluate m.store condition = .error fault) :
      Refusal m .endWhile (fault.atLine m.cursor) (m.withLoops rest)
  | untilAlone {condition : String}
      (noRepeat : ∀ openedAt count rest, m.nesting.loops ≠ .repeatLoop openedAt count :: rest) :
      Refusal m (.untilMark condition) ⟨.unexpectedUntil, "Unexpected UNTIL", some m.cursor⟩ m
  | untilRunaway {condition detail : String} {openedAt count : Nat} {rest : List LoopFrame}
      (top : m.nesting.loops = .repeatLoop openedAt count :: rest)
      (beyond : m.limit.bound < (count + 1 : Int)) :
      Refusal m (.untilMark condition) ⟨.runawayLoop, detail, some m.cursor⟩
        (m.withLoops (.repeatLoop openedAt (count + 1) :: rest))
  | untilData {condition : String} {openedAt count : Nat} {rest : List LoopFrame} {fault : Fault}
      (top : m.nesting.loops = .repeatLoop openedAt count :: rest)
      (within : (count + 1 : Int) ≤ m.limit.bound)
      (fails : Condition.evaluate m.store condition = .error fault) :
      Refusal m (.untilMark condition) (fault.atLine m.cursor)
        (m.withLoops (.repeatLoop openedAt (count + 1) :: rest))

/-- An outcome of a statement that one of the rules gives. -/
inductive Explained (m : Machine) (s : Statement) : Outcome → Prop where
  | next {m' : Machine} (effect : Effect m s m') : Explained m s (.next m')
  | failed {fault : Fault} {m' : Machine} (refusal : Refusal m s fault m') :
      Explained m s (.failed (.fault fault) m')

section Handlers

variable {m : Machine} {next : Machine → Outcome}

theorem popThen_conditional {frame : IfFrame} {rest : List IfFrame}
    (top : m.nesting.conditionals = frame :: rest) :
    m.popThen .conditional next = next (m.withConditionals rest) := by
  simp [popThen, Nesting.pop?, Nesting.frames, Nesting.dropTop, withConditionals, top]

theorem popThen_loop {frame : LoopFrame} {rest : List LoopFrame}
    (top : m.nesting.loops = frame :: rest) :
    m.popThen .loop next = next (m.withLoops rest) := by
  simp [popThen, Nesting.pop?, Nesting.frames, Nesting.dropTop, withLoops, top]

theorem popThen_block {block : Nat} {blocks : List Nat}
    (top : m.nesting.blocks = block :: blocks) :
    m.popThen .block next = next (m.withBlocks blocks) := by
  simp [popThen, Nesting.pop?, Nesting.frames, Nesting.dropTop, withBlocks, top]

variable {name : String} {value : Value} {store : Store}

theorem assignThen_of_ok {v : Variable}
    (h : (Store.assign name value).run m.store = .ok v store) :
    m.assignThen name value next = next { m with store } := by
  rw [assignThen, h]

/-- An assignment that fails leaves the whole machine as it was. -/
theorem assignThen_of_error {fault : Fault}
    (h : (Store.assign name value).run m.store = .error fault store) :
    m.assignThen name value next = m.fail fault := by
  rw [assignThen, h]
  obtain rfl := Store.store_of_assign_error h
  rfl

end Handlers

private theorem explained_fail {m : Machine} {s : Statement} {fault : Fault}
    (kept : s.kind ≠ .endWhile ∧ s.kind ≠ .untilMark) (ofData : fault.OfData) :
    Explained m s (m.fail fault) :=
  .failed (.data kept ofData)

private theorem explained_assignThen {m : Machine} {s : Statement} {name : String} {value : Value}
    {next : Machine → Outcome} (kept : s.kind ≠ .endWhile ∧ s.kind ≠ .untilMark)
    (stored : ∀ v store, (Store.assign name value).run m.store = .ok v store →
      Explained m s (next { m with store })) :
    Explained m s (m.assignThen name value next) := by
  cases h : (Store.assign name value).run m.store with
  | ok v store =>
      rw [assignThen_of_ok h]
      exact stored v store h
  | error fault store =>
      rw [assignThen_of_error h]
      exact explained_fail kept (Fault.ofData_of_assign h)

private theorem execAssign_explained (m : Machine) (name expression : String) :
    Explained m (.assign name expression) (m.execAssign name expression) := by
  unfold execAssign
  split
  · next fault h => exact explained_fail (by simp [Statement.kind]) (Fault.ofData_of_evaluate h)
  · next value h =>
      refine explained_assignThen (by simp [Statement.kind]) fun v store stored => ?_
      exact .next (.assigned h stored)

private theorem execIf_explained (m : Machine) (condition : String) :
    Explained m (.conditional condition) (m.execIf condition) := by
  unfold execIf
  split
  · next fault h => exact explained_fail (by simp [Statement.kind]) (Fault.ofData_of_condition h)
  · next holds h =>
      dsimp only
      cases holds with
      | true => exact .next (.ifTrue h)
      | false =>
          rw [if_neg (by simp)]
          split
          · next target => exact .next (.ifUnclosed h target)
          · next line target =>
              split
              · next mark => exact .next (.ifElse h target mark)
              · next mark =>
                  rw [popThen_conditional rfl]
                  exact .next (.ifSkipped h target mark)

private theorem execElse_explained (m : Machine) : Explained m .elseMark m.execElse := by
  unfold execElse
  cases top : m.nesting.conditionals with
  | nil => exact .failed (.elseAlone top)
  | cons frame rest =>
      rw [List.head?_cons]
      dsimp only
      split
      · next again => exact .failed (.elseAgain top again)
      · next fresh =>
          have hfresh : frame.elseEntered = false := by simpa using fresh
          split
          · next wasFalse => exact .next (.elseEntered top hfresh (by simpa using wasFalse))
          · next wasTrue =>
              have htrue : frame.wasTrue = true := by simpa using wasTrue
              split
              · next target => exact .next (.elseUnclosed top hfresh htrue target)
              · next line target =>
                  rw [popThen_conditional top]
                  exact .next (.elseSkipped top hfresh htrue target)

private theorem execEndIf_explained (m : Machine) : Explained m .endIf m.execEndIf := by
  unfold execEndIf
  cases top : m.nesting.conditionals with
  | nil => exact .failed (.endIfAlone top)
  | cons frame rest =>
      rw [if_neg (by simp), popThen_conditional top]
      exact .next (.ifLeft top)

theorem ofData_of_bounds {store : Store} {start stop : String} {fault : Fault}
    (h : (do
      let first ← evaluateBound store start
      let last ← evaluateBound store stop
      pure (first, last)) = .error fault) : fault.OfData := by
  rcases bind_eq_error_iff.mp h with h | ⟨first, -, h⟩
  · exact Fault.ofData_of_bound h
  · rcases bind_eq_error_iff.mp h with h | ⟨last, -, h⟩
    · exact Fault.ofData_of_bound h
    · cases h

private theorem execFor_explained (m : Machine) (name start stop : String) :
    Explained m (.forLoop name start stop) (m.execFor name start stop) := by
  unfold execFor
  dsimp only
  split
  · next fault h => exact explained_fail (by simp [Statement.kind]) (ofData_of_bounds h)
  · next first last h =>
      obtain ⟨first', startsAt, h⟩ := bind_eq_ok_iff.mp h
      obtain ⟨last', stopsAt, h⟩ := bind_eq_ok_iff.mp h
      cases h
      refine explained_assignThen (by simp [Statement.kind]) fun v store stored => ?_
      exact .next (.forOpened startsAt stopsAt stored)

private theorem closeFor_explained {m : Machine} {openedAt : Nat} {name : String}
    {start stop : Float} {rest : List LoopFrame}
    (top : m.nesting.loops = .counting openedAt name start stop :: rest)
    (nearest : m.Nearest openedAt) :
    Explained m .endMark (m.closeFor openedAt name stop) := by
  unfold closeFor
  rw [popThen_loop top]
  split
  · next x value =>
      split
      · next below =>
          refine explained_assignThen (by simp [Statement.kind]) fun v store stored => ?_
          exact .next (.forAgain top nearest value below stored)
      · next reached =>
          refine .next (.forLeft top nearest ?_)
          intro y hy
          rw [value] at hy
          cases hy
          exact reached
  · next other =>
      refine .next (.forLeft top nearest ?_)
      intro x hx
      exact absurd hx (other x)

private theorem blockLeft_explained {m : Machine} {block : Nat} {blocks : List Nat}
    (top : m.nesting.blocks = block :: blocks)
    (nearest : ∀ openedAt name start stop rest,
      m.nesting.loops = .counting openedAt name start stop :: rest → openedAt ≤ block) :
    Explained m .endMark (m.popThen .block goOn) := by
  rw [popThen_block top]
  exact .next (.blockLeft top nearest)

private theorem execEnd_explained (m : Machine) : Explained m .endMark m.execEnd := by
  unfold execEnd
  split
  · next openedAt name start stop loop noBlock =>
      obtain ⟨rest, loops⟩ := List.head?_eq_some_iff.mp loop
      refine closeFor_explained loops ?_
      intro block more h
      rw [h] at noBlock
      cases noBlock
  · next openedAt name start stop block loop top =>
      obtain ⟨rest, loops⟩ := List.head?_eq_some_iff.mp loop
      obtain ⟨more, blocks⟩ := List.head?_eq_some_iff.mp top
      split
      · next inside =>
          refine closeFor_explained loops ?_
          intro block' more' h
          rw [blocks] at h
          cases h
          exact inside
      · next outside =>
          refine blockLeft_explained blocks ?_
          intro openedAt' name' start' stop' rest' h
          rw [loops] at h
          cases h
          omega
  · next block top noFor =>
      obtain ⟨more, blocks⟩ := List.head?_eq_some_iff.mp top
      refine blockLeft_explained blocks ?_
      intro openedAt name start stop rest h
      exact absurd (congrArg List.head? h) (noFor openedAt name start stop)
  · next noBlock noFor =>
      refine .failed (.endAlone (List.head?_eq_none_iff.mp noBlock) ?_)
      intro openedAt name start stop rest h
      exact noFor openedAt name start stop (congrArg List.head? h)

private theorem execWhile_explained (m : Machine) (condition : String) :
    Explained m (.whileLoop condition) (m.execWhile condition) := by
  unfold execWhile
  split
  · next fault h => exact explained_fail (by simp [Statement.kind]) (Fault.ofData_of_condition h)
  · next h => exact .next (.whileOpened h)
  · next h =>
      unfold goBehind
      split
      · next line target => exact .next (.whileSkipped h target)
      · next target => exact .next (.whileUnclosed h target)

private theorem execEndWhile_explained (m : Machine) : Explained m .endWhile m.execEndWhile := by
  unfold execEndWhile
  split
  · next openedAt condition loop =>
      obtain ⟨rest, top⟩ := List.head?_eq_some_iff.mp loop
      rw [popThen_loop top]
      split
      · next fault h => exact .failed (.endWhileData top h)
      · next h => exact .next (.whileAgain top h)
      · next h => exact .next (.whileLeft top h)
  · next noWhile =>
      refine .failed (.endWhileAlone ?_)
      intro openedAt condition rest h
      exact noWhile openedAt condition (congrArg List.head? h)

private theorem execRepeat_explained (m : Machine) : Explained m .repeatLoop m.execRepeat := by
  unfold execRepeat
  dsimp only
  split
  · next openedAt count loop =>
      obtain ⟨rest, top⟩ := List.head?_eq_some_iff.mp loop
      split
      · next here =>
          subst here
          exact .next (.repeatAgain top)
      · next elsewhere =>
          refine .next (.repeatOpened ?_)
          intro count' rest' h
          rw [top] at h
          cases h
          exact elsewhere rfl
  · next noRepeat =>
      refine .next (.repeatOpened ?_)
      intro count rest h
      exact noRepeat _ count (congrArg List.head? h)

private theorem execUntil_explained (m : Machine) (condition : String) :
    Explained m (.untilMark condition) (m.execUntil condition) := by
  unfold execUntil
  split
  · next openedAt count loop =>
      obtain ⟨rest, top⟩ := List.head?_eq_some_iff.mp loop
      have htail : m.nesting.loops.tail = rest := by rw [top, List.tail_cons]
      dsimp only
      rw [htail]
      split
      · next beyond => exact .failed (.untilRunaway top beyond)
      · next within =>
          split
          · next fault h => exact .failed (.untilData top (by omega) h)
          · next h =>
              rw [popThen_loop rfl]
              exact .next (.untilLeft top (by omega) h)
          · next h => exact .next (.untilAgain top (by omega) h)
  · next noRepeat =>
      refine .failed (.untilAlone ?_)
      intro openedAt count rest h
      exact noRepeat openedAt count (congrArg List.head? h)

/-- The rules cover every statement. -/
theorem exec_explained (m : Machine) (s : Statement) : Explained m s (m.exec s) := by
  cases s with
  | block => exact .next .blockOpened
  | output text => exact .next (.written text)
  | assign name expression => exact execAssign_explained m name expression
  | conditional condition => exact execIf_explained m condition
  | elseMark => exact execElse_explained m
  | endIf => exact execEndIf_explained m
  | forLoop name start stop => exact execFor_explained m name start stop
  | endMark => exact execEnd_explained m
  | whileLoop condition => exact execWhile_explained m condition
  | endWhile => exact execEndWhile_explained m
  | repeatLoop => exact execRepeat_explained m
  | untilMark condition => exact execUntil_explained m condition

theorem effect_of_exec {m m' : Machine} {s : Statement} (h : m.exec s = .next m') :
    Effect m s m' := by
  have explained := exec_explained m s
  rw [h] at explained
  cases explained with
  | next effect => exact effect

theorem refusal_of_exec {m m' : Machine} {s : Statement} {trouble : Trouble}
    (h : m.exec s = .failed trouble m') :
    ∃ fault, trouble = .fault fault ∧ Refusal m s fault m' := by
  have explained := exec_explained m s
  rw [h] at explained
  cases explained with
  | failed refusal => exact ⟨_, rfl, refusal⟩

end Machine

end Pseudocode
