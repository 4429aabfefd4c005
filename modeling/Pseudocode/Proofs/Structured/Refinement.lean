import Pseudocode.Proofs.Structured.Simulation

namespace Pseudocode.Structured

open Pseudocode

/-- Every open block and loop was opened before a line. -/
structure OpenedBefore (nesting : Nesting) (line : Nat) : Prop where
  blocks : ∀ block ∈ nesting.blocks, block < line
  loops : ∀ frame ∈ nesting.loops, frame.openedAt < line

namespace OpenedBefore

variable {nesting : Nesting} {line line' : Nat}

theorem mono (h : OpenedBefore nesting line) (hle : line ≤ line') : OpenedBefore nesting line' where
  blocks block hblock := Nat.lt_of_lt_of_le (h.blocks block hblock) hle
  loops frame hframe := Nat.lt_of_lt_of_le (h.loops frame hframe) hle

theorem push (h : OpenedBefore nesting line) {frame : Frame} (hframe : frame.openedAt = line) :
    OpenedBefore (nesting.push frame) (line + 1) := by
  have hmono := h.mono (Nat.le_succ line)
  cases frame with
  | block openedAt =>
      refine ⟨?_, hmono.loops⟩
      intro block hblock
      rcases List.mem_cons.mp hblock with rfl | hblock
      · exact Nat.lt_succ_of_le (Nat.le_of_eq hframe)
      · exact hmono.blocks block hblock
  | conditional frame => exact ⟨hmono.blocks, hmono.loops⟩
  | loop frame =>
      refine ⟨hmono.blocks, ?_⟩
      intro other hother
      rcases List.mem_cons.mp hother with rfl | hother
      · exact Nat.lt_succ_of_le (Nat.le_of_eq hframe)
      · exact hmono.loops other hother

end OpenedBefore

section Construct

variable {program : Program} {limit : RepeatLimit} {line closer : Nat} {nesting : Nesting}
  {body : Behaviour}

theorem realizes_branch {s : Statement} {condition : String} {yes no : Behaviour}
    {lineYes lineNo behind : Nat} {nestingYes nestingNo outside : Nesting}
    (h : program.contents[line]? = some (.statement s))
    (hfail : ∀ memory executed fault, Condition.evaluate memory.store condition = .error fault →
      (standing program limit line memory nesting executed).exec s =
        (standing program limit line memory nesting executed).fail fault)
    (htrue : ∀ memory executed, Condition.evaluate memory.store condition = .ok true →
      (standing program limit line memory nesting executed).exec s =
        .next (standing program limit lineYes memory nestingYes executed))
    (hfalse : ∀ memory executed, Condition.evaluate memory.store condition = .ok false →
      (standing program limit line memory nesting executed).exec s =
        .next (standing program limit lineNo memory nestingNo executed))
    (hyes : Realizes program limit lineYes nestingYes behind outside yes)
    (hno : Realizes program limit lineNo nestingNo behind outside no) :
    Realizes program limit line nesting behind outside (branch line condition yes no) where
  ends := by
    intro memory completion executed consistent hbehaviour
    unfold branch at hbehaviour
    split at hbehaviour
    · next fault htest =>
        subst hbehaviour
        exact ends_fail h (hfail memory executed fault htest)
    · next htest =>
        exact (hyes.ends _ consistent hbehaviour).after
          (leads_next h (htrue memory executed htest))
    · next htest =>
        exact (hno.ends _ consistent hbehaviour).after
          (leads_next h (hfalse memory executed htest))
  completes := by
    intro n memory executed consistent hhalts
    unfold branch
    split
    · exact ⟨_, rfl⟩
    · next htest =>
        have hleads := leads_next h (htrue memory executed htest)
        exact hyes.completes consistent (hleads.halts hhalts).2
    · next htest =>
        have hleads := leads_next h (hfalse memory executed htest)
        exact hno.completes consistent (hleads.halts hhalts).2

theorem execEnd_of_block {m : Machine} {block : Nat} {blocks : List Nat}
    (hblocks : m.nesting.blocks = block :: blocks)
    (hloops : ∀ frame ∈ m.nesting.loops, frame.openedAt < block) :
    m.execEnd = (m.withBlocks blocks).goOn := by
  have hpop : m.popThen .block Machine.goOn = (m.withBlocks blocks).goOn :=
    Machine.popThen_block hblocks
  rw [← hpop]
  unfold Machine.execEnd
  rw [hblocks]
  cases hframes : m.nesting.loops with
  | nil => rfl
  | cons frame rest =>
      have hlt : frame.openedAt < block := hloops frame (by rw [hframes]; exact List.mem_cons_self)
      cases frame with
      | counting openedAt name first stop => exact if_neg (Nat.lt_asymm hlt)
      | whileLoop openedAt condition => rfl
      | repeatLoop openedAt count => rfl

theorem execEnd_of_counting {m : Machine} {openedAt : Nat} {name : String} {first stop : Float}
    {rest : List LoopFrame} (hloops : m.nesting.loops = .counting openedAt name first stop :: rest)
    (hblocks : ∀ block ∈ m.nesting.blocks, block < openedAt) :
    m.execEnd = m.closeFor openedAt name stop := by
  unfold Machine.execEnd
  rw [hloops]
  cases hopen : m.nesting.blocks with
  | nil => rfl
  | cons block blocks => exact if_pos (hblocks block (by rw [hopen]; exact List.mem_cons_self))

theorem realizes_block (hopen : program.contents[line]? = some (.statement .block))
    (hclose : program.contents[closer]? = some (.statement .endMark))
    (hbefore : OpenedBefore nesting line)
    (hbody : Realizes program limit (line + 1) (nesting.push (.block line)) closer
      (nesting.push (.block line)) body) :
    Realizes program limit line nesting (closer + 1) nesting body := by
  refine .before (skips_of_exec hopen fun _ _ => rfl) (hbody.behind (skips_of_exec hclose ?_))
  intro memory executed
  exact execEnd_of_block rfl hbefore.loops

theorem exec_conditional_of_error {condition : String} {memory : Memory} {executed : Nat}
    {fault : Fault} (htest : Condition.evaluate memory.store condition = .error fault) :
    (standing program limit line memory nesting executed).exec (.conditional condition) =
      (standing program limit line memory nesting executed).fail fault := by
  simp only [Machine.exec, Machine.execIf, standing, htest]

theorem exec_conditional_of_true {condition : String} {memory : Memory} {executed : Nat}
    (htest : Condition.evaluate memory.store condition = .ok true) :
    (standing program limit line memory nesting executed).exec (.conditional condition) =
      .next (standing program limit (line + 1) memory
        (nesting.push (.conditional ⟨line, true, false⟩)) executed) := by
  simp only [Machine.exec, Machine.execIf, standing, htest]
  rfl

theorem execIf_of_endIf {m : Machine} {condition : String} {target : Nat}
    (htest : Condition.evaluate m.store condition = .ok false)
    (htarget : m.elseOrEndIf = some target) (hkind : m.program.kindAt target ≠ some .elseMark) :
    m.execIf condition = m.goTo (target + 1) := by
  simp only [Machine.execIf, htest, htarget, hkind, Bool.false_eq_true, if_false]
  rw [Machine.popThen_conditional rfl]
  rfl

theorem execEndIf_of_open {m : Machine} {frame : IfFrame} {rest : List IfFrame}
    (htop : m.nesting.conditionals = frame :: rest) :
    m.execEndIf = (m.withConditionals rest).goOn := by
  have hopen : ¬ m.nesting.conditionals.isEmpty = true := by simp [htop]
  rw [Machine.execEndIf, if_neg hopen, Machine.popThen_conditional htop]

theorem execElse_of_true {m : Machine} {frame : IfFrame} {rest : List IfFrame} {target : Nat}
    (htop : m.nesting.conditionals = frame :: rest) (hfresh : frame.elseEntered = false)
    (htrue : frame.wasTrue = true) (htarget : m.matchingEndIf = some target) :
    m.execElse = (m.withConditionals rest).goTo (target + 1) := by
  have hpop : m.popThen .conditional (fun m => m.goTo (target + 1)) =
      (m.withConditionals rest).goTo (target + 1) := Machine.popThen_conditional htop
  rw [← hpop]
  simp only [Machine.execElse, htop, List.head?_cons, hfresh, htrue, htarget, Bool.not_true,
    Bool.false_eq_true, if_false]

theorem realizes_ifThen {condition : String}
    (hopen : program.contents[line]? = some (.statement (.conditional condition)))
    (hclose : program.contents[closer]? = some (.statement .endIf))
    (hscan : program.scan line (.opens .conditional) .endIf (some .elseMark) = some closer)
    (hbody : Realizes program limit (line + 1) (nesting.push (.conditional ⟨line, true, false⟩))
      closer (nesting.push (.conditional ⟨line, true, false⟩)) body) :
    Realizes program limit line nesting (closer + 1) nesting (branch line condition body pass) := by
  refine realizes_branch hopen (fun _ _ _ => exec_conditional_of_error)
    (fun _ _ => exec_conditional_of_true) ?_
    (hbody.behind (skips_of_exec hclose fun _ _ => execEndIf_of_open rfl)) .pass
  intro memory executed htest
  have hkind : program.kindAt closer ≠ some .elseMark := by
    rw [Program.kindAt_of_statement hclose]
    simp [Statement.kind]
  let m := standing program limit line memory nesting executed
  have hexec : m.execIf condition = m.goTo (closer + 1) := execIf_of_endIf htest hscan hkind
  exact hexec

theorem realizes_ifElse {condition : String} {middle : Nat} {other : Behaviour}
    (hopen : program.contents[line]? = some (.statement (.conditional condition)))
    (hmiddle : program.contents[middle]? = some (.statement .elseMark))
    (hclose : program.contents[closer]? = some (.statement .endIf))
    (hscan : program.scan line (.opens .conditional) .endIf (some .elseMark) = some middle)
    (hskip : program.scan middle (.opens .conditional) .endIf none = some closer)
    (hbody : Realizes program limit (line + 1) (nesting.push (.conditional ⟨line, true, false⟩))
      middle (nesting.push (.conditional ⟨line, true, false⟩)) body)
    (hother : Realizes program limit (middle + 1) (nesting.push (.conditional ⟨line, false, true⟩))
      closer (nesting.push (.conditional ⟨line, false, true⟩)) other) :
    Realizes program limit line nesting (closer + 1) nesting
      (branch line condition body other) := by
  refine realizes_branch hopen (fun _ _ _ => exec_conditional_of_error)
    (fun _ _ => exec_conditional_of_true) ?_ (hbody.behind (skips_of_exec hmiddle ?_))
    (hother.behind (skips_of_exec hclose fun _ _ => execEndIf_of_open rfl))
  · intro memory executed htest
    have hkind : program.kindAt middle = some .elseMark := Program.kindAt_of_statement hmiddle
    simp only [Machine.exec, Machine.execIf, Machine.elseOrEndIf, standing, htest, hscan]
    exact if_pos hkind
  · intro memory executed
    exact execElse_of_true
      (m := standing program limit middle memory (nesting.push (.conditional ⟨line, true, false⟩))
        executed) rfl rfl rfl hskip

theorem execEndWhile_of_while {m : Machine} {openedAt : Nat} {condition : String}
    {rest : List LoopFrame} (htop : m.nesting.loops = .whileLoop openedAt condition :: rest) :
    m.execEndWhile =
      match Condition.evaluate m.store condition with
      | .error fault => (m.withLoops rest).fail fault
      | .ok true => (m.withLoops rest).goTo openedAt
      | .ok false => (m.withLoops rest).goOn := by
  have hstore : (m.withLoops rest).store = m.store := rfl
  cases htest : Condition.evaluate m.store condition with
  | error fault =>
      simp only [Machine.execEndWhile, htop, List.head?_cons, Machine.popThen_loop htop, hstore,
        htest]
  | ok holds =>
      cases holds <;>
        simp only [Machine.execEndWhile, htop, List.head?_cons, Machine.popThen_loop htop, hstore,
          htest]

theorem exec_whileLoop_of_error {condition : String} {memory : Memory} {executed : Nat}
    {fault : Fault} (htest : Condition.evaluate memory.store condition = .error fault) :
    (standing program limit line memory nesting executed).exec (.whileLoop condition) =
      (standing program limit line memory nesting executed).fail fault := by
  simp only [Machine.exec, Machine.execWhile, standing, htest]

theorem exec_whileLoop_of_true {condition : String} {memory : Memory} {executed : Nat}
    (htest : Condition.evaluate memory.store condition = .ok true) :
    (standing program limit line memory nesting executed).exec (.whileLoop condition) =
      .next (standing program limit (line + 1) memory
        (nesting.push (.loop (.whileLoop line condition))) executed) := by
  simp only [Machine.exec, Machine.execWhile, standing, htest]
  rfl

theorem realizes_while {condition : String}
    (hopen : program.contents[line]? = some (.statement (.whileLoop condition)))
    (hclose : program.contents[closer]? = some (.statement .endWhile))
    (hscan : program.scan line (.opens .whileLoop) .endWhile none = some closer)
    (hbody : Realizes program limit (line + 1) (nesting.push (.loop (.whileLoop line condition)))
      closer (nesting.push (.loop (.whileLoop line condition))) body) :
    Realizes program limit line nesting (closer + 1) nesting
      (branch line condition (Iterations (fun _ => whileVerdict closer condition) body 0)
        pass) := by
  refine realizes_branch hopen (fun _ _ _ => exec_whileLoop_of_error)
    (fun _ _ => exec_whileLoop_of_true) ?_ (.iterations (fun _ => hbody) ?_ 0) .pass
  · intro memory executed htest
    simp only [Machine.exec, Machine.execWhile, Machine.matchingEndWhile, standing, htest, hscan]
    rfl
  · intro count memory executed _
    let m := standing program limit closer memory
      (nesting.push (.loop (.whileLoop line condition))) executed
    have hexec : m.exec .endWhile = _ := execEndWhile_of_while (m := m) rfl
    unfold whileVerdict
    split
    · next fault htest =>
        have htest' : Condition.evaluate m.store condition = .error fault := htest
        rw [htest'] at hexec
        exact ends_fail hclose hexec
    · next htest =>
        -- The condition is tested at `ENDWHILE` and, with the same answer, again at `WHILE`.
        have htest' : Condition.evaluate m.store condition = .ok true := htest
        rw [htest'] at hexec
        exact ⟨1, _, (leads_next hclose hexec).trans
          (leads_next hopen (exec_whileLoop_of_true htest))⟩
    · next htest =>
        have htest' : Condition.evaluate m.store condition = .ok false := htest
        rw [htest'] at hexec
        exact ⟨1, _, leads_next hclose hexec⟩

theorem concludes_until {condition : String} {count executed : Nat} {memory : Memory}
    (hopen : program.contents[line]? = some (.statement .repeatLoop))
    (hclose : program.contents[closer]? = some (.statement (.untilMark condition))) :
    Concludes program limit (line + 1) (nesting.push (.loop (.repeatLoop line (count + 1))))
      (closer + 1) nesting memory (untilVerdict limit closer condition (count + 1) memory)
      (poised program limit closer memory (nesting.push (.loop (.repeatLoop line count)))
        executed) := by
  let m := standing program limit closer memory (nesting.push (.loop (.repeatLoop line count)))
    executed
  have hexec : m.exec (.untilMark condition) = m.execUntil condition := rfl
  have hloops : m.nesting.loops = .repeatLoop line count :: nesting.loops := rfl
  simp only [Machine.execUntil, hloops, List.head?_cons, List.tail_cons] at hexec
  unfold untilVerdict
  split
  · next hlimit =>
      have hlimit' : m.limit.bound < (count : Int) + 1 := hlimit
      rw [if_pos hlimit'] at hexec
      exact ends_fail hclose hexec
  · next hlimit =>
      have hlimit' : ¬ m.limit.bound < (count : Int) + 1 := hlimit
      rw [if_neg hlimit'] at hexec
      split
      · next fault htest =>
          have htest' : Condition.evaluate m.store condition = .error fault := htest
          rw [htest'] at hexec
          exact ends_fail hclose hexec
      · next htest =>
          have htest' : Condition.evaluate m.store condition = .ok true := htest
          simp only [htest'] at hexec
          rw [Machine.popThen_loop rfl] at hexec
          exact ⟨1, _, leads_next hclose hexec⟩
      · next htest =>
          have htest' : Condition.evaluate m.store condition = .ok false := htest
          rw [htest'] at hexec
          refine ⟨1, _, (leads_next hclose hexec).trans (leads_next hopen ?_)⟩
          exact if_pos rfl

theorem realizes_repeat {condition : String}
    (hopen : program.contents[line]? = some (.statement .repeatLoop))
    (hclose : program.contents[closer]? = some (.statement (.untilMark condition)))
    (hbefore : OpenedBefore nesting line)
    (hbody : ∀ count, Realizes program limit (line + 1)
      (nesting.push (.loop (.repeatLoop line count))) closer
      (nesting.push (.loop (.repeatLoop line count))) body) :
    Realizes program limit line nesting (closer + 1) nesting
      (Iterations (untilVerdict limit closer condition) body 0) := by
  refine .before (skips_of_exec hopen ?_)
    (.iterations hbody (fun _ _ _ _ => concludes_until hopen hclose) 0)
  intro memory executed
  simp only [Machine.exec, Machine.execRepeat, standing]
  split
  · next openedAt count htop =>
      have hlt := hbefore.loops (.repeatLoop openedAt count) (List.mem_of_head? htop)
      exact if_neg (Nat.ne_of_lt hlt)
  · rfl

theorem assign_of_lookup {store : Store} {name : String} {value old : Value}
    (consistent : store.Consistent) (hname : Store.isName (Store.normalize name) = true)
    (hold : store.lookup name = some old) (hkind : old.kind = value.kind) :
    (Store.assign name value).run store =
      .ok (.create (Store.normalize name) value)
        (store.put (Store.normalize name) (.create (Store.normalize name) value)) := by
  obtain ⟨v, hfound, rfl⟩ := Option.map_eq_some_iff.mp hold
  obtain ⟨hnamed, hdeclared⟩ := consistent.find? hfound
  have htyped : ∀ old, store.find? (Store.normalize name) = some old →
      old.declared = value.kind := by
    intro old hold
    rw [hfound] at hold
    cases hold
    exact hdeclared.trans hkind
  obtain ⟨v', store', hassign⟩ := Store.exists_assign hname htyped
  have hassigns := store.assigns_run name value
  rw [hassign] at hassigns ⊢
  cases hassigns with
  | created => rfl
  | @changed old _ found typed =>
      rw [hfound] at found
      cases found
      rw [Variable.create, ← hnamed, ← typed]

/-- `END` does what the verdict on its counting loop says. The variable can be given its next
value, since it has a valid name and holds a number. -/
theorem concludes_for {name : String} {first last : Float} {executed : Nat} {memory : Memory}
    (hclose : program.contents[closer]? = some (.statement .endMark))
    (hbefore : OpenedBefore nesting line)
    (hname : Store.isName (Store.normalize name) = true) (consistent : memory.store.Consistent) :
    Concludes program limit (line + 1) (nesting.push (.loop (.counting line name first last)))
      (closer + 1) nesting memory (forVerdict name last memory)
      (poised program limit closer memory (nesting.push (.loop (.counting line name first last)))
        executed) := by
  let m := standing program limit closer memory
    (nesting.push (.loop (.counting line name first last))) executed
  have hexec : m.exec .endMark = m.closeFor line name last :=
    execEnd_of_counting rfl hbefore.blocks
  unfold Machine.closeFor at hexec
  rw [Machine.popThen_loop rfl] at hexec
  unfold forVerdict
  split
  · next x hx =>
      have hx' : m.store.lookup name = some (.number x) := hx
      simp only [hx'] at hexec
      split
      · next hlt =>
          have hkind : (Value.number x).kind = (Value.number (x + 1.0)).kind := rfl
          have hassign := assign_of_lookup consistent hname hx hkind
          rw [if_pos hlt, Machine.assignThen_of_ok (m := m) hassign] at hexec
          exact ⟨0, _, leads_next hclose hexec⟩
      · next hlt =>
          rw [if_neg hlt] at hexec
          exact ⟨1, _, leads_next hclose hexec⟩
  · next hother =>
      refine ⟨1, executed + 1, leads_next hclose ?_⟩
      rw [hexec]
      split
      · next x hx => exact absurd hx (hother x)
      · rfl

theorem for_cases (program : Program) (limit : RepeatLimit) (line : Nat) (nesting : Nesting)
    (name start stop : String) (body : Behaviour) (memory : Memory) (executed : Nat) :
    (∃ fault, (standing program limit line memory nesting executed).exec
        (.forLoop name start stop) =
          (standing program limit line memory nesting executed).fail fault ∧
      ∀ completion, counting line name start stop body memory completion ↔
        completion = .fault (fault.atLine line) memory) ∨
    ∃ first last store, (standing program limit line memory nesting executed).exec
        (.forLoop name start stop) =
          .next (standing program limit (line + 1) { memory with store }
            (nesting.push (.loop (.counting line name first last))) executed) ∧
      Store.isName (Store.normalize name) = true ∧
      ∀ completion, counting line name start stop body memory completion ↔
        Iterations (fun _ => forVerdict name last) body 0 { memory with store } completion := by
  let m := standing program limit line memory nesting executed
  have hexec : m.exec (.forLoop name start stop) = m.execFor name start stop := rfl
  have hmemory : m.store = memory.store := rfl
  unfold counting
  cases hfirst : Machine.evaluateBound memory.store start with
  | error fault =>
      simp only [Machine.execFor, hmemory, hfirst, bind, Except.bind] at hexec
      exact .inl ⟨fault, hexec, fun _ => Iff.rfl⟩
  | ok first =>
      cases hlast : Machine.evaluateBound memory.store stop with
      | error fault =>
          simp only [Machine.execFor, hmemory, hfirst, hlast, bind, Except.bind] at hexec
          exact .inl ⟨fault, hexec, fun _ => Iff.rfl⟩
      | ok last =>
          simp only [Machine.execFor, hmemory, hfirst, hlast, bind, Except.bind, pure,
            Except.pure] at hexec
          cases hstore : (Store.assign name (.number first)).run memory.store with
          | error fault store =>
              rw [Machine.assignThen_of_error (m := m) hstore] at hexec
              exact .inl ⟨fault, hexec, fun _ => by simp only [hstore]⟩
          | ok v store =>
              rw [Machine.assignThen_of_ok (m := m) hstore] at hexec
              exact .inr ⟨first, last, store, hexec, (Store.put_of_assign hstore).1,
                fun _ => by simp only [hstore]⟩

theorem realizes_for {name start stop : String}
    (hopen : program.contents[line]? = some (.statement (.forLoop name start stop)))
    (hclose : program.contents[closer]? = some (.statement .endMark))
    (hbefore : OpenedBefore nesting line)
    (hbody : ∀ first last, Realizes program limit (line + 1)
      (nesting.push (.loop (.counting line name first last))) closer
      (nesting.push (.loop (.counting line name first last))) body) :
    Realizes program limit line nesting (closer + 1) nesting
      (counting line name start stop body) := by
  have hloop : ∀ first last, Store.isName (Store.normalize name) = true →
      Realizes program limit (line + 1) (nesting.push (.loop (.counting line name first last)))
        (closer + 1) nesting (Iterations (fun _ => forVerdict name last) body 0) := by
    intro first last hname
    exact .iterations (fun _ => hbody first last)
      (fun _ _ _ => concludes_for hclose hbefore hname) 0
  constructor
  · intro memory completion executed consistent hbehaviour
    obtain ⟨fault, hexec, hiff⟩ | ⟨first, last, store, hexec, hname, hiff⟩ :=
      for_cases program limit line nesting name start stop body memory executed
    · obtain rfl := (hiff completion).mp hbehaviour
      exact ends_fail hopen hexec
    · have hleads := leads_next hopen hexec
      exact ((hloop first last hname).ends _ (consistent_of_leads hleads consistent)
        ((hiff completion).mp hbehaviour)).after hleads
  · intro n memory executed consistent hhalts
    obtain ⟨fault, hexec, hiff⟩ | ⟨first, last, store, hexec, hname, hiff⟩ :=
      for_cases program limit line nesting name start stop body memory executed
    · exact ⟨_, (hiff _).mpr rfl⟩
    · have hleads := leads_next hopen hexec
      obtain ⟨completion, hcompletion⟩ := (hloop first last hname).completes
        (consistent_of_leads hleads consistent) (hleads.halts hhalts).2
      exact ⟨completion, (hiff completion).mpr hcompletion⟩

end Construct

/-- The lines of a tree do what the tree means. -/
theorem realizes_tree {program : Program} {limit : RepeatLimit} {tree : Tree} {line : Nat}
    {nesting : Nesting} (h : Holds program line tree.lines) (hbefore : OpenedBefore nesting line) :
    Realizes program limit line nesting (line + tree.lines.length) nesting
      (tree.Evaluates limit line) := by
  induction tree generalizing line nesting with
  | empty => exact .pass
  | gap content silent => exact .before (skips_gap h.head silent) .pass
  | output text => exact realizes_write h.head
  | assign name expression => exact realizes_assign h.head
  | seq first second ihFirst ihSecond =>
      rw [Tree.lines, List.length_append, ← Nat.add_assoc, Tree.Evaluates]
      exact .sequence (ihFirst h.left hbefore)
        (ihSecond h.right (hbefore.mono (Nat.le_add_right _ _)))
  | block body ih =>
      rw [Tree.lines, add_length_enclosed, Tree.Evaluates]
      exact realizes_block h.head h.tail.right.head hbefore (ih h.tail.left (hbefore.push rfl))
  | ifThen condition body ih =>
      rw [Tree.lines, add_length_enclosed, Tree.Evaluates]
      have hscan := scan_tree (some .elseMark) Construct.conditional_closedAlone (by simp) h.tail
        (by simp [Statement.kind]) (.inl rfl)
      exact realizes_ifThen h.head h.tail.right.head hscan
        (ih h.tail.left (hbefore.push rfl))
  | ifElse condition body other ihBody ihOther =>
      rw [Tree.lines, add_length_enclosed, Tree.Evaluates]
      have hinner := h.tail
      rw [List.append_assoc] at hinner
      have hscan := scan_tree (some .elseMark) Construct.conditional_closedAlone (by simp) hinner
        (by simp [Statement.kind]) (.inr rfl)
      have hbehind := hinner.right.tail
      have hskip := scan_tree none Construct.conditional_closedAlone (by simp) hbehind
        (by simp [Statement.kind]) (.inl rfl)
      have hcloser : line + 1 + (body.lines ++ .statement .elseMark :: other.lines).length =
          line + 1 + body.lines.length + 1 + other.lines.length := by
        simp only [List.length_append, List.length_cons]
        omega
      rw [hcloser]
      exact realizes_ifElse h.head hinner.right.head hbehind.right.head hscan hskip
        (ihBody hinner.left (hbefore.push rfl))
        (ihOther hbehind.left ((hbefore.push rfl).mono (by omega)))
  | forLoop name start stop body ih =>
      rw [Tree.lines, add_length_enclosed, Tree.Evaluates]
      exact realizes_for h.head h.tail.right.head hbefore
        fun _ _ => ih h.tail.left (hbefore.push rfl)
  | whileLoop condition body ih =>
      rw [Tree.lines, add_length_enclosed, Tree.Evaluates]
      have hscan := scan_tree none Construct.whileLoop_closedAlone (by simp) h.tail
        (by simp [Statement.kind]) (.inl rfl)
      exact realizes_while h.head h.tail.right.head hscan (ih h.tail.left (hbefore.push rfl))
  | repeatLoop body condition ih =>
      rw [Tree.lines, add_length_enclosed, Tree.Evaluates]
      exact realizes_repeat h.head h.tail.right.head hbefore
        fun _ => ih h.tail.left (hbefore.push rfl)

def Completion.report : Completion → Machine.Report
  | .normal memory => ⟨memory.output, memory.store.bindings, none⟩
  | .fault problem memory => ⟨memory.output, memory.store.bindings, some (.fault problem)⟩

theorem report_of_arrives {program : Program} {limit : RepeatLimit} {completion : Completion}
    {outcome : Outcome} (h : Arrives program limit program.length {} completion outcome)
    (n : Nat) :
    ∃ m ending, runOn n outcome = (m, ending) ∧ ending ≠ .unfinished ∧
      m.report ending = completion.report := by
  cases completion with
  | normal memory =>
      obtain ⟨executed, rfl⟩ := h
      have hpoised : poised program limit program.length memory {} executed =
          .next { standing program limit program.length memory {} executed with
            finished := true } := by
        unfold poised Machine.advance standing
        dsimp only
        rw [Program.nextStatement_of_length_le (Nat.le_refl _), if_neg (Nat.lt_irrefl _)]
        rfl
      rw [hpoised]
      refine ⟨{ standing program limit program.length memory {} executed with finished := true },
        .done, ?_, by simp, rfl⟩
      cases n <;> rfl
  | fault fault memory =>
      obtain ⟨m, rfl, hstore, houtput⟩ := h
      refine ⟨m, .failed (.fault fault), rfl, by simp, ?_⟩
      rw [Machine.report, hstore, houtput]
      rfl

theorem runsTo_iff {program : Program} {limit : RepeatLimit} {tree : Tree}
    (h : tree.lines = program.contents) (report : Machine.Report) :
    (Machine.load limit program).RunsTo report ↔
      ∃ completion, tree.Evaluates limit 0 {} completion ∧ completion.report = report := by
  have hstart : poised program limit 0 {} {} 0 = .next (Machine.load limit program) :=
    Machine.advance_load limit program
  have hrealizes : Realizes program limit 0 {} program.length {} (tree.Evaluates limit 0) := by
    have hholds : Holds program 0 tree.lines := by
      rw [h]
      exact List.prefix_rfl
    have hrealizes : Realizes program limit 0 {} (0 + tree.lines.length) {}
        (tree.Evaluates limit 0) :=
      realizes_tree hholds ⟨by simp, by simp⟩
    rwa [h, Program.contents_length, Nat.zero_add] at hrealizes
  constructor
  · rintro ⟨steps, m, ending, hrun, hended, rfl⟩
    have hrun' : runOn steps (poised program limit 0 {} {} 0) = (m, ending) := by
      rw [hstart]
      exact hrun
    have hhalts : Halts steps (poised program limit 0 {} {} 0) := by
      rw [Halts, hrun']
      exact hended
    obtain ⟨completion, hcompletion⟩ := hrealizes.completes Store.consistent_empty hhalts
    obtain ⟨k, outcome, hleads, harrives⟩ := hrealizes.ends 0 Store.consistent_empty hcompletion
    obtain ⟨-, hsame⟩ := hleads.runOn_eq hhalts
    obtain ⟨m', ending', hrun'', -, hreport⟩ := report_of_arrives harrives (steps - k)
    rw [hrun', hrun''] at hsame
    cases hsame
    exact ⟨completion, hcompletion, hreport.symm⟩
  · rintro ⟨completion, hcompletion, rfl⟩
    obtain ⟨k, outcome, hleads, harrives⟩ := hrealizes.ends 0 Store.consistent_empty hcompletion
    obtain ⟨m, ending, hrun, hended, hreport⟩ := report_of_arrives harrives 0
    refine ⟨k, m, ending, ?_, hended, hreport⟩
    rw [hstart] at hleads
    rw [← hrun, ← hleads.runOn_add]
    rfl

/-- Running a program without faults, in which no conditional has two `ELSE` lines, is evaluating
the tree of its statements: the run ends if and only if the tree has a completion, and then both
leave the same lines, the same variables and the same fault. -/
theorem run_eq_tree_evaluation (comment source : String) (limit : RepeatLimit)
    (valid : (Program.ofSource comment source).faults = [])
    (single : (Program.ofSource comment source).SingleElse) :
    (∃ tree : Tree, tree.lines = (Program.ofSource comment source).contents) ∧
      ∀ tree : Tree, tree.lines = (Program.ofSource comment source).contents →
        ∀ report, (Machine.ofSource comment limit source).RunsTo report ↔
          ∃ completion, tree.Evaluates limit 0 {} completion ∧ completion.report = report := by
  refine ⟨exists_tree valid single, ?_⟩
  intro tree htree report
  exact runsTo_iff htree report

theorem run_eq_tree_evaluation_repeat :
    let source := "X = 0\nREPEAT\nX = X + 1\nIF X > 1 THEN\nOUTPUT X\nELSE\nOUTPUT low\nENDIF\n" ++
      "UNTIL X > 1"
    (Program.ofSource "//" source).faults = [] ∧ (Program.ofSource "//" source).SingleElse ∧
      ∃ tree : Tree, tree.lines = (Program.ofSource "//" source).contents ∧
        ∀ report, (Machine.ofSource "//" (.atMost 5) source).RunsTo report ↔
          ∃ completion, tree.Evaluates (.atMost 5) 0 {} completion ∧
            completion.report = report := by
  intro source
  have valid : (Program.ofSource "//" source).faults = [] := by decide +kernel
  have single : (Program.ofSource "//" source).SingleElse := by decide +kernel
  obtain ⟨⟨tree, htree⟩, hruns⟩ := run_eq_tree_evaluation "//" source (.atMost 5) valid single
  exact ⟨valid, single, tree, htree, hruns tree htree⟩

end Pseudocode.Structured
