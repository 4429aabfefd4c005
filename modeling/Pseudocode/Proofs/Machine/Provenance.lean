import Pseudocode.Proofs.Machine.Growth
import Pseudocode.Proofs.Machine.Loops

namespace Pseudocode

namespace Store

variable {store store' : Store} {name : String} {x : Float}

def HoldsNumber (store : Store) (name : String) : Prop :=
  isName (normalize name) = true ∧ store.kinds.lookup (normalize name) = some .number

theorem HoldsNumber.lookup (h : store.HoldsNumber name) (consistent : store.Consistent) :
    ∃ x, store.lookup name = some (.number x) := by
  obtain ⟨-, hkind⟩ := h
  rw [consistent.lookup_kinds, Option.map_eq_some_iff] at hkind
  obtain ⟨value, hvalue, hkind⟩ := hkind
  cases value with
  | number x => exact ⟨x, hvalue⟩
  | _ => cases hkind

theorem HoldsNumber.mono (h : store.HoldsNumber name) (grows : store.kinds <+: store'.kinds) :
    store'.HoldsNumber name := by
  obtain ⟨more, hmore⟩ := grows
  refine ⟨h.1, ?_⟩
  rw [← hmore, List.lookup_append, h.2]
  rfl

theorem HoldsNumber.assign (h : store.HoldsNumber name) (x : Float) :
    ∃ v store', (Store.assign name (.number x)).run store = .ok v store' := by
  obtain ⟨hname, hkind⟩ := h
  refine exists_assign hname fun old hold => ?_
  rw [lookup_kinds, hold] at hkind
  exact Option.some.inj hkind

theorem holdsNumber_of_assign {v : Variable}
    (h : (Store.assign name (.number x)).run store = .ok v store') : store'.HoldsNumber name := by
  obtain ⟨hname, rfl, -, hdeclared, -⟩ := put_of_assign h
  refine ⟨hname, ?_⟩
  rw [lookup_kinds, find?_put, if_pos rfl, Option.map_some, hdeclared]
  rfl

end Store

theorem Program.statement_ofLines {comment : String} {lines : List Line} {i : Nat} {s : Statement}
    (h : (ofLines comment lines).contents[i]? = some (.statement s)) :
    ∃ line, lines[i]? = some line ∧ line.kind comment = .statement s.kind ∧
      Statement.read s.kind line = .ok s := by
  rw [contents_ofLines, List.getElem?_map, Option.map_eq_some_iff] at h
  obtain ⟨line, hline, hcontent⟩ := h
  refine ⟨line, hline, ?_⟩
  unfold Line.content at hcontent
  split at hcontent
  · cases hcontent
  · cases hcontent
  · next kind hkind =>
      split at hcontent
      · next hread =>
          cases hcontent
          rw [Statement.kind_of_read hread]
          exact ⟨hkind, hread⟩
      · cases hcontent

namespace LoopFrame

/-- A frame keeps what the statement that opened the loop says: its variable or its condition. -/
inductive Recalls : LoopFrame → Statement → Prop where
  | counting {openedAt : Nat} {name start stop : String} {first last : Float} :
      Recalls (.counting openedAt name first last) (.forLoop name start stop)
  | whileLoop {openedAt : Nat} {condition : String} :
      Recalls (.whileLoop openedAt condition) (.whileLoop condition)
  | repeatLoop {openedAt count : Nat} : Recalls (.repeatLoop openedAt count) .repeatLoop

theorem Recalls.kind {frame : LoopFrame} {s : Statement} (h : frame.Recalls s) :
    s.kind = .opens frame.construct := by
  cases h <;> rfl

def counter? : LoopFrame → Option String
  | counting _ name _ _ => some name
  | _ => none

/-- A frame tells the truth about a program and a store. -/
structure Describes (program : Program) (store : Store) (frame : LoopFrame) : Prop where
  opener : ∃ s, program.contents[frame.openedAt]? = some (.statement s) ∧ frame.Recalls s
  counts : ∀ name, frame.counter? = some name → store.HoldsNumber name

end LoopFrame

namespace Machine

variable {m m' : Machine} {s : Statement}

theorem Effect.kinds_prefix (h : Effect m s m') : m.store.kinds <+: m'.store.kinds := by
  obtain hsame | ⟨name, kind, -, hmore⟩ := h.extends
  · exact hsame ▸ List.prefix_rfl
  · rw [hmore]
    exact List.prefix_append _ _

/-- A statement leaves only frames that tell the truth, if there are no others before it. -/
theorem Effect.describes (h : Effect m s m')
    (hs : m.program.contents[m.cursor]? = some (.statement s))
    (described : ∀ frame ∈ m.nesting.loops, frame.Describes m.program m.store) :
    ∀ frame ∈ m'.nesting.loops, frame.Describes m'.program m'.store := by
  have hprogram : m'.program = m.program := (running_of_effect h).1
  have kept : ∀ frame ∈ m.nesting.loops, frame.Describes m'.program m'.store := by
    intro frame hframe
    obtain ⟨opener, counts⟩ := described frame hframe
    rw [hprogram]
    exact ⟨opener, fun name hname => (counts name hname).mono h.kinds_prefix⟩
  have pushed : ∀ {frame : LoopFrame}, frame.Describes m'.program m'.store →
      ∀ frame' ∈ frame :: m.nesting.loops, frame'.Describes m'.program m'.store :=
    fun hframe => List.forall_mem_cons.mpr ⟨hframe, kept⟩
  have inner : ∀ {frame : LoopFrame} {rest : List LoopFrame}, m.nesting.loops = frame :: rest →
      frame.Describes m'.program m'.store ∧
        ∀ frame ∈ rest, frame.Describes m'.program m'.store :=
    fun top => List.forall_mem_cons.mp (top ▸ kept)
  cases h with
  | forOpened startsAt stopsAt stored =>
      refine pushed ⟨⟨_, hs, .counting⟩, ?_⟩
      rintro _ ⟨⟩
      exact Store.holdsNumber_of_assign stored
  | forLeft top nearest reached => exact (inner top).2
  | whileOpened holds =>
      refine pushed ⟨⟨_, hs, .whileLoop⟩, ?_⟩
      rintro _ ⟨⟩
  | whileAgain top holds => exact (inner top).2
  | whileLeft top fails => exact (inner top).2
  | repeatOpened fresh =>
      refine pushed ⟨⟨_, hs, .repeatLoop⟩, ?_⟩
      rintro _ ⟨⟩
  | untilLeft top within holds => exact (inner top).2
  | untilAgain top within fails =>
      obtain ⟨⟨⟨s, hopener, recalls⟩, -⟩, outer⟩ := inner top
      cases recalls
      refine List.forall_mem_cons.mpr ⟨⟨⟨_, hopener, .repeatLoop⟩, ?_⟩, outer⟩
      rintro _ ⟨⟩
  | _ => exact kept

theorem describes_step (h : m.step = .next m')
    (described : ∀ frame ∈ m.nesting.loops, frame.Describes m.program m.store) :
    ∀ frame ∈ m'.nesting.loops, frame.Describes m'.program m'.store := by
  obtain ⟨-, rfl⟩ | ⟨-, s, m₁, hs, effect, hadvance⟩ := step_eq_next h
  · exact described
  · have hmoved := effect.describes hs described
    obtain ⟨-, rfl⟩ | ⟨-, -, rfl⟩ := advance_eq_next hadvance
    · exact hmoved
    · exact hmoved

theorem Reached.describes {limit : RepeatLimit} {program : Program}
    (h : Reached (load limit program) m) :
    ∀ frame ∈ m.nesting.loops, frame.Describes m.program m.store := by
  induction h with
  | start => simp [(loops_load limit program).1]
  | step _ next ih => exact describes_step next ih

theorem Reached.consistent {limit : RepeatLimit} {program : Program}
    (h : Reached (load limit program) m) : m.store.Consistent := by
  induction h with
  | start =>
      have hstore : (load limit program).store = {} := (advance_keeps _).2.2
      rw [hstore]
      exact Store.consistent_empty
  | step _ next ih =>
      have hstep := consistent_step ih
      rwa [next] at hstep

theorem exec_endMark_of_nearest {openedAt : Nat} {name : String} {start stop : Float}
    {rest : List LoopFrame} (top : m.nesting.loops = .counting openedAt name start stop :: rest)
    (nearest : m.Nearest openedAt) : m.exec .endMark = m.closeFor openedAt name stop := by
  show m.execEnd = _
  unfold execEnd
  rw [top]
  cases hblocks : m.nesting.blocks with
  | nil => rfl
  | cons block blocks => exact if_pos (nearest block blocks hblocks)

/-- In every run, badly nested programs included, each frame was opened at a line of its construct,
a `WHILE` loop keeps the condition and a counting loop the variable that was read off that line, and
the variable of a counting loop has a number for its value. So an `END` that closes a counting loop
compares a number with the last value, and then counts on from it or leaves the loop. -/
theorem frames_describe_lines (comment source : String) (limit : RepeatLimit) (m : Machine)
    (reached : Reached (ofSource comment limit source) m) :
    (∀ openedAt ∈ m.nesting.blocks, ∃ line, (Line.ofSource source)[openedAt]? = some line ∧
      line.kind comment = .statement (.opens .block)) ∧
    (∀ frame ∈ m.nesting.conditionals, ∃ line,
      (Line.ofSource source)[frame.openedAt]? = some line ∧
      line.kind comment = .statement (.opens .conditional)) ∧
    (∀ frame ∈ m.nesting.loops, ∃ line s, (Line.ofSource source)[frame.openedAt]? = some line ∧
      line.kind comment = .statement (.opens frame.construct) ∧
      Statement.read (.opens frame.construct) line = .ok s ∧ frame.Recalls s ∧
      ∀ name, frame.counter? = some name → ∃ x, m.store.lookup name = some (.number x)) ∧
    ∀ openedAt name start stop rest,
      m.nesting.loops = .counting openedAt name start stop :: rest → m.Nearest openedAt →
      ∃ x, m.store.lookup name = some (.number x) ∧
        (x < stop → ∃ v store,
          (Store.assign name (.number (x + 1.0))).run m.store = .ok v store ∧
          m.exec .endMark = .next (movedTo { m with store } (openedAt + 1))) ∧
        (¬ x < stop → m.exec .endMark = .next ((m.withLoops rest).movedTo (m.cursor + 1))) := by
  have hsound := reached.sound (Sound.load limit (Program.ofSource comment source))
  have hdescribed := Reached.describes reached
  have hconsistent := Reached.consistent reached
  refine ⟨?_, ?_, ?_, ?_⟩
  · intro openedAt hblock
    have hkind := hsound.rooted.blocks openedAt hblock
    rw [hsound.program_eq] at hkind
    exact Program.kindAt_ofLines_eq_some.mp hkind
  · intro frame hframe
    have hkind := hsound.rooted.conditionals frame hframe
    rw [hsound.program_eq] at hkind
    exact Program.kindAt_ofLines_eq_some.mp hkind
  · intro frame hframe
    obtain ⟨⟨s, hopener, recalls⟩, counts⟩ := hdescribed frame hframe
    rw [hsound.program_eq] at hopener
    obtain ⟨line, hline, hkind, hread⟩ := Program.statement_ofLines hopener
    rw [recalls.kind] at hkind hread
    exact ⟨line, s, hline, hkind, hread, recalls,
      fun name hname => (counts name hname).lookup hconsistent⟩
  · intro openedAt name start stop rest top nearest
    have counts := (hdescribed _ (top ▸ List.mem_cons_self)).counts name rfl
    obtain ⟨x, value⟩ := counts.lookup hconsistent
    rw [exec_endMark_of_nearest top nearest, closeFor, value]
    dsimp only
    refine ⟨x, rfl, fun below => ?_, fun passed => ?_⟩
    · obtain ⟨v, store, stored⟩ := counts.assign (x + 1.0)
      rw [if_pos below, assignThen_of_ok stored]
      exact ⟨v, store, stored, rfl⟩
    · rw [if_neg passed, popThen_loop top]
      rfl

theorem end_counts_inside_open_conditional :
    let source := "FOR I = 1 TO 2\nIF I == 1\nEND"
    ∃ m name start stop, Reached (ofSource "//" defaultLimit source) m ∧
      m.nesting.conditionals.length = 1 ∧ m.nesting.loops = [.counting 0 name start stop] ∧
      (∃ line s, (Line.ofSource source)[0]? = some line ∧
        Statement.read (.opens .forLoop) line = .ok s ∧
        (LoopFrame.counting 0 name start stop).Recalls s) ∧
      ∃ x, m.store.lookup name = some (.number x) ∧
        (x < stop → ∃ v store,
          (Store.assign name (.number (x + 1.0))).run m.store = .ok v store ∧
          m.exec .endMark = .next (movedTo { m with store } 1)) := by
  intro source
  let m := ((ofSource "//" defaultLimit source).runFor 2).1
  have hreached : Reached (ofSource "//" defaultLimit source) m := by
    have hrun : (ofSource "//" defaultLimit source).runFor 2 = (m, .unfinished) :=
      Prod.ext rfl (by decide +kernel)
    exact (reached_of_runFor hrun (by simp)).1
  obtain ⟨hconditional, hblocks, hloops⟩ : m.nesting.conditionals.length = 1 ∧
      m.nesting.blocks = [] ∧
      m.nesting.loops.map (fun frame => (frame.construct, frame.openedAt)) = [(.forLoop, 0)] := by
    decide +kernel
  obtain ⟨frame, htop, hframe⟩ := List.map_eq_singleton_iff.mp hloops
  obtain ⟨hconstruct, hopened⟩ := Prod.mk.inj hframe
  obtain ⟨name, start, stop, hcounting⟩ := frame.eq_counting hconstruct
  rw [hcounting, hopened] at htop
  have hnearest : m.Nearest 0 := by
    intro block blocks h
    rw [hblocks] at h
    cases h
  obtain ⟨-, -, hdescribed, hend⟩ := frames_describe_lines "//" source defaultLimit m hreached
  obtain ⟨line, s, hline, -, hread, recalls, -⟩ := hdescribed _ (htop ▸ List.mem_cons_self)
  obtain ⟨x, value, hbelow, -⟩ := hend _ _ _ _ _ htop hnearest
  exact ⟨m, name, start, stop, hreached, hconditional, htop, ⟨line, s, hline, hread, recalls⟩, x,
    value, hbelow⟩

end Machine

end Pseudocode
