import Pseudocode.Proofs.Machine.Runs
import Pseudocode.Proofs.Source.Lines

namespace Pseudocode

namespace Fault

@[simp] theorem OfData.line_atLine {fault : Fault} (h : fault.OfData) (line : Int) :
    (fault.atLine line).line = some line := by
  simp [atLine, h.line]

theorem OfData.kind_ne_unclosedConstruct {fault : Fault} (h : fault.OfData) :
    fault.kind ≠ .unclosedConstruct := by
  intro hkind
  have hmem := h.kind
  simp [hkind] at hmem

end Fault

namespace Nesting

theorem innermost_eq_none_iff {nesting : Nesting} :
    nesting.innermost = none ↔
      nesting.blocks = [] ∧ nesting.conditionals = [] ∧ nesting.loops = [] := by
  obtain ⟨blocks, conditionals, loops⟩ := nesting
  cases blocks <;> cases conditionals <;> cases loops <;> simp [innermost, tops]

theorem foldl_later_mem (frame : Frame) (rest : List Frame) :
    rest.foldl later frame ∈ frame :: rest := by
  induction rest generalizing frame with
  | nil => simp
  | cons next rest ih =>
      rw [List.foldl_cons]
      rcases List.mem_cons.mp (ih (later frame next)) with hfirst | hrest
      · rw [hfirst]
        unfold later
        split <;> simp
      · simp [hrest]

theorem innermost_mem_tops {nesting : Nesting} {frame : Frame}
    (h : nesting.innermost = some frame) : frame ∈ nesting.tops := by
  unfold innermost at h
  split at h
  · cases h
  · next first rest htops =>
      cases h
      rw [htops]
      exact foldl_later_mem first rest

theorem mem_frames_of_innermost {nesting : Nesting} {frame : Frame}
    (h : nesting.innermost = some frame) : frame ∈ nesting.frames frame.stack := by
  have hmem := innermost_mem_tops h
  simp only [tops, List.mem_append, Option.mem_toList, Option.map_eq_some_iff] at hmem
  rcases hmem with (⟨line, htop, rfl⟩ | ⟨conditional, htop, rfl⟩) | ⟨loop, htop, rfl⟩
  all_goals exact List.mem_map_of_mem (List.mem_of_head? htop)

end Nesting

namespace Machine

/-- Every frame was opened at a line of its own construct. -/
structure Rooted (m : Machine) : Prop where
  blocks : ∀ line ∈ m.nesting.blocks, m.program.kindAt line = some (.opens .block)
  conditionals : ∀ frame ∈ m.nesting.conditionals,
    m.program.kindAt frame.openedAt = some (.opens .conditional)
  loops : ∀ frame ∈ m.nesting.loops,
    m.program.kindAt frame.openedAt = some (.opens frame.construct)

theorem Rooted.innermost {m : Machine} (h : m.Rooted) {frame : Frame}
    (hframe : m.nesting.innermost = some frame) :
    m.program.kindAt frame.openedAt = some (.opens frame.construct) := by
  have hmem := Nesting.innermost_mem_tops hframe
  simp only [Nesting.tops, List.mem_append, Option.mem_toList, Option.map_eq_some_iff] at hmem
  rcases hmem with (⟨line, hline, rfl⟩ | ⟨conditional, htop, rfl⟩) | ⟨loop, htop, rfl⟩
  · exact h.blocks line (List.mem_of_head? hline)
  · exact h.conditionals conditional (List.mem_of_head? htop)
  · exact h.loops loop (List.mem_of_head? htop)

theorem Rooted.conditionals_cons {m : Machine} (h : m.Rooted) {frame : IfFrame}
    {rest : List IfFrame} (top : m.nesting.conditionals = frame :: rest) :
    m.program.kindAt frame.openedAt = some (.opens .conditional) ∧
      ∀ frame ∈ rest, m.program.kindAt frame.openedAt = some (.opens .conditional) :=
  List.forall_mem_cons.mp (top ▸ h.conditionals)

theorem Rooted.loops_cons {m : Machine} (h : m.Rooted) {frame : LoopFrame}
    {rest : List LoopFrame} (top : m.nesting.loops = frame :: rest) :
    m.program.kindAt frame.openedAt = some (.opens frame.construct) ∧
      ∀ frame ∈ rest, m.program.kindAt frame.openedAt = some (.opens frame.construct) :=
  List.forall_mem_cons.mp (top ▸ h.loops)

theorem Rooted.effect {m m₁ : Machine} {s : Statement} (h : m.Rooted)
    (hkind : m.program.kindAt m.cursor = some s.kind) (effect : Effect m s m₁) : m₁.Rooted := by
  cases effect with
  | blockOpened => exact { h with blocks := List.forall_mem_cons.mpr ⟨hkind, h.blocks⟩ }
  | written text => exact { h with }
  | assigned evaluated stored => exact { h with }
  | ifTrue holds =>
      exact { h with conditionals := List.forall_mem_cons.mpr ⟨hkind, h.conditionals⟩ }
  | ifElse fails target mark =>
      exact { h with conditionals := List.forall_mem_cons.mpr ⟨hkind, h.conditionals⟩ }
  | ifSkipped fails target mark => exact { h with }
  | ifUnclosed fails target =>
      exact { h with conditionals := List.forall_mem_cons.mpr ⟨hkind, h.conditionals⟩ }
  | elseEntered top fresh wasFalse =>
      obtain ⟨htop, hrest⟩ := h.conditionals_cons top
      exact { h with conditionals := List.forall_mem_cons.mpr ⟨htop, hrest⟩ }
  | elseSkipped top fresh wasTrue target =>
      exact { h with conditionals := (h.conditionals_cons top).2 }
  | elseUnclosed top fresh wasTrue target => exact { h with }
  | ifLeft top => exact { h with conditionals := (h.conditionals_cons top).2 }
  | forOpened startsAt stopsAt stored =>
      exact { h with loops := List.forall_mem_cons.mpr ⟨hkind, h.loops⟩ }
  | forAgain top nearest value below stored => exact { h with }
  | forLeft top nearest reached => exact { h with loops := (h.loops_cons top).2 }
  | blockLeft top nearest =>
      exact { h with blocks := (List.forall_mem_cons.mp (top ▸ h.blocks)).2 }
  | whileOpened holds => exact { h with loops := List.forall_mem_cons.mpr ⟨hkind, h.loops⟩ }
  | whileSkipped fails target => exact { h with }
  | whileUnclosed fails target => exact { h with }
  | whileAgain top holds => exact { h with loops := (h.loops_cons top).2 }
  | whileLeft top fails => exact { h with loops := (h.loops_cons top).2 }
  | repeatOpened fresh => exact { h with loops := List.forall_mem_cons.mpr ⟨hkind, h.loops⟩ }
  | repeatAgain top => exact { h with }
  | untilLeft top within holds => exact { h with loops := (h.loops_cons top).2 }
  | untilAgain top within fails =>
      obtain ⟨htop, hrest⟩ := h.loops_cons top
      exact { h with loops := List.forall_mem_cons.mpr ⟨htop, hrest⟩ }

/-- What holds of every state of a run before it fails. -/
structure Sound (program : Program) (m : Machine) : Prop where
  program_eq : m.program = program
  settled : m.Settled
  rooted : m.Rooted
  ended : m.finished = true →
    m.nesting.blocks = [] ∧ m.nesting.conditionals = [] ∧ m.nesting.loops = []

theorem sound_of_advance {program : Program} {m m' : Machine} (hprogram : m.program = program)
    (hrunning : m.finished = false) (hrooted : m.Rooted) (h : m.advance = .next m') :
    Sound program m' := by
  have hsettled := settled_of_advance h
  obtain ⟨-, rfl⟩ | ⟨-, hnone, rfl⟩ := advance_eq_next h
  · refine ⟨hprogram, hsettled, { hrooted with }, fun hfinished => ?_⟩
    exact absurd (hrunning.symm.trans hfinished) (by simp)
  · exact ⟨hprogram, hsettled, { hrooted with }, fun _ => Nesting.innermost_eq_none_iff.mp hnone⟩

theorem Sound.load (limit : RepeatLimit) (program : Program) :
    Sound program (Machine.load limit program) := by
  refine sound_of_advance rfl rfl ?_ (advance_load limit program)
  constructor <;> simp

theorem running_of_effect {m m₁ : Machine} {s : Statement} (effect : Effect m s m₁) :
    m₁.program = m.program ∧ m₁.finished = m.finished := by
  cases effect <;> exact ⟨rfl, rfl⟩

theorem Sound.step {program : Program} {m m' : Machine} (h : Sound program m)
    (hstep : m.step = .next m') : Sound program m' := by
  obtain ⟨-, rfl⟩ | ⟨hrunning, s, m₁, hs, heffect, hadvance⟩ := step_eq_next hstep
  · exact h
  · obtain ⟨hprogram, hfinished⟩ := running_of_effect heffect
    have hrooted := h.rooted.effect (Program.kindAt_of_statement hs) heffect
    exact sound_of_advance (m := m₁.count) (hprogram.trans h.program_eq)
      (hfinished.trans hrunning) { hrooted with } hadvance

theorem Reached.sound {program : Program} {start m : Machine} (hstart : Sound program start)
    (h : Reached start m) : Sound program m := by
  induction h with
  | start => exact hstart
  | step _ next ih => exact ih.step next

theorem refusal_line {m m' : Machine} {s : Statement} {fault : Fault}
    (h : Refusal m s fault m') :
    fault.kind ≠ .unclosedConstruct ∧ fault.line = some (m.cursor : Int) := by
  have hdata : ∀ {cause : Fault}, cause.OfData →
      (cause.atLine m.cursor).kind ≠ .unclosedConstruct ∧
        (cause.atLine m.cursor).line = some (m.cursor : Int) := fun ofData =>
    ⟨by rw [Fault.atLine_kind]; exact ofData.kind_ne_unclosedConstruct, ofData.line_atLine _⟩
  cases h with
  | data kept ofData => exact hdata ofData
  | endWhileData top fails => exact hdata (Fault.ofData_of_condition fails)
  | untilData top within fails => exact hdata (Fault.ofData_of_condition fails)
  | _ => exact ⟨by simp, rfl⟩

/-- A step fails with a fault at its own line, or with an open construct at the line of its
opener. -/
theorem Sound.fault {program : Program} {m m' : Machine} {trouble : Trouble}
    (h : Sound program m) (located : program.Located) (hstep : m.step = .failed trouble m') :
    ∃ fault, trouble = .fault fault ∧
      ((fault.kind ≠ .unclosedConstruct ∧ fault.line = some (m.cursor : Int) ∧
          m.cursor < program.length) ∨
        ∃ construct openedAt, fault = unclosed construct openedAt ∧
          program.kindAt openedAt = some (.opens construct)) := by
  obtain rfl := h.program_eq
  obtain ⟨-, ⟨kind, fault, hline, rfl, -⟩ | ⟨s, hs, hrefused⟩⟩ := step_eq_failed h.settled hstep
  · obtain ⟨cause, ofData, rfl⟩ := located _ _ _ hline
    refine ⟨_, rfl, .inl ⟨?_, ofData.line_atLine _, Program.lt_length_of_statement hline⟩⟩
    rw [Fault.atLine_kind]
    exact ofData.kind_ne_unclosedConstruct
  · obtain ⟨fault, rfl, hrefusal⟩ | ⟨m₁, heffect, hadvance⟩ := hrefused
    · obtain ⟨hkind, hline⟩ := refusal_line hrefusal
      exact ⟨fault, rfl, .inl ⟨hkind, hline, Program.lt_length_of_statement hs⟩⟩
    · have hrooted := h.rooted.effect (Program.kindAt_of_statement hs) heffect
      obtain ⟨-, frame, hframe, rfl⟩ := advance_eq_failed hadvance
      refine ⟨_, rfl, .inr ⟨frame.construct, frame.openedAt, rfl, ?_⟩⟩
      rw [← (running_of_effect heffect).1]
      exact hrooted.innermost hframe

theorem Sound.fault_line_lt {program : Program} {m m' : Machine} {fault : Fault} {line : Nat}
    (h : Sound program m) (located : program.Located)
    (hstep : m.step = .failed (.fault fault) m') (hline : fault.line = some (line : Int)) :
    line < program.length := by
  obtain ⟨_, hfault, ⟨-, hcursor, hlt⟩ | ⟨construct, openedAt, rfl, hopener⟩⟩ :=
    h.fault located hstep
  · cases hfault
    rw [hline] at hcursor
    cases hcursor
    exact hlt
  · cases hfault
    cases hline
    exact Program.lt_length_of_kindAt hopener

/-- Before its first failure every run is finished with nothing open or is at a line that announces
a statement, so that a step fails only by a fault. A run that fails names a line of the source text
in its message: the opener of the construct that is not closed, or the statement that failed. -/
theorem run_fails_by_fault_at_line (comment source : String) (limit : RepeatLimit) :
    (∀ m, Reached (ofSource comment limit source) m →
      ((m.finished = true ∧
          m.nesting.blocks = [] ∧ m.nesting.conditionals = [] ∧ m.nesting.loops = []) ∨
        (m.finished = false ∧ ∃ line kind, (Line.ofSource source)[m.cursor]? = some line ∧
          line.kind comment = .statement kind)) ∧
      ∀ trouble m', m.step = .failed trouble m' → ∃ fault, trouble = .fault fault) ∧
    (∀ steps m' trouble,
      (ofSource comment limit source).runFor steps = (m', .failed trouble) →
      ∃ (m : Machine) (fault : Fault) (line : Nat), Reached (ofSource comment limit source) m ∧
        m.step = .failed trouble m' ∧ trouble = .fault fault ∧
        fault.line = some (line : Int) ∧ line < (Line.ofSource source).length ∧
        fault.message = fault.kind.name ++ ": " ++ fault.detail ++ " at line " ++
          Decimal.integer ((line : Int) + 1) ∧
        (fault.kind = .unclosedConstruct → ∃ construct opener,
          fault.detail = "Missing " ++ construct.closer ++ " for " ++ construct.opener ∧
          (Line.ofSource source)[line]? = some opener ∧
          opener.kind comment = .statement (.opens construct)) ∧
        (fault.kind ≠ .unclosedConstruct → line = m.cursor)) := by
  have hstart : Sound (Program.ofSource comment source) (ofSource comment limit source) :=
    Sound.load limit _
  have located : (Program.ofSource comment source).Located :=
    Program.located_ofLines comment (Line.counted_mapIdx _)
  have hlength : (Program.ofSource comment source).length = (Line.ofSource source).length :=
    Program.length_ofLines _ _
  refine ⟨fun m hm => ⟨?_, fun trouble m' => exists_fault_of_step (hm.sound hstart).settled⟩, ?_⟩
  · have hsound := hm.sound hstart
    cases hfinished : m.finished with
    | true => exact .inl ⟨rfl, hsound.ended hfinished⟩
    | false =>
        right
        obtain hdone | hkind := hsound.settled
        · rw [hfinished] at hdone
          cases hdone
        · obtain ⟨kind, hkind⟩ := Option.isSome_iff_exists.mp hkind
          rw [hsound.program_eq, Program.ofSource, Program.kindAt_ofLines_eq_some] at hkind
          obtain ⟨line, hline, hkind⟩ := hkind
          exact ⟨rfl, line, kind, hline, hkind⟩
  · intro steps m' trouble hrun
    obtain ⟨m, hm, hstep⟩ := reached_of_runFor_failed hrun
    obtain ⟨fault, rfl, hfault⟩ := (hm.sound hstart).fault located hstep
    rcases hfault with ⟨hkind, hline, hlt⟩ | ⟨construct, openedAt, rfl, hopener⟩
    · refine ⟨m, fault, m.cursor, hm, hstep, rfl, hline, hlength ▸ hlt, ?_,
        fun h => absurd h hkind, fun _ => rfl⟩
      rw [Fault.message, hline]
    · obtain ⟨opener, hget, hkind⟩ := Program.kindAt_ofLines_eq_some.mp hopener
      refine ⟨m, _, openedAt, hm, hstep, rfl, rfl, ?_, rfl,
        fun _ => ⟨construct, opener, rfl, hget, hkind⟩, fun h => absurd rfl h⟩
      exact hlength ▸ Program.lt_length_of_kindAt hopener

theorem unclosed_conditional_fails_at_opener :
    let source := "FOR I = 1 TO 2\nBEGIN\nIF I > 5\nOUTPUT I"
    ∃ steps m' fault,
      (ofSource "//" defaultLimit source).runFor steps = (m', .failed (.fault fault)) ∧
      fault.kind = .unclosedConstruct ∧ ∃ (line : Nat) (construct : Construct) (opener : Line),
        fault.line = some (line : Int) ∧
        fault.message = fault.kind.name ++ ": " ++ fault.detail ++ " at line " ++
          Decimal.integer ((line : Int) + 1) ∧
        (Line.ofSource source)[line]? = some opener ∧
        opener.kind "//" = .statement (.opens construct) := by
  intro source
  have hends : ((ofSource "//" defaultLimit source).runFor 3).2 =
      .failed (.fault ⟨.unclosedConstruct, "Missing ENDIF for IF", some 2⟩) := by
    decide +kernel
  obtain ⟨m', hrun⟩ : ∃ m', (ofSource "//" defaultLimit source).runFor 3 =
      (m', .failed (.fault ⟨.unclosedConstruct, "Missing ENDIF for IF", some 2⟩)) := by
    rw [← hends]
    exact ⟨_, rfl⟩
  obtain ⟨-, hfails⟩ := run_fails_by_fault_at_line "//" source defaultLimit
  obtain ⟨m, fault, line, -, -, hfault, hline, -, hmessage, hopener, -⟩ := hfails 3 m' _ hrun
  obtain rfl := Trouble.fault.inj hfault
  obtain ⟨construct, opener, -, hget, hkind⟩ := hopener rfl
  exact ⟨3, m', _, hrun, rfl, line, construct, opener, hline, hmessage, hget, hkind⟩

end Machine

end Pseudocode
