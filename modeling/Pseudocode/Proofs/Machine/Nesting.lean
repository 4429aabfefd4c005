import Pseudocode.Proofs.Machine.Frames
import Pseudocode.Proofs.Outline.Scan

/-!
What a statement does to the frames, against the outline of its program. The machine keeps frames
for the statements that it carries out, the outline keeps constructs open over the text. In a
program whose lines fit, every statement that takes effect keeps the two in step, unless it skips a
construct that is never closed and so comes to the end of the program.
-/

namespace Pseudocode

open Outline

namespace Machine

/-- The frames stand for what is open before the cursor, and for the loop at the cursor if an
`UNTIL` has gone back to it. -/
def Stands (m : Machine) (rewound : Bool) : Prop :=
  m.nesting.Represents
      ((if rewound then [(.repeatLoop, m.cursor)] else []) ++ m.program.openBefore m.cursor) ∧
    (rewound = true → m.program.kindAt m.cursor = some (.opens .repeatLoop))

theorem stands_plain {m : Machine} {P : Prop} [Decidable P] (hP : ¬ P)
    (h : m.nesting.Represents (m.program.openBefore m.cursor)) : m.Stands (decide P) := by
  rw [decide_eq_false hP]
  exact ⟨by simpa using h, by simp⟩

/-- A statement has skipped a construct that is never closed, up to the end of the program. A
conditional stays open then, a `WHILE` loop leaves no frame. -/
inductive SkipsToEnd (m : Machine) : Statement → Machine → Prop where
  | conditional {s : Statement} {m₁ : Machine} {openedAt : Nat} {outer : OpenConstructs}
      (program_eq : m₁.program = m.program) (atEnd : m₁.cursor = m.program.length)
      (represents : m₁.nesting.Represents ((.conditional, openedAt) :: outer))
      (left : (.conditional, openedAt) :: outer <:+ m.program.openBefore m.program.length) :
      SkipsToEnd m s m₁
  | whileLoop {condition : String} (fails : Condition.evaluate m.store condition = .ok false)
      (represents : m.nesting.Represents (m.program.openBefore m.cursor))
      (left : (.whileLoop, m.cursor) :: m.program.openBefore m.cursor <:+
        m.program.openBefore m.program.length) :
      SkipsToEnd m (.whileLoop condition) (m.movedTo m.program.length)

section Fits

variable {m : Machine} (fits : m.program.Fits)
include fits

theorem elseOrEndIf_cases {found : Option Nat}
    (hkind : m.program.kindAt m.cursor = some (.opens .conditional))
    (target : m.elseOrEndIf = found) :
    (found = none ∧ (.conditional, m.cursor) :: m.program.openBefore m.cursor <:+
      m.program.openBefore m.program.length) ∨
    ∃ line, found = some line ∧ m.cursor < line ∧
      m.program.openBefore line =
        (.conditional, m.cursor) :: m.program.openBefore m.cursor ∧
      (m.program.kindAt line = some .elseMark ∨ m.program.kindAt line = some .endIf) := by
  obtain ⟨hscan, hleft⟩ | ⟨line, kind, hscan, hlt, hopen, hline, hstop⟩ :=
    Program.scan_cases fits (some .elseMark) Construct.conditional_closedAlone
      (fun kind h => ⟨by simpa using h, rfl⟩) (Program.openBefore_succ_opens fits hkind)
  · exact .inl ⟨target.symm.trans hscan, hleft⟩
  · refine .inr ⟨line, target.symm.trans hscan, hlt, hopen, ?_⟩
    rcases hstop with rfl | hmark
    · exact .inr hline
    · rw [hline, hmark]
      exact .inl rfl

theorem matchingEndIf_cases {found : Option Nat} {openedAt : Nat} {outer : OpenConstructs}
    (hkind : m.program.kindAt m.cursor = some .elseMark)
    (hopen : m.program.openBefore m.cursor = (.conditional, openedAt) :: outer)
    (target : m.matchingEndIf = found) :
    (found = none ∧
      (.conditional, openedAt) :: outer <:+ m.program.openBefore m.program.length) ∨
    ∃ line, found = some line ∧ m.cursor < line ∧
      m.program.openBefore line = (.conditional, openedAt) :: outer ∧
      m.program.kindAt line = some .endIf := by
  obtain ⟨hscan, hleft⟩ | ⟨line, kind, hscan, hlt, hopen, hline, rfl | hmark⟩ :=
    Program.scan_cases fits none Construct.conditional_closedAlone
      (fun kind h => by cases h)
      ((Program.openBefore_succ_else fits hkind).1.trans hopen)
  · exact .inl ⟨target.symm.trans hscan, hleft⟩
  · exact .inr ⟨line, target.symm.trans hscan, hlt, hopen, hline⟩
  · cases hmark

theorem matchingEndWhile_cases {found : Option Nat}
    (hkind : m.program.kindAt m.cursor = some (.opens .whileLoop))
    (target : m.matchingEndWhile = found) :
    (found = none ∧ (.whileLoop, m.cursor) :: m.program.openBefore m.cursor <:+
      m.program.openBefore m.program.length) ∨
    ∃ line, found = some line ∧ m.cursor < line ∧
      m.program.openBefore line =
        (.whileLoop, m.cursor) :: m.program.openBefore m.cursor ∧
      m.program.kindAt line = some .endWhile := by
  obtain ⟨hscan, hleft⟩ | ⟨line, kind, hscan, hlt, hopen, hline, rfl | hmark⟩ :=
    Program.scan_cases fits none Construct.whileLoop_closedAlone
      (fun kind h => by cases h) (Program.openBefore_succ_opens fits hkind)
  · exact .inl ⟨target.symm.trans hscan, hleft⟩
  · exact .inr ⟨line, target.symm.trans hscan, hlt, hopen, hline⟩
  · cases hmark

theorem openBefore_behind {line openedAt : Nat} (construct : Construct) {outer : OpenConstructs}
    (hkind : m.program.kindAt line = some construct.closingKind)
    (hopen : m.program.openBefore line = (construct, openedAt) :: outer) :
    m.program.openBefore (line + 1) = outer := by
  obtain ⟨construct', openedAt', hbefore, -⟩ :=
    Program.openBefore_succ_close fits construct hkind
  rw [hopen, List.cons.injEq] at hbefore
  exact hbefore.2.symm

theorem openBefore_endMark (hkind : m.program.kindAt m.cursor = some .endMark) :
    ∃ construct openedAt, (construct = .forLoop ∨ construct = .block) ∧
      m.program.openBefore m.cursor =
        (construct, openedAt) :: m.program.openBefore (m.cursor + 1) := by
  obtain ⟨construct, openedAt, hopen, hcloses⟩ :=
    Program.openBefore_succ_close fits .forLoop hkind
  refine ⟨construct, openedAt, ?_, hopen⟩
  cases construct <;> simp [Construct.closingKind] at hcloses ⊢

theorem openBefore_end_of_nearest (hm : m.nesting.Represents (m.program.openBefore m.cursor))
    (hkind : m.program.kindAt m.cursor = some .endMark) {openedAt : Nat} {name : String}
    {start stop : Float} {rest : List LoopFrame}
    (top : m.nesting.loops = .counting openedAt name start stop :: rest)
    (nearest : m.Nearest openedAt) :
    m.program.openBefore m.cursor =
      (.forLoop, openedAt) :: m.program.openBefore (m.cursor + 1) := by
  obtain ⟨construct, openedAt', hconstruct, hopen⟩ := openBefore_endMark fits hkind
  rcases hconstruct with rfl | rfl
  · rw [hopen] at hm
    obtain ⟨frame, rest', htop, -, rfl⟩ := hm.loop_top rfl
    rw [top] at htop
    cases htop
    exact hopen
  · have hmem := hm.loop_mem (.counting openedAt name start stop) (by simp [top])
    rw [hopen] at hm hmem
    obtain ⟨blocks, hblocks⟩ := hm.block_top
    have hinside := nearest _ _ hblocks
    have houter : (.forLoop, openedAt) ∈ m.program.openBefore (m.cursor + 1) := by
      simpa [LoopFrame.construct, LoopFrame.openedAt] using hmem
    have hlt : openedAt < openedAt' := Program.openBefore_outer_lt hopen houter
    omega

theorem openBefore_end_of_block (hm : m.nesting.Represents (m.program.openBefore m.cursor))
    (hkind : m.program.kindAt m.cursor = some .endMark) {block : Nat} {blocks : List Nat}
    (top : m.nesting.blocks = block :: blocks)
    (nearest : ∀ openedAt name start stop rest,
      m.nesting.loops = .counting openedAt name start stop :: rest → openedAt ≤ block) :
    m.program.openBefore m.cursor = (.block, block) :: m.program.openBefore (m.cursor + 1) := by
  obtain ⟨construct, openedAt, hconstruct, hopen⟩ := openBefore_endMark fits hkind
  rcases hconstruct with rfl | rfl
  · have hmem := hm.block_mem block (by simp [top])
    rw [hopen] at hm hmem
    obtain ⟨frame, rest, htop, hfor, rfl⟩ := hm.loop_top rfl
    obtain ⟨name, start, stop, hframe⟩ := frame.eq_counting hfor
    rw [hframe] at htop
    have hinside := nearest _ _ _ _ _ htop
    have hlt : block < frame.openedAt :=
      Program.openBefore_outer_lt hopen (by simpa using hmem)
    omega
  · rw [hopen] at hm
    obtain ⟨blocks', hblocks⟩ := hm.block_top
    rw [top] at hblocks
    cases hblocks
    exact hopen

theorem exists_loop_top (hm : m.nesting.Represents (m.program.openBefore m.cursor))
    {construct : Construct} (hstack : construct.stack = .loop) (halone : construct.ClosedAlone)
    (hkind : m.program.kindAt m.cursor = some construct.closingKind) :
    ∃ frame rest, m.nesting.loops = frame :: rest ∧ frame.construct = construct ∧
      m.program.openBefore m.cursor =
        (construct, frame.openedAt) :: m.program.openBefore (m.cursor + 1) := by
  obtain ⟨construct', openedAt, hopen, hcloses⟩ :=
    Program.openBefore_succ_close fits construct hkind
  obtain rfl := halone construct' hcloses.symm
  rw [hopen] at hm
  obtain ⟨frame, rest, htop, hconstruct, rfl⟩ := hm.loop_top hstack
  exact ⟨frame, rest, htop, hconstruct, hopen⟩

theorem openBefore_loop_end (hm : m.nesting.Represents (m.program.openBefore m.cursor))
    {construct : Construct} (hstack : construct.stack = .loop) (halone : construct.ClosedAlone)
    (hkind : m.program.kindAt m.cursor = some construct.closingKind) {frame : LoopFrame}
    {rest : List LoopFrame} (top : m.nesting.loops = frame :: rest) :
    m.program.openBefore m.cursor =
      (construct, frame.openedAt) :: m.program.openBefore (m.cursor + 1) := by
  obtain ⟨frame', rest', htop, -, hopen⟩ := exists_loop_top fits hm hstack halone hkind
  rw [top] at htop
  cases htop
  exact hopen

theorem openBefore_conditional_top {frames : List IfFrame}
    (hm : m.nesting.Represents (m.program.openBefore m.cursor))
    (hkind : m.program.kindAt m.cursor = some .elseMark ∨
      m.program.kindAt m.cursor = some .endIf)
    (top : m.nesting.conditionals = frames) :
    ∃ frame rest outer, frames = frame :: rest ∧
      m.program.openBefore m.cursor = (.conditional, frame.openedAt) :: outer := by
  have hopen : ∃ openedAt outer,
      m.program.openBefore m.cursor = (.conditional, openedAt) :: outer := by
    rcases hkind with hkind | hkind
    · exact (Program.openBefore_succ_else fits hkind).2
    · obtain ⟨construct, openedAt, hopen, hcloses⟩ :=
        Program.openBefore_succ_close fits .conditional hkind
      obtain rfl := Construct.conditional_closedAlone construct hcloses.symm
      exact ⟨_, _, hopen⟩
  obtain ⟨openedAt, outer, hopen⟩ := hopen
  rw [hopen] at hm
  obtain ⟨frame, rest, htop, rfl⟩ := hm.conditional_top
  exact ⟨frame, rest, outer, top.symm.trans htop, hopen⟩

/-- A statement other than `REPEAT` and `UNTIL` keeps the frames in step with the outline. -/
theorem represents_of_effect (hm : m.nesting.Represents (m.program.openBefore m.cursor))
    {s : Statement} {m₁ : Machine} (hkind : m.program.kindAt m.cursor = some s.kind)
    (hrepeat : s.kind ≠ .opens .repeatLoop) (huntil : s.kind ≠ .untilMark)
    (effect : Effect m s m₁) :
    m₁.nesting.Represents (m.program.openBefore m₁.cursor) ∨ m.SkipsToEnd s m₁ := by
  cases effect with
  | blockOpened =>
      left
      rw [movedTo_cursor, Program.openBefore_succ_opens fits hkind]
      exact hm.push (.block m.cursor)
  | written text =>
      left
      rw [movedTo_cursor, Program.openBefore_succ_plain fits hkind (.inl rfl)]
      exact hm
  | assigned evaluated stored =>
      left
      rw [movedTo_cursor, Program.openBefore_succ_plain fits hkind (.inr rfl)]
      exact hm
  | ifTrue holds =>
      left
      rw [movedTo_cursor, Program.openBefore_succ_opens fits hkind]
      exact hm.push (.conditional ⟨m.cursor, true, false⟩)
  | ifElse fails target mark =>
      left
      obtain ⟨⟨⟩, -⟩ | ⟨line, ⟨⟩, -, hopen, -⟩ := elseOrEndIf_cases fits hkind target
      rw [movedTo_cursor, (Program.openBefore_succ_else fits mark).1, hopen]
      exact hm.push (.conditional ⟨m.cursor, false, true⟩)
  | ifSkipped fails target mark =>
      left
      obtain ⟨⟨⟩, -⟩ | ⟨line, ⟨⟩, -, hopen, hstop⟩ := elseOrEndIf_cases fits hkind target
      rw [movedTo_cursor,
        openBefore_behind fits .conditional (hstop.resolve_left mark) hopen]
      exact hm
  | ifUnclosed fails target =>
      obtain ⟨-, hleft⟩ | ⟨line, ⟨⟩, -⟩ := elseOrEndIf_cases fits hkind target
      exact .inr (.conditional rfl rfl (hm.push (.conditional ⟨m.cursor, false, false⟩)) hleft)
  | elseEntered top fresh wasFalse =>
      left
      rw [movedTo_cursor, (Program.openBefore_succ_else fits hkind).1]
      refine hm.congr ?_
      intro stack
      cases stack with
      | block => rfl
      | loop => rfl
      | conditional => simp [withConditionals, Nesting.frames, top, Frame.entry, Frame.construct,
          Frame.openedAt]
  | elseSkipped top fresh wasTrue target =>
      left
      obtain ⟨frame, rest, outer, -, hopen⟩ :=
        openBefore_conditional_top fits hm (.inl hkind) top
      obtain ⟨⟨⟩, -⟩ | ⟨line, ⟨⟩, -, hopen', hend⟩ := matchingEndIf_cases fits hkind hopen target
      rw [movedTo_cursor, openBefore_behind fits .conditional hend hopen']
      rw [hopen] at hm
      exact represents_conditional_left top hm
  | elseUnclosed top fresh wasTrue target =>
      obtain ⟨frame, rest, outer, -, hopen⟩ :=
        openBefore_conditional_top fits hm (.inl hkind) top
      obtain ⟨-, hleft⟩ | ⟨line, ⟨⟩, -⟩ := matchingEndIf_cases fits hkind hopen target
      exact .inr (.conditional rfl rfl (hopen ▸ hm) hleft)
  | ifLeft top =>
      left
      obtain ⟨frame, rest, outer, -, hopen⟩ :=
        openBefore_conditional_top fits hm (.inr hkind) top
      rw [movedTo_cursor, openBefore_behind fits .conditional hkind hopen]
      rw [hopen] at hm
      exact represents_conditional_left top hm
  | forOpened startsAt stopsAt stored =>
      left
      rw [movedTo_cursor, Program.openBefore_succ_opens fits hkind]
      exact hm.push (.loop (.counting m.cursor _ _ _))
  | forAgain top nearest value below stored =>
      left
      have hopen := openBefore_end_of_nearest fits hm hkind top nearest
      rw [movedTo_cursor, (Program.openBefore_reopened fits hopen).2, ← hopen]
      exact hm
  | forLeft top nearest reached =>
      left
      rw [openBefore_end_of_nearest fits hm hkind top nearest] at hm
      exact represents_loop_left rfl top hm
  | blockLeft top nearest =>
      left
      rw [openBefore_end_of_block fits hm hkind top nearest] at hm
      exact represents_block_left top hm
  | whileOpened holds =>
      left
      rw [movedTo_cursor, Program.openBefore_succ_opens fits hkind]
      exact hm.push (.loop (.whileLoop m.cursor _))
  | whileSkipped fails target =>
      left
      obtain ⟨⟨⟩, -⟩ | ⟨line, ⟨⟩, -, hopen, hend⟩ := matchingEndWhile_cases fits hkind target
      rw [movedTo_cursor, openBefore_behind fits .whileLoop hend hopen]
      exact hm
  | whileUnclosed fails target =>
      obtain ⟨-, hleft⟩ | ⟨line, ⟨⟩, -⟩ := matchingEndWhile_cases fits hkind target
      exact .inr (.whileLoop fails hm hleft)
  | @whileAgain openedAt condition rest top holds =>
      left
      have hopen : m.program.openBefore m.cursor = (.whileLoop, openedAt) :: _ :=
        openBefore_loop_end fits hm rfl Construct.whileLoop_closedAlone hkind top
      rw [movedTo_cursor, (Program.openBefore_reopened fits hopen).1]
      rw [hopen] at hm
      exact represents_loop_left rfl top hm
  | whileLeft top fails =>
      left
      have hopen := openBefore_loop_end fits hm rfl Construct.whileLoop_closedAlone hkind top
      rw [hopen] at hm
      exact represents_loop_left rfl top hm
  | repeatOpened fresh => exact absurd rfl hrepeat
  | repeatAgain top => exact absurd rfl hrepeat
  | untilLeft top within holds => exact absurd rfl huntil
  | untilAgain top within fails => exact absurd rfl huntil

theorem represents_of_repeat {rewound : Bool} (hm : m.Stands rewound) {m₁ : Machine}
    (hkind : m.program.kindAt m.cursor = some (.opens .repeatLoop))
    (effect : Effect m .repeatLoop m₁) :
    m₁.nesting.Represents (m.program.openBefore m₁.cursor) := by
  obtain ⟨hframes, -⟩ := hm
  cases effect with
  | repeatOpened fresh =>
      rw [movedTo_cursor, Program.openBefore_succ_opens fits hkind]
      cases rewound with
      | false =>
          have hplain : m.nesting.Represents (m.program.openBefore m.cursor) := by
            simpa using hframes
          exact hplain.push (.loop (.repeatLoop m.cursor 0))
      | true =>
          obtain ⟨frame, rest, htop, hrepeat, hline⟩ := hframes.loop_top rfl
          obtain ⟨count, hframe⟩ := frame.eq_repeatLoop hrepeat
          rw [hframe, hline] at htop
          exact absurd htop (fresh count rest)
  | @repeatAgain count rest top =>
      rw [movedTo_cursor, Program.openBefore_succ_opens fits hkind]
      cases rewound with
      | true => exact hframes
      | false =>
          have hmem := hframes.loop_mem (.repeatLoop m.cursor count) (by simp [top])
          exact absurd (Program.lt_of_mem_openBefore hmem) (Nat.lt_irrefl _)

theorem stands_of_until (hm : m.nesting.Represents (m.program.openBefore m.cursor))
    {condition : String} {m₁ : Machine} (hkind : m.program.kindAt m.cursor = some .untilMark)
    (effect : Effect m (.untilMark condition) m₁) :
    m₁.Stands (decide (m₁.cursor < m.cursor)) := by
  cases effect with
  | untilLeft top within holds =>
      rw [openBefore_loop_end fits hm rfl Construct.repeatLoop_closedAlone hkind top] at hm
      exact stands_plain (Nat.not_lt.mpr (Nat.le_succ _)) (represents_loop_left rfl top hm)
  | @untilAgain _ openedAt count rest top within fails =>
      have hopen : m.program.openBefore m.cursor = (.repeatLoop, openedAt) :: _ :=
        openBefore_loop_end fits hm rfl Construct.repeatLoop_closedAlone hkind top
      obtain ⟨hlt, hline, houter, -⟩ := Program.openBefore_suffix ⟨[], hopen.symm⟩
      rw [movedTo_cursor, decide_eq_true hlt]
      refine ⟨?_, fun _ => hline⟩
      change Nesting.Represents _ ((.repeatLoop, openedAt) :: m.program.openBefore openedAt)
      rw [houter, ← hopen]
      refine hm.congr ?_
      intro stack
      cases stack with
      | block => rfl
      | conditional => rfl
      | loop => simp [withLoops, Nesting.frames, top, Frame.entry, Frame.construct, Frame.openedAt,
          LoopFrame.construct, LoopFrame.openedAt]

end Fits

/-- Every conditional in whose `ELSE` part the run is has an `ELSE` above the cursor. -/
def ElsesPassed (m : Machine) : Prop :=
  ∀ frame ∈ m.nesting.conditionals, frame.elseEntered = true →
    ∃ line, line < m.cursor ∧ m.program.ElseOf frame.openedAt line

theorem ElsesPassed.mono {m m₁ : Machine} (h : m.ElsesPassed) (hprogram : m₁.program = m.program)
    (hframes : ∀ frame ∈ m₁.nesting.conditionals, frame ∈ m.nesting.conditionals)
    (hcursor : m.cursor ≤ m₁.cursor) : m₁.ElsesPassed := by
  intro frame hframe hentered
  obtain ⟨line, hline, helse⟩ := h frame (hframes frame hframe) hentered
  exact ⟨line, by omega, hprogram ▸ helse⟩

theorem elseOf_above_loop {program : Program} {i line openedAt loopAt : Nat}
    {construct : Construct} {outer : OpenConstructs}
    (hopen : program.openBefore i = (construct, loopAt) :: outer)
    (hloop : construct ≠ .conditional) (hmem : (.conditional, openedAt) ∈ outer)
    (helse : program.ElseOf openedAt line) (hline : line < i) : line < loopAt := by
  obtain ⟨helseKind, rest, helseOpen⟩ := helse
  obtain ⟨-, hkind, houter, hsince⟩ := Program.openBefore_suffix ⟨[], hopen.symm⟩
  by_contra hle
  have hne : line ≠ loopAt := by
    rintro rfl
    rw [hkind] at helseKind
    cases helseKind
  have hinside := hsince line (by omega) (by omega)
  have houtside : openedAt < loopAt := Program.openBefore_outer_lt hopen hmem
  rw [helseOpen] at hinside
  rcases List.suffix_cons_iff.mp hinside with heq | hbelow
  · cases heq
    exact hloop rfl
  · have hmem' : (construct, loopAt) ∈ rest := hbelow.subset (by simp)
    have hlt : loopAt < openedAt := Program.openBefore_outer_lt helseOpen hmem'
    omega

/-- Going back to a loop, the run stays behind the lines `ELSE` that it has passed. -/
theorem ElsesPassed.back {m m₁ : Machine} (h : m.ElsesPassed)
    (hm : m.nesting.Represents (m.program.openBefore m.cursor)) {loopAt : Nat}
    {construct : Construct} {outer : OpenConstructs} (hloop : construct ≠ .conditional)
    (hopen : m.program.openBefore m.cursor = (construct, loopAt) :: outer)
    (hprogram : m₁.program = m.program)
    (hframes : m₁.nesting.conditionals = m.nesting.conditionals) (hcursor : loopAt ≤ m₁.cursor) :
    m₁.ElsesPassed := by
  intro frame hframe hentered
  rw [hframes] at hframe
  obtain ⟨line, hline, helse⟩ := h frame hframe hentered
  have hmem := hm.conditional_mem hframe
  rw [hopen] at hmem
  have houter : (.conditional, frame.openedAt) ∈ outer := by
    rcases List.mem_cons.mp hmem with heq | hmem
    · cases heq
      exact absurd rfl hloop
    · exact hmem
  have habove := elseOf_above_loop hopen hloop houter helse hline
  exact ⟨line, by omega, hprogram ▸ helse⟩

section Fits

variable {m : Machine} (fits : m.program.Fits)
include fits

theorem elsesPassed_of_effect (helses : m.ElsesPassed) {s : Statement} {m₁ : Machine}
    (hm : s.kind ≠ .opens .repeatLoop → m.nesting.Represents (m.program.openBefore m.cursor))
    (hkind : m.program.kindAt m.cursor = some s.kind) (effect : Effect m s m₁) :
    m₁.ElsesPassed := by
  -- Most statements move the cursor down. The three that move it up stay in their loop, and every
  -- `ELSE` that was passed on the way into the loop stands above it.
  have hnext : m.cursor ≤ m.cursor + 1 := Nat.le_succ _
  have hlt : m.cursor < m.program.length := Program.lt_length_of_kindAt hkind
  cases effect with
  | blockOpened => exact helses.mono rfl (fun _ h => h) hnext
  | written text => exact helses.mono rfl (fun _ h => h) hnext
  | assigned evaluated stored => exact helses.mono rfl (fun _ h => h) hnext
  | ifTrue holds =>
      intro frame hframe hentered
      rcases List.mem_cons.mp hframe with rfl | hframe
      · cases hentered
      · obtain ⟨line, hline, helse⟩ := helses frame hframe hentered
        exact ⟨line, Nat.lt_succ_of_lt hline, helse⟩
  | ifElse fails target mark =>
      obtain ⟨⟨⟩, -⟩ | ⟨line, ⟨⟩, hlt, hopen, -⟩ := elseOrEndIf_cases fits hkind target
      intro frame hframe hentered
      rcases List.mem_cons.mp hframe with rfl | hframe
      · exact ⟨_, Nat.lt_succ_self _, mark, _, hopen⟩
      · obtain ⟨line', hline', helse⟩ := helses frame hframe hentered
        exact ⟨line', by rw [movedTo_cursor]; omega, helse⟩
  | ifSkipped fails target mark =>
      obtain ⟨⟨⟩, -⟩ | ⟨line, ⟨⟩, hlt, -⟩ := elseOrEndIf_cases fits hkind target
      exact helses.mono rfl (fun _ h => h) (by rw [movedTo_cursor]; omega)
  | ifUnclosed fails target =>
      intro frame hframe hentered
      rcases List.mem_cons.mp hframe with rfl | hframe
      · cases hentered
      · obtain ⟨line, hline, helse⟩ := helses frame hframe hentered
        exact ⟨line, Nat.lt_trans hline hlt, helse⟩
  | elseEntered top fresh wasFalse =>
      obtain ⟨_, _, outer, ⟨⟩, hopen⟩ :=
        openBefore_conditional_top fits (hm (by simp [Statement.kind])) (.inl hkind) top
      intro frame hframe hentered
      rcases List.mem_cons.mp hframe with rfl | hframe
      · exact ⟨m.cursor, Nat.lt_succ_self _, hkind, _, hopen⟩
      · obtain ⟨line, hline, helse⟩ := helses frame (by simp [top, hframe]) hentered
        exact ⟨line, by rw [movedTo_cursor]; omega, helse⟩
  | elseSkipped top fresh wasTrue target =>
      obtain ⟨frame, rest, outer, -, hopen⟩ :=
        openBefore_conditional_top fits (hm (by simp [Statement.kind])) (.inl hkind) top
      obtain ⟨⟨⟩, -⟩ | ⟨line, ⟨⟩, hlt, -⟩ := matchingEndIf_cases fits hkind hopen target
      exact helses.mono rfl (fun _ h => by rw [top]; exact List.mem_cons_of_mem _ h)
        (by rw [movedTo_cursor]; omega)
  | elseUnclosed top fresh wasTrue target => exact helses.mono rfl (fun _ h => h) (Nat.le_of_lt hlt)
  | ifLeft top =>
      exact helses.mono rfl (fun _ h => by rw [top]; exact List.mem_cons_of_mem _ h) hnext
  | forOpened startsAt stopsAt stored => exact helses.mono rfl (fun _ h => h) hnext
  | forAgain top nearest value below stored =>
      have hframes := hm (by simp [Statement.kind])
      exact helses.back hframes (by simp)
        (openBefore_end_of_nearest fits hframes hkind top nearest) rfl rfl (Nat.le_succ _)
  | forLeft top nearest reached => exact helses.mono rfl (fun _ h => h) hnext
  | blockLeft top nearest => exact helses.mono rfl (fun _ h => h) hnext
  | whileOpened holds => exact helses.mono rfl (fun _ h => h) hnext
  | whileSkipped fails target =>
      obtain ⟨⟨⟩, -⟩ | ⟨line, ⟨⟩, hlt, -⟩ := matchingEndWhile_cases fits hkind target
      exact helses.mono rfl (fun _ h => h) (by rw [movedTo_cursor]; omega)
  | whileUnclosed fails target => exact helses.mono rfl (fun _ h => h) (Nat.le_of_lt hlt)
  | whileAgain top holds =>
      have hframes := hm (by simp [Statement.kind])
      exact helses.back hframes (by simp)
        (openBefore_loop_end fits hframes rfl Construct.whileLoop_closedAlone hkind top)
        rfl rfl (Nat.le_refl _)
  | whileLeft top fails => exact helses.mono rfl (fun _ h => h) hnext
  | repeatOpened fresh => exact helses.mono rfl (fun _ h => h) hnext
  | repeatAgain top => exact helses.mono rfl (fun _ h => h) hnext
  | untilLeft top within holds => exact helses.mono rfl (fun _ h => h) hnext
  | untilAgain top within fails =>
      have hframes := hm (by simp [Statement.kind])
      exact helses.back hframes (by simp)
        (openBefore_loop_end fits hframes rfl Construct.repeatLoop_closedAlone hkind top)
        rfl rfl (Nat.le_refl _)

end Fits

end Machine

end Pseudocode
