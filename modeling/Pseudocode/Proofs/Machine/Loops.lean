import Pseudocode.Proofs.Machine.Frames
import Pseudocode.Proofs.Machine.Safety
import Pseudocode.Proofs.Outline.Scan

namespace Pseudocode

namespace Program

theorem le_of_scanFrom {opener closer : StatementKind} {mark : Option StatementKind}
    {depth i line : Nat} {program : Program}
    (h : scanFrom opener closer mark depth i program = some line) : i ≤ line := by
  induction program generalizing depth i with
  | nil => cases h
  | cons code rest ih =>
      rcases scanFrom_cons_cases opener closer mark depth code.content.kind? with
        hstop | ⟨depth', hnext⟩
      · rw [hstop i code rest rfl] at h
        cases h
        exact Nat.le_refl _
      · rw [hnext i code rest rfl] at h
        exact Nat.le_of_succ_le (ih h)

theorem lt_of_scan {program : Program} {i line : Nat} {opener closer : StatementKind}
    {mark : Option StatementKind} (h : program.scan i opener closer mark = some line) : i < line :=
  le_of_scanFrom h

end Program

namespace Machine

/-- How a step moves the cursor and changes the loops. -/
inductive Moves (m m' : Machine) : Prop where
  | on (forward : m.cursor < m'.cursor) (same : m'.nesting.loops = m.nesting.loops)
  | opened (frame : LoopFrame) (here : frame.openedAt = m.cursor)
      (kind : m.program.kindAt m.cursor = some (.opens frame.construct))
      (uncounted : ∀ openedAt count, frame = .repeatLoop openedAt count → count = 0)
      (fresh : frame.construct = .repeatLoop →
        ∀ count rest, m.nesting.loops ≠ .repeatLoop m.cursor count :: rest)
      (forward : m.cursor < m'.cursor) (pushed : m'.nesting.loops = frame :: m.nesting.loops)
  | left (frame : LoopFrame) (forward : m.cursor < m'.cursor)
      (popped : m.nesting.loops = frame :: m'.nesting.loops)
  | forAgain {openedAt : Nat} {name : String} {start stop : Float} {rest : List LoopFrame}
      (top : m.nesting.loops = .counting openedAt name start stop :: rest)
      (behind : openedAt < m'.cursor) (same : m'.nesting.loops = m.nesting.loops)
  | whileAgain {openedAt : Nat} {condition : String}
      (popped : m.nesting.loops = .whileLoop openedAt condition :: m'.nesting.loops)
      (back : openedAt ≤ m'.cursor)
  | repeatAgain {openedAt count : Nat} {rest : List LoopFrame}
      (top : m.nesting.loops = .repeatLoop openedAt count :: rest)
      (within : (count + 1 : Int) ≤ m.limit.bound) (back : openedAt ≤ m'.cursor)
      (counted : m'.nesting.loops = .repeatLoop openedAt (count + 1) :: rest)
      (closer : m.program.kindAt m.cursor = some .untilMark)

theorem moves_of_effect {m m₁ : Machine} {s : Statement} (hlt : m.cursor < m.program.length)
    (hkind : m.program.kindAt m.cursor = some s.kind) (effect : Effect m s m₁) :
    m.Moves m₁ := by
  have hnext : m.cursor < m.cursor + 1 := Nat.lt_succ_self _
  have hbehind : ∀ {line : Nat}, m.cursor < line → m.cursor < line + 1 :=
    fun h => Nat.lt_succ_of_lt h
  cases effect with
  | blockOpened => exact .on hnext rfl
  | written text => exact .on hnext rfl
  | assigned evaluated stored => exact .on hnext rfl
  | ifTrue holds => exact .on hnext rfl
  | ifElse fails target mark => exact .on (hbehind (Program.lt_of_scan target)) rfl
  | ifSkipped fails target mark => exact .on (hbehind (Program.lt_of_scan target)) rfl
  | ifUnclosed fails target => exact .on hlt rfl
  | elseEntered top fresh wasFalse => exact .on hnext rfl
  | elseSkipped top fresh wasTrue target => exact .on (hbehind (Program.lt_of_scan target)) rfl
  | elseUnclosed top fresh wasTrue target => exact .on hlt rfl
  | ifLeft top => exact .on hnext rfl
  | forOpened startsAt stopsAt stored =>
      exact .opened (.counting m.cursor _ _ _) rfl hkind (by simp) (by simp [LoopFrame.construct])
        hnext rfl
  | forAgain top nearest value below stored => exact .forAgain top (Nat.lt_succ_self _) rfl
  | forLeft top nearest reached => exact .left _ hnext top
  | blockLeft top nearest => exact .on hnext rfl
  | whileOpened holds =>
      exact .opened (.whileLoop m.cursor _) rfl hkind (by simp) (by simp [LoopFrame.construct])
        hnext rfl
  | whileSkipped fails target => exact .on (hbehind (Program.lt_of_scan target)) rfl
  | whileUnclosed fails target => exact .on hlt rfl
  | whileAgain top holds => exact .whileAgain top (Nat.le_refl _)
  | whileLeft top fails => exact .left _ hnext top
  | repeatOpened fresh =>
      exact .opened (.repeatLoop m.cursor 0) rfl hkind (by simp) (fun _ => fresh) hnext rfl
  | repeatAgain top => exact .on hnext rfl
  | untilLeft top within holds => exact .left _ hnext top
  | untilAgain top within fails => exact .repeatAgain top within (Nat.le_refl _) rfl hkind

theorem Moves.trans {m m₁ m' : Machine} (h : m.Moves m₁) (hcursor : m₁.cursor ≤ m'.cursor)
    (hloops : m'.nesting.loops = m₁.nesting.loops) : m.Moves m' := by
  cases h with
  | on forward same => exact .on (by omega) (hloops.trans same)
  | opened frame here kind uncounted fresh forward pushed =>
      exact .opened frame here kind uncounted fresh (by omega) (hloops.trans pushed)
  | left frame forward popped => exact .left frame (by omega) (hloops ▸ popped)
  | forAgain top behind same => exact .forAgain top (by omega) (hloops.trans same)
  | whileAgain popped back => exact .whileAgain (hloops ▸ popped) (by omega)
  | repeatAgain top within back counted closer =>
      exact .repeatAgain top within (by omega) (hloops.trans counted) closer

theorem kept_of_advance {m m' : Machine} (h : m.advance = .next m') :
    m'.nesting = m.nesting ∧ m'.limit = m.limit ∧ m.cursor ≤ m'.cursor := by
  have hle := Program.le_nextStatement m.program m.cursor
  obtain ⟨-, rfl⟩ | ⟨-, -, rfl⟩ := advance_eq_next h
  · exact ⟨rfl, rfl, hle⟩
  · exact ⟨rfl, rfl, hle⟩

theorem moves_of_step {m m' : Machine} (hrunning : m.finished = false)
    (h : m.step = .next m') : m.Moves m' ∧ m'.limit = m.limit := by
  obtain ⟨hfinished, -⟩ | ⟨-, s, m₁, hs, heffect, hadvance⟩ := step_eq_next h
  · rw [hrunning] at hfinished
    cases hfinished
  · have hmoves := moves_of_effect (Program.lt_length_of_statement hs)
      (Program.kindAt_of_statement hs) heffect
    have hlimit : m₁.limit = m.limit := by cases heffect <;> rfl
    obtain ⟨hnesting, hkept, hcursor⟩ := kept_of_advance hadvance
    exact ⟨hmoves.trans hcursor (congrArg Nesting.loops hnesting), hkept.trans hlimit⟩

theorem loops_load (limit : RepeatLimit) (program : Program) :
    (load limit program).nesting.loops = [] ∧ (load limit program).limit = limit := by
  obtain ⟨hnesting, hlimit, -⟩ := kept_of_advance (advance_load limit program)
  rw [hnesting, hlimit]
  exact ⟨rfl, rfl⟩

/-- The loops are in the order of the lines that opened them, above the cursor except for a
`REPEAT` loop that begins again. -/
structure LoopsOrdered (m : Machine) : Prop where
  sorted : m.nesting.loops.Pairwise fun inner outer => outer.openedAt < inner.openedAt
  above : ∀ frame ∈ m.nesting.loops, frame.openedAt < m.cursor ∨
    frame.openedAt = m.cursor ∧ frame.construct = .repeatLoop

theorem LoopsOrdered.le {m : Machine} (h : m.LoopsOrdered) {frame : LoopFrame}
    (hframe : frame ∈ m.nesting.loops) : frame.openedAt ≤ m.cursor := by
  have habove := h.above frame hframe
  omega

theorem LoopsOrdered.cons {m : Machine} (h : m.LoopsOrdered) {frame : LoopFrame}
    {rest : List LoopFrame} (top : m.nesting.loops = frame :: rest) :
    (∀ outer ∈ rest, outer.openedAt < frame.openedAt) ∧
      rest.Pairwise fun inner outer => outer.openedAt < inner.openedAt :=
  List.pairwise_cons.mp (top ▸ h.sorted)

theorem LoopsOrdered.top_of_eq {m : Machine} (h : m.LoopsOrdered) {frame : LoopFrame}
    (hframe : frame ∈ m.nesting.loops) (hat : frame.openedAt = m.cursor) :
    ∃ rest, m.nesting.loops = frame :: rest := by
  cases hloops : m.nesting.loops with
  | nil => simp [hloops] at hframe
  | cons top rest =>
      rw [hloops] at hframe
      rcases List.mem_cons.mp hframe with rfl | hrest
      · exact ⟨rest, rfl⟩
      · have hlt := (h.cons hloops).1 frame hrest
        have hle := h.le (hloops ▸ List.mem_cons_self : top ∈ m.nesting.loops)
        omega

theorem LoopsOrdered.lt_cursor {m : Machine} (h : m.LoopsOrdered) (hrooted : m.Rooted)
    {construct : Construct} (hkind : m.program.kindAt m.cursor = some (.opens construct))
    (fresh : construct = .repeatLoop →
      ∀ count rest, m.nesting.loops ≠ .repeatLoop m.cursor count :: rest) :
    ∀ frame ∈ m.nesting.loops, frame.openedAt < m.cursor := by
  intro frame hframe
  rcases h.above frame hframe with hlt | ⟨hat, hrepeat⟩
  · exact hlt
  · exfalso
    have hroot := hrooted.loops frame hframe
    rw [hat, hkind, hrepeat] at hroot
    obtain rfl : construct = .repeatLoop := by simpa using hroot
    obtain ⟨rest, htop⟩ := h.top_of_eq hframe hat
    obtain ⟨count, hcount⟩ := frame.eq_repeatLoop hrepeat
    rw [hat] at hcount
    exact fresh rfl count rest (hcount ▸ htop)

theorem LoopsOrdered.moves {m m' : Machine} (h : m.LoopsOrdered) (hrooted : m.Rooted)
    (hmoves : m.Moves m') : m'.LoopsOrdered := by
  cases hmoves with
  | on forward same =>
      refine ⟨same ▸ h.sorted, fun frame hframe => .inl ?_⟩
      have hle := h.le (same ▸ hframe)
      omega
  | opened frame here kind uncounted fresh forward pushed =>
      have hlt := h.lt_cursor hrooted kind fresh
      constructor
      · rw [pushed, List.pairwise_cons]
        exact ⟨fun outer houter => here ▸ hlt outer houter, h.sorted⟩
      · rw [pushed]
        intro other hother
        rcases List.mem_cons.mp hother with rfl | hother
        · exact .inl (by omega)
        · have := hlt other hother
          exact .inl (by omega)
  | left frame forward popped =>
      refine ⟨(h.cons popped).2, fun other hother => .inl ?_⟩
      have hle := h.le (popped ▸ List.mem_cons_of_mem frame hother)
      omega
  | forAgain top behind same =>
      refine ⟨same ▸ h.sorted, fun frame hframe => .inl ?_⟩
      rw [same, top] at hframe
      rcases List.mem_cons.mp hframe with rfl | hrest
      · exact behind
      · have hlt := (h.cons top).1 frame hrest
        exact Nat.lt_trans hlt behind
  | whileAgain popped back =>
      refine ⟨(h.cons popped).2, fun frame hframe => .inl ?_⟩
      have hlt := (h.cons popped).1 frame hframe
      exact Nat.lt_of_lt_of_le hlt back
  | repeatAgain top within back counted closer =>
      obtain ⟨hlt, hsorted⟩ := h.cons top
      constructor
      · rw [counted, List.pairwise_cons]
        exact ⟨hlt, hsorted⟩
      · rw [counted]
        intro frame hframe
        rcases List.mem_cons.mp hframe with rfl | hrest
        · rcases Nat.lt_or_eq_of_le back with hbehind | hhere
          · exact .inl hbehind
          · exact .inr ⟨hhere, rfl⟩
        · exact .inl (Nat.lt_of_lt_of_le (hlt frame hrest) back)

def CountsWithin (m : Machine) : Prop :=
  ∀ openedAt count : Nat, .repeatLoop openedAt count ∈ m.nesting.loops →
    (count : Int) ≤ max m.limit.bound 0

theorem CountsWithin.moves {m m' : Machine} (h : m.CountsWithin) (hmoves : m.Moves m')
    (hlimit : m'.limit = m.limit) : m'.CountsWithin := by
  intro openedAt count hframe
  rw [hlimit]
  cases hmoves with
  | on forward same => exact h openedAt count (same ▸ hframe)
  | opened frame here kind uncounted fresh forward pushed =>
      rw [pushed] at hframe
      rcases List.mem_cons.mp hframe with hnew | hold
      · have hzero := uncounted openedAt count hnew.symm
        omega
      · exact h openedAt count hold
  | left frame forward popped =>
      exact h openedAt count (popped ▸ List.mem_cons_of_mem frame hframe)
  | forAgain top behind same => exact h openedAt count (same ▸ hframe)
  | whileAgain popped back =>
      exact h openedAt count (popped ▸ List.mem_cons_of_mem _ hframe)
  | repeatAgain top within back counted closer =>
      rw [counted] at hframe
      rcases List.mem_cons.mp hframe with hnew | hold
      · cases hnew
        omega
      · exact h openedAt count (top ▸ List.mem_cons_of_mem _ hold)

end Machine

end Pseudocode
