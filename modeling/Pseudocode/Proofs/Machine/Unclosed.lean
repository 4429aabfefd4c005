import Pseudocode.Proofs.Machine.Alignment
import Pseudocode.Proofs.Machine.Safety

/-!
Runs of programs whose only faults are constructs that are never closed. Such a run comes to the end
of the program with the frames of these constructs, and fails there. One construct leaves no frame:
a `WHILE` loop whose condition does not hold. A run that passes over one while nothing else is open
is finished, although the outline of the program has a fault.
-/

namespace Pseudocode

open Outline

namespace Outline

theorem kind_of_enter {open_ : OpenConstructs} {line : Nat} {kind : StatementKind} {fault : Fault}
    (h : (enter open_ line kind).2 = some fault) : fault.kind ≠ .unclosedConstruct := by
  unfold enter at h
  split at h
  · cases h
  · split at h
    · cases h
    · cases h
      simp [misplaced]
  · split at h
    · cases h
    · next accepted misplacedKind hcloses =>
        have hkind : misplacedKind ≠ .unclosedConstruct := by
          unfold closes at hcloses
          split at hcloses <;> cases hcloses <;> simp
        split at h
        · split at h
          · cases h
          · cases h
            exact hkind
        · cases h
          exact hkind

theorem exists_lineFault_of_mem {open_ : OpenConstructs} {line : Nat} {lines : Program}
    {fault : Fault} (h : fault ∈ (check open_ line lines).1) :
    ∃ (i : Nat) (content : Content) (before : OpenConstructs),
      lines.contents[i]? = some content ∧ lineFault before (line + i) content = some fault := by
  induction lines generalizing open_ line with
  | nil => simp [check] at h
  | cons code rest ih =>
      rw [check_cons, List.mem_append, Option.mem_toList] at h
      rcases h with hhere | hrest
      · exact ⟨0, code.content, open_, rfl, hhere⟩
      · obtain ⟨i, content, before, hcontent, hfault⟩ := ih hrest
        refine ⟨i + 1, content, before, hcontent, ?_⟩
        rwa [show line + (i + 1) = line + 1 + i by omega]

end Outline

theorem Machine.unclosed_injective {construct other : Construct} {line otherLine : Nat}
    (h : unclosed construct line = unclosed other otherLine) :
    construct = other ∧ line = otherLine := by
  obtain ⟨-, hdetail, hline⟩ := (Fault.mk.injEq ..).mp h
  constructor
  · revert hdetail
    cases construct <;> cases other <;> decide
  · have hsame := Option.some.inj hline
    omega

namespace Program

variable {program : Program}

theorem kind_of_lineFault (located : program.Located) {i : Nat} {content : Content}
    {open_ : OpenConstructs} {fault : Fault} (hcontent : program.contents[i]? = some content)
    (h : lineFault open_ i content = some fault) : fault.kind ≠ .unclosedConstruct := by
  cases content with
  | statement s => exact kind_of_enter h
  | malformed kind other =>
      obtain rfl := Option.some.inj h
      obtain ⟨cause, ofData, rfl⟩ := located i kind other hcontent
      rw [Fault.atLine_kind]
      exact ofData.kind_ne_unclosedConstruct
  | blank => cases h
  | unknown => cases h

theorem fits_of_only_unclosed (located : program.Located)
    (only : ∀ fault ∈ program.faults, fault.kind = .unclosedConstruct) : program.Fits := by
  rw [Fits, List.eq_nil_iff_forall_not_mem]
  intro fault hfault
  obtain ⟨i, content, before, hcontent, hline⟩ := exists_lineFault_of_mem hfault
  rw [Nat.zero_add] at hline
  exact kind_of_lineFault located hcontent hline
    (only fault (List.mem_append_left _ hfault))

theorem Fits.faults_eq (fits : program.Fits) :
    program.faults =
      (program.openBefore program.length).map fun (construct, line) =>
        Machine.unclosed construct line := by
  change (check [] 0 program).1 ++ (check [] 0 program).2.map _ = _
  rw [show (check [] 0 program).1 = [] from fits, check_eq_openBefore_length, List.nil_append]

theorem Fits.getLast?_faults_eq_some_iff (fits : program.Fits) {construct : Construct}
    {line : Nat} :
    program.faults.getLast? = some (Machine.unclosed construct line) ↔
      [(construct, line)] <:+ program.openBefore program.length := by
  rw [fits.faults_eq, List.getLast?_map, Option.map_eq_some_iff]
  constructor
  · rintro ⟨⟨other, at_⟩, hlast, hsame⟩
    obtain ⟨rfl, rfl⟩ := Machine.unclosed_injective hsame
    obtain ⟨inner, hinner⟩ := List.getLast?_eq_some_iff.mp hlast
    exact ⟨inner, hinner.symm⟩
  · rintro ⟨inner, hinner⟩
    exact ⟨(construct, line), List.getLast?_eq_some_iff.mpr ⟨inner, hinner.symm⟩, rfl⟩

end Program

theorem Nesting.Represents.eq_nil {nesting : Nesting} {open_ : OpenConstructs}
    (h : nesting.Represents open_) (hnone : nesting.innermost = none) : open_ = [] := by
  cases open_ with
  | nil => rfl
  | cons entry open_ =>
      obtain ⟨frame, rest, hframes, -⟩ := h.exists_top
      obtain ⟨hblocks, hconditionals, hloops⟩ := Nesting.innermost_eq_none_iff.mp hnone
      cases hstack : entry.1.stack <;>
        simp [hstack, Nesting.frames, hblocks, hconditionals, hloops] at hframes

namespace Machine

/-- A run comes to the `WHILE` loop at a line when its condition does not hold. -/
def PassesOver (start : Machine) (line : Nat) : Prop :=
  ∃ m condition, Reached start m ∧ m.cursor = line ∧
    m.program.contents[line]? = some (.statement (.whileLoop condition)) ∧
    Condition.evaluate m.store condition = .ok false

/-- What is skipped up to the end of the program lets the run go on only if it is a `WHILE` loop and
nothing else is open. Then the run is finished. -/
theorem SkipsToEnd.finishes {m m₁ m' : Machine} {s : Statement} (h : m.SkipsToEnd s m₁)
    (hadvance : m₁.count.advance = .next m') :
    m'.finished = true ∧ [(.whileLoop, m.cursor)] <:+ m.program.openBefore m.program.length ∧
      ∃ condition, s = .whileLoop condition ∧
        Condition.evaluate m.store condition = .ok false := by
  have hend : m₁.count.program.length ≤ m₁.count.program.nextStatement m₁.count.cursor := by
    cases h with
    | conditional program_eq atEnd => exact program_eq ▸ atEnd ▸ Program.le_nextStatement _ _
    | whileLoop => exact Program.le_nextStatement _ _
  obtain ⟨hlt, -⟩ | ⟨-, hnone, rfl⟩ := advance_eq_next hadvance
  · omega
  · cases h with
    | conditional _ _ represents => cases represents.eq_nil hnone
    | whileLoop fails represents left =>
        rw [represents.eq_nil hnone] at left
        exact ⟨rfl, left, _, rfl, fails⟩

/-- Along a run every state is in step with the outline, until the run is finished because it has
passed over the outermost construct that is never closed. -/
theorem Reached.inStep_or_passesOver {program : Program} {start m : Machine}
    (hstart : InStep program start false) (h : Reached start m) :
    (∃ rewound, InStep program m rewound) ∨
      m.finished = true ∧ ∃ line, [(.whileLoop, line)] <:+ program.openBefore program.length ∧
        start.PassesOver line := by
  induction h with
  | start => exact .inl ⟨false, hstart⟩
  | @step m m' reached next ih =>
      rcases ih with ⟨rewound, hm⟩ | ⟨hfinished, hpasses⟩
      · obtain ⟨rewound', hm', -⟩ | ⟨s, m₁, hs, hskip, hadvance⟩ := hm.step next
        · exact .inl ⟨rewound', hm'⟩
        · obtain ⟨hfinished, hleft, condition, rfl, hfails⟩ := hskip.finishes hadvance
          rw [hm.program_eq] at hleft
          exact .inr ⟨hfinished, m.cursor, hleft, m, condition, reached, rfl, hs, hfails⟩
      · cases (step_of_finished hfinished).symm.trans next
        exact .inr ⟨hfinished, hpasses⟩

section InStep

variable {program : Program} {m : Machine} {rewound : Bool}

theorem InStep.finishes (h : InStep program m rewound) {condition : String}
    (hs : m.program.contents[m.cursor]? = some (.statement (.whileLoop condition)))
    (fails : Condition.evaluate m.store condition = .ok false)
    (left : [(.whileLoop, m.cursor)] <:+ program.openBefore program.length) :
    ∃ m', m.step = .next m' ∧ m'.finished = true := by
  obtain rfl := h.program_eq
  obtain ⟨-, hkind, hbefore, hsince⟩ := Program.openBefore_suffix left
  have hframes := h.represents hkind (by simp)
  have htarget : m.matchingEndWhile = none := by
    cases htarget : m.matchingEndWhile with
    | none => rfl
    | some line =>
        obtain ⟨⟨⟩, -⟩ | ⟨_, ⟨⟩, hlt, hopen, hend⟩ := matchingEndWhile_cases h.fits hkind htarget
        have hbehind := openBefore_behind h.fits .whileLoop hend hopen
        have hlength := Program.lt_length_of_kindAt hend
        have hopen' := hsince (line + 1) (by omega) (by omega)
        simp [hbehind, hbefore] at hopen'
  have hstep : m.step = (m.movedTo m.program.length).count.advance := by
    rw [step_of_statement (h.running hkind) hs]
    simp only [exec, execWhile, fails, htarget, goBehind]
    rfl
  rw [hbefore] at hframes
  obtain ⟨hlt, -⟩ | ⟨-, frame, hframe, -⟩ | ⟨-, -, hfinish⟩ :=
    advance_cases (m.movedTo m.program.length).count
  · have hle := Program.le_nextStatement m.program m.program.length
    exact absurd hlt (Nat.not_lt.mpr hle)
  · cases hframe.symm.trans hframes.innermost_eq_none
  · exact ⟨_, hstep.trans hfinish, rfl⟩

theorem InStep.unclosed_mem_faults (h : InStep program m rewound) {s : Statement}
    {m₁ m' : Machine} {trouble : Trouble} (hkind : m.program.kindAt m.cursor = some s.kind)
    (effect : Effect m s m₁) (hadvance : m₁.count.advance = .failed trouble m') :
    ∃ fault ∈ program.faults, trouble = .fault fault := by
  obtain rfl := h.program_eq
  obtain ⟨hend, frame, hframe, rfl⟩ := advance_eq_failed hadvance
  have hleft : ∃ open_, m₁.nesting.Represents open_ ∧
      open_ <:+ m.program.openBefore m.program.length := by
    rcases h.effect hkind effect with hin | hskip
    · exact ⟨_, hin.count.represents_left hend, List.suffix_rfl⟩
    · cases hskip with
      | conditional _ _ represents left => exact ⟨_, represents, left⟩
      | whileLoop _ represents left =>
          exact ⟨_, represents, (List.suffix_cons _ _).trans left⟩
  obtain ⟨open_, represents, left⟩ := hleft
  have hentry := represents.entry_mem _ frame (Nesting.mem_frames_of_innermost hframe)
  refine ⟨_, ?_, rfl⟩
  rw [h.fits.faults_eq]
  exact List.mem_map.mpr ⟨frame.entry, left.subset hentry, rfl⟩

end InStep

/-- If the outline of a source text has faults, and only constructs that are never closed, then its
run succeeds exactly if the outermost of them is a `WHILE` loop that the run passes over. A run that
fails because a construct is not closed fails with one of the faults of the outline. -/
theorem unclosed_run_succeeds_iff (comment source : String) (limit : RepeatLimit)
    (faulty : (Program.ofSource comment source).faults ≠ [])
    (only : ∀ fault ∈ (Program.ofSource comment source).faults,
      fault.kind = .unclosedConstruct) :
    ((∃ steps m', (ofSource comment limit source).runFor steps = (m', .done)) ↔
      ∃ line, (Program.ofSource comment source).faults.getLast? =
          some (unclosed .whileLoop line) ∧
        (ofSource comment limit source).PassesOver line) ∧
    ∀ steps m' trouble,
      (ofSource comment limit source).runFor steps = (m', .failed trouble) →
      ∃ fault, trouble = .fault fault ∧
        (fault.kind = .unclosedConstruct →
          fault ∈ (Program.ofSource comment source).faults) := by
  have located : (Program.ofSource comment source).Located :=
    Program.located_ofLines comment (Line.counted_mapIdx _)
  have fits := Program.fits_of_only_unclosed located only
  have hstart : InStep (Program.ofSource comment source) (ofSource comment limit source) false :=
    InStep.load fits limit
  have hsound : Sound (Program.ofSource comment source) (ofSource comment limit source) :=
    Sound.load limit _
  refine ⟨⟨?_, ?_⟩, ?_⟩
  · rintro ⟨steps, m', hrun⟩
    obtain ⟨hreached, hfinished⟩ := exists_runFor_done_iff.mp ⟨steps, hrun⟩
    rcases hreached.inStep_or_passesOver hstart with ⟨rewound, hm'⟩ | ⟨-, line, hleft, hpasses⟩
    · -- A finished run has no frames, which cannot be in step with what is never closed.
      exfalso
      have hend := hm'.program_eq ▸ hm'.ended hfinished
      have hframes := hm'.represents_left
        (Nat.le_trans hend (Program.le_nextStatement _ _))
      have hnone := Nesting.innermost_eq_none_iff.mpr ((hreached.sound hsound).ended hfinished)
      rw [fits.faults_eq, hframes.eq_nil hnone] at faulty
      exact faulty rfl
    · exact ⟨line, fits.getLast?_faults_eq_some_iff.mpr hleft, hpasses⟩
  · rintro ⟨line, hlast, m, condition, hreached, rfl, hs, hfails⟩
    have hleft := fits.getLast?_faults_eq_some_iff.mp hlast
    rcases hreached.inStep_or_passesOver hstart with ⟨rewound, hm⟩ | ⟨hfinished, -⟩
    · obtain ⟨m', hstep, hfinished⟩ := hm.finishes hs hfails hleft
      obtain ⟨steps, hrun⟩ := exists_runFor_done_iff.mpr ⟨hreached.step hstep, hfinished⟩
      exact ⟨steps, m', hrun⟩
    · obtain ⟨steps, hrun⟩ := exists_runFor_done_iff.mpr ⟨hreached, hfinished⟩
      exact ⟨steps, m, hrun⟩
  · intro steps m' trouble hrun
    obtain ⟨m, hreached, hstep⟩ := reached_of_runFor_failed hrun
    obtain ⟨hrunning, hfailed⟩ := step_eq_failed (hreached.sound hsound).settled hstep
    rcases hreached.inStep_or_passesOver hstart with ⟨rewound, hm⟩ | ⟨hfinished, -⟩
    · rcases hfailed with ⟨kind, fault, hline, -, -⟩ | ⟨s, hs, hrefused⟩
      · rw [hm.program_eq] at hline
        exact absurd hline (Program.ne_malformed fits)
      · rcases hrefused with ⟨fault, rfl, hrefusal⟩ | ⟨m₁, heffect, hadvance⟩
        · exact ⟨fault, rfl, fun hkind => absurd hkind (refusal_line hrefusal).1⟩
        · obtain ⟨fault, hmem, rfl⟩ :=
            hm.unclosed_mem_faults (Program.kindAt_of_statement hs) heffect hadvance
          exact ⟨fault, rfl, fun _ => hmem⟩
    · rw [hrunning] at hfinished
      cases hfinished

/-- A `REPEAT` loop that is never closed keeps the run from succeeding, and the conditional in it
that is not closed either is what the run fails with. -/
theorem unclosed_repeat_run_fails :
    let source := "REPEAT\nIF 1 > 2\nWHILE 1 > 2"
    ((Program.ofSource "//" source).faults ≠ [] ∧
      ∀ fault ∈ (Program.ofSource "//" source).faults, fault.kind = .unclosedConstruct) ∧
    (¬ ∃ steps m', (ofSource "//" defaultLimit source).runFor steps = (m', .done)) ∧
    ∃ steps m' fault, (ofSource "//" defaultLimit source).runFor steps =
        (m', .failed (.fault fault)) ∧
      fault.kind = .unclosedConstruct ∧ fault ∈ (Program.ofSource "//" source).faults := by
  intro source
  have hfaults : (Program.ofSource "//" source).faults =
      [unclosed .whileLoop 2, unclosed .conditional 1, unclosed .repeatLoop 0] := by
    decide +kernel
  have faulty : (Program.ofSource "//" source).faults ≠ [] := by simp [hfaults]
  have only : ∀ fault ∈ (Program.ofSource "//" source).faults,
      fault.kind = .unclosedConstruct := by simp [hfaults, unclosed]
  obtain ⟨hsucceeds, hfails⟩ := unclosed_run_succeeds_iff "//" source defaultLimit faulty only
  refine ⟨⟨faulty, only⟩, ?_, ?_⟩
  · rw [hsucceeds]
    rintro ⟨line, hlast, -⟩
    rw [hfaults] at hlast
    cases (unclosed_injective (Option.some.inj hlast)).1
  · have hends : ((ofSource "//" defaultLimit source).runFor 2).2 =
        .failed (.fault (unclosed .conditional 1)) := by decide +kernel
    have hrun : (ofSource "//" defaultLimit source).runFor 2 =
        (((ofSource "//" defaultLimit source).runFor 2).1,
          .failed (.fault (unclosed .conditional 1))) := Prod.ext rfl hends
    obtain ⟨fault, hfault, hmem⟩ := hfails 2 _ _ hrun
    obtain rfl := Trouble.fault.inj hfault
    exact ⟨2, _, _, hrun, rfl, hmem rfl⟩

theorem unclosed_while_run_succeeds :
    let source := "WHILE 1 > 2\nOUTPUT x"
    ((Program.ofSource "//" source).faults ≠ [] ∧
      ∀ fault ∈ (Program.ofSource "//" source).faults, fault.kind = .unclosedConstruct) ∧
    ∃ steps m', (ofSource "//" defaultLimit source).runFor steps = (m', .done) := by
  intro source
  have hfaults : (Program.ofSource "//" source).faults = [unclosed .whileLoop 0] := by
    decide +kernel
  have hends : ((ofSource "//" defaultLimit source).runFor 1).2 = .done := by decide +kernel
  exact ⟨⟨by simp [hfaults], by simp [hfaults, unclosed]⟩, 1,
    ((ofSource "//" defaultLimit source).runFor 1).1, Prod.ext rfl hends⟩

end Machine

end Pseudocode
