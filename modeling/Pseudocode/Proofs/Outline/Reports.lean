import Pseudocode.Proofs.Outline.Grammar
import Pseudocode.Proofs.Text.Lines

/-!
What the outline reports. A line has at most one report: it is at fault by itself, or it opens a
construct that is never closed. The reports are enough to mend a program: without the lines that
they name, and without each `ELSE` of a conditional that is never closed, nothing is at fault. The
second outline then has open what the first one had open and closed later.
-/

namespace Pseudocode

open Outline

namespace Outline

theorem enter_fst_of_fault {open_ : OpenConstructs} {line : Nat} {kind : StatementKind}
    {fault : Fault} (h : (enter open_ line kind).2 = some fault) :
    (enter open_ line kind).1 = open_ := by
  revert h
  unfold enter
  split
  · simp
  · split <;> simp
  · split
    · simp
    · split
      · split <;> simp
      · simp

theorem enter_elseMark_fst (open_ : OpenConstructs) (line : Nat) :
    (enter open_ line .elseMark).1 = open_ := by
  unfold enter
  dsimp only
  split <;> rfl

/-- A statement fits among some of the constructs as it fits among all of them, if the one that it
opens, closes or divides is there. -/
theorem Enters.filter {open_ after : OpenConstructs} {line : Nat} {kind : StatementKind}
    {p : Construct × Nat → Bool} (h : Enters open_ line kind after)
    (opened : ∀ construct, after = (construct, line) :: open_ → p (construct, line) = true)
    (closed : ∀ entry, open_ = entry :: after → p entry = true)
    (marked : ∀ openedAt outer, kind = .elseMark → open_ = (.conditional, openedAt) :: outer →
      p (.conditional, openedAt) = true) :
    Enters (open_.filter p) line kind (after.filter p) := by
  cases h with
  | plain plain => exact .plain plain
  | opened construct =>
      rw [List.filter_cons_of_pos (opened construct rfl)]
      exact .opened construct
  | marked =>
      rw [List.filter_cons_of_pos (marked _ _ rfl rfl)]
      exact .marked
  | closed closes =>
      rw [List.filter_cons_of_pos (closed _ rfl)]
      exact .closed closes

theorem enter_snd_eq_some_iff {open_ : OpenConstructs} {line : Nat} {kind : StatementKind}
    {fault : Fault} :
    (enter open_ line kind).2 = some fault ↔
      (kind = .elseMark ∧ (∀ openedAt outer, open_ ≠ (.conditional, openedAt) :: outer) ∧
        fault = misplaced .unexpectedElse kind.name line) ∨
      ∃ accepted cause, closes kind = some (accepted, cause) ∧
        (∀ construct openedAt outer, open_ = (construct, openedAt) :: outer →
          construct ∉ accepted) ∧
        fault = misplaced cause kind.name line := by
  unfold enter
  split
  · simp [closes]
  · split
    · simp [closes]
    · next outside =>
        constructor
        · rintro ⟨⟩
          exact .inl ⟨rfl, outside, rfl⟩
        · rintro (⟨-, -, rfl⟩ | ⟨accepted, cause, hcloses, -⟩)
          · rfl
          · cases hcloses
  · next hopens hmark =>
      have hother : kind ≠ .elseMark := hmark
      split
      · next hnone => simp [hnone, hother]
      · next accepted cause hcloses =>
          simp only [hother, hcloses, false_and, false_or, Option.some.injEq, Prod.mk.injEq]
          constructor
          · intro h
            refine ⟨accepted, cause, ⟨rfl, rfl⟩, ?_⟩
            split at h
            · split at h
              · cases h
              · next hnot =>
                  cases h
                  refine ⟨?_, rfl⟩
                  rintro _ _ _ ⟨⟩
                  exact hnot
            · cases h
              exact ⟨by simp, rfl⟩
          · rintro ⟨_, _, ⟨rfl, rfl⟩, unmatched, rfl⟩
            cases open_ with
            | nil => rfl
            | cons innermost outer => exact congrArg Prod.snd (if_neg (unmatched _ _ _ rfl))

end Outline

namespace Program

variable {program : Program} {i openedAt : Nat} {fault : Fault} {construct : Construct}

def faultAt (program : Program) (i : Nat) : Option Fault :=
  program.contents[i]?.bind (lineFault (program.openBefore i) i)

def leftOpen (program : Program) : OpenConstructs := program.openBefore program.length

theorem check_take {n : Nat} (h : n ≤ program.length) :
    (check [] 0 (program.take n)).1 = (List.range n).filterMap program.faultAt := by
  induction n with
  | zero => simp [check]
  | succ n ih =>
      have hget : program[n]? = some program[n] := List.getElem?_eq_getElem h
      have hfault : program.faultAt n =
          lineFault (program.openBefore n) n (program[n]).content := by
        rw [faultAt, contents_getElem?, hget]
        rfl
      rw [List.take_add_one, hget, check_append, List.range_succ, List.filterMap_append,
        ih (Nat.le_of_lt h)]
      simp only [Option.toList_some, check_cons, check, List.append_nil, List.length_take,
        Nat.min_eq_left (Nat.le_of_lt h), Nat.zero_add, List.filterMap_cons, List.filterMap_nil,
        hfault]
      rfl

theorem faults_eq (program : Program) :
    program.faults = (List.range program.length).filterMap program.faultAt ++
      program.leftOpen.map fun entry => Machine.unclosed entry.1 entry.2 := by
  have hfirst := check_take (Nat.le_refl program.length)
  rw [List.take_length] at hfirst
  rw [leftOpen, ← check_eq_openBefore_length, ← hfirst]
  rfl

theorem lt_length_of_faultAt (h : program.faultAt i = some fault) : i < program.length := by
  obtain ⟨content, hcontent, -⟩ := Option.bind_eq_some_iff.mp h
  exact lt_length_of_statement hcontent

theorem mem_faults_iff :
    fault ∈ program.faults ↔ (∃ i, program.faultAt i = some fault) ∨
      ∃ construct openedAt, (construct, openedAt) ∈ program.leftOpen ∧
        fault = Machine.unclosed construct openedAt := by
  rw [faults_eq, List.mem_append, List.mem_filterMap, List.mem_map, Prod.exists]
  refine or_congr ?_ ?_
  · constructor
    · rintro ⟨i, -, hfault⟩
      exact ⟨i, hfault⟩
    · rintro ⟨i, hfault⟩
      exact ⟨i, List.mem_range.mpr (lt_length_of_faultAt hfault), hfault⟩
  · constructor
    · rintro ⟨construct, openedAt, hmem, rfl⟩
      exact ⟨construct, openedAt, hmem, rfl⟩
    · rintro ⟨construct, openedAt, hmem, rfl⟩
      exact ⟨construct, openedAt, hmem, rfl⟩

inductive Misfit (program : Program) (i : Nat) : Fault → Prop where
  | malformed {kind : StatementKind} {fault : Fault}
      (line : program.contents[i]? = some (.malformed kind fault)) : Misfit program i fault
  | closer {s : Statement} {accepted : List Construct} {kind : FaultKind}
      (line : program.contents[i]? = some (.statement s))
      (closer : closes s.kind = some (accepted, kind))
      (unmatched : ∀ construct openedAt outer,
        program.openBefore i = (construct, openedAt) :: outer → construct ∉ accepted) :
      Misfit program i (misplaced kind s.kind.name i)
  | elseMark {s : Statement} (line : program.contents[i]? = some (.statement s))
      (mark : s.kind = .elseMark) (outside : ∀ openedAt, ¬ program.ElseOf openedAt i) :
      Misfit program i (misplaced .unexpectedElse s.kind.name i)

theorem faultAt_eq_some_iff : program.faultAt i = some fault ↔ program.Misfit i fault := by
  rw [faultAt, Option.bind_eq_some_iff]
  constructor
  · rintro ⟨content, hcontent, hfault⟩
    cases content with
    | blank => cases hfault
    | unknown => cases hfault
    | malformed kind cause =>
        cases hfault
        exact .malformed hcontent
    | statement s =>
        obtain ⟨hmark, outside, rfl⟩ | ⟨accepted, cause, hcloses, unmatched, rfl⟩ :=
          enter_snd_eq_some_iff.mp hfault
        · refine .elseMark hcontent hmark ?_
          rintro openedAt ⟨-, outer, hopen⟩
          exact outside openedAt outer hopen
        · exact .closer hcontent hcloses unmatched
  · rintro (line | ⟨line, hcloses, unmatched⟩ | ⟨line, mark, outside⟩)
    · exact ⟨_, line, rfl⟩
    · exact ⟨_, line, enter_snd_eq_some_iff.mpr (.inr ⟨_, _, hcloses, unmatched, rfl⟩)⟩
    · refine ⟨_, line, enter_snd_eq_some_iff.mpr (.inl ⟨mark, ?_, rfl⟩)⟩
      intro openedAt outer hopen
      exact outside openedAt ⟨by rw [kindAt_of_statement line, mark], outer, hopen⟩

theorem Misfit.line (located : program.Located) (h : program.Misfit i fault) :
    fault.line = some (i : Int) := by
  cases h with
  | malformed line =>
      obtain ⟨cause, ofData, rfl⟩ := located _ _ _ line
      simp [Fault.atLine, ofData.line]
  | closer => rfl
  | elseMark => rfl

theorem openBefore_succ_of_faultAt (h : program.faultAt i = some fault) :
    program.openBefore (i + 1) = program.openBefore i := by
  obtain ⟨content, hcontent, hfault⟩ := Option.bind_eq_some_iff.mp h
  rw [openBefore_succ hcontent]
  cases content with
  | statement s => exact enter_fst_of_fault hfault
  | _ => rfl

theorem opened_of_mem {k : Nat} (h : (construct, i) ∈ program.openBefore k) :
    program.kindAt i = some (.opens construct) ∧
      program.openBefore (i + 1) = (construct, i) :: program.openBefore i := by
  obtain ⟨above, below, hsplit⟩ := List.append_of_mem h
  obtain ⟨hlt, hkind, hbelow, hsince⟩ := openBefore_suffix ⟨above, hsplit.symm⟩
  refine ⟨hkind, ?_⟩
  have hstill := hsince (i + 1) (Nat.lt_succ_self i) hlt
  rw [← hbelow] at hstill
  have hlength := hstill.length_le
  obtain ⟨content, hcontent, -⟩ := Option.bind_eq_some_iff.mp (kindAt_eq program i ▸ hkind)
  rw [openBefore_succ hcontent] at hstill hlength ⊢
  obtain ⟨other, -, hnew⟩ | hsame | ⟨innermost, hpop⟩ :=
    openAfter_cases (program.openBefore i) i content
  · rw [hnew] at hstill ⊢
    exact (hstill.eq_of_length (by simp)).symm
  · rw [hsame] at hlength
    exact absurd hlength (Nat.not_succ_le_self _)
  · have hpopped := congrArg List.length hpop
    rw [List.length_cons] at hpopped hlength
    omega

theorem faultAt_of_mem {k : Nat} (h : (construct, i) ∈ program.openBefore k) :
    program.faultAt i = none := by
  obtain ⟨-, hopened⟩ := opened_of_mem h
  by_contra hsome
  obtain ⟨fault, hfault⟩ := Option.ne_none_iff_exists'.mp hsome
  rw [openBefore_succ_of_faultAt hfault] at hopened
  exact absurd (congrArg List.length hopened) (by simp)

theorem not_mem_leftOpen {entry : Construct × Nat} (hi : i < program.length)
    (h : program.openBefore i = entry :: program.openBefore (i + 1)) :
    entry ∉ program.leftOpen := by
  intro hmem
  obtain ⟨above, below, hsplit⟩ := List.append_of_mem hmem
  obtain ⟨-, -, -, hsince⟩ := openBefore_suffix ⟨above, hsplit.symm⟩
  have hlt : entry.2 < i := lt_of_mem_openBefore (h ▸ List.mem_cons_self)
  have hstill := (hsince (i + 1) (by omega) hi).subset List.mem_cons_self
  exact absurd (openBefore_outer_lt h hstill) (Nat.lt_irrefl _)

/-- Whether a line has to go: a report names it, or it is the `ELSE` of a conditional that is
reported as never closed. -/
def isSuspect (program : Program) (i : Nat) : Bool :=
  program.faults.any (fun fault => fault.line = some (i : Int)) ||
    (program.elseOf? i).any fun openedAt =>
      decide (Machine.unclosed .conditional openedAt ∈ program.faults)

theorem isSuspect_of_mem (h : fault ∈ program.faults) (line : fault.line = some (i : Int)) :
    program.isSuspect i = true := by
  rw [isSuspect, Bool.or_eq_true]
  exact .inl (List.any_eq_true.mpr ⟨fault, h, by simpa using line⟩)

theorem isSuspect_of_leftOpen (h : (construct, i) ∈ program.leftOpen) :
    program.isSuspect i = true :=
  isSuspect_of_mem (mem_faults_iff.mpr (.inr ⟨construct, i, h, rfl⟩)) rfl

theorem isSuspect_of_elseOf (h : program.ElseOf openedAt i)
    (left : (.conditional, openedAt) ∈ program.leftOpen) : program.isSuspect i = true := by
  rw [isSuspect, Bool.or_eq_true, elseOf?_eq_some_iff.mpr h]
  refine .inr (decide_eq_true ?_)
  exact mem_faults_iff.mpr (.inr ⟨_, openedAt, left, rfl⟩)

theorem of_isSuspect (located : program.Located) (h : program.isSuspect i = true) :
    (∃ fault, program.faultAt i = some fault) ∨
      (∃ construct, (construct, i) ∈ program.leftOpen) ∨ program.kindAt i = some .elseMark := by
  rw [isSuspect, Bool.or_eq_true] at h
  obtain hreported | helse := h
  · obtain ⟨fault, hfault, hline⟩ := List.any_eq_true.mp hreported
    rw [decide_eq_true_eq] at hline
    obtain ⟨j, hj⟩ | ⟨construct, openedAt, hleft, rfl⟩ := mem_faults_iff.mp hfault
    · rw [(faultAt_eq_some_iff.mp hj).line located] at hline
      obtain rfl : j = i := Int.ofNat_inj.mp (Option.some.inj hline)
      exact .inl ⟨fault, hj⟩
    · obtain rfl : openedAt = i := Int.ofNat_inj.mp (Option.some.inj hline)
      exact .inr (.inl ⟨construct, hleft⟩)
  · obtain ⟨openedAt, hsome, -⟩ := (Option.any_eq_true _ _).mp helse
    exact .inr (.inr (elseOf?_eq_some_iff.mp hsome).1)

theorem openBefore_succ_of_elseMark (h : program.kindAt i = some .elseMark) :
    program.openBefore (i + 1) = program.openBefore i := by
  obtain ⟨content, hcontent, hkind⟩ := Option.bind_eq_some_iff.mp (kindAt_eq program i ▸ h)
  rw [openBefore_succ hcontent]
  cases content with
  | statement s =>
      have hmark : s.kind = .elseMark := Option.some.inj hkind
      rw [openAfter, hmark]
      exact enter_elseMark_fst _ _
  | _ => rfl

def closedLater (program : Program) (i : Nat) : OpenConstructs :=
  (program.openBefore i).filter fun entry => entry ∉ program.leftOpen

theorem closedLater_succ_of_isSuspect (located : program.Located)
    (h : program.isSuspect i = true) : program.closedLater (i + 1) = program.closedLater i := by
  unfold closedLater
  obtain ⟨fault, hfault⟩ | ⟨construct, hleft⟩ | hmark := of_isSuspect located h
  · rw [openBefore_succ_of_faultAt hfault]
  · rw [(opened_of_mem hleft).2, List.filter_cons_of_neg (by simpa using hleft)]
  · rw [openBefore_succ_of_elseMark hmark]

/-- Two programs agree, but for the suspect lines of one, which are blank in the other. -/
structure Mends (mended program : Program) : Prop where
  length_eq : mended.length = program.length
  contents : ∀ i content, program.contents[i]? = some content →
    mended.contents[i]? = some (if program.isSuspect i then .blank else content)

theorem enters_closedLater {s : Statement} (located : program.Located)
    (hs : program.contents[i]? = some (.statement s)) (kept : program.isSuspect i = false) :
    Enters (program.closedLater i) i s.kind (program.closedLater (i + 1)) := by
  have hfault : (enter (program.openBefore i) i s.kind).2 = none := by
    by_contra hsome
    obtain ⟨fault, hfault⟩ := Option.ne_none_iff_exists'.mp hsome
    have hat : program.faultAt i = some fault := by
      rw [faultAt, hs]
      exact hfault
    have hline := (faultAt_eq_some_iff.mp hat).line located
    rw [isSuspect_of_mem (mem_faults_iff.mpr (.inl ⟨i, hat⟩)) hline] at kept
    cases kept
  have henters : Enters (program.openBefore i) i s.kind (program.openBefore (i + 1)) := by
    rw [openBefore_succ hs]
    exact enters_of_enter (Prod.ext rfl hfault)
  apply henters.filter
  · intro construct _
    rw [decide_eq_true_eq]
    intro hleft
    rw [isSuspect_of_leftOpen hleft] at kept
    cases kept
  · intro entry hclosed
    rw [decide_eq_true_eq]
    exact not_mem_leftOpen (lt_length_of_statement hs) hclosed
  · intro openedAt outer hmark hopen
    rw [decide_eq_true_eq]
    intro hleft
    rw [isSuspect_of_elseOf ⟨by rw [kindAt_of_statement hs, hmark], outer, hopen⟩ hleft] at kept
    cases kept

/-- A line of the mended program is not at fault, if there is open before it what the other program
has open there and closes later; and the same is open behind it. -/
theorem Mends.step {mended : Program} {content : Content} (h : Mends mended program)
    (located : program.Located) (hcontent : program.contents[i]? = some content)
    (same : mended.openBefore i = program.closedLater i) :
    mended.faultAt i = none ∧ mended.openBefore (i + 1) = program.closedLater (i + 1) := by
  have hmended := h.contents i content hcontent
  cases hsuspect : program.isSuspect i with
  | true =>
      rw [hsuspect, if_pos rfl] at hmended
      rw [faultAt, openBefore_succ hmended, hmended, closedLater_succ_of_isSuspect located hsuspect]
      exact ⟨rfl, same⟩
  | false =>
      rw [hsuspect, if_neg (by simp)] at hmended
      rw [faultAt, openBefore_succ hmended, hmended]
      cases content with
      | blank =>
          rw [closedLater, openBefore_succ hcontent]
          exact ⟨rfl, same⟩
      | unknown =>
          rw [closedLater, openBefore_succ hcontent]
          exact ⟨rfl, same⟩
      | malformed kind fault =>
          have hat : program.faultAt i = some fault := by
            rw [faultAt, hcontent]
            rfl
          have hline := (faultAt_eq_some_iff.mp hat).line located
          rw [isSuspect_of_mem (mem_faults_iff.mpr (.inl ⟨i, hat⟩)) hline] at hsuspect
          cases hsuspect
      | statement s =>
          have henters := enters_closedLater located hcontent hsuspect
          rw [← same] at henters
          have henter := enter_eq_none_iff.mpr henters
          exact ⟨congrArg Prod.snd henter, congrArg Prod.fst henter⟩

theorem Mends.faults_eq_nil {mended : Program} (h : Mends mended program)
    (located : program.Located) : mended.faults = [] := by
  have hrun : ∀ n ≤ program.length, mended.openBefore n = program.closedLater n ∧
      ∀ i < n, mended.faultAt i = none := by
    intro n
    induction n with
    | zero => simp [closedLater]
    | succ n ih =>
        intro hn
        obtain ⟨hsame, hbefore⟩ := ih (Nat.le_of_lt hn)
        obtain ⟨content, hcontent⟩ : ∃ content, program.contents[n]? = some content :=
          ⟨_, List.getElem?_eq_getElem (by rw [contents_length]; exact hn)⟩
        obtain ⟨hfault, hnext⟩ := h.step located hcontent hsame
        refine ⟨hnext, fun i hi => ?_⟩
        rcases Nat.lt_succ_iff_lt_or_eq.mp hi with hlt | rfl
        · exact hbefore i hlt
        · exact hfault
  obtain ⟨hend, hnone⟩ := hrun program.length (Nat.le_refl _)
  rw [faults_eq, leftOpen, h.length_eq, hend, List.append_eq_nil_iff, List.map_eq_nil_iff]
  constructor
  · refine List.filterMap_eq_nil_iff.mpr fun i hi => hnone i (List.mem_range.mp hi)
  · refine List.filter_eq_nil_iff.mpr fun entry hentry hnot => ?_
    exact of_decide_eq_true hnot hentry

def mend (program : Program) (texts : List (List Char)) : List (List Char) :=
  texts.mapIdx fun i text => if program.isSuspect i then [] else text

theorem located_ofSource (comment source : String) : (ofSource comment source).Located :=
  located_ofLines comment (Line.counted_mapIdx _)

/-- A source text can be mended: without its suspect lines it is the text of a mended program. -/
theorem exists_mended (comment source : String) :
    ∃ source', Text.lines source'.toList =
        (ofSource comment source).mend (Text.lines source.toList) ∧
      Mends (ofSource comment source') (ofSource comment source) := by
  have hlines : Text.AreLines ((ofSource comment source).mend (Text.lines source.toList)) := by
    intro text htext
    obtain ⟨i, hi, rfl⟩ := List.mem_mapIdx.mp htext
    split
    · simp
    · exact Text.areLines_lines _ _ (List.getElem_mem hi)
  refine ⟨_, Text.lines_unlines hlines, ?_, ?_⟩
  · rw [length_ofSource, length_ofSource, Text.lines_unlines hlines, mend, List.length_mapIdx]
  · intro i content hcontent
    rw [contents_ofSource, Option.map_eq_some_iff] at hcontent
    obtain ⟨text, htext, rfl⟩ := hcontent
    rw [contents_ofSource, Text.lines_unlines hlines, mend, List.getElem?_mapIdx, htext]
    simp only [Option.map_some]
    split
    · rfl
    · rfl

def misfits (program : Program) : List (Nat × Fault) :=
  (List.range program.length).filterMap fun i => (program.faultAt i).map (Prod.mk i)

theorem mem_misfits_iff : (i, fault) ∈ program.misfits ↔ program.Misfit i fault := by
  rw [← faultAt_eq_some_iff, misfits, List.mem_filterMap]
  simp only [Option.map_eq_some_iff, Prod.mk.injEq]
  constructor
  · rintro ⟨i, -, fault, hfault, rfl, rfl⟩
    exact hfault
  · intro hfault
    exact ⟨i, List.mem_range.mpr (lt_length_of_faultAt hfault), fault, hfault, rfl, rfl⟩

theorem misfits_pairwise (program : Program) :
    program.misfits.Pairwise fun report later => report.1 < later.1 := by
  refine List.pairwise_lt_range.filterMap _ fun i j hlt report hreport later hlater => ?_
  obtain ⟨fault, -, rfl⟩ := Option.map_eq_some_iff.mp hreport
  obtain ⟨fault', -, rfl⟩ := Option.map_eq_some_iff.mp hlater
  exact hlt

def unclosed (program : Program) : List (Nat × Fault) :=
  program.leftOpen.map fun entry => (entry.2, Machine.unclosed entry.1 entry.2)

theorem mem_unclosed_iff : (i, fault) ∈ program.unclosed ↔
    ∃ construct, program.kindAt i = some (.opens construct) ∧ (construct, i) ∈ program.leftOpen ∧
      fault = Machine.unclosed construct i := by
  rw [unclosed, List.mem_map]
  constructor
  · rintro ⟨⟨construct, openedAt⟩, hleft, heq⟩
    obtain ⟨rfl, rfl⟩ := Prod.mk.inj heq
    exact ⟨construct, (opened_of_mem hleft).1, hleft, rfl⟩
  · rintro ⟨construct, -, hleft, rfl⟩
    exact ⟨(construct, i), hleft, rfl⟩

theorem faults_eq_reports (program : Program) :
    program.faults = (program.misfits ++ program.unclosed).map Prod.snd := by
  rw [faults_eq, List.map_append, misfits, unclosed, List.map_filterMap, List.map_map]
  congr 2
  funext i
  cases program.faultAt i <;> rfl

theorem reports_nodup (program : Program) :
    ((program.misfits ++ program.unclosed).map Prod.fst).Nodup := by
  rw [List.map_append, List.nodup_append]
  refine ⟨?_, ?_, ?_⟩
  · exact List.pairwise_map.mpr ((misfits_pairwise program).imp Nat.ne_of_lt)
  · rw [unclosed, List.map_map]
    exact List.pairwise_map.mpr ((openBefore_pairwise program _).imp Nat.ne_of_gt)
  · rintro i hi j hj rfl
    obtain ⟨⟨i, fault⟩, hmisfit, rfl⟩ := List.mem_map.mp hi
    obtain ⟨⟨j, fault'⟩, hunclosed, hsame⟩ := List.mem_map.mp hj
    obtain rfl : j = i := hsame
    obtain ⟨construct, -, hleft, -⟩ := mem_unclosed_iff.mp hunclosed
    rw [mem_misfits_iff, ← faultAt_eq_some_iff, faultAt_of_mem hleft] at hmisfit
    cases hmisfit

/-- The reports about a source text name each line at most once: first the lines that are at fault
by themselves, from the top, because they cannot be read, close nothing or are an `ELSE` outside of
a conditional, and then the lines that open what is never closed, from the bottom. They are also
enough: the text with an empty line for each line that is reported, and for each `ELSE` that stands
directly in a conditional reported as never closed, has no faults. -/
theorem reports_are_distinct_and_suffice (comment source : String) :
    ∃ misfits unclosed : List (Nat × Fault),
      let program := ofSource comment source
      program.faults = (misfits ++ unclosed).map Prod.snd ∧
      (∀ report ∈ misfits ++ unclosed, report.2.line = some (report.1 : Int)) ∧
      ((misfits ++ unclosed).map Prod.fst).Nodup ∧
      misfits.Pairwise (fun report later => report.1 < later.1) ∧
      unclosed.Pairwise (fun report later => later.1 < report.1) ∧
      (∀ i fault, (i, fault) ∈ misfits ↔ program.Misfit i fault) ∧
      (∀ i fault, (i, fault) ∈ unclosed ↔ ∃ construct,
        program.kindAt i = some (.opens construct) ∧ (construct, i) ∈ program.leftOpen ∧
          fault = Machine.unclosed construct i) ∧
      ∃ source', Text.lines source'.toList = program.mend (Text.lines source.toList) ∧
        (ofSource comment source').faults = [] := by
  let program := ofSource comment source
  refine ⟨program.misfits, program.unclosed, faults_eq_reports program, ?_, reports_nodup program,
    misfits_pairwise program, ?_, fun _ _ => mem_misfits_iff, fun _ _ => mem_unclosed_iff, ?_⟩
  · rintro ⟨i, fault⟩ hreport
    obtain hmisfit | hunclosed := List.mem_append.mp hreport
    · exact (mem_misfits_iff.mp hmisfit).line (located_ofSource comment source)
    · obtain ⟨construct, -, -, rfl⟩ := mem_unclosed_iff.mp hunclosed
      rfl
  · exact List.pairwise_map.mpr (openBefore_pairwise program _)
  · obtain ⟨source', hlines, hmends⟩ := exists_mended comment source
    exact ⟨source', hlines, hmends.faults_eq_nil (located_ofSource comment source)⟩

-- An `ELSE` goes with its conditional, although no report names it.
example :
    let source := "IF 1 > 2\nELSE\nREPEAT\nUNTIL 1 < 2"
    (ofSource "//" source).mend (Text.lines source.toList) =
      [[], [], "REPEAT".toList, "UNTIL 1 < 2".toList] := by
  decide +kernel

end Program

end Pseudocode
