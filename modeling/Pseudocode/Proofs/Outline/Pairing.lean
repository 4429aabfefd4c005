import Pseudocode.Proofs.Outline.Scan

namespace Pseudocode

open Outline

namespace Program

variable {program : Program} {i opener closer line : Nat}

/-- The outline closes at one line what was opened at another: the construct is innermost before
that line and gone behind it. -/
def Pairs (program : Program) (opener closer : Nat) : Prop :=
  ∃ construct, program.openBefore closer = (construct, opener) :: program.openBefore (closer + 1)

theorem openBefore_innermost {construct : Construct} {outer : OpenConstructs}
    (h : program.openBefore line = (construct, opener) :: outer) :
    opener < line ∧ program.openBefore opener = outer ∧
      ∀ k, opener < k → k ≤ line → (construct, opener) :: outer <:+ program.openBefore k := by
  have hsuffix : (construct, opener) :: outer <:+ program.openBefore line := by
    simp only [h, List.suffix_refl]
  obtain ⟨hlt, -, houter, hsince⟩ := openBefore_suffix hsuffix
  exact ⟨hlt, houter, hsince⟩

theorem Pairs.openBefore_ne (h : program.Pairs opener closer) (hbehind : closer < line)
    (construct : Construct) (outer : OpenConstructs) :
    program.openBefore line ≠ (construct, opener) :: outer := by
  intro hopen
  obtain ⟨closed, hclosed⟩ := h
  obtain ⟨hlt, houter, -⟩ := openBefore_innermost hclosed
  obtain ⟨-, houter', hsince⟩ := openBefore_innermost hopen
  have hsuffix := hsince (closer + 1) (Nat.lt_succ_of_lt hlt) hbehind
  rw [← houter, houter'] at hsuffix
  exact absurd hsuffix.length_le (Nat.not_succ_le_self _)

theorem Pairs.unique {other : Nat} (h : program.Pairs opener closer)
    (h' : program.Pairs opener other) : other = closer := by
  obtain hlt | heq | hgt := Nat.lt_trichotomy other closer
  · obtain ⟨construct, hopen⟩ := h
    exact absurd hopen (h'.openBefore_ne hlt construct _)
  · exact heq
  · obtain ⟨construct, hopen⟩ := h'
    exact absurd hopen (h.openBefore_ne hgt construct _)

theorem pairs_of_closingKind (fits : program.Fits) {construct : Construct} {outer : OpenConstructs}
    (hopen : program.openBefore line = (construct, opener) :: outer)
    (hkind : program.kindAt line = some construct.closingKind) : program.Pairs opener line := by
  obtain ⟨closed, openedAt, hclosed, -⟩ := openBefore_succ_close fits construct hkind
  have hsame := hopen.symm.trans hclosed
  rw [List.cons.injEq, Prod.mk.injEq] at hsame
  refine ⟨closed, ?_⟩
  rw [hclosed, hsame.1.2]

/-- In a program without faults the search from a line behind which a construct is innermost finds a
line before which it is innermost again, and which closes or marks it. -/
theorem exists_scan (valid : program.faults = []) {construct : Construct}
    (mark : Option StatementKind) (halone : construct.ClosedAlone)
    (hmark : ∀ kind, some kind = mark → kind = .elseMark ∧ construct = .conditional)
    {openedAt : Nat} {outer : OpenConstructs}
    (hopen : program.openBefore (i + 1) = (construct, openedAt) :: outer) :
    ∃ line kind, program.scan i (.opens construct) construct.closingKind mark = some line ∧
      i < line ∧ program.openBefore line = (construct, openedAt) :: outer ∧
      program.kindAt line = some kind ∧ (kind = construct.closingKind ∨ some kind = mark) := by
  obtain ⟨-, hleft⟩ | hfound := scan_cases (fits_of_faults_eq_nil valid) mark halone hmark hopen
  · rw [openBefore_length valid] at hleft
    exact absurd (List.suffix_nil.mp hleft) (List.cons_ne_nil _ _)
  · exact hfound

theorem scan_pairs (valid : program.faults = []) {construct : Construct}
    (halone : construct.ClosedAlone) {openedAt : Nat} {outer : OpenConstructs}
    (hopen : program.openBefore (i + 1) = (construct, openedAt) :: outer) :
    ∃ line, program.scan i (.opens construct) construct.closingKind none = some line ∧
      program.kindAt line = some construct.closingKind ∧
      ∀ other, program.Pairs openedAt other ↔ other = line := by
  obtain ⟨line, kind, hscan, -, hback, hkind, hcloser | hnone⟩ :=
    exists_scan valid none halone (by simp) hopen
  · rw [hcloser] at hkind
    have hpairs := pairs_of_closingKind (fits_of_faults_eq_nil valid) hback hkind
    exact ⟨line, hscan, hkind, fun other => ⟨hpairs.unique, fun h => h ▸ hpairs⟩⟩
  · cases hnone

theorem scan_conditional (valid : program.faults = [])
    (hkind : program.kindAt i = some (.opens .conditional)) :
    ∃ line, program.scan i (.opens .conditional) .endIf (some .elseMark) = some line ∧
      ((program.ElseOf i line ∧ ∀ other, program.ElseOf i other → line ≤ other) ∨
        ((¬ ∃ other, program.ElseOf i other) ∧ program.kindAt line = some .endIf ∧
          program.Pairs i line)) := by
  have fits := fits_of_faults_eq_nil valid
  have hmark : ∀ kind, some kind = some StatementKind.elseMark →
      kind = .elseMark ∧ Construct.conditional = .conditional :=
    fun kind h => ⟨Option.some.inj h, rfl⟩
  have hopen := openBefore_succ_opens fits hkind
  obtain ⟨line, kind, hscan, -, hback, hstops, hstop⟩ :=
    exists_scan valid _ Construct.conditional_closedAlone hmark hopen
  have hfirst : ∀ other, program.ElseOf i other → line ≤ other := by
    rintro other ⟨helse, rest, hother⟩
    obtain ⟨hlt, hrest, -⟩ := openBefore_innermost hother
    obtain ⟨found, hle, hfound⟩ := scan_stops fits Construct.conditional_closedAlone hmark hopen hlt
      (hrest ▸ hother) helse (.inr rfl)
    rw [show program.scan i _ _ _ = some line from hscan] at hfound
    cases hfound
    exact hle
  refine ⟨line, hscan, ?_⟩
  obtain hcloser | hmarked := hstop
  · rw [hcloser] at hstops
    have hpairs := pairs_of_closingKind fits hback hstops
    refine .inr ⟨?_, hstops, hpairs⟩
    rintro ⟨other, helse, rest, hother⟩
    obtain hlt | heq := Nat.lt_or_eq_of_le (hfirst other ⟨helse, rest, hother⟩)
    · exact hpairs.openBefore_ne hlt _ _ hother
    · rw [← heq, hstops] at helse
      cases helse
  · cases hmarked
    exact .inl ⟨⟨hstops, _, hback⟩, hfirst⟩

/-- In a source text without faults, the search for the line behind which a false conditional goes
on finds the first `ELSE` directly in the conditional if it has one, and else the `ENDIF` that the
outline closes it with. From an `ELSE` it finds the `ENDIF` of the conditional that the `ELSE`
stands directly in, and from a `WHILE` the `ENDWHILE` that the outline closes the loop with. -/
theorem search_agrees_with_outline (comment source : String)
    (valid : (Program.ofSource comment source).faults = []) (i : Nat) :
    let program := Program.ofSource comment source
    (program.kindAt i = some (.opens .conditional) →
      ∃ line, program.scan i (.opens .conditional) .endIf (some .elseMark) = some line ∧
        ((∃ other, program.ElseOf i other) →
          program.ElseOf i line ∧ ∀ other, program.ElseOf i other → line ≤ other) ∧
        ((¬ ∃ other, program.ElseOf i other) →
          program.kindAt line = some .endIf ∧ ∀ other, program.Pairs i other ↔ other = line)) ∧
    (program.kindAt i = some .elseMark →
      ∃ openedAt line, program.ElseOf openedAt i ∧
        program.scan i (.opens .conditional) .endIf none = some line ∧
        program.kindAt line = some .endIf ∧
        ∀ other, program.Pairs openedAt other ↔ other = line) ∧
    (program.kindAt i = some (.opens .whileLoop) →
      ∃ line, program.scan i (.opens .whileLoop) .endWhile none = some line ∧
        program.kindAt line = some .endWhile ∧
        ∀ other, program.Pairs i other ↔ other = line) := by
  intro program
  have fits : program.Fits := fits_of_faults_eq_nil valid
  refine ⟨fun hkind => ?_, fun hkind => ?_, fun hkind => ?_⟩
  · obtain ⟨line, hscan, ⟨helse, hfirst⟩ | ⟨hnone, hcloser, hpairs⟩⟩ := scan_conditional valid hkind
    · exact ⟨line, hscan, fun _ => ⟨helse, hfirst⟩, fun hnone => absurd ⟨line, helse⟩ hnone⟩
    · exact ⟨line, hscan, fun hsome => absurd hsome hnone, fun _ =>
        ⟨hcloser, fun other => ⟨hpairs.unique, fun h => h ▸ hpairs⟩⟩⟩
  · obtain ⟨hsame, openedAt, outer, hopen⟩ := openBefore_succ_else fits hkind
    obtain ⟨line, hscan, hcloser, hpairs⟩ :=
      scan_pairs valid Construct.conditional_closedAlone (hsame.trans hopen)
    exact ⟨openedAt, line, ⟨hkind, outer, hopen⟩, hscan, hcloser, hpairs⟩
  · exact scan_pairs valid Construct.whileLoop_closedAlone (openBefore_succ_opens fits hkind)

theorem search_agrees_with_outline_nested :
    let program := Program.ofSource "//"
      "WHILE 1 > 2\nIF 1 > 2\nIF 1 > 2\nELSE\nENDIF\nELSE\nELSE\nENDIF\nENDWHILE"
    ∃ first endIf endWhile,
      program.scan 1 (.opens .conditional) .endIf (some .elseMark) = some first ∧
      program.ElseOf 1 first ∧ first ≤ 6 ∧
      program.scan first (.opens .conditional) .endIf none = some endIf ∧
      program.Pairs 1 endIf ∧
      program.scan 0 (.opens .whileLoop) .endWhile none = some endWhile ∧
      program.Pairs 0 endWhile := by
  intro program
  obtain ⟨valid, hif, hwhile⟩ : program.faults = [] ∧
      program.kindAt 1 = some (.opens .conditional) ∧
      program.kindAt 0 = some (.opens .whileLoop) := by
    decide +kernel
  have hsecond : program.ElseOf 1 6 := elseOf?_eq_some_iff.mp (by decide +kernel)
  obtain ⟨first, hscan, helse, -⟩ := (search_agrees_with_outline _ _ valid 1).1 hif
  obtain ⟨hfirst, hleast⟩ := helse ⟨6, hsecond⟩
  obtain ⟨openedAt, endIf, hof, hendIf, -, hpairs⟩ :=
    (search_agrees_with_outline _ _ valid first).2.1 hfirst.1
  obtain rfl : openedAt = 1 := Option.some.inj
    ((elseOf?_eq_some_iff.mpr hof).symm.trans (elseOf?_eq_some_iff.mpr hfirst))
  obtain ⟨endWhile, hendWhile, -, hloop⟩ := (search_agrees_with_outline _ _ valid 0).2.2 hwhile
  exact ⟨first, endIf, endWhile, hscan, hfirst, hleast 6 hsecond, hendIf, (hpairs endIf).mpr rfl,
    hendWhile, (hloop endWhile).mpr rfl⟩

end Program

end Pseudocode
