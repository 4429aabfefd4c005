import Pseudocode.Proofs.Outline.Open

/-!
The search for the line that closes a construct, which counts only one kind of opener and closer,
agrees with the outline, which matches all constructs on one stack: in a program whose lines fit it
stops where the construct is innermost again, or finds nothing if the construct is never closed.
-/

namespace Pseudocode

open Outline

def Construct.ClosedAlone (construct : Construct) : Prop :=
  ∀ other : Construct, other.closingKind = construct.closingKind → other = construct

theorem Construct.conditional_closedAlone : conditional.ClosedAlone := by
  intro other h
  cases other <;> first | rfl | cases h

theorem Construct.whileLoop_closedAlone : whileLoop.ClosedAlone := by
  intro other h
  cases other <;> first | rfl | cases h

theorem Construct.repeatLoop_closedAlone : repeatLoop.ClosedAlone := by
  intro other h
  cases other <;> first | rfl | cases h

namespace Program

theorem scanFrom_cons (opener closer : StatementKind) (mark : Option StatementKind)
    (depth i : Nat) (code : CodeLine) (rest : Program) :
    scanFrom opener closer mark depth i (code :: rest) =
      match code.content.kind? with
      | none => scanFrom opener closer mark depth (i + 1) rest
      | some kind =>
          if kind = opener then scanFrom opener closer mark (depth + 1) (i + 1) rest
          else if kind = closer then
            match depth with
            | 0 => some i
            | depth + 1 => scanFrom opener closer mark depth (i + 1) rest
          else if depth = 0 ∧ some kind = mark then some i
          else scanFrom opener closer mark depth (i + 1) rest := by
  cases depth <;> rfl

theorem scanFrom_cons_cases (opener closer : StatementKind) (mark : Option StatementKind)
    (depth : Nat) (kind? : Option StatementKind) :
    (∀ (i : Nat) (code : CodeLine) (rest : Program), code.content.kind? = kind? →
      scanFrom opener closer mark depth i (code :: rest) = some i) ∨
    ∃ depth', ∀ (i : Nat) (code : CodeLine) (rest : Program), code.content.kind? = kind? →
      scanFrom opener closer mark depth i (code :: rest) =
        scanFrom opener closer mark depth' (i + 1) rest := by
  cases kind? with
  | none => exact .inr ⟨depth, fun i code rest h => by rw [scanFrom_cons, h]⟩
  | some kind =>
      by_cases hopener : kind = opener
      · exact .inr ⟨depth + 1, fun i code rest h => by simp [scanFrom_cons, h, hopener]⟩
      · by_cases hcloser : kind = closer
        · have hne : closer ≠ opener := hcloser ▸ hopener
          cases depth with
          | zero => exact .inl fun i code rest h => by simp [scanFrom_cons, h, hcloser, hne]
          | succ depth =>
              exact .inr ⟨depth, fun i code rest h => by simp [scanFrom_cons, h, hcloser, hne]⟩
        · by_cases hmark : depth = 0 ∧ some kind = mark
          · refine .inl fun i code rest h => ?_
            simp only [scanFrom_cons, h, if_neg hopener, if_neg hcloser, if_pos hmark]
          · refine .inr ⟨depth, fun i code rest h => ?_⟩
            simp only [scanFrom_cons, h, if_neg hopener, if_neg hcloser, if_neg hmark]

/-- The search for the closer of an open construct, with `inner` opened above it since, stops at a
line before which that construct is innermost. The depth of the search is the number of constructs
of the same kind in `inner`. -/
def Found (construct : Construct) (closer : StatementKind) (mark : Option StatementKind)
    (open_ : OpenConstructs) (inner : OpenConstructs) (i : Nat) (lines : Program) : Prop :=
  ∃ before code after kind, lines = before ++ code :: after ∧
    scanFrom (.opens construct) closer mark (inner.countP (·.1 = construct)) i lines =
      some (i + before.length) ∧
    (check (inner ++ open_) i before).2 = open_ ∧
    code.content.kind? = some kind ∧ (kind = closer ∨ some kind = mark)

/-- The search for the closer of an open construct, with `inner` opened above it since, finds no
line, and the construct is left open. -/
def Unclosed (construct : Construct) (closer : StatementKind) (mark : Option StatementKind)
    (open_ : OpenConstructs) (inner : OpenConstructs) (i : Nat) (lines : Program) : Prop :=
  scanFrom (.opens construct) closer mark (inner.countP (·.1 = construct)) i lines = none ∧
    open_ <:+ (check (inner ++ open_) i lines).2

section Found

variable {construct : Construct} {closer : StatementKind} {mark : Option StatementKind}
  {open_ inner inner' : OpenConstructs} {i : Nat} {code : CodeLine} {rest : Program}

theorem Found.cons (h : Found construct closer mark open_ inner' (i + 1) rest)
    (hopen : openAfter (inner ++ open_) i code.content = inner' ++ open_)
    (hscan : scanFrom (.opens construct) closer mark (inner.countP (·.1 = construct)) i
        (code :: rest) =
      scanFrom (.opens construct) closer mark (inner'.countP (·.1 = construct)) (i + 1) rest) :
    Found construct closer mark open_ inner i (code :: rest) := by
  obtain ⟨before, code', after, kind, rfl, hfound, hbefore, hkind, hstop⟩ := h
  refine ⟨code :: before, code', after, kind, rfl, ?_, ?_, hkind, hstop⟩
  · rw [hscan, hfound, List.length_cons]
    congr 1
    omega
  · rw [check_cons, hopen, hbefore]

theorem Unclosed.cons (h : Unclosed construct closer mark open_ inner' (i + 1) rest)
    (hopen : openAfter (inner ++ open_) i code.content = inner' ++ open_)
    (hscan : scanFrom (.opens construct) closer mark (inner.countP (·.1 = construct)) i
        (code :: rest) =
      scanFrom (.opens construct) closer mark (inner'.countP (·.1 = construct)) (i + 1) rest) :
    Unclosed construct closer mark open_ inner i (code :: rest) := by
  refine ⟨hscan.trans h.1, ?_⟩
  rw [check_cons, hopen]
  exact h.2

theorem scanFrom_cons_of_stop {kind : StatementKind} (hkind : code.content.kind? = some kind)
    (hne : kind ≠ .opens construct) (hstop : kind = closer ∨ some kind = mark) :
    scanFrom (.opens construct) closer mark 0 i (code :: rest) = some i := by
  rw [scanFrom_cons, hkind]
  simp only [if_neg hne]
  by_cases hcloser : kind = closer
  · simp [hcloser]
  · have hmark : some kind = mark := hstop.resolve_left hcloser
    simp [hcloser, hmark]

theorem Found.here {kind : StatementKind} (hkind : code.content.kind? = some kind)
    (hne : kind ≠ .opens construct) (hstop : kind = closer ∨ some kind = mark) :
    Found construct closer mark open_ [] i (code :: rest) :=
  ⟨[], code, rest, kind, rfl, scanFrom_cons_of_stop hkind hne hstop, rfl, hkind, hstop⟩

theorem scanFrom_cons_of_ne {depth : Nat} {kind : StatementKind}
    (hkind : code.content.kind? = some kind) (hopener : kind ≠ .opens construct)
    (hcloser : kind ≠ closer) (hmark : some kind = mark → depth ≠ 0) :
    scanFrom (.opens construct) closer mark depth i (code :: rest) =
      scanFrom (.opens construct) closer mark depth (i + 1) rest := by
  rw [scanFrom_cons, hkind]
  have hstop : ¬ (depth = 0 ∧ some kind = mark) := by
    rintro ⟨hdepth, hsame⟩
    exact hmark hsame hdepth
  simp only [if_neg hopener, if_neg hcloser, if_neg hstop]

end Found

/-- A statement that fits in its place either closes or marks the construct that is searched for,
or it changes what is open above that construct as the search counts it. -/
theorem scanFrom_cons_of_enters {construct : Construct} {mark : Option StatementKind}
    (halone : construct.ClosedAlone)
    (hmark : ∀ kind, some kind = mark → kind = .elseMark ∧ construct = .conditional)
    {openedAt i : Nat} {inner outer after : OpenConstructs} {kind : StatementKind}
    (h : Enters (inner ++ (construct, openedAt) :: outer) i kind after) :
    (inner = [] ∧ (kind = construct.closingKind ∨ some kind = mark)) ∨
    ∃ inner', after = inner' ++ (construct, openedAt) :: outer ∧
      ∀ (code : CodeLine) (rest : Program), code.content.kind? = some kind →
        scanFrom (.opens construct) construct.closingKind mark
            (inner.countP (·.1 = construct)) i (code :: rest) =
          scanFrom (.opens construct) construct.closingKind mark
            (inner'.countP (·.1 = construct)) (i + 1) rest := by
  generalize hbefore : inner ++ (construct, openedAt) :: outer = before at h
  cases h with
  | plain hplain =>
      refine .inr ⟨inner, hbefore.symm, fun code rest hkind => scanFrom_cons_of_ne hkind ?_ ?_ ?_⟩
      · rcases hplain with rfl | rfl <;> simp
      · rcases hplain with rfl | rfl <;> cases construct <;> simp [Construct.closingKind]
      · intro hsame
        rcases hplain with rfl | rfl <;> cases (hmark _ hsame).1
  | opened construct' =>
      refine .inr ⟨(construct', i) :: inner, by simp [hbefore], ?_⟩
      intro code rest hkind
      by_cases hsame : construct' = construct
      · subst hsame
        rw [scanFrom_cons, hkind]
        simp
      · rw [List.countP_cons_of_neg (by simpa using hsame)]
        refine scanFrom_cons_of_ne hkind (by simpa using hsame) ?_ ?_
        · exact (construct.closingKind_ne_opens construct').symm
        · intro hopens
          cases (hmark _ hopens).1
  | marked =>
      cases inner with
      | nil =>
          by_cases hstop : some StatementKind.elseMark = mark
          · exact .inl ⟨rfl, .inr hstop⟩
          · refine .inr ⟨[], hbefore.symm, fun code rest hkind => ?_⟩
            refine scanFrom_cons_of_ne hkind (by simp) ?_ (fun h => absurd h hstop)
            exact construct.closingKind_ne_elseMark.symm
      | cons innermost inner =>
          refine .inr ⟨innermost :: inner, hbefore.symm, fun code rest hkind => ?_⟩
          refine scanFrom_cons_of_ne hkind (by simp) construct.closingKind_ne_elseMark.symm ?_
          intro hstop
          have hconditional := (hmark _ hstop).2
          rw [List.cons_append, List.cons.injEq] at hbefore
          simp [hbefore.1, hconditional]
  | closed hcloses =>
      rename_i construct'
      cases inner with
      | nil =>
          rw [List.nil_append, List.cons.injEq, Prod.mk.injEq] at hbefore
          exact .inl ⟨rfl, .inl (by rw [hcloses, hbefore.1.1])⟩
      | cons innermost inner =>
          rw [List.cons_append, List.cons.injEq] at hbefore
          refine .inr ⟨inner, hbefore.2.symm, fun code rest hkind => ?_⟩
          by_cases hsame : construct' = construct
          · subst hsame
            rw [scanFrom_cons, hkind]
            simp [hcloses, hbefore.1, Construct.closingKind_ne_opens]
          · rw [List.countP_cons_of_neg (by simpa [hbefore.1] using hsame)]
            refine scanFrom_cons_of_ne hkind ?_ ?_ ?_
            · rw [hcloses]
              exact construct'.closingKind_ne_opens construct
            · rw [hcloses]
              exact fun h => hsame (halone construct' h)
            · intro hstop
              rw [hcloses] at hstop
              exact absurd (hmark _ hstop).1 construct'.closingKind_ne_elseMark

theorem ne_opens_of_stop {construct : Construct} {mark : Option StatementKind}
    (hmark : ∀ kind, some kind = mark → kind = .elseMark ∧ construct = .conditional)
    {kind : StatementKind} (hstop : kind = construct.closingKind ∨ some kind = mark) :
    kind ≠ .opens construct := by
  rcases hstop with rfl | hmarked
  · exact construct.closingKind_ne_opens construct
  · rw [(hmark _ hmarked).1]
    simp

theorem scanFrom_cons_of_fits {construct : Construct} {mark : Option StatementKind}
    (halone : construct.ClosedAlone)
    (hmark : ∀ kind, some kind = mark → kind = .elseMark ∧ construct = .conditional)
    {openedAt i : Nat} {inner outer : OpenConstructs} {code : CodeLine}
    (h : lineFault (inner ++ (construct, openedAt) :: outer) i code.content = none) :
    (inner = [] ∧ ∃ kind, code.content.kind? = some kind ∧
      (kind = construct.closingKind ∨ some kind = mark)) ∨
    ∃ inner', openAfter (inner ++ (construct, openedAt) :: outer) i code.content =
        inner' ++ (construct, openedAt) :: outer ∧
      ∀ rest : Program,
        scanFrom (.opens construct) construct.closingKind mark
            (inner.countP (·.1 = construct)) i (code :: rest) =
          scanFrom (.opens construct) construct.closingKind mark
            (inner'.countP (·.1 = construct)) (i + 1) rest := by
  cases hcontent : code.content with
  | malformed kind fault =>
      rw [hcontent] at h
      cases h
  | blank => exact .inr ⟨inner, rfl, fun rest => by rw [scanFrom_cons, hcontent]; rfl⟩
  | unknown => exact .inr ⟨inner, rfl, fun rest => by rw [scanFrom_cons, hcontent]; rfl⟩
  | statement s =>
      have hkind : code.content.kind? = some s.kind := by rw [hcontent]; rfl
      rw [hcontent] at h
      have henter : Enters (inner ++ (construct, openedAt) :: outer) i s.kind
          (openAfter (inner ++ (construct, openedAt) :: outer) i (.statement s)) :=
        enters_of_enter (Prod.ext rfl h)
      obtain ⟨hinner, hstop⟩ | ⟨inner', hopen, hscan⟩ :=
        scanFrom_cons_of_enters halone hmark henter
      · exact .inl ⟨hinner, s.kind, rfl, hstop⟩
      · exact .inr ⟨inner', hopen, fun rest => hscan code rest hkind⟩

/-- Over lines without faults of their own, the search for the closer of an open construct stops
where the construct is innermost again, unless the construct is left open. -/
theorem found_or_unclosed {construct : Construct} {mark : Option StatementKind}
    (halone : construct.ClosedAlone)
    (hmark : ∀ kind, some kind = mark → kind = .elseMark ∧ construct = .conditional)
    {openedAt i : Nat} {inner outer : OpenConstructs} {lines : Program}
    (h : (check (inner ++ (construct, openedAt) :: outer) i lines).1 = []) :
    Found construct construct.closingKind mark ((construct, openedAt) :: outer) inner i lines ∨
      Unclosed construct construct.closingKind mark ((construct, openedAt) :: outer) inner i
        lines := by
  induction lines generalizing i inner with
  | nil => exact .inr ⟨rfl, List.suffix_append _ _⟩
  | cons code rest ih =>
      rw [check_cons] at h
      simp only [List.append_eq_nil_iff, Option.toList_eq_nil_iff] at h
      obtain ⟨hfault, hrest⟩ := h
      obtain ⟨rfl, kind, hkind, hstop⟩ | ⟨inner', hopen, hscan⟩ :=
        scanFrom_cons_of_fits halone hmark hfault
      · exact .inl (Found.here hkind (ne_opens_of_stop hmark hstop) hstop)
      · rw [hopen] at hrest
        exact (ih hrest).imp (fun found => found.cons hopen (hscan rest))
          fun unclosed => unclosed.cons hopen (hscan rest)

theorem scanFrom_stops {construct : Construct} {mark : Option StatementKind}
    (halone : construct.ClosedAlone)
    (hmark : ∀ kind, some kind = mark → kind = .elseMark ∧ construct = .conditional)
    {openedAt i : Nat} {inner outer : OpenConstructs} {before : Program}
    (h : (check (inner ++ (construct, openedAt) :: outer) i before).1 = [])
    (hinnermost : (check (inner ++ (construct, openedAt) :: outer) i before).2 =
      (construct, openedAt) :: outer)
    {code : CodeLine} {kind : StatementKind} (hkind : code.content.kind? = some kind)
    (hstop : kind = construct.closingKind ∨ some kind = mark) (after : Program) :
    ∃ line ≤ i + before.length,
      scanFrom (.opens construct) construct.closingKind mark (inner.countP (·.1 = construct)) i
        (before ++ code :: after) = some line := by
  induction before generalizing i inner with
  | nil =>
      obtain rfl : inner = [] := by simpa [check] using hinnermost
      exact ⟨i, Nat.le_refl i, scanFrom_cons_of_stop hkind (ne_opens_of_stop hmark hstop) hstop⟩
  | cons first before ih =>
      rw [check_cons] at h hinnermost
      simp only [List.append_eq_nil_iff, Option.toList_eq_nil_iff] at h
      obtain ⟨hfault, hrest⟩ := h
      obtain ⟨rfl, kind', hkind', hstop'⟩ | ⟨inner', hopen, hscan⟩ :=
        scanFrom_cons_of_fits halone hmark hfault
      · exact ⟨i, Nat.le_add_right i _,
          scanFrom_cons_of_stop hkind' (ne_opens_of_stop hmark hstop') hstop'⟩
      · rw [hopen] at hrest hinnermost
        obtain ⟨line, hle, hfound⟩ := ih hrest hinnermost
        refine ⟨line, ?_, (hscan _).trans hfound⟩
        rw [List.length_cons]
        omega

theorem scan_cases {program : Program} (fits : program.Fits) {construct : Construct}
    (mark : Option StatementKind) (halone : construct.ClosedAlone)
    (hmark : ∀ kind, some kind = mark → kind = .elseMark ∧ construct = .conditional)
    {i openedAt : Nat} {outer : OpenConstructs}
    (hopen : program.openBefore (i + 1) = (construct, openedAt) :: outer) :
    (program.scan i (.opens construct) construct.closingKind mark = none ∧
      (construct, openedAt) :: outer <:+ program.openBefore program.length) ∨
    ∃ line kind, program.scan i (.opens construct) construct.closingKind mark = some line ∧
      i < line ∧ program.openBefore line = (construct, openedAt) :: outer ∧
      program.kindAt line = some kind ∧ (kind = construct.closingKind ∨ some kind = mark) := by
  by_cases hlength : i + 1 ≤ program.length
  · have hbelow := check_between fits hlength (Nat.le_refl _)
    rw [List.take_length, hopen] at hbelow
    have hfits : (check ([] ++ (construct, openedAt) :: outer) (i + 1)
        (program.drop (i + 1))).1 = [] := congrArg Prod.fst hbelow
    rcases found_or_unclosed halone hmark hfits with hfound | ⟨hnone, hleft⟩
    · obtain ⟨before, code, after, kind, hlines, hfound, hstack, hkind, hstop⟩ := hfound
      have hlast : i + 1 + before.length ≤ program.length := by
        have hcount := congrArg List.length hlines
        rw [List.length_drop, List.length_append, List.length_cons] at hcount
        omega
      have hbetween := check_between fits (Nat.le_add_right (i + 1) before.length) hlast
      refine .inr ⟨i + 1 + before.length, kind, hfound, by omega, ?_, ?_, hstop⟩
      · rw [List.take_add, hlines, List.take_left' rfl, List.drop_left' (by simp; omega), hopen]
          at hbetween
        exact (congrArg Prod.snd hbetween).symm.trans hstack
      · rw [← kindAt_drop, hlines]
        simpa [kindAt] using hkind
    · refine .inl ⟨hnone, ?_⟩
      rw [show program.openBefore program.length = _ from (congrArg Prod.snd hbelow).symm]
      exact hleft
  · left
    have hbehind : program.length ≤ i + 1 := by omega
    have hend : program.openBefore program.length = (construct, openedAt) :: outer :=
      (openBefore_of_length_le hbehind).symm.trans hopen
    refine ⟨by rw [scan, List.drop_eq_nil_of_le hbehind]; rfl, ?_⟩
    exact hend ▸ List.suffix_rfl

theorem scan_stops {program : Program} (fits : program.Fits) {construct : Construct}
    {mark : Option StatementKind} (halone : construct.ClosedAlone)
    (hmark : ∀ kind, some kind = mark → kind = .elseMark ∧ construct = .conditional)
    {i openedAt line : Nat} {outer : OpenConstructs}
    (hopen : program.openBefore (i + 1) = (construct, openedAt) :: outer) (hlt : i < line)
    (hinnermost : program.openBefore line = (construct, openedAt) :: outer) {kind : StatementKind}
    (hkind : program.kindAt line = some kind)
    (hstop : kind = construct.closingKind ∨ some kind = mark) :
    ∃ found ≤ line,
      program.scan i (.opens construct) construct.closingKind mark = some found := by
  have hline := lt_length_of_kindAt hkind
  have hbetween := check_between fits hlt (Nat.le_of_lt hline)
  rw [hopen, hinnermost] at hbetween
  have hcode : program[line].content.kind? = some kind := by
    simpa [kindAt, hline] using hkind
  have hlines : program.drop (i + 1) =
      (program.take line).drop (i + 1) ++ program[line] :: program.drop (line + 1) := by
    rw [← List.drop_eq_getElem_cons hline, ← List.drop_append_of_le_length (by simp; omega),
      List.take_append_drop]
  have hfits : (check ([] ++ (construct, openedAt) :: outer) (i + 1)
      ((program.take line).drop (i + 1))).1 = [] := congrArg Prod.fst hbetween
  obtain ⟨found, hle, hfound⟩ := scanFrom_stops halone hmark hfits (congrArg Prod.snd hbetween)
    hcode hstop (program.drop (line + 1))
  refine ⟨found, ?_, ?_⟩
  · rw [List.length_drop, List.length_take, Nat.min_eq_left (Nat.le_of_lt hline)] at hle
    omega
  · rw [scan, hlines]
    exact hfound

end Program

end Pseudocode
