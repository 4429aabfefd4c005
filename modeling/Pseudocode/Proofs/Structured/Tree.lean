import Pseudocode.Proofs.Outline.Scan

namespace Pseudocode.Structured

open Pseudocode Outline

inductive Tree where
  | empty
  /-- A line that holds no statement: a blank one, a comment, or one that is not recognised. -/
  | gap (content : Content) (silent : content.kind? = none)
  | output (text : String)
  | assign (name expression : String)
  | seq (first second : Tree)
  | block (body : Tree)
  | ifThen (condition : String) (body : Tree)
  | ifElse (condition : String) (body other : Tree)
  | forLoop (name start stop : String) (body : Tree)
  | whileLoop (condition : String) (body : Tree)
  | repeatLoop (body : Tree) (condition : String)

namespace Tree

def lines : Tree → List Content
  | empty => []
  | gap content _ => [content]
  | output text => [.statement (.output text)]
  | assign name expression => [.statement (.assign name expression)]
  | seq first second => first.lines ++ second.lines
  | block body => .statement .block :: (body.lines ++ [.statement .endMark])
  | ifThen condition body =>
      .statement (.conditional condition) :: (body.lines ++ [.statement .endIf])
  | ifElse condition body other =>
      .statement (.conditional condition) ::
        ((body.lines ++ .statement .elseMark :: other.lines) ++ [.statement .endIf])
  | forLoop name start stop body =>
      .statement (.forLoop name start stop) :: (body.lines ++ [.statement .endMark])
  | whileLoop condition body =>
      .statement (.whileLoop condition) :: (body.lines ++ [.statement .endWhile])
  | repeatLoop body condition =>
      .statement .repeatLoop :: (body.lines ++ [.statement (.untilMark condition)])

end Tree

def Holds (program : Program) (i : Nat) (lines : List Content) : Prop :=
  lines <+: program.contents.drop i

namespace Holds

variable {program : Program} {i : Nat} {lines more : List Content} {content : Content}

theorem head (h : Holds program i (content :: lines)) :
    program.contents[i]? = some content := by
  obtain ⟨rest, hrest⟩ := h
  have hget := congrArg (·[0]?) hrest
  simpa using hget.symm

theorem tail (h : Holds program i (content :: lines)) : Holds program (i + 1) lines := by
  obtain ⟨rest, hrest⟩ := h
  refine ⟨rest, ?_⟩
  rw [← List.drop_drop, ← hrest]
  rfl

theorem left (h : Holds program i (lines ++ more)) : Holds program i lines :=
  (List.prefix_append lines more).trans h

theorem right (h : Holds program i (lines ++ more)) :
    Holds program (i + lines.length) more := by
  obtain ⟨rest, hrest⟩ := h
  refine ⟨rest, ?_⟩
  rw [← List.drop_drop, ← hrest, List.append_assoc, List.drop_left]

end Holds

theorem add_length_enclosed (i : Nat) (first last : Content) (inner : List Content) :
    i + (first :: (inner ++ [last])).length = i + 1 + inner.length + 1 := by
  simp only [List.length_cons, List.length_append, List.length_nil]
  omega

section Open

variable {program : Program} {i : Nat}

theorem openBefore_succ_of_opens {s : Statement} {construct : Construct}
    (h : program.contents[i]? = some (.statement s)) (hs : s.kind = .opens construct) :
    program.openBefore (i + 1) = (construct, i) :: program.openBefore i := by
  rw [Program.openBefore_succ h, openAfter, hs]
  rfl

theorem openBefore_succ_of_else {openedAt : Nat} {outer : OpenConstructs}
    (h : program.contents[i]? = some (.statement .elseMark))
    (hopen : program.openBefore i = (.conditional, openedAt) :: outer) :
    program.openBefore (i + 1) = (.conditional, openedAt) :: outer := by
  rw [Program.openBefore_succ h, hopen]
  rfl

theorem openBefore_succ_of_closes {s : Statement} {construct : Construct} {openedAt : Nat}
    {outer : OpenConstructs} (h : program.contents[i]? = some (.statement s))
    (hs : s.kind = construct.closingKind)
    (hopen : program.openBefore i = (construct, openedAt) :: outer) :
    program.openBefore (i + 1) = outer := by
  rw [Program.openBefore_succ h, hopen, openAfter, hs]
  cases construct <;> rfl

theorem openBefore_enclosed {first last : Statement} {construct : Construct}
    {inner : List Content} (hfirst : first.kind = .opens construct)
    (hlast : last.kind = construct.closingKind)
    (h : Holds program i (.statement first :: (inner ++ [.statement last])))
    (hinner : program.openBefore (i + 1 + inner.length) = program.openBefore (i + 1)) :
    program.openBefore (i + (.statement first :: (inner ++ [.statement last])).length) =
      program.openBefore i := by
  rw [openBefore_succ_of_opens h.head hfirst] at hinner
  have hclosed := openBefore_succ_of_closes h.tail.right.head hlast hinner
  rwa [add_length_enclosed]

theorem openBefore_tree {tree : Tree} (h : Holds program i tree.lines) :
    program.openBefore (i + tree.lines.length) = program.openBefore i := by
  induction tree generalizing i with
  | empty => rfl
  | gap content silent =>
      refine Program.openBefore_succ_of_kindAt_eq_none ?_
      rw [Program.kindAt_eq, h.head]
      exact silent
  | output text => exact Program.openBefore_succ h.head
  | assign name expression => exact Program.openBefore_succ h.head
  | seq first second ihFirst ihSecond =>
      rw [Tree.lines, List.length_append, ← Nat.add_assoc, ihSecond h.right, ihFirst h.left]
  | block body ih => exact openBefore_enclosed rfl rfl h (ih h.tail.left)
  | ifThen condition body ih => exact openBefore_enclosed rfl rfl h (ih h.tail.left)
  | ifElse condition body other ihBody ihOther =>
      refine openBefore_enclosed rfl rfl h ?_
      have hinner := h.tail.left
      have hopen := openBefore_succ_of_opens h.head rfl
      have hmark : program.openBefore (i + 1 + body.lines.length + 1) =
          program.openBefore (i + 1) := by
        rw [hopen]
        refine openBefore_succ_of_else hinner.right.head ?_
        rw [ihBody hinner.left, hopen]
      rw [List.length_append, List.length_cons, Nat.add_comm other.lines.length, ← Nat.add_assoc,
        ← Nat.add_assoc, ihOther hinner.right.tail, hmark]
  | forLoop name start stop body ih => exact openBefore_enclosed rfl rfl h (ih h.tail.left)
  | whileLoop condition body ih => exact openBefore_enclosed rfl rfl h (ih h.tail.left)
  | repeatLoop body condition ih => exact openBefore_enclosed rfl rfl h (ih h.tail.left)

end Open

def searchFrom (program : Program) (construct : Construct) (mark : Option StatementKind)
    (depth line : Nat) : Option Nat :=
  Program.scanFrom (.opens construct) construct.closingKind mark depth line (program.drop line)

section Search

variable {program : Program} {construct : Construct} {mark : Option StatementKind}
  {depth i : Nat} {s : Statement}

theorem searchFrom_eq {content : Content} (h : program.contents[i]? = some content) :
    ∃ code rest, code.content = content ∧
      searchFrom program construct mark depth i = Program.scanFrom (.opens construct)
        construct.closingKind mark depth i (code :: rest) ∧
      ∀ depth, searchFrom program construct mark depth (i + 1) = Program.scanFrom
        (.opens construct) construct.closingKind mark depth (i + 1) rest := by
  have hi := Program.lt_length_of_statement h
  rw [Program.contents_getElem?, List.getElem?_eq_getElem hi] at h
  refine ⟨program[i], program.drop (i + 1), by simpa using h, ?_, fun _ => rfl⟩
  rw [searchFrom, List.drop_eq_getElem_cons hi]

theorem searchFrom_gap {content : Content} (h : program.contents[i]? = some content)
    (silent : content.kind? = none) :
    searchFrom program construct mark depth i =
      searchFrom program construct mark depth (i + 1) := by
  obtain ⟨code, rest, rfl, hhere, hbehind⟩ := searchFrom_eq h
  rw [hhere, hbehind, Program.scanFrom_cons, silent]

theorem searchFrom_other (h : program.contents[i]? = some (.statement s))
    (hopener : s.kind ≠ .opens construct) (hcloser : s.kind ≠ construct.closingKind)
    (hmark : some s.kind = mark → depth ≠ 0) :
    searchFrom program construct mark depth i =
      searchFrom program construct mark depth (i + 1) := by
  obtain ⟨code, rest, hcode, hhere, hbehind⟩ := searchFrom_eq h
  rw [hhere, hbehind]
  exact Program.scanFrom_cons_of_ne (by rw [hcode]; rfl) hopener hcloser hmark

theorem searchFrom_opens (h : program.contents[i]? = some (.statement s))
    (hs : s.kind = .opens construct) :
    searchFrom program construct mark depth i =
      searchFrom program construct mark (depth + 1) (i + 1) := by
  obtain ⟨code, rest, hcode, hhere, hbehind⟩ := searchFrom_eq h
  rw [hhere, hbehind, Program.scanFrom_cons, hcode]
  simp [Content.kind?, hs]

theorem searchFrom_closes (h : program.contents[i]? = some (.statement s))
    (hs : s.kind = construct.closingKind) :
    searchFrom program construct mark (depth + 1) i =
      searchFrom program construct mark depth (i + 1) := by
  obtain ⟨code, rest, hcode, hhere, hbehind⟩ := searchFrom_eq h
  rw [hhere, hbehind, Program.scanFrom_cons, hcode]
  simp [Content.kind?, hs, Construct.closingKind_ne_opens]

theorem searchFrom_stops (h : program.contents[i]? = some (.statement s))
    (hne : s.kind ≠ .opens construct) (hs : s.kind = construct.closingKind ∨ some s.kind = mark) :
    searchFrom program construct mark 0 i = some i := by
  obtain ⟨code, rest, hcode, hhere, -⟩ := searchFrom_eq h
  rw [hhere, Program.scanFrom_cons, hcode]
  rcases hs with hs | hs
  · simp [Content.kind?, hs, Construct.closingKind_ne_opens]
  · simp [Content.kind?, hne, ← hs]

theorem searchFrom_plain
    (hmark : ∀ kind, some kind = mark → kind = .elseMark ∧ construct = .conditional)
    (h : program.contents[i]? = some (.statement s))
    (hs : s.kind = .output ∨ s.kind = .assign) :
    searchFrom program construct mark depth i =
      searchFrom program construct mark depth (i + 1) := by
  refine searchFrom_other h ?_ ?_ ?_
  · rcases hs with hs | hs <;> simp [hs]
  · rcases hs with hs | hs <;> rw [hs] <;> cases construct <;> simp [Construct.closingKind]
  · intro hstop
    rcases hs with hs | hs <;> rw [hs] at hstop <;> cases (hmark _ hstop).1

variable (halone : construct.ClosedAlone)
  (hmark : ∀ kind, some kind = mark → kind = .elseMark ∧ construct = .conditional)
include halone hmark

theorem searchFrom_enclosed {first last : Statement} {other : Construct} {inner : List Content}
    (hfirst : first.kind = .opens other) (hlast : last.kind = other.closingKind)
    (h : Holds program i (.statement first :: (inner ++ [.statement last])))
    (hinner : ∀ depth, (other = construct → depth ≠ 0) →
      searchFrom program construct mark depth (i + 1) =
        searchFrom program construct mark depth (i + 1 + inner.length)) :
    searchFrom program construct mark depth i = searchFrom program construct mark depth
      (i + (.statement first :: (inner ++ [.statement last])).length) := by
  rw [add_length_enclosed]
  have hclose := h.tail.right.head
  by_cases hsame : other = construct
  · subst hsame
    rw [searchFrom_opens h.head hfirst, hinner (depth + 1) (fun _ => Nat.succ_ne_zero depth),
      searchFrom_closes hclose hlast]
  · have hopen := h.head
    rw [searchFrom_other hopen, hinner depth (fun h => absurd h hsame), searchFrom_other hclose]
    · rw [hlast]
      exact other.closingKind_ne_opens construct
    · rw [hlast]
      exact fun hcloser => hsame (halone other hcloser)
    · rw [hlast]
      exact fun hstop => absurd (hmark _ hstop).1 other.closingKind_ne_elseMark
    · rw [hfirst]
      simpa using hsame
    · rw [hfirst]
      exact (construct.closingKind_ne_opens other).symm
    · rw [hfirst]
      intro hstop
      cases (hmark _ hstop).1

theorem searchFrom_tree {tree : Tree} (h : Holds program i tree.lines) :
    searchFrom program construct mark depth i =
      searchFrom program construct mark depth (i + tree.lines.length) := by
  induction tree generalizing i depth with
  | empty => rfl
  | gap content silent => exact searchFrom_gap h.head silent
  | output text => exact searchFrom_plain hmark h.head (.inl rfl)
  | assign name expression => exact searchFrom_plain hmark h.head (.inr rfl)
  | seq first second ihFirst ihSecond =>
      rw [Tree.lines, List.length_append, ← Nat.add_assoc, ← ihSecond h.right, ← ihFirst h.left]
  | block body ih =>
      exact searchFrom_enclosed halone hmark rfl rfl h fun _ _ => ih h.tail.left
  | ifThen condition body ih =>
      exact searchFrom_enclosed halone hmark rfl rfl h fun _ _ => ih h.tail.left
  | ifElse condition body other ihBody ihOther =>
      refine searchFrom_enclosed halone hmark rfl rfl h fun depth hdepth => ?_
      have hinner := h.tail.left
      rw [ihBody hinner.left, searchFrom_other hinner.right.head (by simp [Statement.kind])
        construct.closingKind_ne_elseMark.symm, ihOther hinner.right.tail]
      · congr 1
        simp
        omega
      · intro hstop
        exact hdepth (hmark _ hstop).2.symm
  | forLoop name start stop body ih =>
      exact searchFrom_enclosed halone hmark rfl rfl h fun _ _ => ih h.tail.left
  | whileLoop condition body ih =>
      exact searchFrom_enclosed halone hmark rfl rfl h fun _ _ => ih h.tail.left
  | repeatLoop body condition ih =>
      exact searchFrom_enclosed halone hmark rfl rfl h fun _ _ => ih h.tail.left

end Search

theorem scan_tree {program : Program} {construct : Construct} {i : Nat} {s : Statement}
    {tree : Tree} {rest : List Content} (mark : Option StatementKind)
    (halone : construct.ClosedAlone)
    (hmark : ∀ kind, some kind = mark → kind = .elseMark ∧ construct = .conditional)
    (h : Holds program (i + 1) (tree.lines ++ .statement s :: rest))
    (hne : s.kind ≠ .opens construct) (hs : s.kind = construct.closingKind ∨ some s.kind = mark) :
    program.scan i (.opens construct) construct.closingKind mark =
      some (i + 1 + tree.lines.length) := by
  have hsearch : program.scan i (.opens construct) construct.closingKind mark =
      searchFrom program construct mark 0 (i + 1) := rfl
  rw [hsearch, searchFrom_tree halone hmark h.left, searchFrom_stops h.right.head hne hs]

/-- The lines of the beginning of a program, with the constructs that are open behind it: trees
side by side, each but the first behind an opener or behind the `ELSE` of one. -/
inductive Beginning : OpenConstructs → List Content → Prop where
  | closed (tree : Tree) : Beginning [] tree.lines
  | opened {outer : OpenConstructs} {before : List Content} (beginning : Beginning outer before)
      (s : Statement) (construct : Construct) (opens : s.kind = .opens construct) (tree : Tree) :
      Beginning ((construct, before.length) :: outer) (before ++ .statement s :: tree.lines)
  | marked {outer : OpenConstructs} {before : List Content} (beginning : Beginning outer before)
      (condition : String) (body other : Tree) :
      Beginning ((.conditional, before.length) :: outer)
        (before ++ .statement (.conditional condition) ::
          (body.lines ++ .statement .elseMark :: other.lines))

namespace Beginning

variable {open_ outer : OpenConstructs} {before : List Content}

theorem append (h : Beginning open_ before) (tree : Tree) :
    Beginning open_ (before ++ tree.lines) := by
  cases h with
  | closed first => exact .closed (.seq first tree)
  | opened h s construct opens first =>
      simpa [Tree.lines] using Beginning.opened h s construct opens (.seq first tree)
  | marked h condition body first =>
      simpa [Tree.lines] using Beginning.marked h condition body (.seq first tree)

theorem exists_enclosed {first last : Statement} {construct : Construct} (tree : Tree)
    (hfirst : first.kind = .opens construct) (hlast : last.kind = construct.closingKind) :
    ∃ whole : Tree, whole.lines = .statement first :: (tree.lines ++ [.statement last]) := by
  cases construct with
  | block =>
      cases first <;> cases hfirst
      cases last <;> cases hlast
      exact ⟨.block tree, rfl⟩
  | conditional =>
      cases first <;> cases hfirst
      cases last <;> cases hlast
      exact ⟨.ifThen _ tree, rfl⟩
  | forLoop =>
      cases first <;> cases hfirst
      cases last <;> cases hlast
      exact ⟨.forLoop _ _ _ tree, rfl⟩
  | whileLoop =>
      cases first <;> cases hfirst
      cases last <;> cases hlast
      exact ⟨.whileLoop _ tree, rfl⟩
  | repeatLoop =>
      cases first <;> cases hfirst
      cases last <;> cases hlast
      exact ⟨.repeatLoop tree _, rfl⟩

theorem close {construct : Construct} {openedAt : Nat} {s : Statement}
    (h : Beginning ((construct, openedAt) :: outer) before) (hs : s.kind = construct.closingKind) :
    Beginning outer (before ++ [.statement s]) := by
  cases h with
  | opened h first construct opens tree =>
      obtain ⟨whole, hwhole⟩ := exists_enclosed tree opens hs
      have hbeginning := h.append whole
      rw [hwhole] at hbeginning
      simpa using hbeginning
  | marked h condition body other =>
      cases s <;> cases hs
      simpa [Tree.lines] using h.append (.ifElse condition body other)

theorem mark {openedAt : Nat} (h : Beginning ((.conditional, openedAt) :: outer) before) :
    Beginning ((.conditional, openedAt) :: outer) (before ++ [.statement .elseMark]) ∨
      ∃ above more, before = above ++ .statement .elseMark :: more ∧
        Beginning ((.conditional, openedAt) :: outer) above := by
  cases h with
  | opened h s construct opens tree =>
      left
      cases s <;> cases opens
      simpa [Tree.lines] using Beginning.marked h _ tree .empty
  | marked h condition body other =>
      right
      refine ⟨_, other.lines, ?_, Beginning.opened h (.conditional condition) .conditional rfl body⟩
      simp

theorem openBefore_eq {program : Program} (h : Beginning open_ before)
    (hbefore : Holds program 0 before) : program.openBefore before.length = open_ := by
  induction h with
  | closed tree =>
      have hsame := openBefore_tree hbefore
      simpa using hsame
  | opened beginning s construct opens tree ih =>
      have hopen := openBefore_succ_of_opens hbefore.right.head opens
      have hsame := openBefore_tree hbefore.right.tail
      rw [hopen, Nat.zero_add, ih hbefore.left] at hsame
      rw [← hsame]
      congr 1
      simp
      omega
  | marked beginning condition body other ih =>
      have hkind : (Statement.conditional condition).kind = .opens .conditional := rfl
      have hopen := openBefore_succ_of_opens hbefore.right.head hkind
      have hbody := openBefore_tree hbefore.right.tail.left
      rw [hopen, Nat.zero_add, ih hbefore.left] at hbody
      have hmark := openBefore_succ_of_else hbefore.right.tail.right.head
        (by rw [Nat.zero_add]; exact hbody)
      have hsame := openBefore_tree hbefore.right.tail.right.tail
      rw [hmark] at hsame
      rw [← hsame]
      congr 1
      simp
      omega

end Beginning

section Valid

variable {program : Program} (valid : program.faults = []) (single : program.SingleElse)
include valid single

theorem Beginning.statement {i : Nat} {s : Statement}
    (hs : program.contents[i]? = some (.statement s))
    (h : Beginning (program.openBefore i) (program.contents.take i)) :
    Beginning (program.openBefore (i + 1)) (program.contents.take i ++ [.statement s]) := by
  have hlength : (program.contents.take i).length = i := by
    have hi := Program.lt_length_of_statement hs
    simp only [List.length_take, Program.contents_length]
    omega
  have henters := Program.enters_of_fits (Program.fits_of_faults_eq_nil valid) hs
  generalize hbefore : program.openBefore i = before at henters h
  generalize program.openBefore (i + 1) = after at henters
  generalize hkind : s.kind = kind at henters
  cases henters with
  | plain plain =>
      rcases plain with rfl | rfl
      · cases s <;> cases hkind
        exact h.append (.output _)
      · cases s <;> cases hkind
        exact h.append (.assign _ _)
  | opened construct =>
      have hopened := h.opened s construct hkind .empty
      rwa [hlength] at hopened
  | @marked outer _ openedAt =>
      cases s <;> cases hkind
      rcases h.mark with hmarked | ⟨above, more, hsplit, habove⟩
      · exact hmarked
      · exfalso
        have hall : Holds program 0 (above ++ .statement .elseMark :: more) := by
          rw [← hsplit]
          exact List.take_prefix i program.contents
        have hfirst : program.ElseOf openedAt above.length := by
          refine ⟨?_, outer, habove.openBefore_eq hall.left⟩
          have hmark := hall.right.head
          rw [Nat.zero_add] at hmark
          exact Program.kindAt_of_statement hmark
        have hsecond : program.ElseOf openedAt i := ⟨Program.kindAt_of_statement hs, outer, hbefore⟩
        have hsame := single openedAt _ _ hfirst hsecond
        rw [hsplit, List.length_append, List.length_cons] at hlength
        omega
  | closed closes => exact h.close (hkind.trans closes)

/-- Every program without faults in which no conditional has two `ELSE` lines is that of a tree. -/
theorem exists_tree : ∃ tree : Tree, tree.lines = program.contents := by
  suffices ∀ i, i ≤ program.length →
      Beginning (program.openBefore i) (program.contents.take i) by
    have hall := this program.length (Nat.le_refl _)
    rw [Program.openBefore_length valid, ← Program.contents_length, List.take_length] at hall
    generalize program.contents = lines at hall
    cases hall with
    | closed tree => exact ⟨tree, rfl⟩
  intro i
  induction i with
  | zero =>
      intro _
      rw [Program.openBefore_zero, List.take_zero]
      exact .closed .empty
  | succ i ih =>
      intro hi
      have hbefore := ih (by omega)
      cases hcontent : program.contents[i]? with
      | none =>
          have hlength : program.length ≤ i := by
            simpa using List.getElem?_eq_none_iff.mp hcontent
          omega
      | some content =>
          rw [List.take_add_one, hcontent, Option.toList_some]
          have hkindAt : program.kindAt i = content.kind? := by
            rw [Program.kindAt_eq, hcontent]
            rfl
          cases hkind : content.kind? with
          | none =>
              rw [Program.openBefore_succ_of_kindAt_eq_none (hkindAt.trans hkind)]
              exact hbefore.append (.gap content hkind)
          | some kind =>
              obtain ⟨s, hs, -⟩ := Program.statement_of_kindAt
                (Program.fits_of_faults_eq_nil valid) (hkindAt.trans hkind)
              obtain rfl : content = .statement s := Option.some.inj (hcontent.symm.trans hs)
              exact hbefore.statement valid single hs

end Valid

end Pseudocode.Structured
