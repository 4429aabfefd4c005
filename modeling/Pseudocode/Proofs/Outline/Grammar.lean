import Pseudocode.Proofs.Outline.Open
import Pseudocode.Proofs.Source.Lines

namespace Pseudocode.Outline

open Pseudocode

/-- The phrases of the grammar: a single statement or construct, a sequence of them, and a sequence
that is also divided by `ELSE`. -/
inductive Phrase where
  | item
  | items
  | branches

/-- The kinds of statements that make up each phrase. -/
inductive Derives : Phrase → List StatementKind → Prop where
  | output : Derives .item [.output]
  | assign : Derives .item [.assign]
  | block {body : List StatementKind} (h : Derives .items body) :
      Derives .item (.opens .block :: (body ++ [.endMark]))
  | forLoop {body : List StatementKind} (h : Derives .items body) :
      Derives .item (.opens .forLoop :: (body ++ [.endMark]))
  | whileLoop {body : List StatementKind} (h : Derives .items body) :
      Derives .item (.opens .whileLoop :: (body ++ [.endWhile]))
  | repeatLoop {body : List StatementKind} (h : Derives .items body) :
      Derives .item (.opens .repeatLoop :: (body ++ [.untilMark]))
  | conditional {body : List StatementKind} (h : Derives .branches body) :
      Derives .item (.opens .conditional :: (body ++ [.endIf]))
  | noItem : Derives .items []
  | moreItems {first rest : List StatementKind} (h : Derives .item first)
      (hrest : Derives .items rest) : Derives .items (first ++ rest)
  | noBranch : Derives .branches []
  | moreBranches {first rest : List StatementKind} (h : Derives .item first)
      (hrest : Derives .branches rest) : Derives .branches (first ++ rest)
  | elseBranch {rest : List StatementKind} (hrest : Derives .branches rest) :
      Derives .branches (.elseMark :: rest)

def bodyOf : Construct → Phrase
  | .conditional => .branches
  | _ => .items

theorem derives_construct {construct : Construct} {body : List StatementKind}
    (h : Derives (bodyOf construct) body) :
    Derives .item (.opens construct :: (body ++ [construct.closingKind])) := by
  cases construct with
  | block => exact .block h
  | conditional => exact .conditional h
  | forLoop => exact .forLoop h
  | whileLoop => exact .whileLoop h
  | repeatLoop => exact .repeatLoop h

theorem derives_item_iff {kinds : List StatementKind} :
    Derives .item kinds ↔ kinds = [.output] ∨ kinds = [.assign] ∨
      ∃ construct body, Derives (bodyOf construct) body ∧
        kinds = .opens construct :: (body ++ [construct.closingKind]) := by
  constructor
  · intro h
    cases h with
    | output => exact .inl rfl
    | assign => exact .inr (.inl rfl)
    | block h => exact .inr (.inr ⟨.block, _, h, rfl⟩)
    | forLoop h => exact .inr (.inr ⟨.forLoop, _, h, rfl⟩)
    | whileLoop h => exact .inr (.inr ⟨.whileLoop, _, h, rfl⟩)
    | repeatLoop h => exact .inr (.inr ⟨.repeatLoop, _, h, rfl⟩)
    | conditional h => exact .inr (.inr ⟨.conditional, _, h, rfl⟩)
  · rintro (rfl | rfl | ⟨construct, body, h, rfl⟩)
    · exact .output
    · exact .assign
    · exact derives_construct h

theorem derives_items_iff {kinds : List StatementKind} :
    Derives .items kinds ↔ kinds = [] ∨
      ∃ first rest, Derives .item first ∧ Derives .items rest ∧ kinds = first ++ rest := by
  constructor
  · intro h
    cases h with
    | noItem => exact .inl rfl
    | moreItems h hrest => exact .inr ⟨_, _, h, hrest, rfl⟩
  · rintro (rfl | ⟨first, rest, h, hrest, rfl⟩)
    · exact .noItem
    · exact .moreItems h hrest

theorem derives_branches_iff {kinds : List StatementKind} :
    Derives .branches kinds ↔ kinds = [] ∨
      (∃ first rest, Derives .item first ∧ Derives .branches rest ∧ kinds = first ++ rest) ∨
      ∃ rest, Derives .branches rest ∧ kinds = .elseMark :: rest := by
  constructor
  · intro h
    cases h with
    | noBranch => exact .inl rfl
    | moreBranches h hrest => exact .inr (.inl ⟨_, _, h, hrest, rfl⟩)
    | elseBranch hrest => exact .inr (.inr ⟨_, hrest, rfl⟩)
  · rintro (rfl | ⟨first, rest, h, hrest, rfl⟩ | ⟨rest, hrest, rfl⟩)
    · exact .noBranch
    · exact .moreBranches h hrest
    · exact .elseBranch hrest

theorem derives_body_iff {construct : Construct} {kinds : List StatementKind} :
    Derives (bodyOf construct) kinds ↔ kinds = [] ∨
      (∃ first rest, Derives .item first ∧ Derives (bodyOf construct) rest ∧
        kinds = first ++ rest) ∨
      (construct = .conditional ∧
        ∃ rest, Derives (bodyOf construct) rest ∧ kinds = .elseMark :: rest) := by
  cases construct with
  | conditional => simpa [bodyOf] using derives_branches_iff
  | _ => simpa [bodyOf] using derives_items_iff

/-- The statements that may follow where constructs are open: what is left of the innermost one
with its closer, then what is left of the next one, and items once all are closed. -/
def Completes : List Construct → List StatementKind → Prop
  | [], kinds => Derives .items kinds
  | construct :: outer, kinds =>
      ∃ body rest, Derives (bodyOf construct) body ∧ Completes outer rest ∧
        kinds = body ++ construct.closingKind :: rest

theorem completes_item {open_ : List Construct} {first kinds : List StatementKind}
    (h : Derives .item first) (hrest : Completes open_ kinds) :
    Completes open_ (first ++ kinds) := by
  cases open_ with
  | nil => exact .moreItems h hrest
  | cons construct outer =>
      obtain ⟨body, rest, hbody, houter, rfl⟩ := hrest
      refine ⟨first ++ body, rest, ?_, houter, by simp⟩
      exact derives_body_iff.mpr (.inr (.inl ⟨first, body, h, hbody, rfl⟩))

theorem completes_of_enters {open_ after : OpenConstructs} {line : Nat} {kind : StatementKind}
    {kinds : List StatementKind} (h : Enters open_ line kind after)
    (hrest : Completes (after.map Prod.fst) kinds) :
    Completes (open_.map Prod.fst) (kind :: kinds) := by
  cases h with
  | plain plain =>
      rcases plain with rfl | rfl
      · exact completes_item .output hrest
      · exact completes_item .assign hrest
  | opened construct =>
      obtain ⟨body, rest, hbody, houter, rfl⟩ := hrest
      simpa using completes_item (derives_construct hbody) houter
  | marked =>
      obtain ⟨body, rest, hbody, houter, rfl⟩ := hrest
      exact ⟨.elseMark :: body, rest, .elseBranch hbody, houter, rfl⟩
  | closed closes =>
      subst closes
      exact ⟨[], kinds, derives_body_iff.mpr (.inl rfl), hrest, rfl⟩

theorem enters_of_item (open_ : OpenConstructs) {kind : StatementKind}
    {first rest kinds : List StatementKind} (h : Derives .item first)
    (hrest : Completes (open_.map Prod.fst) rest) (hkinds : kind :: kinds = first ++ rest)
    (line : Nat) :
    ∃ after, Enters open_ line kind after ∧ Completes (after.map Prod.fst) kinds := by
  rcases derives_item_iff.mp h with rfl | rfl | ⟨construct, body, hbody, rfl⟩
  · cases hkinds
    exact ⟨open_, .plain (.inl rfl), hrest⟩
  · cases hkinds
    exact ⟨open_, .plain (.inr rfl), hrest⟩
  · obtain ⟨rfl, rfl⟩ := List.cons.inj hkinds
    exact ⟨(construct, line) :: open_, .opened construct, body, rest, hbody, hrest, by simp⟩

theorem enters_of_completes {open_ : OpenConstructs} {kind : StatementKind}
    {kinds : List StatementKind} (h : Completes (open_.map Prod.fst) (kind :: kinds))
    (line : Nat) :
    ∃ after, Enters open_ line kind after ∧ Completes (after.map Prod.fst) kinds := by
  cases open_ with
  | nil =>
      rcases derives_items_iff.mp h with hnil | ⟨first, rest, hfirst, hrest, hkinds⟩
      · cases hnil
      · exact enters_of_item [] hfirst hrest hkinds line
  | cons innermost outer =>
      obtain ⟨construct, openedAt⟩ := innermost
      obtain ⟨body, rest, hbody, houter, hkinds⟩ := h
      rcases derives_body_iff.mp hbody with
        rfl | ⟨first, more, hfirst, hmore, rfl⟩ | ⟨rfl, more, hmore, rfl⟩
      · cases hkinds
        exact ⟨outer, .closed rfl, houter⟩
      · have hleft : Completes (construct :: outer.map Prod.fst)
            (more ++ construct.closingKind :: rest) := ⟨more, rest, hmore, houter, rfl⟩
        rw [List.append_assoc] at hkinds
        exact enters_of_item ((construct, openedAt) :: outer) hfirst hleft hkinds line
      · cases hkinds
        exact ⟨_, .marked, more, rest, hmore, houter, rfl⟩

theorem enter_eq_none_iff {open_ after : OpenConstructs} {line : Nat} {kind : StatementKind} :
    enter open_ line kind = (after, none) ↔ Enters open_ line kind after := by
  constructor
  · exact enters_of_enter
  · intro h
    cases h with
    | plain plain => rcases plain with rfl | rfl <;> rfl
    | opened construct => rfl
    | marked => rfl
    | @closed _ _ _ _ construct closes =>
        subst closes
        cases construct <;> rfl

theorem check_cons_eq_nil_iff {open_ : OpenConstructs} {line : Nat} {code : CodeLine}
    {rest : Program} :
    check open_ line (code :: rest) = ([], []) ↔
      lineFault open_ line code.content = none ∧
        check (openAfter open_ line code.content) (line + 1) rest = ([], []) := by
  rw [check_cons, Prod.ext_iff, Prod.ext_iff]
  simp [and_assoc]

/-- The outline of lines below some open constructs finds no fault if and only if each line can be
read and the statements complete the constructs. -/
theorem check_eq_nil_iff (open_ : OpenConstructs) (line : Nat) (program : Program) :
    check open_ line program = ([], []) ↔
      (∀ code ∈ program, ∀ kind fault, code.content ≠ .malformed kind fault) ∧
        Completes (open_.map Prod.fst) (program.filterMap fun code => code.content.kind?) := by
  induction program generalizing open_ line with
  | nil =>
      cases open_ with
      | nil => simp [check, Completes, Derives.noItem]
      | cons innermost outer => simp [check, Completes]
  | cons code rest ih =>
      rw [check_cons_eq_nil_iff, ih]
      cases hcode : code.content with
      | blank => simp [openAfter, lineFault, hcode, Content.kind?]
      | unknown => simp [openAfter, lineFault, hcode, Content.kind?]
      | malformed kind fault => simp [lineFault, hcode]
      | statement s =>
          simp only [openAfter, lineFault, List.forall_mem_cons, List.filterMap_cons, hcode,
            Content.kind?, ne_eq, reduceCtorEq, not_false_eq_true, implies_true, true_and]
          rw [and_left_comm]
          refine and_congr_right fun _ => ?_
          constructor
          · rintro ⟨hfault, hrest⟩
            exact completes_of_enters (enter_eq_none_iff.mp (Prod.ext rfl hfault)) hrest
          · intro h
            obtain ⟨after, henters, hrest⟩ := enters_of_completes h line
            rw [enter_eq_none_iff.mpr henters]
            exact ⟨rfl, hrest⟩

/-- A source text has no faults if and only if each of its lines that announces a statement can be
read and the statements, with all other lines left out, derive from the grammar. -/
theorem faults_eq_nil_iff_derives (comment source : String) :
    (Program.ofSource comment source).faults = [] ↔
      (∀ line ∈ Line.ofSource source, ∀ kind, line.kind comment = .statement kind →
        ∃ s, Statement.read kind line = .ok s) ∧
      Derives .items
        ((Line.ofSource source).filterMap fun line => (line.kind comment).statement?) := by
  rw [Program.faults_eq_nil_iff, check_eq_nil_iff]
  simp only [Program.ofSource, Program.ofLines, List.forall_mem_map, List.filterMap_map,
    Function.comp_def, Line.content_kind?, Line.content_ne_malformed_iff]
  rfl

end Pseudocode.Outline
