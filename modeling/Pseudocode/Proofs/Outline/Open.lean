import Mathlib.Tactic.Common
import Pseudocode.Outline
import Pseudocode.Proofs.Machine.Steps

namespace Pseudocode

def Construct.closingKind : Construct → StatementKind
  | block => .endMark
  | conditional => .endIf
  | forLoop => .endMark
  | whileLoop => .endWhile
  | repeatLoop => .untilMark

theorem Construct.closingKind_ne_opens (construct other : Construct) :
    construct.closingKind ≠ .opens other := by
  cases construct <;> simp [closingKind]

theorem Construct.closingKind_ne_elseMark (construct : Construct) :
    construct.closingKind ≠ .elseMark := by
  cases construct <;> simp [closingKind]

namespace Outline

theorem eq_closingKind_of_closes {kind : StatementKind} {accepted : List Construct}
    {fault : FaultKind} {construct : Construct} (h : closes kind = some (accepted, fault))
    (hmem : construct ∈ accepted) : kind = construct.closingKind := by
  unfold closes at h
  split at h
  · cases h
    obtain rfl | rfl : construct = .forLoop ∨ construct = .block := by simpa using hmem
    · rfl
    · rfl
  · cases h
    obtain rfl : construct = .conditional := by simpa using hmem
    rfl
  · cases h
    obtain rfl : construct = .whileLoop := by simpa using hmem
    rfl
  · cases h
    obtain rfl : construct = .repeatLoop := by simpa using hmem
    rfl
  · cases h

/-- How a statement that fits in its place changes what is open. -/
inductive Enters : OpenConstructs → Nat → StatementKind → OpenConstructs → Prop where
  | plain {open_ : OpenConstructs} {line : Nat} {kind : StatementKind}
      (plain : kind = .output ∨ kind = .assign) : Enters open_ line kind open_
  | opened {open_ : OpenConstructs} {line : Nat} (construct : Construct) :
      Enters open_ line (.opens construct) ((construct, line) :: open_)
  | marked {open_ : OpenConstructs} {line openedAt : Nat} :
      Enters ((.conditional, openedAt) :: open_) line .elseMark ((.conditional, openedAt) :: open_)
  | closed {open_ : OpenConstructs} {line openedAt : Nat} {kind : StatementKind}
      {construct : Construct} (closes : kind = construct.closingKind) :
      Enters ((construct, openedAt) :: open_) line kind open_

theorem Enters.plain_inv {open_ after : OpenConstructs} {line : Nat} {kind : StatementKind}
    (h : Enters open_ line kind after) (hplain : kind = .output ∨ kind = .assign) :
    after = open_ := by
  cases h with
  | plain => rfl
  | opened construct => simp at hplain
  | marked => simp at hplain
  | @closed _ _ _ _ construct closes =>
      rcases hplain with rfl | rfl <;> cases construct <;> simp [Construct.closingKind] at closes

theorem Enters.opens_inv {open_ after : OpenConstructs} {line : Nat} {construct : Construct}
    (h : Enters open_ line (.opens construct) after) : after = (construct, line) :: open_ := by
  cases h with
  | plain plain => simp at plain
  | opened => rfl
  | closed closes => exact absurd closes.symm (Construct.closingKind_ne_opens _ _)

theorem Enters.else_inv {open_ after : OpenConstructs} {line : Nat}
    (h : Enters open_ line .elseMark after) :
    after = open_ ∧ ∃ openedAt outer, open_ = (.conditional, openedAt) :: outer := by
  cases h with
  | plain plain => simp at plain
  | marked => exact ⟨rfl, _, _, rfl⟩
  | closed closes => exact absurd closes.symm (Construct.closingKind_ne_elseMark _)

theorem Enters.close_inv {open_ after : OpenConstructs} {line : Nat} {kind : StatementKind}
    (h : Enters open_ line kind after)
    (hcloser : ∃ construct : Construct, kind = construct.closingKind) :
    ∃ construct openedAt, open_ = (construct, openedAt) :: after ∧
      kind = construct.closingKind := by
  obtain ⟨construct, rfl⟩ := hcloser
  generalize hkind : construct.closingKind = kind at h
  cases h with
  | plain plain =>
      exfalso
      rcases plain with rfl | rfl <;> cases construct <;> simp [Construct.closingKind] at hkind
  | opened => exact absurd hkind (Construct.closingKind_ne_opens _ _)
  | marked => exact absurd hkind (Construct.closingKind_ne_elseMark _)
  | closed closes => exact ⟨_, _, rfl, closes⟩

theorem enters_of_enter {open_ after : OpenConstructs} {line : Nat} {kind : StatementKind}
    (h : enter open_ line kind = (after, none)) : Enters open_ line kind after := by
  unfold enter at h
  split at h
  · next construct =>
      cases h
      exact .opened construct
  · split at h
    · cases h
      exact .marked
    · cases h
  · next hopens helse =>
      split at h
      · next hnone =>
          cases h
          refine .plain ?_
          cases kind <;> simp_all [closes]
      · next accepted fault hsome =>
          split at h
          · next construct i rest =>
              split at h
              · next hmem =>
                  cases h
                  exact .closed (eq_closingKind_of_closes hsome hmem)
              · cases h
          · cases h

theorem enter_fst_cases (open_ : OpenConstructs) (line : Nat) (kind : StatementKind) :
    (∃ construct, kind = .opens construct ∧
      (enter open_ line kind).1 = (construct, line) :: open_) ∨
    (enter open_ line kind).1 = open_ ∨
    ∃ innermost, open_ = innermost :: (enter open_ line kind).1 := by
  unfold enter
  split
  · next construct => exact .inl ⟨construct, rfl, rfl⟩
  · split <;> exact .inr (.inl rfl)
  · split
    · exact .inr (.inl rfl)
    · split
      · split
        · exact .inr (.inr ⟨_, rfl⟩)
        · exact .inr (.inl rfl)
      · exact .inr (.inl rfl)

def openAfter (open_ : OpenConstructs) (line : Nat) : Content → OpenConstructs
  | .statement s => (enter open_ line s.kind).1
  | _ => open_

def lineFault (open_ : OpenConstructs) (line : Nat) : Content → Option Fault
  | .statement s => (enter open_ line s.kind).2
  | .malformed _ fault => some fault
  | _ => none

theorem openAfter_cases (open_ : OpenConstructs) (line : Nat) (content : Content) :
    (∃ construct, content.kind? = some (.opens construct) ∧
      openAfter open_ line content = (construct, line) :: open_) ∨
    openAfter open_ line content = open_ ∨
    ∃ innermost, open_ = innermost :: openAfter open_ line content := by
  cases content with
  | statement s =>
      obtain ⟨construct, hs, hopen⟩ | hsame | hpop := enter_fst_cases open_ line s.kind
      · exact .inl ⟨construct, congrArg some hs, hopen⟩
      · exact .inr (.inl hsame)
      · exact .inr (.inr hpop)
  | malformed kind fault => exact .inr (.inl rfl)
  | blank => exact .inr (.inl rfl)
  | unknown => exact .inr (.inl rfl)

theorem check_cons (open_ : OpenConstructs) (line : Nat) (code : CodeLine) (rest : Program) :
    check open_ line (code :: rest) =
      ((lineFault open_ line code.content).toList ++
          (check (openAfter open_ line code.content) (line + 1) rest).1,
        (check (openAfter open_ line code.content) (line + 1) rest).2) := by
  rw [check]
  cases code.content <;> rfl

theorem check_append (open_ : OpenConstructs) (line : Nat) (before after : Program) :
    check open_ line (before ++ after) =
      ((check open_ line before).1 ++
          (check (check open_ line before).2 (line + before.length) after).1,
        (check (check open_ line before).2 (line + before.length) after).2) := by
  induction before generalizing open_ line with
  | nil => simp [check]
  | cons code rest ih =>
      rw [List.cons_append, check_cons, ih, check_cons]
      simp only [List.append_assoc, List.length_cons]
      rw [show line + 1 + rest.length = line + (rest.length + 1) by omega]

end Outline

open Outline

namespace Program

/-- The constructs that are open just before a line, innermost first. -/
def openBefore (program : Program) (line : Nat) : OpenConstructs :=
  (check [] 0 (program.take line)).2

@[simp] theorem openBefore_zero (program : Program) : program.openBefore 0 = [] := by
  simp [openBefore, check]

theorem openBefore_succ {program : Program} {i : Nat} {content : Content}
    (h : program.contents[i]? = some content) :
    program.openBefore (i + 1) = openAfter (program.openBefore i) i content := by
  rw [contents_getElem?, Option.map_eq_some_iff] at h
  obtain ⟨code, hcode, rfl⟩ := h
  have hi : i < program.length := (List.getElem?_eq_some_iff.mp hcode).1
  unfold openBefore
  rw [List.take_add_one, hcode, check_append, List.length_take, Nat.min_eq_left (by omega)]
  simp only [Option.toList_some, check_cons, check, Nat.zero_add]

theorem openBefore_of_length_le {program : Program} {i : Nat} (h : program.length ≤ i) :
    program.openBefore i = program.openBefore program.length := by
  unfold openBefore
  rw [List.take_of_length_le h, List.take_length]

theorem openBefore_succ_of_kindAt_eq_none {program : Program} {i : Nat}
    (h : program.kindAt i = none) : program.openBefore (i + 1) = program.openBefore i := by
  cases hc : program.contents[i]? with
  | none =>
      have hi : program.length ≤ i := by
        simpa using List.getElem?_eq_none_iff.mp hc
      rw [openBefore_of_length_le hi, openBefore_of_length_le (by omega)]
  | some content =>
      rw [openBefore_succ hc]
      rw [kindAt_eq, hc] at h
      cases content with
      | statement s => simp [Content.kind?] at h
      | malformed kind fault => rfl
      | blank => rfl
      | unknown => rfl

theorem openBefore_nextStatement (program : Program) (i : Nat) :
    program.openBefore (program.nextStatement i) = program.openBefore i := by
  suffices ∀ k, i ≤ k → k ≤ program.nextStatement i →
      program.openBefore k = program.openBefore i from
    this _ (le_nextStatement program i) (Nat.le_refl _)
  intro k hik hk
  induction hik with
  | refl => rfl
  | step hik ih =>
      rw [openBefore_succ_of_kindAt_eq_none (kindAt_of_lt_nextStatement hik (by omega))]
      exact ih (by omega)

/-- A construct that is open before a line was opened at an earlier line of its kind, stands on
what was open there, and has been open since. -/
theorem openBefore_suffix {program : Program} {i openedAt : Nat} {construct : Construct}
    {rest : OpenConstructs} (h : (construct, openedAt) :: rest <:+ program.openBefore i) :
    openedAt < i ∧ program.kindAt openedAt = some (.opens construct) ∧
      program.openBefore openedAt = rest ∧
      ∀ k, openedAt < k → k ≤ i → (construct, openedAt) :: rest <:+ program.openBefore k := by
  induction i with
  | zero => simp at h
  | succ i ih =>
      have hstep : (construct, openedAt) :: rest <:+ program.openBefore i →
          openedAt < i + 1 ∧ program.kindAt openedAt = some (.opens construct) ∧
          program.openBefore openedAt = rest ∧
          ∀ k, openedAt < k → k ≤ i + 1 →
            (construct, openedAt) :: rest <:+ program.openBefore k := by
        intro hbefore
        obtain ⟨hlt, hkind, hrest, hsince⟩ := ih hbefore
        refine ⟨by omega, hkind, hrest, ?_⟩
        intro k hk hki
        by_cases hlast : k = i + 1
        · rw [hlast]
          exact h
        · exact hsince k hk (by omega)
      cases hc : program.contents[i]? with
      | none =>
          rw [openBefore_succ_of_kindAt_eq_none (by rw [kindAt_eq, hc]; rfl)] at h
          exact hstep h
      | some content =>
          have hopen := openBefore_succ hc
          obtain ⟨c, hkind, hnew⟩ | hsame | ⟨innermost, hpop⟩ :=
            openAfter_cases (program.openBefore i) i content
          · rw [hopen, hnew] at h
            rcases List.suffix_cons_iff.mp h with heq | hsuffix
            · obtain ⟨⟨rfl, rfl⟩, rfl⟩ : (construct = c ∧ openedAt = i) ∧
                  rest = program.openBefore i := by simpa using heq
              refine ⟨by omega, by rw [kindAt_eq, hc]; exact hkind, rfl, ?_⟩
              intro k hk hki
              obtain rfl : k = openedAt + 1 := by omega
              simp only [hopen, hnew, List.suffix_refl]
            · exact hstep hsuffix
          · rw [hopen, hsame] at h
            exact hstep h
          · rw [hopen] at h
            exact hstep (h.trans ⟨[innermost], hpop.symm⟩)

theorem lt_of_mem_openBefore {program : Program} {i : Nat} {entry : Construct × Nat}
    (h : entry ∈ program.openBefore i) : entry.2 < i := by
  obtain ⟨above, below, hsplit⟩ := List.append_of_mem h
  have hsuffix : entry :: below <:+ program.openBefore i := ⟨above, hsplit.symm⟩
  exact (openBefore_suffix hsuffix).1

theorem openBefore_pairwise (program : Program) (i : Nat) :
    (program.openBefore i).Pairwise fun inner outer => outer.2 < inner.2 := by
  suffices ∀ open_ : OpenConstructs, open_ <:+ program.openBefore i →
      open_.Pairwise fun inner outer => outer.2 < inner.2 from
    this _ List.suffix_rfl
  intro open_ h
  induction open_ with
  | nil => exact List.Pairwise.nil
  | cons innermost rest ih =>
      refine List.Pairwise.cons ?_ (ih ((List.suffix_cons innermost rest).trans h))
      intro outer houter
      obtain ⟨-, -, hrest, -⟩ := openBefore_suffix h
      exact lt_of_mem_openBefore (hrest.symm ▸ houter)

theorem openBefore_outer_lt {program : Program} {i : Nat} {innermost outer : Construct × Nat}
    {rest : OpenConstructs} (h : program.openBefore i = innermost :: rest) (houter : outer ∈ rest) :
    outer.2 < innermost.2 := by
  have hsorted := openBefore_pairwise program i
  rw [h] at hsorted
  exact (List.pairwise_cons.mp hsorted).1 outer houter

theorem faults_eq_nil_iff {program : Program} :
    program.faults = [] ↔ check [] 0 program = ([], []) := by
  unfold faults
  rw [Prod.ext_iff]
  simp

/-- No line of a program has a fault of its own. Constructs may be left open at its end. -/
def Fits (program : Program) : Prop := (check [] 0 program).1 = []

theorem fits_of_faults_eq_nil {program : Program} (valid : program.faults = []) :
    program.Fits := by
  rw [Fits, faults_eq_nil_iff.mp valid]

theorem check_eq_openBefore_length (program : Program) :
    (check [] 0 program).2 = program.openBefore program.length := by
  rw [openBefore, List.take_length]

theorem openBefore_length {program : Program} (valid : program.faults = []) :
    program.openBefore program.length = [] := by
  rw [← check_eq_openBefore_length, faults_eq_nil_iff.mp valid]

section Fits

variable {program : Program} (fits : program.Fits)
include fits

theorem lineFault_eq_none {i : Nat} {content : Content}
    (h : program.contents[i]? = some content) :
    lineFault (program.openBefore i) i content = none := by
  rw [contents_getElem?, Option.map_eq_some_iff] at h
  obtain ⟨code, hcode, rfl⟩ := h
  obtain ⟨hi, hget⟩ := List.getElem?_eq_some_iff.mp hcode
  have hcheck : (check [] 0 program).1 = [] := fits
  have hsplit : program = program.take i ++ code :: program.drop (i + 1) := by
    rw [← hget, ← List.drop_eq_getElem_cons hi, List.take_append_drop]
  rw [hsplit, check_append, check_cons] at hcheck
  simp only [List.append_eq_nil_iff, List.length_take, Nat.min_eq_left (Nat.le_of_lt hi),
    Nat.zero_add, Option.toList_eq_nil_iff] at hcheck
  exact hcheck.2.1

theorem check_between {i j : Nat} (hij : i ≤ j) (hj : j ≤ program.length) :
    check (program.openBefore i) i ((program.take j).drop i) = ([], program.openBefore j) := by
  have hsplit : program.take i ++ (program.take j).drop i = program.take j := by
    have hwhole := List.take_append_drop i (program.take j)
    rwa [List.take_take, Nat.min_eq_left hij] at hwhole
  have hlength : (program.take i).length = i := by
    rw [List.length_take, Nat.min_eq_left (Nat.le_trans hij hj)]
  have hfits : (check [] 0 (program.take j ++ program.drop j)).1 = [] := by
    rw [List.take_append_drop]
    exact fits
  rw [check_append] at hfits
  have hbefore := check_append [] 0 (program.take i) ((program.take j).drop i)
  rw [hsplit, hlength, Nat.zero_add] at hbefore
  have hnone := (List.append_eq_nil_iff.mp hfits).1
  rw [hbefore] at hnone
  exact Prod.ext (List.append_eq_nil_iff.mp hnone).2 (congrArg Prod.snd hbefore).symm

theorem ne_malformed {i : Nat} {kind : StatementKind} {fault : Fault} :
    program.contents[i]? ≠ some (.malformed kind fault) := by
  intro h
  have hfault := lineFault_eq_none fits h
  simp [lineFault] at hfault

theorem enters_of_fits {i : Nat} {s : Statement}
    (h : program.contents[i]? = some (.statement s)) :
    Enters (program.openBefore i) i s.kind (program.openBefore (i + 1)) := by
  have hfault := lineFault_eq_none fits h
  rw [openBefore_succ h]
  exact enters_of_enter (Prod.ext rfl hfault)

theorem statement_of_kindAt {i : Nat} {kind : StatementKind}
    (h : program.kindAt i = some kind) :
    ∃ s, program.contents[i]? = some (.statement s) ∧ s.kind = kind := by
  rw [kindAt_eq, Option.bind_eq_some_iff] at h
  obtain ⟨content, hcontent, hkind⟩ := h
  cases content with
  | statement s => exact ⟨s, hcontent, by simpa [Content.kind?] using hkind⟩
  | malformed kind fault => exact absurd hcontent (ne_malformed fits)
  | blank => simp [Content.kind?] at hkind
  | unknown => simp [Content.kind?] at hkind

theorem openBefore_succ_plain {i : Nat} {kind : StatementKind}
    (h : program.kindAt i = some kind) (hplain : kind = .output ∨ kind = .assign) :
    program.openBefore (i + 1) = program.openBefore i := by
  obtain ⟨s, hs, rfl⟩ := statement_of_kindAt fits h
  exact (enters_of_fits fits hs).plain_inv hplain

theorem openBefore_succ_opens {i : Nat} {construct : Construct}
    (h : program.kindAt i = some (.opens construct)) :
    program.openBefore (i + 1) = (construct, i) :: program.openBefore i := by
  obtain ⟨s, hs, hkind⟩ := statement_of_kindAt fits h
  have henter := enters_of_fits fits hs
  rw [hkind] at henter
  exact henter.opens_inv

theorem openBefore_succ_else {i : Nat} (h : program.kindAt i = some .elseMark) :
    program.openBefore (i + 1) = program.openBefore i ∧
      ∃ openedAt outer, program.openBefore i = (.conditional, openedAt) :: outer := by
  obtain ⟨s, hs, hkind⟩ := statement_of_kindAt fits h
  have henter := enters_of_fits fits hs
  rw [hkind] at henter
  exact henter.else_inv

theorem openBefore_succ_close {i : Nat} (construct : Construct)
    (h : program.kindAt i = some construct.closingKind) :
    ∃ construct' openedAt,
      program.openBefore i = (construct', openedAt) :: program.openBefore (i + 1) ∧
      construct.closingKind = construct'.closingKind := by
  obtain ⟨s, hs, hkind⟩ := statement_of_kindAt fits h
  have henter := enters_of_fits fits hs
  rw [hkind] at henter
  exact henter.close_inv ⟨construct, rfl⟩

theorem openBefore_reopened {i openedAt : Nat} {construct : Construct} {outer : OpenConstructs}
    (h : program.openBefore i = (construct, openedAt) :: outer) :
    program.openBefore openedAt = outer ∧
      program.openBefore (openedAt + 1) = (construct, openedAt) :: outer := by
  have hsuffix : (construct, openedAt) :: outer <:+ program.openBefore i := by
    simp only [h, List.suffix_refl]
  obtain ⟨-, hkind, houter, -⟩ := openBefore_suffix hsuffix
  refine ⟨houter, ?_⟩
  rw [openBefore_succ_opens fits hkind, houter]

end Fits

theorem not_malformed {program : Program} (valid : program.faults = []) {i : Nat}
    {kind : StatementKind} {fault : Fault} :
    program.contents[i]? ≠ some (.malformed kind fault) :=
  ne_malformed (fits_of_faults_eq_nil valid)

/-- The line of an `ELSE` that stands directly in the conditional opened at a line. -/
def ElseOf (program : Program) (openedAt line : Nat) : Prop :=
  program.kindAt line = some .elseMark ∧
    ∃ rest, program.openBefore line = (.conditional, openedAt) :: rest

def SingleElse (program : Program) : Prop :=
  ∀ openedAt line line', program.ElseOf openedAt line → program.ElseOf openedAt line' →
    line = line'

def elseOf? (program : Program) (line : Nat) : Option Nat :=
  match program.kindAt line, program.openBefore line with
  | some .elseMark, (.conditional, openedAt) :: _ => some openedAt
  | _, _ => none

theorem elseOf?_eq_some_iff {program : Program} {openedAt line : Nat} :
    program.elseOf? line = some openedAt ↔ program.ElseOf openedAt line := by
  unfold elseOf? ElseOf
  constructor
  · intro h
    split at h
    · next hkind hopen =>
        cases h
        exact ⟨hkind, _, hopen⟩
    · cases h
  · rintro ⟨hkind, rest, hopen⟩
    rw [hkind, hopen]

theorem singleElse_iff {program : Program} :
    program.SingleElse ↔ ∀ line < program.length, ∀ line' < program.length,
      program.elseOf? line ≠ none → program.elseOf? line = program.elseOf? line' →
        line = line' := by
  constructor
  · intro h line _ line' _ hsome hsame
    obtain ⟨openedAt, hline⟩ := Option.ne_none_iff_exists'.mp hsome
    exact h openedAt line line' (elseOf?_eq_some_iff.mp hline)
      (elseOf?_eq_some_iff.mp (hsame.symm.trans hline))
  · intro h openedAt line line' hline hline'
    have hsome := elseOf?_eq_some_iff.mpr hline
    have hsome' := elseOf?_eq_some_iff.mpr hline'
    exact h line (lt_length_of_kindAt hline.1) line' (lt_length_of_kindAt hline'.1)
      (by rw [hsome]; simp) (hsome.trans hsome'.symm)

instance (program : Program) : Decidable program.SingleElse :=
  decidable_of_iff _ singleElse_iff.symm

end Program

end Pseudocode
