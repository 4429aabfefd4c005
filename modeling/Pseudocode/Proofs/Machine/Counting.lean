import Pseudocode.Proofs.Decimal.Exact
import Pseudocode.Proofs.Machine.Alignment
import Pseudocode.Proofs.Machine.Growth
import Pseudocode.Proofs.Machine.Loops

/-!
Counting loops in runs of programs without faults. As long as the frame of a loop is open, control
stays between its header and its `END`, whatever loops, blocks and conditionals the body has, and
only this `END` changes the variable. So a loop with whole bounds takes the values between them one
by one, and at least the first.
-/

namespace Pseudocode

open Outline

namespace Program

def ClosesFor (program : Program) (opener closer : Nat) : Prop :=
  program.kindAt closer = some .endMark ∧
    ∃ outer, program.openBefore closer = (.forLoop, opener) :: outer

variable {program : Program} {opener closer : Nat}

theorem ClosesFor.mem_openBefore_iff (fits : program.Fits) (h : program.ClosesFor opener closer)
    {line : Nat} :
    (.forLoop, opener) ∈ program.openBefore line ↔ opener < line ∧ line ≤ closer := by
  obtain ⟨hkind, outer, hopen⟩ := h
  have hsuffix : (.forLoop, opener) :: outer <:+ program.openBefore closer := by
    simp only [hopen, List.suffix_refl]
  obtain ⟨hlt, -, -, hsince⟩ := openBefore_suffix hsuffix
  constructor
  · intro hmem
    refine ⟨lt_of_mem_openBefore hmem, ?_⟩
    by_contra hbehind
    obtain ⟨above, below, hsplit⟩ := List.append_of_mem hmem
    have hstill : (.forLoop, opener) :: below <:+ program.openBefore (closer + 1) :=
      (openBefore_suffix ⟨above, hsplit.symm⟩).2.2.2 _ (by omega) (by omega)
    obtain ⟨construct, openedAt, hclosed, -⟩ := openBefore_succ_close fits .forLoop hkind
    rw [hopen, List.cons.injEq] at hclosed
    rw [← hclosed.2] at hstill
    exact Nat.lt_irrefl _ (openBefore_outer_lt hopen (hstill.subset List.mem_cons_self))
  · rintro ⟨hbehind, hle⟩
    exact (hsince line hbehind hle).subset List.mem_cons_self

theorem ClosesFor.unique (fits : program.Fits) {closer' : Nat}
    (h : program.ClosesFor opener closer) (h' : program.ClosesFor opener closer') :
    closer = closer' := by
  have hmem : ∀ {line}, program.ClosesFor opener line →
      (.forLoop, opener) ∈ program.openBefore line := by
    rintro line ⟨-, outer, hopen⟩
    rw [hopen]
    exact List.mem_cons_self
  exact Nat.le_antisymm ((h'.mem_openBefore_iff fits).mp (hmem h)).2
    ((h.mem_openBefore_iff fits).mp (hmem h')).2

theorem mem_openBefore_succ (fits : program.Fits) {line : Nat} {entry : Construct × Nat}
    (h : entry ∈ program.openBefore line) :
    entry ∈ program.openBefore (line + 1) ∨
      (program.kindAt line = some entry.1.closingKind ∧
        program.openBefore line = entry :: program.openBefore (line + 1)) := by
  have hclose : ∀ construct : Construct, program.kindAt line = some construct.closingKind →
      entry ∈ program.openBefore (line + 1) ∨
        (program.kindAt line = some entry.1.closingKind ∧
          program.openBefore line = entry :: program.openBefore (line + 1)) := by
    intro construct hkind
    obtain ⟨construct', openedAt, hbefore, hcloses⟩ := openBefore_succ_close fits construct hkind
    rw [hbefore] at h
    rcases List.mem_cons.mp h with rfl | hmem
    · exact .inr ⟨by rw [hkind, hcloses], hbefore⟩
    · exact .inl hmem
  cases hkind : program.kindAt line with
  | none => exact .inl (by rwa [openBefore_succ_of_kindAt_eq_none hkind])
  | some kind =>
      rw [← hkind]
      cases kind with
      | output => exact .inl (by rwa [openBefore_succ_plain fits hkind (.inl rfl)])
      | assign => exact .inl (by rwa [openBefore_succ_plain fits hkind (.inr rfl)])
      | opens construct =>
          rw [openBefore_succ_opens fits hkind]
          exact .inl (List.mem_cons_of_mem _ h)
      | elseMark => exact .inl (by rwa [(openBefore_succ_else fits hkind).1])
      | endMark => exact hclose .forLoop hkind
      | endIf => exact hclose .conditional hkind
      | endWhile => exact hclose .whileLoop hkind
      | untilMark => exact hclose .repeatLoop hkind

theorem exists_closesFor (valid : program.faults = [])
    (h : program.kindAt opener = some (.opens .forLoop)) :
    ∃ closer, program.ClosesFor opener closer := by
  have fits := fits_of_faults_eq_nil valid
  by_contra hnone
  have hopen : ∀ line, opener + 1 ≤ line → (.forLoop, opener) ∈ program.openBefore line := by
    intro line hline
    induction hline with
    | refl =>
        rw [openBefore_succ_opens fits h]
        exact List.mem_cons_self
    | @step line _ ih =>
        rcases mem_openBefore_succ fits ih with hstill | ⟨hkind, hclosed⟩
        · exact hstill
        · exact absurd ⟨line, hkind, _, hclosed⟩ hnone
  have hend := hopen program.length (lt_length_of_kindAt h)
  rw [openBefore_length valid] at hend
  cases hend

end Program

def LoopFrame.Spares (name : String) : LoopFrame → Prop
  | .counting _ other _ _ => Store.normalize other ≠ Store.normalize name
  | _ => True

def Program.BodySpares (program : Program) (opener closer : Nat) (name : String) : Prop :=
  ∀ line s other, opener < line → line < closer →
    program.contents[line]? = some (.statement s) → s.target? = some other →
    Store.normalize other ≠ Store.normalize name

namespace Machine

def Inside (opener closer : Nat) (m : Machine) : Prop := opener < m.cursor ∧ m.cursor ≤ closer

instance (opener closer : Nat) (m : Machine) : Decidable (m.Inside opener closer) :=
  inferInstanceAs (Decidable (_ ∧ _))

def Counts (m : Machine) (name : String) (k : ℤ) : Prop :=
  ∃ x, m.store.lookup name = some (.number x) ∧ Double.IsWhole x k

theorem counts_cons {name : String} {c : ℤ} {first : Machine} {states : List Machine}
    (hfirst : first.Counts name c)
    (hstates : ∀ (k : Nat) (state : Machine), states[k]? = some state →
      state.Counts name (c + 1 + k)) :
    ∀ (k : Nat) (state : Machine), (first :: states)[k]? = some state →
      state.Counts name (c + k) := by
  intro k state hstate
  cases k with
  | zero =>
      cases hstate
      simpa using hfirst
  | succ k =>
      have hcounts := hstates k state hstate
      rwa [show c + 1 + (k : ℤ) = c + (k + 1 : ℕ) by push_cast; ring] at hcounts

def Consecutive (states : List Machine) : Prop :=
  states.IsChain fun m m' => m.step = .next m'

/-- The states in which control has come into the body of a loop, from its header or its `END`. -/
def bodyEntries (opener closer : Nat) : List Machine → List Machine
  | before :: after :: rest =>
      if (before.cursor = opener ∨ before.cursor = closer) ∧ after.Inside opener closer then
        after :: bodyEntries opener closer (after :: rest)
      else bodyEntries opener closer (after :: rest)
  | _ => []

/-- A state in which the frame of a loop is open, with further loops of its body above it. -/
structure InLoop (program : Program) (opener : Nat) (name : String) (start stop : Float)
    (outer : List LoopFrame) (m : Machine) : Prop where
  aligned : ∃ rewound, Aligned program m rewound
  frames : ∃ inner, m.nesting.loops = inner ++ .counting opener name start stop :: outer ∧
    ∀ frame ∈ inner, opener < frame.openedAt ∧ frame.Spares name

section InLoop

variable {program : Program} {opener closer : Nat} {name : String} {start stop : Float}
  {outer : List LoopFrame} {m m' : Machine}

theorem nesting_store_of_advance {m₁ : Machine} (h : m₁.count.advance = .next m') :
    m'.nesting = m₁.nesting ∧ m'.store = m₁.store := by
  refine ⟨(kept_of_advance h).1, ?_⟩
  have hstore := (advance_keeps m₁.count).2.2
  rwa [h] at hstore

theorem InLoop.inside (closes : program.ClosesFor opener closer)
    (h : InLoop program opener name start stop outer m) : m.Inside opener closer := by
  obtain ⟨⟨rewound, haligned⟩, inner, hloops, -⟩ := h
  have hmem := haligned.stands.1.loop_mem (.counting opener name start stop) (by simp [hloops])
  rw [haligned.program_eq] at hmem
  apply (closes.mem_openBefore_iff haligned.fits).mp
  rcases List.mem_append.mp hmem with hrepeat | hopen
  · cases rewound <;> simp [LoopFrame.construct] at hrepeat
  · exact hopen

theorem frames_of_effect {s : Statement} {m₁ : Machine} {inner : List LoopFrame}
    (hloops : m.nesting.loops = inner ++ .counting opener name start stop :: outer)
    (hinner : ∀ frame ∈ inner, opener < frame.openedAt ∧ frame.Spares name)
    (hbehind : opener < m.cursor)
    (spared : ∀ other, s.target? = some other → Store.normalize other ≠ Store.normalize name)
    (notOwn : s = .endMark → inner = [] → ¬ m.Nearest opener) (effect : Effect m s m₁) :
    (∃ inner', m₁.nesting.loops = inner' ++ .counting opener name start stop :: outer ∧
      ∀ frame ∈ inner', opener < frame.openedAt ∧ frame.Spares name) ∧
    m₁.store.lookup name = m.store.lookup name := by
  have hpop : ∀ {frame : LoopFrame} {rest : List LoopFrame}, m.nesting.loops = frame :: rest →
      (inner = [] → frame ≠ .counting opener name start stop) →
      (opener < frame.openedAt ∧ frame.Spares name) ∧
      ∃ inner', rest = inner' ++ .counting opener name start stop :: outer ∧
        ∀ frame ∈ inner', opener < frame.openedAt ∧ frame.Spares name := by
    intro frame rest top hne
    rw [hloops] at top
    cases inner with
    | nil => exact absurd (List.cons.inj top).1.symm (hne rfl)
    | cons head inner =>
        obtain ⟨rfl, rfl⟩ := List.cons.inj top
        obtain ⟨hhead, htail⟩ := List.forall_mem_cons.mp hinner
        exact ⟨hhead, inner, rfl, htail⟩
  have hpush : ∀ frame : LoopFrame, frame.openedAt = m.cursor → frame.Spares name →
      ∃ inner', frame :: m.nesting.loops = inner' ++ .counting opener name start stop :: outer ∧
        ∀ frame ∈ inner', opener < frame.openedAt ∧ frame.Spares name := by
    intro frame here spares
    exact ⟨frame :: inner, by rw [hloops]; rfl,
      List.forall_mem_cons.mpr ⟨⟨here ▸ hbehind, spares⟩, hinner⟩⟩
  cases effect with
  | assigned _ stored =>
      refine ⟨⟨inner, hloops, hinner⟩, ?_⟩
      rw [movedTo, Store.lookup_of_assign stored, if_neg (Ne.symm (spared _ rfl))]
  | forOpened _ _ stored =>
      refine ⟨hpush _ rfl (spared _ rfl), ?_⟩
      rw [movedTo, withLoops, Store.lookup_of_assign stored, if_neg (Ne.symm (spared _ rfl))]
  | forAgain top nearest value below stored =>
      obtain ⟨⟨-, hspares⟩, -⟩ := hpop top fun hempty heq => by
        cases heq
        exact notOwn rfl hempty nearest
      refine ⟨⟨inner, hloops, hinner⟩, ?_⟩
      rw [movedTo, Store.lookup_of_assign stored, if_neg (Ne.symm hspares)]
  | forLeft top nearest reached =>
      obtain ⟨-, hrest⟩ := hpop top fun hempty heq => by
        cases heq
        exact notOwn rfl hempty nearest
      exact ⟨hrest, rfl⟩
  | whileOpened => exact ⟨hpush _ rfl trivial, rfl⟩
  | repeatOpened => exact ⟨hpush _ rfl trivial, rfl⟩
  | whileAgain top _ => exact ⟨(hpop top (by simp)).2, rfl⟩
  | whileLeft top _ => exact ⟨(hpop top (by simp)).2, rfl⟩
  | untilLeft top _ _ => exact ⟨(hpop top (by simp)).2, rfl⟩
  | untilAgain top _ _ =>
      obtain ⟨⟨hline, -⟩, inner', hrest, hinner'⟩ := hpop top (by simp)
      refine ⟨⟨_ :: inner', congrArg _ hrest, ?_⟩, rfl⟩
      exact List.forall_mem_cons.mpr ⟨⟨hline, trivial⟩, hinner'⟩
  | _ => exact ⟨⟨inner, hloops, hinner⟩, rfl⟩

theorem InLoop.step_body (closes : program.ClosesFor opener closer)
    (spared : program.BodySpares opener closer name)
    (h : InLoop program opener name start stop outer m) (hbefore : m.cursor ≠ closer)
    (hstep : m.step = .next m') :
    InLoop program opener name start stop outer m' ∧
      m'.store.lookup name = m.store.lookup name := by
  obtain ⟨hbehind, hle⟩ := h.inside closes
  obtain ⟨⟨rewound, haligned⟩, inner, hloops, hinner⟩ := h
  obtain rfl := haligned.program_eq
  obtain ⟨rewound', haligned', -⟩ := haligned.step hstep
  obtain ⟨hfinished, -⟩ | ⟨-, s, m₁, hs, heffect, hadvance⟩ := step_eq_next hstep
  · have hend := haligned.ended hfinished
    have hcloser := Program.lt_length_of_kindAt closes.1
    omega
  · have hkind := Program.kindAt_of_statement hs
    have notOwn : s = .endMark → inner = [] → ¬ m.Nearest opener := by
      rintro rfl rfl nearest
      have hclosed := openBefore_end_of_nearest haligned.fits
        (haligned.represents hkind (by simp [Statement.kind])) hkind hloops nearest
      have hstill : (.forLoop, opener) ∈ m.program.openBefore (m.cursor + 1) :=
        (closes.mem_openBefore_iff haligned.fits).mpr ⟨by omega, by omega⟩
      exact Nat.lt_irrefl _ (Program.openBefore_outer_lt hclosed hstill)
    obtain ⟨hframes, hlookup⟩ := frames_of_effect hloops hinner hbehind
      (fun other => spared m.cursor s other hbehind (by omega) hs) notOwn heffect
    obtain ⟨hnesting, hstore⟩ := nesting_store_of_advance hadvance
    rw [hstore]
    refine ⟨⟨⟨rewound', haligned'⟩, ?_⟩, hlookup⟩
    rw [hnesting]
    exact hframes

theorem InLoop.step_end (closes : program.ClosesFor opener closer)
    (h : InLoop program opener name start stop outer m) (hat : m.cursor = closer)
    (hstep : m.step = .next m') :
    (∃ x, m.store.lookup name = some (.number x) ∧ x < stop ∧
      m'.store.lookup name = some (.number (x + 1.0)) ∧
      InLoop program opener name start stop outer m') ∨
    ((∀ x, m.store.lookup name = some (.number x) → ¬ x < stop) ∧
      m'.store.lookup name = m.store.lookup name ∧
      m'.cursor = program.nextStatement (closer + 1)) := by
  obtain ⟨⟨rewound, haligned⟩, inner, hloops, hinner⟩ := h
  obtain rfl := haligned.program_eq
  obtain ⟨rewound', haligned', -⟩ := haligned.step hstep
  subst hat
  obtain ⟨hkind, above, hopen⟩ := closes
  have hframes := haligned.represents hkind (by simp)
  obtain ⟨frame, rest, htop, -, hline⟩ := (hopen ▸ hframes).loop_top rfl
  obtain rfl : inner = [] := by
    cases inner with
    | nil => rfl
    | cons head tail =>
        rw [hloops] at htop
        obtain ⟨rfl, -⟩ := List.cons.inj htop
        have hlt := (hinner head List.mem_cons_self).1
        omega
  obtain ⟨hfinished, -⟩ | ⟨-, s, m₁, hs, heffect, hadvance⟩ := step_eq_next hstep
  · rw [haligned.running hkind] at hfinished
    cases hfinished
  · obtain rfl : s = .endMark := by
      rw [Program.kindAt_of_statement hs, Option.some.injEq] at hkind
      cases s <;> simp_all [Statement.kind]
    obtain ⟨hnesting, hstore⟩ := nesting_store_of_advance hadvance
    have hcursor : m'.cursor = m₁.program.nextStatement m₁.cursor :=
      cursor_of_advance (m := m₁.count) hadvance
    rw [hstore]
    cases heffect with
    | forAgain top nearest value below stored =>
        obtain ⟨⟨⟩, -⟩ := List.cons.inj (hloops.symm.trans top)
        refine .inl ⟨_, value, below, ?_, ⟨rewound', haligned'⟩, [], ?_, hinner⟩
        · rw [movedTo, Store.lookup_of_assign stored, if_pos rfl]
        · rw [hnesting]
          exact hloops
    | forLeft top nearest reached =>
        obtain ⟨⟨⟩, -⟩ := List.cons.inj (hloops.symm.trans top)
        exact .inr ⟨reached, rfl, hcursor⟩
    | blockLeft top nearest =>
        have hblock := openBefore_end_of_block haligned.fits hframes hkind top nearest
        rw [hopen] at hblock
        cases hblock

/-- How a step of a loop counts: it goes on in the body, begins again with the next number, or
leaves the loop. -/
theorem InLoop.step {b c : ℤ} (closes : program.ClosesFor opener closer)
    (spared : program.BodySpares opener closer name) (stopsAt : Double.IsWhole stop b)
    (hlow : -2 ^ 53 ≤ c) (hhigh : b ≤ 2 ^ 53)
    (h : InLoop program opener name start stop outer m) (counts : m.Counts name c)
    (hstep : m.step = .next m') :
    (m.cursor ≠ closer ∧ InLoop program opener name start stop outer m' ∧ m'.Counts name c) ∨
    (m.cursor = closer ∧ c < b ∧ InLoop program opener name start stop outer m' ∧
      m'.Counts name (c + 1)) ∨
    (m.cursor = closer ∧ b ≤ c ∧ m'.cursor = program.nextStatement (closer + 1) ∧
      m'.Counts name c) := by
  obtain ⟨x, hvalue, hwhole⟩ := counts
  have hlt : x < stop ↔ c < b := by
    rw [Double.lt_iff_of_rational? hwhole stopsAt, Int.cast_lt]
  by_cases hat : m.cursor = closer
  · rcases h.step_end closes hat hstep with ⟨y, hy, hbelow, hnext, h'⟩ | ⟨hreached, hkept, hcursor⟩
    · obtain rfl : x = y := by simpa [hvalue] using hy
      have hcb := hlt.mp hbelow
      refine .inr (.inl ⟨hat, hcb, h', _, hnext, Double.isWhole_add_one hwhole ?_⟩)
      exact abs_le.mpr ⟨by omega, by omega⟩
    · have hbc := not_lt.mp (mt hlt.mpr (hreached x hvalue))
      exact .inr (.inr ⟨hat, hbc, hcursor, x, hkept.trans hvalue, hwhole⟩)
  · obtain ⟨h', hkept⟩ := h.step_body closes spared hat hstep
    exact .inl ⟨hat, h', x, hkept.trans hvalue, hwhole⟩

/-- From a state of a loop on, the body is entered once for every number up to the bound. -/
theorem InLoop.entries {b c : ℤ} {states : List Machine}
    (closes : program.ClosesFor opener closer) (spared : program.BodySpares opener closer name)
    (stopsAt : Double.IsWhole stop b) (hlow : -2 ^ 53 ≤ c) (hhigh : b ≤ 2 ^ 53)
    (h : InLoop program opener name start stop outer m) (counts : m.Counts name c)
    (run : Consecutive (m :: (states ++ [m'])))
    (inside : ∀ state ∈ states, state.Inside opener closer) (left : ¬ m'.Inside opener closer) :
    (bodyEntries opener closer (m :: (states ++ [m']))).length = (b - c).toNat ∧
    (∀ (k : Nat) (state : Machine),
      (bodyEntries opener closer (m :: (states ++ [m'])))[k]? = some state →
      state.Counts name (c + 1 + k)) ∧
    m'.cursor = program.nextStatement (closer + 1) ∧ m'.Counts name (max c b) := by
  induction states generalizing m c with
  | nil =>
      have hstep : m.step = .next m' := (List.isChain_cons_cons.mp run).1
      rcases h.step closes spared stopsAt hlow hhigh counts hstep with
        ⟨-, h', -⟩ | ⟨-, -, h', -⟩ | ⟨-, hbc, hcursor, counts'⟩
      · exact absurd (h'.inside closes) left
      · exact absurd (h'.inside closes) left
      · have hnone : bodyEntries opener closer (m :: ([] ++ [m'])) = [] := by
          simp [bodyEntries, left]
        rw [hnone, max_eq_left hbc]
        refine ⟨?_, by simp, hcursor, counts'⟩
        rw [List.length_nil]
        omega
  | cons next states ih =>
      obtain ⟨hstep, run'⟩ := List.isChain_cons_cons.mp run
      obtain ⟨hnext, inside'⟩ := List.forall_mem_cons.mp inside
      have hbehind := (h.inside closes).1
      rcases h.step closes spared stopsAt hlow hhigh counts hstep with
        ⟨hbefore, h', counts'⟩ | ⟨hat, hcb, h', counts'⟩ | ⟨-, -, hcursor, -⟩
      · have hsame : bodyEntries opener closer (m :: (next :: states ++ [m'])) =
            bodyEntries opener closer (next :: (states ++ [m'])) := by
          rw [List.cons_append, bodyEntries, if_neg (by omega)]
        rw [hsame]
        exact ih hlow h' counts' run' inside'
      · have hentered : bodyEntries opener closer (m :: (next :: states ++ [m'])) =
            next :: bodyEntries opener closer (next :: (states ++ [m'])) := by
          rw [List.cons_append, bodyEntries, if_pos ⟨.inr hat, hnext⟩]
        obtain ⟨hlength, hnumbers, hcursor, hlast⟩ := ih (by omega) h' counts' run' inside'
        rw [hentered]
        refine ⟨?_, ?_, hcursor, ?_⟩
        · rw [List.length_cons, hlength]
          omega
        · exact counts_cons counts' hnumbers
        · rwa [show max (c + 1) b = max c b by omega] at hlast
      · have hle := Program.le_nextStatement program (closer + 1)
        have hinside := hnext.2
        omega

theorem InLoop.of_header {rewound : Bool} {first last : String} {x y : Float}
    (aligned : Aligned program m rewound)
    (header : m.program.contents[m.cursor]? = some (.statement (.forLoop name first last)))
    (startsAt : evaluateBound m.store first = .ok x) (stopsAt : evaluateBound m.store last = .ok y)
    (hstep : m.step = .next m') :
    InLoop program m.cursor name x y m.nesting.loops m' ∧
      m'.store.lookup name = some (.number x) := by
  obtain ⟨rewound', haligned', -⟩ := aligned.step hstep
  obtain ⟨hfinished, -⟩ | ⟨-, s, m₁, hs, heffect, hadvance⟩ := step_eq_next hstep
  · rw [aligned.running (Program.kindAt_of_statement header)] at hfinished
    cases hfinished
  · rw [header] at hs
    cases hs
    obtain ⟨hnesting, hstore⟩ := nesting_store_of_advance hadvance
    cases heffect with
    | forOpened startsAt' stopsAt' stored =>
        cases startsAt.symm.trans startsAt'
        cases stopsAt.symm.trans stopsAt'
        refine ⟨⟨⟨rewound', haligned'⟩, [], by rw [hnesting]; rfl, by simp⟩, ?_⟩
        rw [hstore, movedTo, withLoops, Store.lookup_of_assign stored, if_pos rfl]

end InLoop

/-- Counting loops count exactly. In a run of a source text without faults let control be at the
header of a loop whose bounds are whole numbers up to `2 ^ 53`. The loop has an `END`. If no
statement between the two assigns to the variable, and the run goes on through states inside the
loop to one that is not, then the body was entered once for every number from `a` to `b`, and at
least once, with the numbers in their order from `a` on. The loop was left for the statement behind
its `END`, where the variable has the last number. -/
theorem for_loop_counts_exactly (comment source : String) (limit : RepeatLimit)
    (valid : (Program.ofSource comment source).faults = []) (m : Machine)
    (reached : Reached (ofSource comment limit source) m) (name first last : String)
    (header : m.program.contents[m.cursor]? = some (.statement (.forLoop name first last)))
    (x y : Float) (startsAt : evaluateBound m.store first = .ok x)
    (stopsAt : evaluateBound m.store last = .ok y) (a b : ℤ) (xWhole : Double.IsWhole x a)
    (yWhole : Double.IsWhole y b) (aSmall : |a| ≤ 2 ^ 53) (bSmall : |b| ≤ 2 ^ 53) :
    ∃ closer, m.program.ClosesFor m.cursor closer ∧
      ((∀ (line : Nat) (s : Statement), m.cursor < line → line < closer →
          m.program.contents[line]? = some (.statement s) → s.target? ≠ some name) →
        ∀ (states : List Machine) (m' : Machine), Consecutive (m :: (states ++ [m'])) →
          (∀ state ∈ states, state.Inside m.cursor closer) → ¬ m'.Inside m.cursor closer →
          let entries := bodyEntries m.cursor closer (m :: (states ++ [m']))
          (entries.length : ℤ) = max 1 (b - a + 1) ∧
          (∀ (k : Nat) (state : Machine), entries[k]? = some state → state.Counts name (a + k)) ∧
          m'.cursor = m.program.nextStatement (closer + 1) ∧ m'.Counts name (max a b)) := by
  obtain ⟨rewound, haligned⟩ := reached.aligned ⟨false, Aligned.load valid limit⟩
  have hprogram := haligned.program_eq
  obtain ⟨closer, closes⟩ := Program.exists_closesFor (hprogram ▸ valid)
    (Program.kindAt_of_statement header)
  refine ⟨closer, closes, ?_⟩
  intro unassigned states m' run inside left entries
  have hname : ∀ (line : Nat) (s : Statement) (other : String),
      m.program.contents[line]? = some (.statement s) → s.target? = some other →
      Store.normalize other = other := by
    intro line s other hs target
    rw [hprogram] at hs
    obtain ⟨cs, hread⟩ := Program.readName_ofLines hs target
    exact Statement.normalize_of_readName hread
  have spared : m.program.BodySpares m.cursor closer name := by
    intro line s other hbehind hbefore hs target heq
    rw [hname _ _ _ hs target, hname _ _ _ header rfl] at heq
    exact unassigned line s hbehind hbefore hs (heq ▸ target)
  rw [hprogram] at closes spared
  cases states with
  | nil =>
      have hstep : m.step = .next m' := (List.isChain_cons_cons.mp run).1
      obtain ⟨h', -⟩ := InLoop.of_header haligned header startsAt stopsAt hstep
      exact absurd (h'.inside closes) left
  | cons next states =>
      obtain ⟨hstep, run'⟩ := List.isChain_cons_cons.mp run
      obtain ⟨hnext, inside'⟩ := List.forall_mem_cons.mp inside
      obtain ⟨h', hvalue⟩ := InLoop.of_header haligned header startsAt stopsAt hstep
      obtain ⟨hlength, hnumbers, hcursor, hlast⟩ := h'.entries closes spared yWhole
        (abs_le.mp aSmall).1 (abs_le.mp bSmall).2 ⟨x, hvalue, xWhole⟩ run' inside' left
      have hentries : entries = next :: bodyEntries m.cursor closer (next :: (states ++ [m'])) := by
        show bodyEntries _ _ _ = _
        rw [List.cons_append, bodyEntries, if_pos ⟨.inl rfl, hnext⟩]
      rw [hentries, hprogram]
      refine ⟨?_, ?_, hcursor, hlast⟩
      · rw [List.length_cons, hlength]
        omega
      · exact counts_cons ⟨x, hvalue, xWhole⟩ hnumbers

theorem for_loop_counts_exactly_nested :
    let source := "FOR i = 1 TO 2\nFOR j = 1 TO 1\nEND\nEND\nOUTPUT i"
    let m := ofSource "//" defaultLimit source
    (Program.ofSource "//" source).faults = [] ∧
    ∃ (states : List Machine) (m' : Machine), Consecutive (m :: (states ++ [m'])) ∧
      (bodyEntries 0 3 (m :: (states ++ [m']))).length = 2 ∧
      (∀ (k : Nat) (state : Machine),
        (bodyEntries 0 3 (m :: (states ++ [m'])))[k]? = some state → state.Counts "I" (1 + k)) ∧
      m'.cursor = 4 ∧ m'.Counts "I" 2 := by
  intro source m
  have valid : (Program.ofSource "//" source).faults = [] := by decide +kernel
  let state (k : Nat) : Machine := Nat.repeat (fun m => m.step.machine) k m
  have hsteps : ∀ k < 7, (state k).step.trouble? = none := by decide +kernel
  have hstep : ∀ k < 7, (state k).step = .next (state (k + 1)) := by
    intro k hk
    have hnone := hsteps k hk
    show _ = Outcome.next (state k).step.machine
    cases houtcome : (state k).step with
    | next => rfl
    | failed =>
        rw [houtcome] at hnone
        cases hnone
  have run : Consecutive
      (m :: ([state 1, state 2, state 3, state 4, state 5, state 6] ++ [state 7])) := by
    simp only [Consecutive, List.cons_append, List.nil_append, List.isChain_cons_cons,
      List.isChain_singleton, and_true]
    exact ⟨hstep 0 (by decide), hstep 1 (by decide), hstep 2 (by decide), hstep 3 (by decide),
      hstep 4 (by decide), hstep 5 (by decide), hstep 6 (by decide)⟩
  have hstart : m.cursor = 0 := by decide +kernel
  have header : m.program.contents[m.cursor]? = some (.statement (.forLoop "I" "1" "2")) := by
    decide +kernel
  have hbody : ∀ line < 3, 0 < line → m.program.contents[line]? =
      some (.statement (if line = 1 then .forLoop "J" "1" "1" else .endMark)) := by
    decide +kernel
  have unassigned : ∀ (line : Nat) (s : Statement), 0 < line → line < 3 →
      m.program.contents[line]? = some (.statement s) → s.target? ≠ some "I" := by
    intro line s hbehind hbefore hs
    rw [hbody line hbefore hbehind] at hs
    cases hs
    split
    · decide
    · decide
  have hone : Double.IsWhole 1.0 1 := by
    show Double.unpackedRational? (.finite .positive (2 ^ 52) (-52) (by decide)) = _
    norm_num [Double.unpackedRational?, Float.Model.UnpackedFloat.Sign.apply]
  have htwo : Double.IsWhole 2.0 2 := by
    show Double.unpackedRational? (.finite .positive (2 ^ 52) (-51) (by decide)) = _
    norm_num [Double.unpackedRational?, Float.Model.UnpackedFloat.Sign.apply]
  obtain ⟨closer, closes, hcounts⟩ := for_loop_counts_exactly "//" source defaultLimit valid m
    .start "I" "1" "2" header 1.0 2.0 rfl rfl 1 2 hone htwo (by decide) (by decide)
  rw [hstart] at closes hcounts
  have fits : m.program.Fits := Program.fits_of_faults_eq_nil (by decide +kernel)
  obtain rfl : closer = 3 := closes.unique fits ⟨by decide +kernel, [], by decide +kernel⟩
  obtain ⟨hlength, hnumbers, hcursor, hlast⟩ := hcounts unassigned _ _ run (by decide +kernel)
    (by decide +kernel)
  refine ⟨valid, _, _, run, ?_, hnumbers, ?_, hlast⟩
  · exact_mod_cast hlength.trans (show max 1 (2 - 1 + 1 : ℤ) = 2 by decide)
  · rw [hcursor]
    decide +kernel

end Machine

end Pseudocode
