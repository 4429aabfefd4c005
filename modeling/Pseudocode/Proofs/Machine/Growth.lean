import Pseudocode.Machine.Run
import Pseudocode.Proofs.Source.Lines
import Pseudocode.Proofs.Store

namespace Pseudocode

namespace Statement

def target? : Statement → Option String
  | assign name _ => some name
  | forLoop name _ _ => some name
  | _ => none

theorem readName_of_readAssignment {raw : String} {s : Statement} {name : String}
    (h : readAssignment raw = .ok s) (target : s.target? = some name) :
    ∃ cs, readName cs = .ok name := by
  unfold readAssignment at h
  split at h
  · cases h
  · obtain ⟨name', hname, h⟩ := bind_eq_ok_iff.mp h
    split at h
    · cases h
    · cases h
      cases target
      exact ⟨_, hname⟩

theorem readName_of_readFor {raw : String} {s : Statement} {name : String}
    (h : readFor raw = .ok s) (target : s.target? = some name) :
    ∃ cs, readName cs = .ok name := by
  obtain ⟨body, -, h⟩ := bind_eq_ok_iff.mp h
  dsimp only at h
  split at h
  · cases h
  · obtain ⟨name', hname, h⟩ := bind_eq_ok_iff.mp h
    cases h
    cases target
    exact ⟨_, hname⟩

theorem readName_of_read {kind : StatementKind} {line : Line} {s : Statement} {name : String}
    (h : read kind line = .ok s) (target : s.target? = some name) :
    ∃ cs, readName cs = .ok name := by
  have hkind := kind_of_read h
  cases s with
  | assign name' expression =>
      subst hkind
      exact readName_of_readAssignment h target
  | forLoop name' start stop =>
      subst hkind
      exact readName_of_readFor h target
  | _ => cases target

end Statement

namespace Program

def Unreserved (program : Program) : Prop :=
  ∀ (i : Nat) (s : Statement) (name : String), program.contents[i]? = some (.statement s) →
    s.target? = some name → Store.normalize name ∉ reservedWords

theorem readName_ofLines {comment : String} {lines : List Line} {i : Nat} {s : Statement}
    {name : String} (hline : (ofLines comment lines).contents[i]? = some (.statement s))
    (target : s.target? = some name) : ∃ cs, Statement.readName cs = .ok name := by
  rw [contents_ofLines, List.getElem?_map, Option.map_eq_some_iff] at hline
  obtain ⟨line, -, hcontent⟩ := hline
  unfold Line.content at hcontent
  split at hcontent
  · cases hcontent
  · cases hcontent
  · split at hcontent
    · next hread =>
        cases hcontent
        exact Statement.readName_of_read hread target
    · cases hcontent

theorem unreserved_ofLines (comment : String) (lines : List Line) :
    (ofLines comment lines).Unreserved := by
  intro i s name hline target
  obtain ⟨cs, hname⟩ := readName_ofLines hline target
  exact Statement.not_reserved_of_readName hname

end Program

namespace Machine

variable {m m' : Machine} {s : Statement}

theorem advance_keeps (m : Machine) :
    m.advance.machine.program = m.program ∧ m.advance.machine.output = m.output ∧
      m.advance.machine.store = m.store := by
  obtain ⟨-, h⟩ | ⟨-, frame, -, h⟩ | ⟨-, -, h⟩ := advance_cases m <;> rw [h] <;>
    exact ⟨rfl, rfl, rfl⟩

theorem andThen_keeps (outcome : Outcome) :
    (outcome.andThen fun m => m.count.advance).machine.output = outcome.machine.output ∧
      (outcome.andThen fun m => m.count.advance).machine.store = outcome.machine.store := by
  cases outcome with
  | next m => exact (advance_keeps m.count).2
  | failed trouble m => exact ⟨rfl, rfl⟩

theorem Refusal.keeps {fault : Fault} (h : Refusal m s fault m') :
    m'.output = m.output ∧ m'.store = m.store := by
  cases h <;> exact ⟨rfl, rfl⟩

theorem Effect.output (h : Effect m s m') :
    m'.output.toList = m.output.toList ++ m.tells s := by
  cases h with
  | written text => exact Array.toList_push
  | _ => exact (List.append_nil _).symm

theorem output_exec (m : Machine) (s : Statement) :
    (m.exec s).machine.output.toList = m.output.toList ++ m.tells s := by
  cases hexec : m.exec s with
  | next m' => exact (effect_of_exec hexec).output
  | failed trouble m' =>
      obtain ⟨fault, -, refusal⟩ := refusal_of_exec hexec
      have hsilent : m.tells s = [] := by
        cases s with
        | output text => cases hexec
        | _ => rfl
      rw [hsilent, List.append_nil]
      exact congrArg Array.toList refusal.keeps.1

/-- A store changes its names and types at most by one name that a statement assigns to. -/
def Extends (store : Store) (s : Statement) (store' : Store) : Prop :=
  store'.kinds = store.kinds ∨ ∃ name kind, s.target? = some name ∧
    store'.kinds = store.kinds ++ [(Store.normalize name, kind)]

theorem extends_of_assign {store store' : Store} {name : String} {value : Value} {v : Variable}
    (target : s.target? = some name)
    (h : (Store.assign name value).run store = .ok v store') :
    Extends store s store' := by
  obtain ⟨-, hkinds⟩ | ⟨-, hkinds⟩ := Store.kinds_of_assign h
  · exact .inl hkinds
  · exact .inr ⟨name, value.kind, target, hkinds⟩

theorem Effect.extends (h : Effect m s m') : Extends m.store s m'.store := by
  cases h with
  | assigned _ stored => exact extends_of_assign rfl stored
  | forOpened _ _ stored => exact extends_of_assign rfl stored
  | forAgain top nearest value below stored =>
      obtain ⟨-, hkinds⟩ | ⟨hnew, -⟩ := Store.kinds_of_assign stored
      · exact .inl hkinds
      · rw [← Store.get?_eq_none_iff] at hnew
        rw [Store.lookup, hnew] at value
        cases value
  | _ => exact .inl rfl

theorem extends_exec (m : Machine) (s : Statement) :
    Extends m.store s (m.exec s).machine.store := by
  cases hexec : m.exec s with
  | next m' => exact (effect_of_exec hexec).extends
  | failed trouble m' =>
      obtain ⟨fault, -, refusal⟩ := refusal_of_exec hexec
      exact .inl (congrArg Store.kinds refusal.keeps.2)

theorem output_step (m : Machine) :
    m.step.machine.output.toList = m.output.toList ++ m.told := by
  have hnothing : m.output.toList = m.output.toList ++ [] := (List.append_nil _).symm
  unfold step told
  cases m.finished with
  | true => exact hnothing
  | false =>
      cases m.program[m.cursor]? with
      | none => exact hnothing
      | some line =>
          simp only [Bool.false_eq_true, if_false]
          cases line.content with
          | statement s =>
              rw [(andThen_keeps _).1]
              exact output_exec m s
          | _ => exact hnothing

theorem extends_step (m : Machine) :
    m.step.machine.store.kinds = m.store.kinds ∨
      ∃ s, m.program.contents[m.cursor]? = some (.statement s) ∧
        Extends m.store s m.step.machine.store := by
  unfold step
  split
  · exact .inl rfl
  · split
    · exact .inl rfl
    · next line hline =>
        split
        · next s hs =>
            refine .inr ⟨s, ?_, ?_⟩
            · rw [Program.contents_getElem?, hline, Option.map_some, hs]
            · rw [(andThen_keeps _).2]
              exact extends_exec m s
        all_goals exact .inl rfl

/-- What one state of a run shows is still there in another. -/
structure Grows (m m' : Machine) : Prop where
  output : m.output.toList <+: m'.output.toList
  kinds : m.store.kinds <+: m'.store.kinds

theorem Grows.refl (m : Machine) : Grows m m := ⟨List.prefix_rfl, List.prefix_rfl⟩

theorem Grows.trans {m'' : Machine} (h : Grows m m') (h' : Grows m' m'') : Grows m m'' :=
  ⟨h.output.trans h'.output, h.kinds.trans h'.kinds⟩

theorem grows_step (m : Machine) : Grows m m.step.machine := by
  constructor
  · rw [output_step]
    exact List.prefix_append _ _
  · obtain hsame | ⟨s, -, hsame | ⟨name, kind, -, hmore⟩⟩ := extends_step m
    · exact hsame ▸ List.prefix_rfl
    · exact hsame ▸ List.prefix_rfl
    · rw [hmore]
      exact List.prefix_append _ _

theorem runFor_keeps {P : Machine → Prop} (kept : ∀ m, P m → P m.step.machine) (h : P m)
    (n : Nat) : P (m.runFor n).1 := by
  induction n generalizing m with
  | zero => exact h
  | succ n ih =>
      have hstep := kept m h
      rw [runFor]
      split
      · exact h
      · cases hnext : m.step with
        | next m₁ =>
            rw [hnext] at hstep
            exact ih hstep
        | failed trouble m₁ =>
            rw [hnext] at hstep
            exact hstep

theorem grows_runFor (m : Machine) (n : Nat) : Grows m (m.runFor n).1 :=
  runFor_keeps (fun m' h => h.trans (grows_step m')) (.refl m) n

theorem Effect.consistent (h : Effect m s m') (consistent : m.store.Consistent) :
    m'.store.Consistent := by
  cases h with
  | assigned _ stored => exact consistent.assign stored
  | forOpened _ _ stored => exact consistent.assign stored
  | forAgain _ _ _ _ stored => exact consistent.assign stored
  | _ => exact consistent

theorem consistent_exec (consistent : m.store.Consistent) (s : Statement) :
    (m.exec s).machine.store.Consistent := by
  cases hexec : m.exec s with
  | next m' => exact (effect_of_exec hexec).consistent consistent
  | failed trouble m' =>
      obtain ⟨fault, -, refusal⟩ := refusal_of_exec hexec
      change m'.store.Consistent
      rwa [refusal.keeps.2]

theorem consistent_step (consistent : m.store.Consistent) :
    m.step.machine.store.Consistent := by
  unfold step
  split
  · exact consistent
  · split
    · exact consistent
    · split
      · next s _ =>
          rw [(andThen_keeps _).2]
          exact consistent_exec consistent s
      all_goals exact consistent

theorem grows_runFor_add (m : Machine) (i k : Nat) :
    Grows (m.runFor i).1 (m.runFor (i + k)).1 := by
  induction i generalizing m with
  | zero =>
      rw [Nat.zero_add]
      exact grows_runFor m k
  | succ i ih =>
      rw [Nat.add_right_comm, runFor, runFor]
      split
      · exact .refl m
      · cases m.step with
        | next m₁ => exact ih m₁
        | failed trouble m₁ => exact .refl m₁

/-- A listener hears the lines of the output, one after another. -/
theorem runTelling_eq {σ : Type} (hear : σ → String → σ) (silence : σ) (m : Machine) (n : Nat) :
    m.runTelling hear n (m.output.toList.foldl hear silence) =
      ((m.runFor n).1, (m.runFor n).2, (m.runFor n).1.output.toList.foldl hear silence) := by
  induction n generalizing m with
  | zero => rfl
  | succ n ih =>
      have hstep := output_step m
      rw [runTelling, runFor]
      split
      · rfl
      · dsimp only
        rw [← List.foldl_append, ← hstep]
        cases m.step with
        | next m₁ => exact ih m₁
        | failed trouble m₁ => rfl

theorem program_of_step (h : m.step = .next m') : m'.program = m.program := by
  obtain ⟨-, rfl⟩ | ⟨-, s, m₁, -, effect, hadvance⟩ := step_eq_next h
  · rfl
  · have hprogram : m₁.program = m.program := by cases effect <;> rfl
    obtain ⟨-, rfl⟩ | ⟨-, -, rfl⟩ := advance_eq_next hadvance <;> exact hprogram

theorem unreserved_step (program : m.program.Unreserved)
    (h : ∀ name ∈ m.store.names, name ∉ reservedWords) :
    ∀ name ∈ m.step.machine.store.names, name ∉ reservedWords := by
  simp only [Store.names_eq_kinds] at h ⊢
  obtain hsame | ⟨s, hline, hsame | ⟨name, kind, target, hmore⟩⟩ := extends_step m
  · rwa [hsame]
  · rwa [hsame]
  · rw [hmore, List.map_append]
    intro name' hname'
    rcases List.mem_append.mp hname' with hold | hnew
    · exact h name' hold
    · rw [List.mem_singleton.mp hnew]
      exact program _ s name hline target

theorem unreserved_runFor (program : m.program.Unreserved)
    (h : ∀ name ∈ m.store.names, name ∉ reservedWords) (n : Nat) :
    ∀ name ∈ (m.runFor n).1.store.names, name ∉ reservedWords := by
  induction n generalizing m with
  | zero => exact h
  | succ n ih =>
      have hstep := unreserved_step program h
      rw [runFor]
      split
      · exact h
      · cases hnext : m.step with
        | next m₁ =>
            rw [hnext] at hstep
            exact ih (program_of_step hnext ▸ program) hstep
        | failed trouble m₁ =>
            rw [hnext] at hstep
            exact hstep

end Machine

namespace Expr

/-- A text whose upper case is a reserved word stands for no variable, where none is called by such
a word. -/
theorem lookup_of_reserved {store : Store} (h : ∀ name ∈ store.names, name ∉ reservedWords)
    {name word : String} (reserved : word ∈ reservedWords) (hupper : Text.upperString name = word) :
    store.lookup name = none := by
  have hblank : ∀ word ∈ reservedWords, ∀ c ∈ word.toList, Text.isBlank c = false := by
    have hall : reservedWords.all (·.toList.all (!Text.isBlank ·)) = true := by decide
    simpa using hall
  rw [Store.lookup, Store.normalize_of_upperString (hblank word reserved) hupper,
    Store.get?_eq_none_iff]
  exact fun hmem => h word hmem reserved

theorem eval_truth_word {store : Store} (h : ∀ name ∈ store.names, name ∉ reservedWords)
    (name : String) :
    (Text.upperString name = "TRUE" → (Tree.name name).eval store = .ok (.boolean true)) ∧
      (Text.upperString name = "FALSE" → (Tree.name name).eval store = .ok (.boolean false)) := by
  constructor
  · intro hupper
    rw [Tree.eval, resolve, lookup_of_reserved h (by decide) hupper, hupper]
    rfl
  · intro hupper
    rw [Tree.eval, resolve, lookup_of_reserved h (by decide) hupper, hupper]
    rfl

end Expr

namespace Machine

/-- What a run shows only grows. Of two of its states, the one that it leaves behind at its end or
at a fault included, the later one continues the output and the variables of the earlier one, and
each variable keeps the type of its value. Whoever listens has heard the lines of the output in
their order, and no variable is called by a reserved word, so that `TRUE` and `FALSE` stand for the
truth values in every expression. -/
theorem run_only_grows {σ : Type} (hear : σ → String → σ) (silence : σ) (comment source : String)
    (limit : RepeatLimit) (i k : Nat) :
    let start := Machine.ofSource comment limit source
    let m := (start.runFor i).1
    let m' := (start.runFor (i + k)).1
    m.output.toList <+: m'.output.toList ∧
    m.store.names <+: m'.store.names ∧
    (∀ name value, m.store.get? name = some value →
      ∃ value', m'.store.get? name = some value' ∧ value'.kind = value.kind) ∧
    start.runTelling hear i silence =
      (m, (start.runFor i).2, m.output.toList.foldl hear silence) ∧
    (∀ name ∈ m.store.names, name ∉ reservedWords) ∧
    ∀ name,
      (Text.upperString name = "TRUE" →
        (Expr.Tree.name name).eval m.store = .ok (.boolean true)) ∧
      (Text.upperString name = "FALSE" →
        (Expr.Tree.name name).eval m.store = .ok (.boolean false)) := by
  intro start m m'
  obtain ⟨hprogram, houtput, hstore⟩ : start.program = Program.ofSource comment source ∧
      start.output = #[] ∧ start.store = {} := advance_keeps _
  have hgrows : Grows m m' := grows_runFor_add start i k
  have hconsistent : ∀ n, (start.runFor n).1.store.Consistent := by
    refine runFor_keeps (P := fun m => m.store.Consistent) (fun _ => consistent_step) ?_
    rw [hstore]
    exact Store.consistent_empty
  have hunreserved : ∀ name ∈ m.store.names, name ∉ reservedWords := by
    refine unreserved_runFor ?_ ?_ i
    · rw [hprogram]
      exact Program.unreserved_ofLines comment _
    · rw [hstore]
      intro name hname
      cases hname
  refine ⟨hgrows.output, ?_, ?_, ?_, hunreserved, Expr.eval_truth_word hunreserved⟩
  · rw [Store.names_eq_kinds, Store.names_eq_kinds]
    exact hgrows.kinds.map _
  · intro name value hvalue
    obtain ⟨more, hmore⟩ := hgrows.kinds
    have hkind : m'.store.kinds.lookup name = some value.kind := by
      rw [← hmore, List.lookup_append, (hconsistent i).lookup_kinds, hvalue]
      rfl
    rw [(hconsistent (i + k)).lookup_kinds, Option.map_eq_some_iff] at hkind
    exact hkind
  · have htold := runTelling_eq hear silence start i
    rwa [houtput] at htold

end Machine

end Pseudocode
