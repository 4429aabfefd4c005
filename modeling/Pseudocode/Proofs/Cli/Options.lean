import Pseudocode.Cli.Options
import Pseudocode.Proofs.Basic
import Pseudocode.Proofs.Decimal.Reading

namespace Pseudocode.Cli

open Pseudocode.Text

variable {σ : Type} {P : σ → Prop} {g : Grammar σ}

/-- An option keeps a property of the state. A whole number that is given has no more digits than
the limit allows. -/
def OptionAction.Keeps (P : σ → Prop) : OptionAction σ → Prop
  | help => True
  | switch set => ∀ state, P state → P (set state)
  | text set => ∀ value state, P state → P (set value state)
  | integer set =>
      ∀ value state, (∀ n ∈ value, n.natAbs < 10 ^ integerDigits) → P state → P (set value state)

theorem Use.keeps {use : Use σ} (keeps : use.option.action.Keeps P) {state after : σ}
    (h : use.apply state = .ok after) (holds : P state) : P after := by
  unfold Use.apply at h
  split at h
  · cases h
  · next action =>
      cases h
      rw [action] at keeps
      exact keeps state holds
  · next action _ =>
      cases h
      rw [action] at keeps
      exact keeps _ state holds
  · next s action _ =>
      rw [action] at keeps
      split at h
      · cases h
        exact keeps none state nofun holds
      · split at h
        · next n hn =>
            cases h
            refine keeps (some n) state ?_ holds
            rintro m ⟨⟩
            exact readInt?_lt hn
        · cases h
  · cases h
    exact holds
  · cases h
    exact holds

namespace Grammar

theorem mem_options_of_named {name : String} {option : OptionSpec σ}
    (h : (name, option) ∈ g.named) : option ∈ g.options := by
  obtain ⟨spec, mem, h⟩ := List.mem_flatMap.mp h
  obtain ⟨_, _, same⟩ := List.mem_map.mp h
  cases same
  exact mem

theorem mem_options_of_find? {name : String} {option : OptionSpec σ}
    (h : g.find? name = some option) : option ∈ g.options :=
  mem_options_of_named (mem_of_lookup h)

theorem mem_options_of_guesses {s : String} {mention : Mention σ} (h : mention ∈ g.guesses s) :
    mention.option ∈ g.options := by
  unfold guesses at h
  split at h
  · obtain ⟨⟨name, option⟩, mem, h⟩ := List.mem_filterMap.mp h
    dsimp only at h
    split at h
    all_goals
      split at h
      · cases h
        exact mem_options_of_named mem
      · cases h
  · obtain ⟨⟨name, option⟩, mem, h⟩ := List.mem_filterMap.mp h
    dsimp only at h
    split at h
    · cases h
      exact mem_options_of_named mem
    · split at h
      · cases h
        exact mem_options_of_named mem
      · cases h
  · cases h

def Knows (g : Grammar σ) (cls : ArgClass σ) : Prop :=
  ∀ mention, cls = .option (some mention) → mention.option ∈ g.options

theorem knows_of_classify {s : String} {cls : ArgClass σ} (h : g.classify s = .ok cls) :
    g.Knows cls := by
  rintro mention rfl
  unfold classify at h
  dsimp only at h
  split at h
  · cases h
  · split at h
    · next option found =>
        cases h
        exact mem_options_of_find? found
    · split at h
      · cases h
      · split at h
        · next mention' exact =>
            cases h
            obtain ⟨⟨name, value⟩, -, exact⟩ := Option.bind_eq_some_iff.mp exact
            obtain ⟨option, found, exact⟩ := Option.bind_eq_some_iff.mp exact
            cases exact
            exact mem_options_of_find? found
        · split at h
          · next mention' guess =>
              cases h
              exact mem_options_of_guesses (guess ▸ List.mem_singleton_self _)
          · split at h <;> cases h
          · cases h

theorem knows_of_classifyAll {arguments : List String} {args : List (Arg σ)}
    (h : g.classifyAll arguments = .ok args) : ∀ arg ∈ args, g.Knows arg.cls := by
  induction arguments generalizing args with
  | nil =>
      cases h
      nofun
  | cons s rest ih =>
      unfold classifyAll at h
      split at h
      · cases h
        rintro arg (_ | ⟨_, mem⟩)
        · nofun
        · obtain ⟨t, -, rfl⟩ := List.mem_map.mp mem
          nofun
      · obtain ⟨cls, hcls, h⟩ := bind_eq_ok_iff.mp h
        obtain ⟨more, hmore, h⟩ := bind_eq_ok_iff.mp h
        cases h
        rintro arg (_ | ⟨_, mem⟩)
        · exact knows_of_classify hcls
        · exact ih hmore arg mem

end Grammar

theorem mem_options_of_usesOf {rest : List (Arg σ)} {bound count : Nat} {mention : Mention σ}
    {uses : List (Use σ)} (known : mention.option ∈ g.options)
    (h : usesOf g rest bound mention = .ok (uses, count)) :
    ∀ use ∈ uses, use.option ∈ g.options := by
  induction bound generalizing mention uses count with
  | zero =>
      cases h
      nofun
  | succ bound ih =>
      have single {value : Option String} {n : Nat}
          (h : (.ok ([⟨mention.option, value⟩], n) : Except Stop (List (Use σ) × Nat)) =
            .ok (uses, count)) : ∀ use ∈ uses, use.option ∈ g.options := by
        cases h
        rintro use (_ | ⟨_, ⟨⟩⟩)
        exact known
      unfold usesOf at h
      dsimp only at h
      split at h
      · split at h
        · split at h
          · split at h
            · exact single h
            · cases h
          · cases h
        · exact single h
      · split at h
        · exact single h
        · split at h
          · cases h
          · cases h
          · split at h
            · cases h
            · next next found =>
                obtain ⟨⟨more, n⟩, hmore, h⟩ := bind_eq_ok_iff.mp h
                cases h
                rintro use (_ | ⟨_, mem⟩)
                · exact known
                · exact ih (Grammar.mem_options_of_find? found) hmore use mem

theorem keeps_uses (keeps : ∀ option ∈ g.options, option.action.Keeps P) {uses : List (Use σ)}
    (known : ∀ use ∈ uses, use.option ∈ g.options) {state after : σ}
    (h : uses.foldlM (fun state use => use.apply state) state = .ok after) (holds : P state) :
    P after := by
  induction uses generalizing state with
  | nil =>
      cases h
      exact holds
  | cons use uses ih =>
      rw [List.foldlM_cons] at h
      obtain ⟨next, hnext, h⟩ := bind_eq_ok_iff.mp h
      have here := Use.keeps (keeps _ (known use List.mem_cons_self)) hnext holds
      exact ih (fun use mem => known use (List.mem_cons_of_mem _ mem)) h here

theorem state_takeOperand (args : List (Arg σ)) (parsed : Parsed σ) :
    (takeOperand g args parsed).1.state = parsed.state := by
  unfold takeOperand
  split
  · split
    · rfl
    · rfl
  · rfl

theorem keeps_consume (keeps : ∀ option ∈ g.options, option.action.Keeps P) {bound : Nat}
    {args : List (Arg σ)} (known : ∀ arg ∈ args, g.Knows arg.cls) {parsed after : Parsed σ}
    (h : consume g bound args parsed = .ok after) (holds : P parsed.state) : P after.state := by
  induction bound generalizing args parsed with
  | zero =>
      cases h
      exact holds
  | succ bound ih =>
      unfold consume at h
      dsimp only at h
      split at h
      · cases h
        rw [state_takeOperand]
        exact holds
      · next arg rest ahead =>
          have knownAhead : ∀ a ∈ arg :: rest, g.Knows a.cls := fun a mem =>
            known a (List.mem_of_mem_drop (ahead ▸ mem))
          have knownRest : ∀ a ∈ rest, g.Knows a.cls := fun a mem =>
            knownAhead a (List.mem_cons_of_mem _ mem)
          have taken : P (if (args.takeWhile fun arg => !arg.isOption).isEmpty = true then
              (parsed, 0) else takeOperand g args parsed).1.state := by
            split
            · exact holds
            · rw [state_takeOperand]
              exact holds
          generalize (if (args.takeWhile fun arg => !arg.isOption).isEmpty = true then
              (parsed, 0) else takeOperand g args parsed) = operand at h taken
          split at h
          · exact ih (fun a mem => known a (List.mem_of_mem_drop mem)) h taken
          · split at h
            · next mention named =>
                obtain ⟨⟨uses, count⟩, huses, h⟩ := bind_eq_ok_iff.mp h
                obtain ⟨state, hstate, h⟩ := bind_eq_ok_iff.mp h
                have mentioned := knownAhead arg List.mem_cons_self mention named
                exact ih (fun a mem => knownRest a (List.mem_of_mem_drop mem)) h
                  (keeps_uses keeps (mem_options_of_usesOf mentioned huses) hstate taken)
            · exact ih knownRest h taken

/-- Reading arguments keeps what every option of the grammar keeps. -/
theorem Grammar.keeps_parse (keeps : ∀ option ∈ g.options, option.action.Keeps P) {start : σ}
    {arguments : List String} {parsed : Parsed σ} (h : g.parse start arguments = .ok parsed)
    (holds : P start) : P parsed.state := by
  obtain ⟨args, hargs, h⟩ := bind_eq_ok_iff.mp h
  obtain ⟨result, hresult, h⟩ := bind_eq_ok_iff.mp h
  have kept := keeps_consume keeps (knows_of_classifyAll hargs) hresult holds
  split at h
  · cases h
  · cases h
    exact kept

end Pseudocode.Cli
