import Mathlib.Order.Monotone.Basic
import Pseudocode.Proofs.Outline.Scan
import Pseudocode.Proofs.Source.Lines

namespace Pseudocode

def keepFirst (place : Nat → Nat) : Nat → Nat
  | 0 => 0
  | i + 1 => place i + 1

/-- The second list is the first with silent elements put in, and `place` tells where each element
of the first has gone. -/
inductive Insertion {α β : Type} (same : α → β → Prop) (silent : β → Prop) :
    List α → List β → (Nat → Nat) → Prop where
  | done : Insertion same silent [] [] id
  | keep {x : α} {y : β} {xs : List α} {ys : List β} {place : Nat → Nat} (hsame : same x y)
      (rest : Insertion same silent xs ys place) :
      Insertion same silent (x :: xs) (y :: ys) (keepFirst place)
  | insert {y : β} {xs : List α} {ys : List β} {place : Nat → Nat} (hsilent : silent y)
      (rest : Insertion same silent xs ys place) :
      Insertion same silent xs (y :: ys) fun i => place i + 1

namespace Insertion

variable {α β : Type} {same : α → β → Prop} {silent : β → Prop} {xs : List α} {ys : List β}
  {place : Nat → Nat}

theorem strictMono (h : Insertion same silent xs ys place) : StrictMono place := by
  induction h with
  | done => exact strictMono_id
  | keep hsame rest ih =>
      refine strictMono_nat_of_lt_succ fun i => ?_
      cases i with
      | zero => exact Nat.succ_pos _
      | succ i => exact Nat.succ_lt_succ (ih (Nat.lt_succ_self i))
  | insert hsilent rest ih => exact fun i j hij => Nat.succ_lt_succ (ih hij)

theorem place_length (h : Insertion same silent xs ys place) : place xs.length = ys.length := by
  induction h with
  | done => rfl
  | keep hsame rest ih => exact congrArg Nat.succ ih
  | insert hsilent rest ih => exact congrArg Nat.succ ih

theorem getElem?_place (h : Insertion same silent xs ys place) {i : Nat} {x : α}
    (hx : xs[i]? = some x) : ∃ y, ys[place i]? = some y ∧ same x y := by
  induction h generalizing i with
  | done => simp at hx
  | keep hsame rest ih =>
      cases i with
      | zero =>
          cases hx
          exact ⟨_, rfl, hsame⟩
      | succ i => exact ih hx
  | insert hsilent rest ih => exact ih hx

theorem drop (h : Insertion same silent xs ys place) (i : Nat) :
    ∃ place', Insertion same silent (xs.drop i) (ys.drop (place i)) place' ∧
      ∀ k, place (i + k) = place i + place' k := by
  induction h generalizing i with
  | done => exact ⟨id, by simpa using Insertion.done, fun _ => rfl⟩
  | keep hsame rest ih =>
      cases i with
      | zero => exact ⟨_, .keep hsame rest, fun k => by simp [keepFirst]⟩
      | succ i =>
          obtain ⟨place', hrest, hplace⟩ := ih i
          refine ⟨place', hrest, fun k => ?_⟩
          rw [show i + 1 + k = i + k + 1 by omega]
          simp only [keepFirst, hplace k]
          omega
  | insert hsilent rest ih =>
      obtain ⟨place', hrest, hplace⟩ := ih i
      refine ⟨place', hrest, fun k => ?_⟩
      simp only [hplace k]
      omega

theorem drop_succ (h : Insertion same silent xs ys place) (i : Nat) :
    ∃ place', Insertion same silent (xs.drop (i + 1)) (ys.drop (place i + 1)) place' ∧
      ∀ k, place (i + 1 + k) = place i + 1 + place' k := by
  induction h generalizing i with
  | done => exact ⟨id, by simpa using Insertion.done, fun _ => rfl⟩
  | keep hsame rest ih =>
      cases i with
      | zero =>
          refine ⟨_, rest, fun k => ?_⟩
          rw [Nat.zero_add, Nat.add_comm 1 k]
          simp only [keepFirst]
          omega
      | succ i =>
          obtain ⟨place', hrest, hplace⟩ := ih i
          refine ⟨place', hrest, fun k => ?_⟩
          rw [show i + 1 + 1 + k = i + 1 + k + 1 by omega]
          simp only [keepFirst, hplace k]
          omega
  | insert hsilent rest ih =>
      obtain ⟨place', hrest, hplace⟩ := ih i
      refine ⟨place', hrest, fun k => ?_⟩
      simp only [hplace k]
      omega

theorem map {γ δ : Type} {same' : γ → δ → Prop} {silent' : δ → Prop}
    (h : Insertion same silent xs ys place) {f : α → γ} {g : β → δ}
    (hsame : ∀ x y, same x y → same' (f x) (g y)) (hsilent : ∀ y, silent y → silent' (g y)) :
    Insertion same' silent' (xs.map f) (ys.map g) place := by
  induction h with
  | done => exact .done
  | keep hxy rest ih => exact .keep (hsame _ _ hxy) ih
  | insert hy rest ih => exact .insert (hsilent _ hy) ih

theorem mapIdx {γ δ : Type} {same' : γ → δ → Prop} {silent' : δ → Prop}
    (h : Insertion same silent xs ys place) {f : Nat → α → γ} {g : Nat → β → δ}
    (hsame : ∀ i j x y, same x y → same' (f i x) (g j y))
    (hsilent : ∀ j y, silent y → silent' (g j y)) :
    Insertion same' silent' (xs.mapIdx f) (ys.mapIdx g) place := by
  induction h generalizing f g with
  | done => simpa using Insertion.done
  | keep hxy rest ih =>
      rw [List.mapIdx_cons, List.mapIdx_cons]
      exact .keep (hsame _ _ _ _ hxy)
        (ih (fun i j => hsame (i + 1) (j + 1)) fun j => hsilent (j + 1))
  | insert hy rest ih =>
      rw [List.mapIdx_cons]
      exact .insert (hsilent _ _ hy) (ih (fun i j => hsame i (j + 1)) fun j => hsilent (j + 1))

end Insertion

/-- Whether two lines hold the same, up to the place and the wording of a fault. -/
inductive Content.Matches : Content → Content → Prop where
  | blank : Matches .blank .blank
  | unknown : Matches .unknown .unknown
  | malformed {kind : StatementKind} {fault fault' : Fault} (hkind : fault'.kind = fault.kind) :
      Matches (.malformed kind fault) (.malformed kind fault')
  | statement (s : Statement) : Matches (.statement s) (.statement s)

theorem Content.Matches.kind?_eq {content content' : Content} (h : content.Matches content') :
    content'.kind? = content.kind? := by
  cases h <;> rfl

namespace Program

def Spaced (program program' : Program) (place : Nat → Nat) : Prop :=
  Insertion (fun code code' : CodeLine => code.content.Matches code'.content)
    (fun code => code.content.kind? = none) program program' place

variable {program program' : Program} {place : Nat → Nat}

theorem Spaced.leadingGap (h : Spaced program program' place) :
    program'.leadingGap = place program.leadingGap := by
  unfold Spaced at h
  induction h with
  | done => rfl
  | keep hsame rest ih =>
      rw [Program.leadingGap, Program.leadingGap, hsame.kind?_eq]
      split
      · rfl
      · rw [ih]
        rfl
  | insert hsilent rest ih => rw [Program.leadingGap, hsilent, ih]

theorem Spaced.nextStatement (h : Spaced program program' place) (i : Nat) :
    program'.nextStatement (place i) = place (program.nextStatement i) := by
  obtain ⟨place', hrest, hplace⟩ := h.drop i
  rw [Program.nextStatement, Program.nextStatement, Spaced.leadingGap hrest, hplace]

theorem Spaced.nextStatement_succ (h : Spaced program program' place) (i : Nat) :
    program'.nextStatement (place i + 1) = place (program.nextStatement (i + 1)) := by
  obtain ⟨place', hrest, hplace⟩ := h.drop_succ i
  rw [Program.nextStatement, Program.nextStatement, Spaced.leadingGap hrest, hplace]

theorem Spaced.nextStatement_zero (h : Spaced program program' place) :
    program'.nextStatement 0 = place (program.nextStatement 0) := by
  simp only [Program.nextStatement, List.drop_zero, Nat.zero_add, h.leadingGap]

theorem Spaced.contents (h : Spaced program program' place) {i : Nat} {content : Content}
    (hi : program.contents[i]? = some content) :
    ∃ content', program'.contents[place i]? = some content' ∧ content.Matches content' := by
  rw [contents_getElem?, Option.map_eq_some_iff] at hi
  obtain ⟨code, hcode, rfl⟩ := hi
  obtain ⟨code', hcode', hmatches⟩ := h.getElem?_place hcode
  exact ⟨code'.content, by rw [contents_getElem?, hcode']; rfl, hmatches⟩

theorem Spaced.kindAt (h : Spaced program program' place) (i : Nat) :
    program'.kindAt (place i) = program.kindAt i := by
  rw [kindAt_eq, kindAt_eq]
  cases hi : program.contents[i]? with
  | some content =>
      obtain ⟨content', hi', hmatches⟩ := h.contents hi
      rw [hi']
      exact hmatches.kind?_eq
  | none =>
      have hlength : program.length ≤ i := by simpa using hi
      have hplace : program'.length ≤ place i := by
        rw [← h.place_length]
        exact h.strictMono.monotone hlength
      rw [List.getElem?_eq_none (by simpa using hplace)]

theorem scanFrom_eq_map (opener closer : StatementKind) (mark : Option StatementKind)
    (depth i : Nat) (program : Program) :
    scanFrom opener closer mark depth i program =
      (scanFrom opener closer mark depth 0 program).map (i + ·) := by
  induction program generalizing depth i with
  | nil => rfl
  | cons code rest ih =>
      rcases scanFrom_cons_cases opener closer mark depth code.content.kind? with
        hstop | ⟨depth', hnext⟩
      · rw [hstop i code rest rfl, hstop 0 code rest rfl]
        rfl
      · rw [hnext i code rest rfl, hnext 0 code rest rfl, ih, ih depth' (0 + 1), Option.map_map]
        congr 1
        funext line
        simp only [Function.comp_apply]
        omega

theorem Spaced.scanFrom (h : Spaced program program' place) (opener closer : StatementKind)
    (mark : Option StatementKind) (depth : Nat) :
    Program.scanFrom opener closer mark depth 0 program' =
      (Program.scanFrom opener closer mark depth 0 program).map place := by
  unfold Spaced at h
  induction h generalizing depth with
  | done => rfl
  | @keep code code' rest rest' place hsame hrest ih =>
      rcases scanFrom_cons_cases opener closer mark depth code.content.kind? with
        hstop | ⟨depth', hnext⟩
      · rw [hstop 0 code rest rfl, hstop 0 code' rest' hsame.kind?_eq]
        rfl
      · rw [hnext 0 code rest rfl, hnext 0 code' rest' hsame.kind?_eq, scanFrom_eq_map, ih,
          scanFrom_eq_map _ _ _ _ (0 + 1) rest, Option.map_map, Option.map_map]
        congr 1
        funext line
        simp only [Function.comp_apply]
        rw [Nat.add_comm _ line, Nat.add_comm]
        rfl
  | insert hsilent hrest ih =>
      rw [scanFrom_cons, hsilent]
      dsimp only
      rw [scanFrom_eq_map, ih, Option.map_map]
      congr 1
      funext line
      simp only [Function.comp_apply]
      omega

/-- The search for the end of a construct stops at the same line at its new place. -/
theorem Spaced.scan (h : Spaced program program' place) (i : Nat) (opener closer : StatementKind)
    (mark : Option StatementKind) :
    program'.scan (place i) opener closer mark =
      (program.scan i opener closer mark).map place := by
  obtain ⟨place', hrest, hplace⟩ := h.drop_succ i
  rw [Program.scan, Program.scan, scanFrom_eq_map, Spaced.scanFrom hrest,
    scanFrom_eq_map _ _ _ _ (i + 1), Option.map_map, Option.map_map]
  congr 1
  funext line
  exact (hplace line).symm

end Program

/-- Whether a text is a line that holds no statement: an empty one, a comment, or one that is not
recognized. -/
def Text.Silent (comment : String) (text : List Char) : Prop :=
  (Line.ofChars 0 text).kind comment = .blank ∨ (Line.ofChars 0 text).kind comment = .unknown

instance (comment : String) (text : List Char) : Decidable (Text.Silent comment text) :=
  inferInstanceAs (Decidable (_ ∨ _))

theorem Line.kind_ofChars (index : Nat) (text : List Char) (comment : String) :
    (Line.ofChars index text).kind comment = (Line.ofChars 0 text).kind comment := by
  have hblank : (Line.ofChars index text).isBlank comment =
      (Line.ofChars 0 text).isBlank comment := rfl
  have hkeyword : (Line.ofChars index text).keyword = (Line.ofChars 0 text).keyword := rfl
  have hraw : (Line.ofChars index text).raw = (Line.ofChars 0 text).raw := rfl
  rw [Line.kind, Line.kind, hblank, hkeyword, hraw]

theorem Line.content_ofChars_matches (comment : String) (i j : Nat) (text : List Char) :
    ((Line.ofChars i text).content comment).Matches ((Line.ofChars j text).content comment) := by
  have hread : ∀ kind, Statement.read kind (Line.ofChars i text) =
      Statement.read kind (Line.ofChars j text) := fun _ => rfl
  unfold Line.content
  rw [Line.kind_ofChars i, Line.kind_ofChars j]
  split
  · exact .blank
  · exact .unknown
  · next kind _ =>
      rw [hread]
      cases Statement.read kind (Line.ofChars j text) with
      | ok s => exact .statement s
      | error fault => exact .malformed (by simp)

theorem Program.spaced_ofLines {comment : String} {texts texts' : List (List Char)}
    {place : Nat → Nat} (h : Insertion (· = ·) (Text.Silent comment) texts texts' place) :
    Program.Spaced (ofLines comment (texts.mapIdx Line.ofChars))
      (ofLines comment (texts'.mapIdx Line.ofChars)) place := by
  have hlines : Insertion
      (fun line line' : Line => (line.content comment).Matches (line'.content comment))
      (fun line => (line.content comment).kind? = none)
      (texts.mapIdx Line.ofChars) (texts'.mapIdx Line.ofChars) place := by
    refine h.mapIdx ?_ ?_
    · rintro i j text _ rfl
      exact Line.content_ofChars_matches comment i j text
    · intro j text hsilent
      rw [Line.content_kind?, Line.kind_ofChars]
      rcases hsilent with hkind | hkind <;> simp [hkind, LineKind.statement?]
  exact hlines.map (fun _ _ hmatches => hmatches) fun _ hsilent => hsilent

end Pseudocode
