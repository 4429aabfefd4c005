import Mathlib.Tactic.Common
import Pseudocode.Proofs.Machine.Steps

namespace Pseudocode

namespace Statement

theorem kind_of_readAssignment {raw : String} {s : Statement} (h : readAssignment raw = .ok s) :
    s.kind = .assign := by
  unfold readAssignment at h
  split at h
  · simp at h
  · obtain ⟨name, -, h⟩ := bind_eq_ok_iff.mp h
    split at h
    · simp at h
    · cases h
      rfl

theorem kind_of_readFor {raw : String} {s : Statement} (h : readFor raw = .ok s) :
    s.kind = .opens .forLoop := by
  obtain ⟨body, -, h⟩ := bind_eq_ok_iff.mp h
  dsimp only at h
  split at h
  · simp at h
  · obtain ⟨name, -, h⟩ := bind_eq_ok_iff.mp h
    cases h
    rfl

theorem ofData_of_readName {cs : List Char} {fault : Fault} (h : readName cs = .error fault) :
    fault.OfData := by
  unfold readName at h
  dsimp only at h
  split at h
  · simp at h
  · cases h
    exact ⟨by simp, rfl⟩

theorem ofData_of_headerBody {header raw : String} {fault : Fault}
    (h : headerBody header raw = .error fault) : fault.OfData := by
  unfold headerBody at h
  split at h
  · cases h
    exact ⟨by simp, rfl⟩
  · simp at h

theorem ofData_of_readAssignment {raw : String} {fault : Fault}
    (h : readAssignment raw = .error fault) : fault.OfData := by
  unfold readAssignment at h
  split at h
  · cases h
    exact ⟨by simp, rfl⟩
  · rcases bind_eq_error_iff.mp h with h | ⟨name, -, h⟩
    · exact ofData_of_readName h
    · split at h
      · cases h
        exact ⟨by simp, rfl⟩
      · simp at h

theorem ofData_of_readFor {raw : String} {fault : Fault} (h : readFor raw = .error fault) :
    fault.OfData := by
  rcases bind_eq_error_iff.mp h with h | ⟨body, -, h⟩
  · exact ofData_of_headerBody h
  · dsimp only at h
    split at h
    · cases h
      exact ⟨by simp, rfl⟩
    · rcases bind_eq_error_iff.mp h with h | ⟨name, -, h⟩
      · exact ofData_of_readName h
      · cases h

theorem ofData_of_header {header raw : String} {build : List Char → Statement} {fault : Fault}
    (h : (headerBody header raw >>= fun body => .ok (build body)) = .error fault) :
    fault.OfData := by
  rcases bind_eq_error_iff.mp h with h | ⟨body, -, h⟩
  · exact ofData_of_headerBody h
  · cases h

theorem kind_of_header {header raw : String} {build : List Char → Statement} {s : Statement}
    {kind : StatementKind} (hbuild : ∀ body, (build body).kind = kind)
    (h : (headerBody header raw >>= fun body => .ok (build body)) = .ok s) : s.kind = kind := by
  obtain ⟨body, -, h⟩ := bind_eq_ok_iff.mp h
  cases h
  exact hbuild body

theorem kind_of_read {kind : StatementKind} {line : Line} {s : Statement}
    (h : read kind line = .ok s) : s.kind = kind := by
  cases kind with
  | assign => exact kind_of_readAssignment h
  | untilMark => exact kind_of_header (fun _ => rfl) h
  | opens construct =>
      cases construct with
      | conditional => exact kind_of_header (fun _ => rfl) h
      | whileLoop => exact kind_of_header (fun _ => rfl) h
      | forLoop => exact kind_of_readFor h
      | _ => cases h; rfl
  | _ => cases h; rfl

theorem ofData_of_read {kind : StatementKind} {line : Line} {fault : Fault}
    (h : read kind line = .error fault) : fault.OfData := by
  cases kind with
  | assign => exact ofData_of_readAssignment h
  | untilMark => exact ofData_of_header h
  | opens construct =>
      cases construct with
      | conditional => exact ofData_of_header h
      | whileLoop => exact ofData_of_header h
      | forLoop => exact ofData_of_readFor h
      | _ => cases h
  | _ => cases h

end Statement

def LineKind.statement? : LineKind → Option StatementKind
  | .statement kind => some kind
  | _ => none

namespace Line

@[simp] theorem content_kind? (line : Line) (comment : String) :
    (line.content comment).kind? = (line.kind comment).statement? := by
  unfold content
  cases line.kind comment with
  | blank => rfl
  | unknown => rfl
  | statement kind =>
      cases hread : Statement.read kind line with
      | error fault => simp [hread, Content.kind?, LineKind.statement?]
      | ok s => simp [hread, Content.kind?, LineKind.statement?, Statement.kind_of_read hread]

theorem malformed_of_content {line : Line} {comment : String} {kind : StatementKind}
    {fault : Fault} (h : line.content comment = .malformed kind fault) :
    line.kind comment = .statement kind ∧
      ∃ cause, Statement.read kind line = .error cause ∧ fault = cause.atLine line.index := by
  unfold content at h
  split at h
  · cases h
  · cases h
  · next announced hkind =>
      split at h
      · cases h
      · next cause hread =>
          cases h
          exact ⟨hkind, cause, hread, rfl⟩

theorem content_ne_malformed_iff {line : Line} {comment : String} :
    (∀ kind fault, line.content comment ≠ .malformed kind fault) ↔
      ∀ kind, line.kind comment = .statement kind → ∃ s, Statement.read kind line = .ok s := by
  unfold content
  cases line.kind comment with
  | blank => simp
  | unknown => simp
  | statement kind => cases hread : Statement.read kind line <;> simp [hread]

def Counted (lines : List Line) : Prop :=
  ∀ (i : Nat) (line : Line), lines[i]? = some line → line.index = i

theorem counted_mapIdx (texts : List (List Char)) : Counted (texts.mapIdx ofChars) := by
  intro i line h
  rw [List.getElem?_mapIdx, Option.map_eq_some_iff] at h
  obtain ⟨text, -, rfl⟩ := h
  rfl

end Line

namespace Program

@[simp] theorem length_ofLines (comment : String) (lines : List Line) :
    (ofLines comment lines).length = lines.length := by
  simp [ofLines]

@[simp] theorem contents_ofLines (comment : String) (lines : List Line) :
    (ofLines comment lines).contents = lines.map fun line => line.content comment := by
  simp [ofLines, contents, Function.comp_def]

theorem length_ofSource (comment source : String) :
    (ofSource comment source).length = (Text.lines source.toList).length := by
  rw [ofSource, length_ofLines, Line.ofSource, List.length_mapIdx]

theorem contents_ofSource (comment source : String) (i : Nat) :
    (ofSource comment source).contents[i]? = (Text.lines source.toList)[i]?.map fun text =>
      (Line.ofChars i text).content comment := by
  rw [ofSource, contents_ofLines, Line.ofSource, List.getElem?_map, List.getElem?_mapIdx,
    Option.map_map]
  rfl

theorem kindAt_ofLines (comment : String) (lines : List Line) (i : Nat) :
    (ofLines comment lines).kindAt i =
      lines[i]?.bind fun line => (line.kind comment).statement? := by
  rw [kindAt_eq, contents_ofLines, List.getElem?_map]
  cases lines[i]? with
  | none => rfl
  | some line => simp

theorem kindAt_ofLines_eq_some {comment : String} {lines : List Line} {i : Nat}
    {kind : StatementKind} :
    (ofLines comment lines).kindAt i = some kind ↔
      ∃ line, lines[i]? = some line ∧ line.kind comment = .statement kind := by
  rw [kindAt_ofLines, Option.bind_eq_some_iff]
  refine exists_congr fun line => and_congr_right fun _ => ?_
  cases line.kind comment <;> simp [LineKind.statement?]

/-- Whether every line that could not be read keeps a fault of its data at its own place. -/
def Located (program : Program) : Prop :=
  ∀ (i : Nat) kind fault, program.contents[i]? = some (.malformed kind fault) →
    ∃ cause : Fault, cause.OfData ∧ fault = cause.atLine i

theorem located_ofLines (comment : String) {lines : List Line} (h : Line.Counted lines) :
    (ofLines comment lines).Located := by
  intro i kind fault hline
  rw [contents_ofLines, List.getElem?_map, Option.map_eq_some_iff] at hline
  obtain ⟨line, hget, hcontent⟩ := hline
  obtain ⟨-, cause, hread, rfl⟩ := Line.malformed_of_content hcontent
  exact ⟨cause, Statement.ofData_of_read hread, by rw [h i line hget]⟩

end Program

end Pseudocode
