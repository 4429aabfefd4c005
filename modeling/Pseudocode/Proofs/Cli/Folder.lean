import Pseudocode.Cli.Folder
import Pseudocode.Proofs.Basic
import Pseudocode.Proofs.Basic
import Pseudocode.Proofs.Text.Utf8

namespace Pseudocode.Cli

open Pseudocode.Text

def Spot.place? : Spot → Option Place
  | .folder => none
  | .file place _ => some place
  | .free place => some place

namespace Folder

theorem bytes?_put (folder : Folder) (place : Place) (bytes : List UInt8) :
    (folder.put place bytes).bytes? place = some bytes := by
  unfold put
  split
  · next known => exact lookup_map_replace bytes known
  · next new =>
      have absent : folder.files.lookup place = none :=
        Option.not_isSome_iff_eq_none.mp new
      rw [bytes?, List.lookup_append, absent, Option.none_or, List.lookup_cons_self]

theorem exists_mem_put {folder : Folder} {file : Place × List UInt8} (h : file ∈ folder.files)
    (place : Place) (bytes : List UInt8) : ∃ f ∈ (folder.put place bytes).files, f.1 = file.1 := by
  unfold put
  split
  · refine ⟨_, List.mem_map_of_mem h, ?_⟩
    split
    · next same => exact (eq_of_beq same).symm
    · rfl
  · exact ⟨file, List.mem_append_left _ h, rfl⟩

theorem mem_of_mem_put {folder : Folder} {place : Place} {bytes : List UInt8}
    {file : Place × List UInt8} (h : file ∈ (folder.put place bytes).files)
    (other : place ≠ file.1) : file ∈ folder.files := by
  unfold put at h
  split at h
  · obtain ⟨f, hf, rfl⟩ := List.mem_map.mp h
    split at other
    · exact absurd rfl other
    · next differs => rwa [if_neg differs]
  · rcases List.mem_append.mp h with h | h
    · exact h
    · cases List.mem_singleton.mp h
      exact absurd rfl other

theorem folders_put (folder : Folder) (place : Place) (bytes : List UInt8) :
    (folder.put place bytes).folders = folder.folders := by
  unfold put
  split
  · rfl
  · rfl

theorem isFolder_iff {folder : Folder} {place : Place} :
    folder.isFolder place = true ↔
      (place.all (· == "..") || place == ["/"] || folder.folders.contains place) = true ∨
        ∃ file ∈ folder.files, place.isPrefixOf file.1 = true ∧ place ≠ file.1 := by
  simp [isFolder]

theorem isFolder_put {folder : Folder} {here : Place} (h : folder.isFolder here = true)
    (place : Place) (bytes : List UInt8) : (folder.put place bytes).isFolder here = true := by
  rw [isFolder_iff] at h ⊢
  rw [folders_put]
  refine h.imp_right ?_
  rintro ⟨file, mem, inside, proper⟩
  obtain ⟨f, hf, same⟩ := exists_mem_put mem place bytes
  exact ⟨f, hf, same ▸ inside, same ▸ proper⟩

theorem isFolder_put_self {folder : Folder} {place : Place} (h : folder.isFolder place = false)
    (bytes : List UInt8) : (folder.put place bytes).isFolder place = false := by
  rw [← Bool.not_eq_true, isFolder_iff] at h ⊢
  rw [folders_put]
  refine fun now => h (now.imp_right ?_)
  rintro ⟨file, mem, inside, proper⟩
  exact ⟨file, mem_of_mem_put mem proper, inside, proper⟩

theorem follow_put {folder : Folder} {path : String} {here place : Place} {names : List String}
    {spot : Spot} (h : folder.follow path here names = .ok spot) (target : spot.place? = some place)
    (bytes : List UInt8) :
    (folder.put place bytes).follow path here names = .ok (.file place bytes) := by
  induction names generalizing here with
  | nil =>
      cases h
      cases target
  | cons name rest ih =>
      unfold follow at h ⊢
      dsimp only at h ⊢
      split at h
      · cases h
      · next short =>
          rw [if_neg short]
          by_cases isFolder : folder.isFolder (here.enter name) = true
          · rw [if_pos isFolder] at h
            rw [if_pos (isFolder_put isFolder place bytes)]
            exact ih h
          · rw [if_neg isFolder] at h
            have last : rest.isEmpty = true ∧ spot.place? = some (here.enter name) := by
              split at h
              · split at h
                · next empty =>
                    cases h
                    exact ⟨empty, rfl⟩
                · cases h
              · split at h
                · next empty =>
                    cases h
                    exact ⟨empty, rfl⟩
                · cases h
            cases target.symm.trans last.2
            rw [if_neg (by simpa using isFolder_put_self (by simpa using isFolder) bytes),
              bytes?_put]
            exact if_pos last.1

theorem locate_put {folder : Folder} {path : String} {place : Place} {spot : Spot}
    (h : folder.locate path = .ok spot) (target : spot.place? = some place) (bytes : List UInt8) :
    (folder.put place bytes).locate path = .ok (.file place bytes) := by
  unfold locate at h ⊢
  split at h
  · cases h
  · next noNull =>
      rw [if_neg noNull]
      split at h
      · cases h
      · next nonempty =>
          rw [if_neg nonempty]
          split at h
          · cases h
          · next short =>
              rw [if_neg short]
              exact follow_put h target bytes

theorem exists_put_of_write {folder after : Folder} {path text : String}
    (h : folder.write path text = .ok after) :
    ∃ spot place, folder.locate path = .ok spot ∧ spot.place? = some place ∧
      asksFolder path = false ∧ after = folder.put place text.toUTF8.data.toList := by
  obtain ⟨spot, hspot, h⟩ := bind_eq_ok_iff.mp h
  have put (place : Place)
      (h : (if asksFolder path then .error (.isFolder path)
        else .ok (folder.put place text.toUTF8.data.toList) : Except FileFault Folder) =
          .ok after) :
      asksFolder path = false ∧ after = folder.put place text.toUTF8.data.toList := by
    split at h
    · cases h
    · next file =>
        cases h
        exact ⟨by simpa using file, rfl⟩
  cases spot with
  | folder => cases h
  | file place bytes => exact ⟨_, place, hspot, rfl, put place h⟩
  | free place => exact ⟨_, place, hspot, rfl, put place h⟩

theorem read_of_write {folder after : Folder} {path text : String}
    (plain : ∀ c ∈ text.toList, isPlain c = true) (h : folder.write path text = .ok after) :
    after.has path = true ∧ after.read path = .ok text.toList := by
  obtain ⟨spot, place, hspot, target, file, rfl⟩ := exists_put_of_write h
  have located := locate_put hspot target text.toUTF8.data.toList
  constructor
  · rw [has, located]
    simp [file]
  · rw [read, located]
    simp only [bind, Except.bind, file, decodeUtf8_plain plain, unifyBreaks_plain plain]
    rfl

end Folder

end Pseudocode.Cli
