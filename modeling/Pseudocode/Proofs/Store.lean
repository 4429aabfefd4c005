import Pseudocode.Proofs.Basic
import Pseudocode.Proofs.Text.Case
import Pseudocode.Source.Statement

namespace Pseudocode

open Text

namespace Store

variable {store store' : Store} {name key : String} {value : Value} {v old : Variable}

def names (store : Store) : List String := store.entries.map (·.1)

/-- The names of the variables with the types that they were declared with, in the same order. -/
def kinds (store : Store) : List (String × ValueKind) :=
  store.entries.map fun entry => (entry.1, entry.2.declared)

theorem names_eq_kinds (store : Store) : store.names = store.kinds.map (·.1) := by
  simp [names, kinds]

theorem lookup_kinds (store : Store) (key : String) :
    store.kinds.lookup key = (store.find? key).map Variable.declared := by
  obtain ⟨entries⟩ := store
  simp only [kinds, find?]
  induction entries with
  | nil => rfl
  | cons entry rest ih =>
      rw [List.map_cons, List.lookup_cons, List.lookup_cons]
      cases key == entry.1 with
      | true => rfl
      | false => exact ih

theorem find?_eq_none_iff : store.find? key = none ↔ key ∉ store.names := lookup_eq_none_iff

theorem get?_eq_none_iff : store.get? key = none ↔ key ∉ store.names := by
  rw [get?, Option.map_eq_none_iff, find?_eq_none_iff]

theorem find?_put (store : Store) (key : String) (v : Variable) (other : String) :
    (store.put key v).find? other = if other = key then some v else store.find? other := by
  obtain ⟨entries⟩ := store
  simp only [put, find?]
  have hself : ∀ entries : List (String × Variable), List.lookup other ((key, v) :: entries) =
      if other = key then some v else List.lookup other entries := by
    intro entries
    rw [List.lookup_cons]
    by_cases hother : other = key
    · rw [if_pos hother, beq_iff_eq.mpr hother]
    · rw [if_neg hother, beq_eq_false_iff_ne.mpr hother]
  induction entries with
  | nil => exact hself []
  | cons entry rest ih =>
      rw [put.go]
      by_cases hkey : entry.1 = key
      · rw [if_pos (beq_iff_eq.mpr hkey), hself, List.lookup_cons, hkey]
        by_cases hother : other = key
        · rw [if_pos hother, if_pos hother]
        · rw [if_neg hother, if_neg hother, beq_eq_false_iff_ne.mpr hother]
      · rw [if_neg (by simpa using hkey), List.lookup_cons, List.lookup_cons, ih]
        by_cases hother : other = entry.1
        · subst hother
          simp [hkey]
        · rw [beq_eq_false_iff_ne.mpr hother]

theorem mem_put {entry : String × Variable} (h : entry ∈ (store.put key v).entries) :
    entry = (key, v) ∨ entry ∈ store.entries := by
  obtain ⟨entries⟩ := store
  simp only [put] at h ⊢
  induction entries with
  | nil => exact .inl (List.mem_singleton.mp h)
  | cons first rest ih =>
      rw [put.go] at h
      split at h
      · rcases List.mem_cons.mp h with rfl | hrest
        · exact .inl rfl
        · exact .inr (List.mem_cons_of_mem first hrest)
      · rcases List.mem_cons.mp h with rfl | hrest
        · exact .inr List.mem_cons_self
        · exact (ih hrest).imp_right (List.mem_cons_of_mem first)

theorem kinds_put_of_find? (found : store.find? key = some old)
    (declared : v.declared = old.declared) : (store.put key v).kinds = store.kinds := by
  obtain ⟨entries⟩ := store
  simp only [kinds, put, find?] at found ⊢
  induction entries with
  | nil => cases found
  | cons entry rest ih =>
      rw [put.go]
      rw [List.lookup_cons, BEq.comm] at found
      cases hkey : entry.1 == key with
      | true =>
          rw [hkey] at found
          cases found
          rw [if_pos rfl, List.map_cons, List.map_cons, declared, beq_iff_eq.mp hkey]
      | false =>
          rw [hkey] at found
          rw [if_neg (by simp), List.map_cons, List.map_cons, ih found]

theorem kinds_put_of_none (unknown : store.find? key = none) :
    (store.put key v).kinds = store.kinds ++ [(key, v.declared)] := by
  obtain ⟨entries⟩ := store
  simp only [kinds, put, find?] at unknown ⊢
  induction entries with
  | nil => rfl
  | cons entry rest ih =>
      rw [put.go]
      rw [List.lookup_cons, BEq.comm] at unknown
      cases hkey : entry.1 == key with
      | true =>
          rw [hkey] at unknown
          cases unknown
      | false =>
          rw [hkey] at unknown
          rw [if_neg (by simp), List.map_cons, List.map_cons, ih unknown, List.cons_append]

/-- What an assignment can come to: a new variable or one that has changed, each of them in the
store, or a fault, with the store as it was. -/
inductive Assigns (store : Store) (name : String) (value : Value) :
    EStateM.Result Fault Store Variable → Prop where
  | created (valid : isName (normalize name) = true)
      (unknown : store.find? (normalize name) = none) :
      Assigns store name value
        (.ok (.create (normalize name) value)
          (store.put (normalize name) (.create (normalize name) value)))
  | changed {old : Variable} (valid : isName (normalize name) = true)
      (found : store.find? (normalize name) = some old) (typed : old.declared = value.kind) :
      Assigns store name value
        (.ok { old with value } (store.put (normalize name) { old with value }))
  | invalid (unfit : isName (normalize name) = false) :
      Assigns store name value
        (.error { kind := .invalidIdentifier, detail := "Invalid variable name: " ++ name } store)
  | mismatched {old : Variable} (found : store.find? (normalize name) = some old)
      (differs : old.declared ≠ value.kind) :
      Assigns store name value
        (.error
          { kind := .typeMismatch
            detail := "Variable '" ++ normalize name ++ "' was declared as " ++
              old.declared.name ++ " but assigned " ++ value.kind.name } store)

theorem assigns_run (store : Store) (name : String) (value : Value) :
    Assigns store name value ((assign name value).run store) := by
  cases hname : isName (normalize name) with
  | false =>
      convert Assigns.invalid hname using 1
      simp [assign, hname]
  | true =>
      cases hfound : store.find? (normalize name) with
      | none =>
          convert Assigns.created hname hfound using 1
          simp [assign, hname, hfound, -bind_pure_comp]
      | some old =>
          by_cases hkind : old.declared = value.kind
          · convert Assigns.changed hname hfound hkind using 1
            simp [assign, hname, hfound, hkind, -bind_pure_comp]
          · convert Assigns.mismatched hfound hkind using 1
            simp [assign, hname, hfound, hkind]

theorem store_of_assign_error {fault : Fault}
    (h : (assign name value).run store = .error fault store') : store' = store := by
  have hassigns := assigns_run store name value
  rw [h] at hassigns
  cases hassigns with
  | invalid => rfl
  | mismatched => rfl

theorem put_of_assign (h : (assign name value).run store = .ok v store') :
    isName (normalize name) = true ∧ store' = store.put (normalize name) v ∧ v.value = value ∧
      v.declared = value.kind ∧
      ∀ old, store.find? (normalize name) = some old → old.declared = value.kind := by
  have hassigns := assigns_run store name value
  rw [h] at hassigns
  cases hassigns with
  | created valid unknown =>
      refine ⟨valid, rfl, rfl, rfl, ?_⟩
      intro old hold
      rw [unknown] at hold
      cases hold
  | changed valid found typed =>
      refine ⟨valid, rfl, rfl, typed, ?_⟩
      intro old hold
      rw [found] at hold
      cases hold
      exact typed

theorem exists_assign (valid : isName (normalize name) = true)
    (typed : ∀ old, store.find? (normalize name) = some old → old.declared = value.kind) :
    ∃ v store', (assign name value).run store = .ok v store' := by
  cases hrun : (assign name value).run store with
  | ok v store' => exact ⟨v, store', rfl⟩
  | error fault store' =>
      have hassigns := assigns_run store name value
      rw [hrun] at hassigns
      cases hassigns with
      | invalid unfit =>
          rw [valid] at unfit
          cases unfit
      | mismatched found differs => exact absurd (typed _ found) differs

theorem lookup_of_assign (h : (assign name value).run store = .ok v store') (other : String) :
    store'.lookup other =
      if normalize other = normalize name then some value else store.lookup other := by
  obtain ⟨-, rfl, hvalue, -⟩ := put_of_assign h
  rw [lookup, get?, find?_put]
  split
  · rw [Option.map_some, hvalue]
  · rfl

/-- An assignment either leaves names and types alone, or adds a name behind the others. -/
theorem kinds_of_assign (h : (assign name value).run store = .ok v store') :
    (normalize name ∈ store.names ∧ store'.kinds = store.kinds) ∨
      (normalize name ∉ store.names ∧
        store'.kinds = store.kinds ++ [(normalize name, value.kind)]) := by
  obtain ⟨-, rfl, -, hdeclared, hold⟩ := put_of_assign h
  cases hfound : store.find? (normalize name) with
  | none =>
      refine .inr ⟨find?_eq_none_iff.mp hfound, ?_⟩
      rw [kinds_put_of_none hfound, hdeclared]
  | some old =>
      refine .inl ⟨?_, kinds_put_of_find? hfound (hdeclared.trans (hold old hfound).symm)⟩
      by_contra hnew
      rw [find?_eq_none_iff.mpr hnew] at hfound
      cases hfound

/-- Each variable is kept under its own name and has a value of the type that it was declared
with. -/
def Consistent (store : Store) : Prop :=
  ∀ entry ∈ store.entries,
    entry.2.name = entry.1 ∧ entry.2.declared = entry.2.value.kind

theorem consistent_empty : ({} : Store).Consistent := by
  intro entry hentry
  cases hentry

theorem Consistent.find? (h : store.Consistent) (found : store.find? key = some v) :
    v.name = key ∧ v.declared = v.value.kind :=
  h (key, v) (mem_of_lookup found)

theorem Consistent.put (h : store.Consistent) (hname : v.name = key)
    (hdeclared : v.declared = v.value.kind) : (store.put key v).Consistent := by
  intro entry hentry
  rcases mem_put hentry with rfl | hold
  · exact ⟨hname, hdeclared⟩
  · exact h entry hold

theorem Consistent.assign (h : store.Consistent)
    (hassign : (Store.assign name value).run store = .ok v store') : store'.Consistent := by
  have hassigns := assigns_run store name value
  rw [hassign] at hassigns
  cases hassigns with
  | created => exact h.put rfl rfl
  | changed _ found typed => exact h.put (h.find? found).1 typed

theorem Consistent.lookup_kinds (h : store.Consistent) (key : String) :
    store.kinds.lookup key = (store.get? key).map Value.kind := by
  rw [Store.lookup_kinds, get?, Option.map_map]
  cases hfound : store.find? key with
  | none => rfl
  | some v =>
      rw [Option.map_some, Option.map_some, (h.find? hfound).2]
      rfl

theorem lt_128_of_isLetterOrDigit {c : Char} (h : isLetterOrDigit c = true) : c.toNat < 128 := by
  simp only [isLetterOrDigit, isLetter, Bool.or_eq_true, Bool.and_eq_true, decide_eq_true_eq] at h
  have hle : c ≤ 'z' := by
    rcases h with (⟨-, h⟩ | ⟨-, h⟩) | ⟨-, h⟩
    · exact h
    · exact Char.le_trans h (by decide)
    · exact Char.le_trans h (by decide)
  exact Nat.lt_of_le_of_lt (UInt32.le_iff_toNat_le.mp hle) (by decide)

theorem of_isLetterOrDigit {p : Char → Prop}
    (hall : ∀ n < 128, isLetterOrDigit (Char.ofNat n) = true → p (Char.ofNat n)) {c : Char}
    (h : isLetterOrDigit c = true) : p c := by
  have hc := hall c.toNat (lt_128_of_isLetterOrDigit h)
  rw [Char.ofNat_toNat] at hc
  exact hc h

theorem upperChar_of_isLetterOrDigit {c : Char} (h : isLetterOrDigit c = true) :
    ∃ d, upperChar c = [d] ∧ isBlank d = false ∧ upperChar d = [d] :=
  ⟨c.toUpper, of_isLetterOrDigit
    (p := fun c => upperChar c = [c.toUpper] ∧ isBlank c.toUpper = false ∧
      upperChar c.toUpper = [c.toUpper]) (by decide +kernel) h⟩

theorem isBlank_of_isLetterOrDigit {c : Char} (h : isLetterOrDigit c = true) :
    isBlank c = false :=
  of_isLetterOrDigit (p := fun c => isBlank c = false) (by decide +kernel) h

theorem isLetterOrDigit_of_isIdentifier {cs : List Char} (h : isIdentifier cs = true) :
    ∀ c ∈ cs, isLetterOrDigit c = true := by
  cases cs with
  | nil => cases h
  | cons first rest =>
      rw [isIdentifier, Bool.and_eq_true] at h
      intro c hc
      rcases List.mem_cons.mp hc with rfl | hrest
      · rw [isLetterOrDigit, h.1, Bool.true_or]
      · exact List.all_eq_true.mp h.2 c hrest

theorem upper_of_isIdentifier {cs : List Char} (h : isIdentifier cs = true) :
    ∀ d ∈ upper cs, isBlank d = false ∧ upperChar d = [d] := by
  intro d hd
  obtain ⟨c, hc, hdc⟩ := List.mem_flatMap.mp hd
  obtain ⟨d', himage, hd'⟩ :=
    upperChar_of_isLetterOrDigit (isLetterOrDigit_of_isIdentifier h c hc)
  rw [himage, List.mem_singleton] at hdc
  exact hdc ▸ hd'

theorem normalize_upper {cs : List Char} (h : isIdentifier cs = true) :
    normalize (String.ofList (upper cs)) = String.ofList (upper cs) := by
  rw [normalize, String.toList_ofList, trim_eq_self fun d hd => (upper_of_isIdentifier h d hd).1,
    upper_eq_self fun d hd => (upper_of_isIdentifier h d hd).2]

theorem normalize_of_upperString {word : String} (hword : ∀ c ∈ word.toList, isBlank c = false)
    (h : upperString name = word) : normalize name = word := by
  have hchars : upper name.toList = word.toList := by rw [← h, upperString, String.toList_ofList]
  have hblank : ∀ c ∈ name.toList, isBlank c = false := by
    intro c hc
    by_contra hc'
    rw [Bool.not_eq_false] at hc'
    have hmem := mem_upper_of_isBlank hc hc'
    rw [hchars] at hmem
    rw [hword c hmem] at hc'
    cases hc'
  rw [normalize, trim_eq_self hblank]
  exact h

end Store

theorem Statement.normalize_of_readName {cs : List Char} {name : String}
    (h : readName cs = .ok name) : Store.normalize name = name := by
  unfold readName at h
  dsimp only at h
  split at h
  · next hvalid =>
      cases h
      rw [Bool.and_eq_true] at hvalid
      exact Store.normalize_upper hvalid.1
  · cases h

theorem Statement.not_reserved_of_readName {cs : List Char} {name : String}
    (h : readName cs = .ok name) : Store.normalize name ∉ reservedWords := by
  unfold readName at h
  dsimp only at h
  split at h
  · next hvalid =>
      cases h
      rw [Bool.and_eq_true, Bool.not_eq_true'] at hvalid
      rw [Store.normalize_upper hvalid.1]
      simpa using hvalid.2
  · cases h

end Pseudocode
