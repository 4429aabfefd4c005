import Mathlib.Data.List.Induction
import Mathlib.Data.List.Nodup
import Pseudocode.Proofs.Store
import Pseudocode.Proofs.Text.Words

namespace Pseudocode

open Text

namespace Store

variable {store store' : Store} {name key : String} {value : Value} {v : Variable}

def isKey (key : String) : Bool :=
  match key.toList with
  | [] => false
  | c :: rest => c.isUpper && rest.all fun d => d.isUpper || d.isDigit

theorem isLetter_eq (c : Char) : isLetter c = (c.isLower || c.isUpper) := by
  rw [Bool.eq_iff_iff, isLetter, Bool.or_eq_true, Bool.or_eq_true, isLower_iff, isUpper_iff]
  simp only [Bool.and_eq_true, decide_eq_true_eq, Char.le_def, UInt32.le_iff_toNat_le]
  exact Iff.rfl

theorem isLetterOrDigit_eq (c : Char) :
    isLetterOrDigit c = (c.isLower || (c.isUpper || c.isDigit)) := by
  rw [isLetterOrDigit, isLetter_eq, Bool.or_assoc]
  simp [Char.isDigit, Char.le_def]

theorem isKey_eq_isIdentifier (h : ∀ c ∈ key.toList, c.isLower = false) :
    isKey key = isIdentifier key.toList := by
  unfold isKey
  cases hchars : key.toList with
  | nil => rfl
  | cons c rest =>
      rw [hchars] at h
      obtain ⟨hc, hrest⟩ := List.forall_mem_cons.mp h
      have hall : (rest.all fun d => d.isUpper || d.isDigit) = rest.all isLetterOrDigit := by
        rw [Bool.eq_iff_iff, List.all_eq_true, List.all_eq_true]
        refine forall_congr' fun d => forall_congr' fun hd => ?_
        rw [isLetterOrDigit_eq, hrest d hd, Bool.false_or]
      rw [isIdentifier, isLetter_eq, hc, Bool.false_or, ← hall]

theorem capital_of_isKey (h : isKey key = true) :
    ∀ c ∈ key.toList, (c.isUpper || c.isDigit) = true := by
  unfold isKey at h
  cases hchars : key.toList with
  | nil => simp
  | cons c rest =>
      rw [hchars, Bool.and_eq_true, List.all_eq_true] at h
      exact List.forall_mem_cons.mpr ⟨by rw [h.1, Bool.true_or], h.2⟩

theorem normalize_of_isKey (h : isKey key = true) : normalize key = key := by
  have hchar : ∀ c ∈ key.toList, isBlank c = false ∧ upperChar c = [c] := by
    intro c hc
    have hkey := capital_of_isKey h c hc
    have hletter : isLetterOrDigit c = true := by
      rw [isLetterOrDigit_eq, hkey, Bool.or_true]
    exact of_isLetterOrDigit (p := fun c => (c.isUpper || c.isDigit) = true →
      isBlank c = false ∧ upperChar c = [c]) (by decide +kernel) hletter hkey
  rw [normalize, trim_eq_self fun c hc => (hchar c hc).1, upper_eq_self fun c hc => (hchar c hc).2,
    String.ofList_toList]

theorem isName_eq_isIdentifier (h : ∀ c, name.toList.getLast? = some c → isBlank c = false) :
    isName name = isIdentifier name.toList := by
  unfold isName
  split
  · next rest hreverse =>
      have hlast := h '\n' (by rw [← List.head?_reverse, hreverse]; rfl)
      cases hlast
  · rfl

/-- The names that pass are those whose normal form is a key: upper case leaves no small letters,
and no line feed is left at the end. -/
theorem isName_normalize (name : String) : isName (normalize name) = isKey (normalize name) := by
  rw [isName_eq_isIdentifier, isKey_eq_isIdentifier]
  · intro d hd
    rw [normalize, String.toList_ofList] at hd
    exact isLower_of_mem_upper hd
  · rw [normalize, String.toList_ofList]
    intro d hd
    refine isBlank_of_getLast?_upper (fun c hc => ?_) hd
    have ne_nil : trim name.toList ≠ [] := by
      intro hnil
      rw [hnil] at hc
      cases hc
    exact (trimmed_trim ne_nil).last c hc

theorem exists_assign_iff :
    (∃ v store', (assign name value).run store = .ok v store') ↔
      isKey (normalize name) = true ∧
      ∀ old, store.find? (normalize name) = some old → old.declared = value.kind := by
  rw [← isName_normalize]
  constructor
  · rintro ⟨v, store', hassign⟩
    obtain ⟨hname, -, -, -, hold⟩ := put_of_assign hassign
    exact ⟨hname, hold⟩
  · rintro ⟨hname, hold⟩
    exact exists_assign hname hold

theorem names_of_assign (h : (assign name value).run store = .ok v store') :
    store'.names =
      if normalize name ∈ store.names then store.names else store.names ++ [normalize name] := by
  rw [names_eq_kinds store']
  obtain ⟨hold, hkinds⟩ | ⟨hnew, hkinds⟩ := kinds_of_assign h
  · rw [if_pos hold, hkinds, names_eq_kinds]
  · rw [if_neg hnew, hkinds, List.map_append, names_eq_kinds]
    rfl

def attempt (store : Store) (call : String × Value) : Store :=
  match (assign call.1 call.2).run store with
  | .ok _ store' => store'
  | .error _ store' => store'

theorem attempt_of_ok (h : (assign name value).run store = .ok v store') :
    store.attempt (name, value) = store' := by
  rw [attempt, h]

theorem attempt_of_error {fault : Fault} (h : (assign name value).run store = .error fault store') :
    store.attempt (name, value) = store := by
  rw [attempt, h]
  exact store_of_assign_error h

/-- The store after a sequence of assignments to an empty one, of which some may fail. -/
def after (calls : List (String × Value)) : Store := calls.foldl attempt {}

theorem after_concat (calls : List (String × Value)) (call : String × Value) :
    after (calls ++ [call]) = (after calls).attempt call := by
  simp only [after, List.foldl_append, List.foldl_cons, List.foldl_nil]

/-- The type that a key was declared with: the one of the first value that was assigned to it,
however its name was written. -/
def declared? (calls : List (String × Value)) (key : String) : Option ValueKind :=
  if isKey key then (calls.find? fun call => normalize call.1 = key).map (·.2.kind) else none

theorem declared?_concat (calls : List (String × Value)) (call : String × Value) (key : String) :
    declared? (calls ++ [call]) key =
      (declared? calls key).or
        (if isKey key ∧ normalize call.1 = key then some call.2.kind else none) := by
  unfold declared?
  by_cases hkey : isKey key = true
  · by_cases hname : normalize call.1 = key
    · simp [hkey, hname, List.find?_append]
    · simp [hkey, hname, List.find?_append]
  · simp [hkey]

/-- What a store has kept of the assignments before: its names are keys, each of them once, and its
variables have their names and the types that these were declared with. -/
structure Records (calls : List (String × Value)) (store : Store) : Prop where
  nodup : store.names.Nodup
  keys : ∀ key ∈ store.names, isKey key = true
  consistent : store.Consistent
  declared : ∀ key, (store.find? key).map Variable.declared = declared? calls key

section Records

variable {calls : List (String × Value)}

theorem Records.exists_assign_iff (h : Records calls store) :
    (∃ v store', (Store.assign name value).run store = .ok v store') ↔
      isKey (normalize name) = true ∧
      ∀ kind, declared? calls (normalize name) = some kind → kind = value.kind := by
  simp only [Store.exists_assign_iff, ← h.declared, Option.map_eq_some_iff]
  constructor
  · rintro ⟨hkey, hold⟩
    refine ⟨hkey, ?_⟩
    rintro _ ⟨old, hfound, rfl⟩
    exact hold old hfound
  · rintro ⟨hkey, hkind⟩
    exact ⟨hkey, fun old hfound => hkind old.declared ⟨old, hfound, rfl⟩⟩

theorem Records.assign (h : Records calls store)
    (hassign : (Store.assign name value).run store = .ok v store') :
    Records (calls ++ [(name, value)]) store' := by
  obtain ⟨hkey, hold⟩ := Store.exists_assign_iff.mp ⟨v, store', hassign⟩
  have hnames := names_of_assign hassign
  refine ⟨?_, ?_, h.consistent.assign hassign, fun key => ?_⟩
  · rw [hnames]
    split
    · exact h.nodup
    · next hnew =>
        rw [← List.concat_eq_append]
        exact h.nodup.concat hnew
  · rw [hnames]
    split
    · exact h.keys
    · intro key hmem
      rcases List.mem_append.mp hmem with hold | hnew
      · exact h.keys key hold
      · rw [List.mem_singleton.mp hnew]
        exact hkey
  · obtain ⟨-, rfl, -, hdeclared, -⟩ := put_of_assign hassign
    rw [find?_put, declared?_concat, ← h.declared]
    by_cases hsame : key = normalize name
    · subst hsame
      cases hfound : store.find? (normalize name) with
      | none => simp [hkey, hdeclared]
      | some old => simp [hdeclared, hold old hfound]
    · simp [hsame, Ne.symm hsame]

theorem Records.attempt (h : Records calls store) (call : String × Value) :
    Records (calls ++ [call]) (store.attempt call) := by
  cases hassign : (Store.assign call.1 call.2).run store with
  | ok v store' =>
      rw [attempt_of_ok hassign]
      exact h.assign hassign
  | error fault store' =>
      rw [attempt_of_error hassign]
      refine ⟨h.nodup, h.keys, h.consistent, fun key => ?_⟩
      rw [h.declared, declared?_concat]
      cases hdeclared : declared? calls key with
      | some kind => rfl
      | none =>
          rw [Option.none_or, if_neg]
          rintro ⟨hkey, rfl⟩
          obtain ⟨v, store', hok⟩ := h.exists_assign_iff.mpr ⟨hkey, by simp [hdeclared]⟩
          cases hassign.symm.trans hok

end Records

theorem records_after (calls : List (String × Value)) : Records calls (after calls) := by
  induction calls using List.reverseRecOn with
  | nil =>
      refine ⟨List.nodup_nil, ?_, consistent_empty, ?_⟩
      · simp [after, names]
      · simp [after, find?, declared?]
  | append_singleton calls call ih =>
      rw [after_concat]
      exact ih.attempt call

/-- A store is a map with types under all spellings of its names. After any assignments to an empty
store, of which some may have failed, its names are keys in their normal form, each of them once.
Each variable is kept under its own name, and its value is of the type that it was declared with,
which is the type of the first value that was assigned to its key. A further assignment succeeds
exactly if its name has a key that is not declared or declared with the type of the value. It then
changes the value under all spellings of that name and no other value, and a new name comes behind
the old ones, which stay in their places. If it fails, the store is left as it was. -/
theorem store_is_typed_map (calls : List (String × Value)) :
    let store := after calls
    store.names.Nodup ∧
    (∀ key ∈ store.names, isKey key = true ∧ normalize key = key) ∧
    (∀ key v, (key, v) ∈ store.entries → v.name = key ∧ v.declared = v.value.kind) ∧
    (∀ key, (store.find? key).map Variable.declared = declared? calls key ∧
      (store.get? key).map Value.kind = declared? calls key) ∧
    ∀ name value,
      ((∃ v store', (assign name value).run store = .ok v store') ↔
        isKey (normalize name) = true ∧
        ∀ kind, declared? calls (normalize name) = some kind → kind = value.kind) ∧
      (∀ v store', (assign name value).run store = .ok v store' →
        after (calls ++ [(name, value)]) = store' ∧
        store'.find? (normalize name) = some v ∧
        (∀ other, store'.lookup other =
          if normalize other = normalize name then some value else store.lookup other) ∧
        store'.names =
          if normalize name ∈ store.names then store.names
          else store.names ++ [normalize name]) ∧
      ∀ fault store', (assign name value).run store = .error fault store' →
        store' = store ∧ after (calls ++ [(name, value)]) = store := by
  intro store
  have hrecords : Records calls store := records_after calls
  refine ⟨hrecords.nodup, fun key hmem => ?_, fun key v hmem => hrecords.consistent (key, v) hmem,
    fun key => ⟨hrecords.declared key, ?_⟩, fun name value => ?_⟩
  · have hkey := hrecords.keys key hmem
    exact ⟨hkey, normalize_of_isKey hkey⟩
  · rw [← hrecords.consistent.lookup_kinds, lookup_kinds, hrecords.declared]
  · rw [after_concat]
    refine ⟨hrecords.exists_assign_iff, fun v store' hassign => ?_, fun fault store' hassign => ?_⟩
    · refine ⟨attempt_of_ok hassign, ?_, lookup_of_assign hassign, names_of_assign hassign⟩
      obtain ⟨-, rfl, -⟩ := put_of_assign hassign
      rw [find?_put, if_pos rfl]
    · exact ⟨store_of_assign_error hassign, attempt_of_error hassign⟩

theorem respelled_names_share_variable :
    let calls := [("straße", .number 1.0), (" Strasse\n", .text "x"), ("ﬁ1", .boolean true)]
    ∃ v store', (assign "ſtraSSe" (.number 2.0)).run (after calls) = .ok v store' ∧
      isKey "STRASSE" = true ∧ normalize "STRASSE" = "STRASSE" ∧
      store'.lookup "Straße" = some (.number 2.0) ∧
      store'.lookup "fi1" = (after calls).lookup "fi1" ∧ store'.names = ["STRASSE", "FI1"] := by
  intro calls
  obtain ⟨hnames, hkey, hdeclared⟩ : (after calls).names = ["STRASSE", "FI1"] ∧
      isKey (normalize "ſtraSSe") = true ∧
      declared? calls (normalize "ſtraSSe") = some .number := by
    decide +kernel
  obtain ⟨hsame, hother⟩ : normalize "Straße" = normalize "ſtraSSe" ∧
      normalize "fi1" ≠ normalize "ſtraSSe" ∧ normalize "ſtraSSe" = "STRASSE" := by
    decide +kernel
  obtain ⟨-, hkeys, -, -, hassign⟩ := store_is_typed_map calls
  obtain ⟨hsucceeds, hafter, -⟩ := hassign "ſtraSSe" (.number 2.0)
  obtain ⟨v, store', hok⟩ := hsucceeds.mpr ⟨hkey, fun kind hkind => by
    rw [hdeclared] at hkind
    exact (Option.some.inj hkind).symm⟩
  obtain ⟨-, -, hlookup, hplace⟩ := hafter v store' hok
  have hfirst := hkeys "STRASSE" (by rw [hnames]; exact List.mem_cons_self)
  refine ⟨v, store', hok, hfirst.1, hfirst.2, ?_, ?_, ?_⟩
  · rw [hlookup, if_pos hsame]
  · rw [hlookup, if_neg hother.1]
  · rw [hplace, hother.2, hnames]
    rfl

end Store

end Pseudocode
