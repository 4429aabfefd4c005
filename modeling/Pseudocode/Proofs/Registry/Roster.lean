import Mathlib.Data.List.Nodup
import Pseudocode.Proofs.Basic
import Pseudocode.Proofs.Registry.Budget

namespace Pseudocode

namespace Request

def isCreate : Request → Bool
  | create _ _ => true
  | _ => false

def isClose : Request → Bool
  | close _ => true
  | _ => false

def name? : Request → Option String
  | run _ => none
  | validate _ => none
  | create _ _ => none
  | state name => some name
  | step name _ => some name
  | resume name => some name
  | setBreakpoint name _ _ => some name
  | clearBreakpoints name => some name
  | close name => some name

end Request

namespace Registry

variable {registry registry' : Registry} {fresh name other : String} {request : Request}
  {s s' : Session}

/-- The names that new sessions took in the course of some requests, in that order. -/
def createdNames (requests : List (String × Request)) : List String :=
  (requests.filter (·.2.isCreate)).map (·.1)

def unfinished (registry : Registry) : List (String × Session) :=
  registry.sessions.filter fun entry => !entry.2.isDone

inductive Handled (registry : Registry) (fresh : String) : Request → Registry → Prop where
  | kept (request : Request) (other : request.isCreate = false) :
      Handled registry fresh request registry
  | inserted (code : String) (breakpoints : List Int) :
      Handled registry fresh (.create code breakpoints)
        (registry.insert fresh
          (Session.start defaultComment defaultLimit code (breakpoints.map (· - 1))))
  | replaced {request : Request} {name : String} (s' : Session) (named : request.name? = some name)
      (other : request.isClose = false) :
      Handled registry fresh request (registry.replace name s')
  | erased (name : String) : Handled registry fresh (.close name) (registry.erase name)

theorem handle_of_unknown (named : request.name? = some name)
    (unknown : registry.get? name = none) :
    registry.handle fresh request = (registry, .unknown name) := by
  cases request with
  | run code => cases named
  | validate code => cases named
  | create code breakpoints => cases named
  | _ =>
      cases named
      simp only [handle, withSession, unknown]

theorem handle_of_open (named : request.name? = some name) (opened : registry.get? name = some s) :
    (registry.handle fresh request).2 ≠ .unknown other := by
  cases request with
  | run code => cases named
  | validate code => cases named
  | create code breakpoints => cases named
  | _ =>
      cases named
      simp [handle, withSession, opened]

theorem handled_withSession {answer : Session → Registry × Answer}
    (notCreate : request.isCreate = false)
    (opened : ∀ s, Handled registry fresh request (answer s).1) :
    Handled registry fresh request (registry.withSession name answer).1 := by
  unfold withSession
  split
  · exact .kept request notCreate
  · next s _ => exact opened s

theorem handled (registry : Registry) (fresh : String) (request : Request) :
    Handled registry fresh request (registry.handle fresh request).1 := by
  cases request with
  | run code => exact .kept _ rfl
  | validate code => exact .kept _ rfl
  | create code breakpoints => exact .inserted code breakpoints
  | state name => exact handled_withSession rfl fun s => .kept _ rfl
  | step name count => exact handled_withSession rfl fun s => .replaced _ rfl rfl
  | resume name => exact handled_withSession rfl fun s => .replaced _ rfl rfl
  | setBreakpoint name line enabled => exact handled_withSession rfl fun s => .replaced _ rfl rfl
  | clearBreakpoints name => exact handled_withSession rfl fun s => .replaced _ rfl rfl
  | close name => exact handled_withSession rfl fun s => .erased name

theorem get?_eq_none_iff : registry.get? name = none ↔ name ∉ registry.names :=
  lookup_eq_none_iff

@[simp] theorem names_replace (registry : Registry) (name : String) (s' : Session) :
    (registry.replace name s').names = registry.names := by
  simp only [names, replace, List.map_map]
  refine List.map_congr_left fun entry _ => ?_
  simp only [Function.comp_apply]
  split
  · next h => exact (beq_iff_eq.mp h).symm
  · rfl

theorem names_erase (registry : Registry) (name : String) :
    (registry.erase name).names = registry.names.filter (· != name) := by
  simp only [names, erase, List.filter_map]
  rfl

theorem sessions_insert (registry : Registry) (name : String) (s : Session) :
    (registry.insert name s).sessions = registry.prune.sessions ++ [(name, s)] := rfl

theorem prune_suffix (registry : Registry) : registry.prune.sessions <:+ registry.unfinished :=
  List.drop_suffix _ _

theorem length_prune (registry : Registry) :
    registry.prune.sessions.length = min (maxSessions - 1) registry.unfinished.length := by
  have hlength : registry.prune.sessions.length =
      registry.unfinished.length - (registry.unfinished.length - (maxSessions - 1)) :=
    List.length_drop
  omega

theorem names_prune_sublist (registry : Registry) :
    registry.prune.names.Sublist registry.names :=
  ((prune_suffix registry).sublist.trans List.filter_sublist).map _

/-- A registry holds at most as many sessions as are allowed, and those in the order in which they
were created. -/
structure Orderly (registry : Registry) (created : List String) : Prop where
  bounded : registry.sessions.length ≤ maxSessions
  inOrder : registry.names.Sublist created

theorem length_eq_of_names (h : registry.names = registry'.names) :
    registry.sessions.length = registry'.sessions.length := by
  simpa [names] using congrArg List.length h

theorem Orderly.handled {created : List String} (h : Orderly registry created)
    (change : Handled registry fresh request registry') :
    Orderly registry' (created ++ createdNames [(fresh, request)]) := by
  have hgrown : registry.names.Sublist (created ++ createdNames [(fresh, request)]) :=
    h.inOrder.trans (List.sublist_append_left _ _)
  cases change with
  | kept => exact ⟨h.bounded, hgrown⟩
  | inserted code breakpoints =>
      constructor
      · rw [sessions_insert, List.length_append, length_prune, List.length_singleton]
        have : 0 < maxSessions := by decide
        omega
      · rw [names, sessions_insert, List.map_append]
        exact ((names_prune_sublist registry).trans h.inOrder).append (List.Sublist.refl [fresh])
  | replaced s' named other =>
      refine ⟨?_, by rwa [names_replace]⟩
      rw [length_eq_of_names (names_replace registry _ s')]
      exact h.bounded
  | erased name =>
      refine ⟨Nat.le_trans (List.length_filter_le _ _) h.bounded, ?_⟩
      rw [names_erase]
      exact List.filter_sublist.trans hgrown

theorem createdNames_append (first second : List (String × Request)) :
    createdNames (first ++ second) = createdNames first ++ createdNames second := by
  simp [createdNames]

theorem createdNames_cons (fresh : String) (request : Request)
    (requests : List (String × Request)) :
    createdNames ((fresh, request) :: requests) =
      createdNames [(fresh, request)] ++ createdNames requests :=
  createdNames_append [(fresh, request)] requests

theorem Orderly.served {created : List String} (h : Orderly registry created)
    (requests : List (String × Request)) :
    Orderly (registry.served requests) (created ++ createdNames requests) := by
  induction requests generalizing registry created with
  | nil => simpa [Registry.served, createdNames] using h
  | cons entry rest ih =>
      obtain ⟨fresh, request⟩ := entry
      rw [createdNames_cons, ← List.append_assoc]
      exact ih (h.handled (Registry.handled registry fresh request))

theorem orderly_served (requests : List (String × Request)) :
    Orderly (({} : Registry).served requests) (createdNames requests) := by
  have hempty : Orderly {} [] := ⟨Nat.zero_le _, List.Sublist.refl _⟩
  exact hempty.served requests

theorem exists_split_erase (distinct : registry.names.Nodup)
    (opened : registry.get? name = some s) :
    ∃ before after, registry.sessions = before ++ (name, s) :: after ∧
      (registry.erase name).sessions = before ++ after := by
  obtain ⟨before, after, hsplit, hbefore⟩ := List.lookup_eq_some_iff.mp opened
  refine ⟨before, after, hsplit, ?_⟩
  have hafter : ∀ entry ∈ after, entry.1 ≠ name := by
    rw [names, hsplit, List.map_append, List.map_cons, List.nodup_append,
      List.nodup_cons] at distinct
    intro entry hentry heq
    exact distinct.2.1.1 (List.mem_map.mpr ⟨entry, hentry, heq⟩)
  have hkeptBefore : before.filter (fun entry => entry.1 != name) = before := by
    refine List.filter_eq_self.mpr fun entry hentry => ?_
    rw [bne_comm]
    exact hbefore entry hentry
  have hkeptAfter : after.filter (fun entry => entry.1 != name) = after :=
    List.filter_eq_self.mpr fun entry hentry => by simpa using hafter entry hentry
  rw [erase, hsplit, List.filter_append, List.filter_cons_of_neg (by simp), hkeptBefore, hkeptAfter]

theorem names_of_handled (change : Handled registry fresh request registry')
    (notCreate : request.isCreate = false) (notClose : request.isClose = false) :
    registry'.names = registry.names := by
  cases change with
  | kept => rfl
  | inserted => cases notCreate
  | replaced s' => exact names_replace _ _ s'
  | erased => cases notClose

/-- However requests follow each other, the registry holds no more sessions than are allowed, under
distinct names and in the order of their creation. A new session comes behind the youngest of those
that are not done, as many as leave room for it; closing a session takes out that one; and no other
request changes which sessions there are or their order. A request is answered that a session is
unknown exactly if it is about one that is not there, and it changes nothing then. -/
theorem registry_keeps_sessions_in_order (requests : List (String × Request))
    (distinct : (createdNames requests).Nodup) :
    let registry := ({} : Registry).served requests
    registry.sessions.length ≤ maxSessions ∧ registry.names.Nodup ∧
    registry.names.Sublist (createdNames requests) ∧
    (∀ fresh code breakpoints, ∃ kept, kept <:+ registry.unfinished ∧
      kept.length = min (maxSessions - 1) registry.unfinished.length ∧
      (registry.handle fresh (.create code breakpoints)).1.sessions =
        kept ++ [(fresh,
          Session.start defaultComment defaultLimit code (breakpoints.map (· - 1)))]) ∧
    (∀ fresh name s, registry.get? name = some s → ∃ before after,
      registry.sessions = before ++ (name, s) :: after ∧
      (registry.handle fresh (.close name)).1.sessions = before ++ after) ∧
    (∀ fresh request, request.isCreate = false → request.isClose = false →
      (registry.handle fresh request).1.names = registry.names) ∧
    (∀ fresh request name, request.name? = some name →
      ((registry.handle fresh request).2 = .unknown name ↔ name ∉ registry.names) ∧
      (name ∉ registry.names → (registry.handle fresh request).1 = registry)) := by
  intro registry
  have horderly : Orderly registry (createdNames requests) := orderly_served requests
  have hnodup : registry.names.Nodup := horderly.inOrder.nodup distinct
  refine ⟨horderly.bounded, hnodup, horderly.inOrder, ?_, ?_, ?_, ?_⟩
  · intro fresh code breakpoints
    exact ⟨registry.prune.sessions, prune_suffix registry, length_prune registry, rfl⟩
  · intro fresh name s opened
    obtain ⟨before, after, hsplit, herase⟩ := exists_split_erase hnodup opened
    refine ⟨before, after, hsplit, ?_⟩
    simpa only [handle, withSession, opened] using herase
  · intro fresh request notCreate notClose
    exact names_of_handled (handled registry fresh request) notCreate notClose
  · intro fresh request name named
    rw [← get?_eq_none_iff]
    cases opened : registry.get? name with
    | none =>
        rw [handle_of_unknown named opened]
        simp
    | some s =>
        have hanswer : (registry.handle fresh request).2 ≠ .unknown name :=
          handle_of_open named opened
        simp [hanswer]

theorem done_session_makes_room :
    let requests : List (String × Request) :=
      [("a", .create "OUTPUT 1" []), ("b", .create "OUTPUT 2\nOUTPUT 3" [2]), ("", .resume "a"),
        ("c", .create "REPEAT\nUNTIL 1 == 2" [])]
    let registry := ({} : Registry).served requests
    (createdNames requests).Nodup ∧ registry.names = ["b", "c"] ∧
    registry.sessions.length ≤ maxSessions ∧
    (registry.handle "d" (.step "b" 1)).1.names = ["b", "c"] ∧
    (registry.handle "d" (.resume "a")).2 = .unknown "a" := by
  intro requests registry
  have distinct : (createdNames requests).Nodup := by decide +kernel
  have hnames : registry.names = ["b", "c"] := by decide +kernel
  obtain ⟨hbounded, -, -, -, -, hsame, hunknown⟩ :=
    registry_keeps_sessions_in_order requests distinct
  refine ⟨distinct, hnames, hbounded, ?_, ?_⟩
  · exact (hsame "d" (.step "b" 1) rfl rfl).trans hnames
  · refine (hunknown "d" (.resume "a") "a" rfl).1.mpr ?_
    change "a" ∉ registry.names
    rw [hnames]
    decide

end Registry

end Pseudocode
