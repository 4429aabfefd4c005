import Pseudocode.Proofs.Registry.Roster
import Pseudocode.Proofs.Session.Batch

namespace Pseudocode

/-- A request about a session, without the name of the session. -/
inductive Inquiry where
  | state
  | step (count : Int)
  | resume
  | setBreakpoint (line : Int) (enabled : Bool)
  | clearBreakpoints
deriving DecidableEq

namespace Request

/-- What a request asks of the session that it is about, unless that is to be closed. -/
def inquiry? : Request → Option Inquiry
  | state _ => some .state
  | step _ count => some (.step count)
  | resume _ => some .resume
  | setBreakpoint _ line enabled => some (.setBreakpoint line enabled)
  | clearBreakpoints _ => some .clearBreakpoints
  | _ => none

def inquiryAbout (name : String) (request : Request) : Option Inquiry :=
  if request.name? = some name then request.inquiry? else none

theorem isClose_of_inquiryAbout {name : String} {request : Request}
    (about : request.inquiryAbout name = none) (named : request.name? = some name) :
    request.isClose = true := by
  rw [inquiryAbout, if_pos named] at about
  cases request with
  | run code => cases named
  | validate code => cases named
  | create code breakpoints => cases named
  | close name => rfl
  | _ => cases about

end Request

namespace Answer

def snapshot? : Answer → Option Snapshot
  | ran progress => some progress.snapshot
  | created _ snapshot => some snapshot
  | state snapshot => some snapshot
  | advanced progress => some progress.snapshot
  | _ => none

end Answer

namespace Session

def serve (s : Session) : Inquiry → Session × Answer
  | .state => (s, .state s.snapshot)
  | .step count =>
      let (next, steps) := s.stepUpTo (min (max count 1) maxSteps).toNat
      (next, .advanced (next.progress steps))
  | .resume =>
      let (next, steps) := s.advance
      (next, .advanced (next.progressOfResume steps))
  | .setBreakpoint line enabled =>
      let next := if enabled then s.addBreakpoint (line - 1) else s.removeBreakpoint (line - 1)
      (next, .breakpoints next.snapshot.breakpoints)
  | .clearBreakpoints => (s.clearBreakpoints, .cleared)

def replies (s : Session) : List Inquiry → List Answer
  | [] => []
  | inquiry :: rest => (s.serve inquiry).2 :: replies (s.serve inquiry).1 rest

variable {start : Machine} {k : Nat} {s : Session}

theorem Follows.stepUpTo (h : Follows start k s) (count : Nat) :
    ∃ n, Follows start n (s.stepUpTo count).1 := by
  induction count generalizing k s with
  | zero => exact ⟨k, h⟩
  | succ count ih =>
      rw [Session.stepUpTo]
      split
      · exact ⟨k, h⟩
      · dsimp only
        split
        · exact ih h.step
        · exact ⟨_, h.step⟩

theorem Follows.serve (h : Follows start k s) (inquiry : Inquiry) :
    ∃ n, Follows start n (s.serve inquiry).1 := by
  cases inquiry with
  | state => exact ⟨k, h⟩
  | step count => exact h.stepUpTo _
  | resume =>
      change ∃ n, Follows start n s.advance.1
      rw [advance_fst]
      exact ⟨_, h.resume _⟩
  | setBreakpoint line enabled =>
      refine ⟨k, ?_⟩
      cases enabled with
      | true => exact h.withBreakpoints _
      | false => exact h.withBreakpoints _
  | clearBreakpoints => exact ⟨k, h.withBreakpoints _⟩

/-- An answer shows the session as it is then, except that the limit on statements may be added to
one that is ready. -/
theorem snapshot_of_serve {inquiry : Inquiry} {snapshot : Snapshot}
    (shown : (s.serve inquiry).2.snapshot? = some snapshot) (notReady : snapshot.state ≠ .ready) :
    snapshot = (s.serve inquiry).1.snapshot := by
  cases inquiry with
  | state => exact (Option.some.inj shown).symm
  | step count => exact (Option.some.inj shown).symm
  | resume =>
      have hshown : snapshot = (s.advance.1.progressOfResume s.advance.2).snapshot :=
        (Option.some.inj shown).symm
      rw [hshown, progressOfResume] at notReady ⊢
      split at notReady
      · next hready => exact absurd hready.1 notReady
      · next hready => exact congrArg Progress.snapshot (if_neg hready)
  | setBreakpoint line enabled => cases shown
  | clearBreakpoints => cases shown

end Session

/-- A view shows what a run from some state leaves behind: its output, its variables and its
fault. -/
def Snapshot.IsOutcomeOf (snapshot : Snapshot) (start : Machine) : Prop :=
  ∃ fault : Option Fault, snapshot.complaint = fault.map .fault ∧
    ∀ report, start.RunsTo report ↔
      report = ⟨snapshot.output, snapshot.bindings, fault.map .fault⟩

namespace Session

variable {start : Machine} {k : Nat} {s : Session}

theorem Follows.isOutcomeOf (h : Follows start k s) (done : s.isDone = true) :
    s.snapshot.IsOutcomeOf start := by
  have hruns := h.runsTo done
  refine ⟨s.fault, rfl, fun report => ⟨fun h' => h'.unique hruns, ?_⟩⟩
  rintro rfl
  exact hruns

theorem Follows.replies (h : Follows start k s) (inquiries : List Inquiry) :
    ∀ answer ∈ s.replies inquiries, ∀ snapshot, answer.snapshot? = some snapshot →
      snapshot.state = .finished ∨ snapshot.state = .error → snapshot.IsOutcomeOf start := by
  induction inquiries generalizing k s with
  | nil => simp [Session.replies]
  | cons inquiry rest ih =>
      obtain ⟨n, hnext⟩ := h.serve inquiry
      intro answer hanswer snapshot shown ended
      rcases List.mem_cons.mp hanswer with rfl | hlater
      · have hready : snapshot.state ≠ .ready := by
          rcases ended with hstate | hstate <;> simp [hstate]
        have hsnapshot := snapshot_of_serve shown hready
        rw [hsnapshot] at ended ⊢
        exact hnext.isOutcomeOf (isDone_iff.mpr ended)
      · exact ih hnext answer hlater snapshot shown ended

end Session

namespace Registry

variable {registry registry' : Registry} {fresh name : String} {request : Request}
  {requests : List (String × Request)} {s s' : Session} {inquiry : Inquiry}

def Holds (registry : Registry) (name : String) (s : Session) : Prop :=
  ∀ s', (name, s') ∈ registry.sessions → s' = s

theorem Holds.get? (h : Holds registry name s) (opened : registry.get? name = some s') :
    s' = s :=
  h s' (mem_of_lookup opened)

theorem holds_replace (registry : Registry) (name : String) (s : Session) :
    Holds (registry.replace name s) name s := by
  intro s' hmem
  obtain ⟨entry, -, hentry⟩ := List.mem_map.mp hmem
  split at hentry
  · exact (congrArg Prod.snd hentry).symm
  · next hne =>
      rw [hentry] at hne
      simp at hne

theorem Holds.replace {other : String} (h : Holds registry name s) (hne : other ≠ name) :
    Holds (registry.replace other s') name s := by
  intro s'' hmem
  obtain ⟨entry, hold, hentry⟩ := List.mem_map.mp hmem
  split at hentry
  · exact absurd (congrArg Prod.fst hentry) hne
  · exact h s'' (hentry ▸ hold)

theorem Holds.of_subset (h : Holds registry name s)
    (hsubset : ∀ entry ∈ registry'.sessions, entry.1 = name → entry ∈ registry.sessions) :
    Holds registry' name s :=
  fun s' hmem => h s' (hsubset _ hmem rfl)

theorem Holds.insert (h : Holds registry name s) (hne : fresh ≠ name) :
    Holds (registry.insert fresh s') name s := by
  refine h.of_subset fun entry hmem hname => ?_
  rw [sessions_insert, List.mem_append, List.mem_singleton] at hmem
  rcases hmem with hmem | rfl
  · exact List.filter_sublist.subset ((prune_suffix registry).subset hmem)
  · exact absurd hname hne

theorem holds_insert (unused : name ∉ registry.names) (s : Session) :
    Holds (registry.insert name s) name s := by
  intro s' hmem
  rw [sessions_insert, List.mem_append, List.mem_singleton] at hmem
  rcases hmem with hmem | hmem
  · exact absurd ((names_prune_sublist registry).subset (List.mem_map_of_mem hmem)) unused
  · exact congrArg Prod.snd hmem

theorem Holds.handled (h : Holds registry name s)
    (change : Handled registry fresh request registry')
    (about : request.inquiryAbout name = none) (unused : request.isCreate = true → fresh ≠ name) :
    Holds registry' name s := by
  cases change with
  | kept => exact h
  | inserted => exact h.insert (unused rfl)
  | replaced s' named notClose =>
      refine h.replace ?_
      rintro rfl
      rw [Request.isClose_of_inquiryAbout about named] at notClose
      cases notClose
  | erased other => exact h.of_subset fun entry hmem _ => List.mem_of_mem_filter hmem

/-- An inquiry is answered by the session alone, and leaves behind what the session becomes. -/
theorem handle_inquiry (fresh : String) (opened : registry.get? name = some s)
    (h : Holds registry name s)
    (about : request.inquiryAbout name = some inquiry) :
    (registry.handle fresh request).2 = (s.serve inquiry).2 ∧
      Holds (registry.handle fresh request).1 name (s.serve inquiry).1 := by
  unfold Request.inquiryAbout at about
  split at about
  · next named =>
      cases request with
      | run code => cases named
      | validate code => cases named
      | create code breakpoints => cases named
      | close name => cases about
      | state name =>
          cases named
          cases about
          simp only [handle, withSession, opened]
          exact ⟨rfl, h⟩
      | _ =>
          cases named
          cases about
          simp only [handle, withSession, opened]
          exact ⟨rfl, holds_replace _ _ _⟩
  · cases about

def inquiries (name : String) (requests : List (String × Request)) : List Inquiry :=
  requests.filterMap (·.2.inquiryAbout name)

/-- The answers to those of some requests that ask something of the session of a name. -/
def answersAbout (name : String) (registry : Registry) : List (String × Request) → List Answer
  | [] => []
  | (fresh, request) :: rest =>
      let (next, answer) := registry.handle fresh request
      if (request.inquiryAbout name).isSome then answer :: answersAbout name next rest
      else answersAbout name next rest

/-- Whether the session of a name is there whenever one of some requests asks something of it. -/
def isThere (name : String) (registry : Registry) : List (String × Request) → Bool
  | [] => true
  | (fresh, request) :: rest =>
      ((request.inquiryAbout name).isNone || (registry.get? name).isSome) &&
        isThere name (registry.handle fresh request).1 rest

theorem answersAbout_eq_replies (h : Holds registry name s) (unused : name ∉ createdNames requests)
    (there : registry.isThere name requests = true) :
    registry.answersAbout name requests = s.replies (inquiries name requests) := by
  induction requests generalizing registry s with
  | nil => rfl
  | cons entry rest ih =>
      obtain ⟨fresh, request⟩ := entry
      rw [createdNames_cons, List.mem_append, not_or] at unused
      rw [isThere, Bool.and_eq_true] at there
      rw [answersAbout, inquiries, List.filterMap_cons]
      cases about : request.inquiryAbout name with
      | none =>
          have hfresh : request.isCreate = true → fresh ≠ name := by
            rintro hcreate rfl
            simp [createdNames, hcreate] at unused
          exact ih (h.handled (Registry.handled registry fresh request) about hfresh) unused.2
            there.2
      | some inquiry =>
          rw [about] at there
          obtain ⟨s', opened⟩ := Option.isSome_iff_exists.mp there.1
          obtain rfl := h.get? opened
          obtain ⟨hanswer, hnext⟩ := handle_inquiry fresh opened h about
          simp only [Option.isSome_some, if_true, Session.replies]
          rw [hanswer, ih hnext unused.2 there.2]
          rfl

/-- The life of a session among other requests: it is created under a name that no other session
gets, and it is there whenever something is asked of it. -/
structure Life (code : String) (breakpoints : List Int) where
  name : String
  before : List (String × Request)
  after : List (String × Request)
  distinct : (createdNames (before ++ (name, .create code breakpoints) :: after)).Nodup
  there : (({} : Registry).served (before ++ [(name, .create code breakpoints)])).isThere name
    after = true

namespace Life

variable {code : String} {breakpoints : List Int}

def birth (life : Life code breakpoints) : Registry :=
  ({} : Registry).served (life.before ++ [(life.name, .create code breakpoints)])

def inquiries (life : Life code breakpoints) : List Inquiry :=
  Registry.inquiries life.name life.after

def answers (life : Life code breakpoints) : List Answer :=
  life.birth.answersAbout life.name life.after

theorem answers_eq_replies (life : Life code breakpoints) :
    life.answers =
      (Session.start defaultComment defaultLimit code (breakpoints.map (· - 1))).replies
        life.inquiries := by
  have hdistinct := life.distinct
  rw [createdNames_append, createdNames_cons, List.nodup_append] at hdistinct
  obtain ⟨-, hlater, hapart⟩ := hdistinct
  have hown : life.name ∈ createdNames [(life.name, .create code breakpoints)] := by
    simp [createdNames, Request.isCreate]
  have hbefore : life.name ∉ (({} : Registry).served life.before).names := by
    intro hmem
    have hcreated := (orderly_served life.before).inOrder.subset hmem
    exact hapart _ hcreated _ (List.mem_append_left _ hown) rfl
  have hafter : life.name ∉ createdNames life.after := by
    rw [List.nodup_append] at hlater
    exact fun hmem => hlater.2.2 _ hown _ hmem rfl
  refine answersAbout_eq_replies ?_ hafter life.there
  rw [birth, served, List.foldl_append]
  exact holds_insert hbefore _

end Life

/-- Sessions do not interfere, and each agrees with a run. Two sessions for the same code and
breakpoints that are asked the same things get the same answers, whatever else is requested before
and in between, and under whatever names they are kept. Where such an answer says that the session
is finished or failed, its output, variables and error are those of a run of the code. -/
theorem sessions_do_not_interfere (code : String) (breakpoints : List Int)
    (first second : Life code breakpoints) (same : first.inquiries = second.inquiries) :
    first.answers = second.answers ∧
    ∀ answer ∈ first.answers, ∀ snapshot, answer.snapshot? = some snapshot →
      snapshot.state = .finished ∨ snapshot.state = .error →
      snapshot.IsOutcomeOf (Machine.ofSource defaultComment defaultLimit code) := by
  rw [first.answers_eq_replies, second.answers_eq_replies, same]
  refine ⟨rfl, ?_⟩
  have hstart := Session.follows_load defaultLimit (Program.ofSource defaultComment code)
    (breakpoints.map (· - 1))
  exact hstart.replies _

theorem session_undisturbed_by_others :
    ∃ first second : Life "X = 1\nOUTPUT X" [2],
      first.after.length = 3 ∧ second.after.length = 6 ∧ first.inquiries = second.inquiries ∧
      first.answers = second.answers ∧
      ∃ answer ∈ first.answers, ∃ snapshot, answer.snapshot? = some snapshot ∧
        snapshot.state = .finished ∧
        snapshot.IsOutcomeOf (Machine.ofSource defaultComment defaultLimit "X = 1\nOUTPUT X") := by
  let first : Life "X = 1\nOUTPUT X" [2] :=
    { name := "a"
      before := []
      after := [("", .step "a" 1), ("", .resume "a"), ("", .resume "a")]
      distinct := by decide +kernel
      there := by decide +kernel }
  let second : Life "X = 1\nOUTPUT X" [2] :=
    { name := "c"
      before := [("a", .create "OUTPUT 9" []), ("b", .create "REPEAT\nUNTIL 1 == 2" [])]
      after :=
        [("", .step "b" 50), ("", .step "c" 1), ("", .close "b"), ("", .resume "c"),
          ("d", .create "WHILE 1 == 1\nENDWHILE" []), ("", .resume "c")]
      distinct := by decide +kernel
      there := by decide +kernel }
  have same : first.inquiries = second.inquiries := by decide +kernel
  obtain ⟨hsame, houtcome⟩ := sessions_do_not_interfere _ _ first second same
  refine ⟨first, second, rfl, rfl, same, hsame, ?_⟩
  have hlast : ((first.answers[2]?.bind Answer.snapshot?).map (·.state)) = some .finished := by
    decide +kernel
  obtain ⟨snapshot, hshown, hstate⟩ := Option.map_eq_some_iff.mp hlast
  obtain ⟨answer, hanswer, hsnapshot⟩ := Option.bind_eq_some_iff.mp hshown
  have hmem := List.mem_of_getElem? hanswer
  exact ⟨answer, hmem, snapshot, hsnapshot, hstate,
    houtcome answer hmem snapshot hsnapshot (.inl hstate)⟩

end Registry

end Pseudocode
