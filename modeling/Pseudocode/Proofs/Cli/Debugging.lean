import Pseudocode.Cli.Context
import Pseudocode.Proofs.Cli.Folder
import Pseudocode.Proofs.Machine.Growth
import Pseudocode.Proofs.Machine.Safety
import Pseudocode.Proofs.Session.Batch

namespace Pseudocode

namespace Machine

theorem RunsTo.output_prefix {start : Machine} {report : Report} (h : start.RunsTo report)
    (n : Nat) : (start.runFor n).1.output.toList <+: report.output.toList := by
  obtain ⟨steps, m, ending, hrun, hended, rfl⟩ := h
  have hmore := runFor_add (show (start.runFor steps).2 ≠ .unfinished by rwa [hrun]) n
  have hgrows := (grows_runFor_add start n steps).output
  rw [Nat.add_comm, hmore, hrun] at hgrows
  cases ending with
  | done => exact hgrows
  | failed trouble => exact hgrows
  | unfinished => exact hgrows

end Machine

namespace Session

variable {start : Machine} {k : Nat} {s : Session}

theorem output_step (s : Session) :
    s.step.machine.output.toList = s.machine.output.toList ++ s.told := by
  unfold step told
  split
  · exact (List.append_nil _).symm
  · cases s.pausesAt with
    | some line => exact (List.append_nil _).symm
    | none =>
        rw [← Machine.output_step]
        change s.execute.machine.output.toList = _
        rw [execute]
        cases s.machine.step with
        | next m => rfl
        | failed trouble m => rfl

theorem Follows.runFor_fst (h : Follows start k s) : (start.runFor k).1 = s.machine := by
  cases h with
  | running leads =>
      have hrun := leads.runOn_add (n := 0)
      exact congrArg Prod.fst hrun
  | finished leads =>
      have hrun := leads.runOn_add (n := 0)
      exact congrArg Prod.fst hrun
  | failed leads =>
      have hrun := leads.runOn_add (n := 0)
      exact congrArg Prod.fst hrun

def messages (s : Session) : List String := (s.fault.map Fault.message).toList

theorem Follows.messages_eq_nil (h : Follows start k s) (unfailed : s.state ≠ .error) :
    s.messages = [] := by
  rw [messages, h.fault_eq_none unfailed]
  rfl

theorem Follows.currentLine_lt {limit : RepeatLimit} {program : Program} {line : Nat}
    (h : Follows (Machine.load limit program) k s) (unfailed : s.state ≠ .error)
    (current : s.machine.currentLine = some line) : line < program.length := by
  unfold Machine.currentLine at current
  cases h with
  | failed _ state => exact absurd state unfailed
  | finished _ done => simp [done] at current
  | running leads unfinished settled =>
      have hsound := (Machine.reached_of_leads leads).sound (Machine.Sound.load limit program)
      simp only [unfinished, Bool.false_eq_true, if_false, Option.some.injEq] at current
      subst current
      rcases settled with hfinished | hkind
      · rw [unfinished] at hfinished
        cases hfinished
      · obtain ⟨kind, hkind⟩ := Option.isSome_iff_exists.mp hkind
        rw [hsound.program_eq] at hkind
        exact Program.lt_length_of_kindAt hkind

namespace Noted

variable {P : Noted → Prop} {n : Noted}

theorem stepTimes_keeps (kept : ∀ n, P n → P n.step) (h : P n) (count : Nat) :
    P (n.stepTimes count) := by
  induction count generalizing n with
  | zero => exact h
  | succ count ih =>
      rw [stepTimes]
      split
      · exact ih (kept _ h)
      · exact kept _ h

theorem stepWhileReady_keeps (kept : ∀ n, P n → P n.step) (h : P n) (steps : Nat) :
    P (n.stepWhileReady steps) := by
  induction steps generalizing n with
  | zero => exact h
  | succ steps ih =>
      rw [Noted.stepWhileReady]
      split
      · exact ih (kept _ h)
      · exact h

theorem resume_keeps (kept : ∀ n, P n → P n.step) (h : P n) (steps : Nat) :
    P (n.resume steps) := by
  unfold Noted.resume
  split
  · exact stepWhileReady_keeps kept (kept _ h) steps
  · exact stepWhileReady_keeps kept h steps

end Noted

/-- A session stands on a run, and the listener has heard what was written since another session of
that run. -/
structure Continues (start : Machine) (before : Session) (n : Noted) : Prop where
  follows : ∃ k, Follows start k n.session
  heard : before.machine.output.toList ++ n.heard.toList = n.session.machine.output.toList

theorem Continues.step {before : Session} {n : Noted} (h : Continues start before n) :
    Continues start before n.step := by
  obtain ⟨k, hfollows⟩ := h.follows
  refine ⟨⟨_, hfollows.step⟩, ?_⟩
  change before.machine.output.toList ++ (n.heard ++ n.session.told).toList =
    n.session.step.machine.output.toList
  rw [Array.toList_appendList, ← List.append_assoc, h.heard, output_step]

end Session

namespace Cli

namespace Utterance

def written? : Utterance → Option String
  | written text => some text
  | _ => none

def failure? : Utterance → Option String
  | failure message => some message
  | _ => none

def texts (said : List Utterance) : List String := said.filterMap written?

def failures (said : List Utterance) : List String := said.filterMap failure?

@[simp] theorem texts_append (said more : List Utterance) :
    texts (said ++ more) = texts said ++ texts more := List.filterMap_append

@[simp] theorem failures_append (said more : List Utterance) :
    failures (said ++ more) = failures said ++ failures more := List.filterMap_append

@[simp] theorem texts_map_written (lines : List String) : texts (lines.map written) = lines := by
  rw [texts, List.filterMap_map]
  exact List.filterMap_some

@[simp] theorem failures_map_written (lines : List String) :
    failures (lines.map written) = [] := by
  rw [failures, List.filterMap_map]
  exact List.filterMap_none _

def Quiet (said : List Utterance) : Prop := texts said = [] ∧ failures said = []

theorem quiet_map_remark {α : Type} (text : α → String) (items : List α) :
    Quiet (items.map fun item => remark (text item)) := by
  constructor
  · rw [texts, List.filterMap_map]
    exact List.filterMap_none _
  · rw [failures, List.filterMap_map]
    exact List.filterMap_none _

end Utterance

open Utterance

namespace Debugger

variable {limit : RepeatLimit} {program : Program} {d next last : Debugger}
  {said more : List Utterance}

/-- What was printed while a debugger went on accounts for the lines that the program wrote
meanwhile and for the fault that it met. -/
structure Tells (d next : Debugger) (said : List Utterance) : Prop where
  output : d.session.machine.output.toList ++ texts said = next.session.machine.output.toList
  messages : d.session.messages ++ failures said = next.session.messages

theorem Tells.trans (h : Tells d next said) (h' : Tells next last more) :
    Tells d last (said ++ more) := by
  constructor
  · rw [texts_append, ← List.append_assoc, h.output, h'.output]
  · rw [failures_append, ← List.append_assoc, h.messages, h'.messages]

theorem tells_of_quiet (quiet : Quiet said) (machine : next.session.machine = d.session.machine)
    (fault : next.session.fault = d.session.fault) : Tells d next said := by
  constructor
  · rw [quiet.1, List.append_nil, machine]
  · rw [quiet.2, List.append_nil, Session.messages, Session.messages, fault]

theorem Tells.refl (d : Debugger) : Tells d d [] := tells_of_quiet ⟨rfl, rfl⟩ rfl rfl

theorem tells_remark (d : Debugger) (text : String) : Tells d d [.remark text] :=
  tells_of_quiet ⟨rfl, rfl⟩ rfl rfl

/-- What holds of a debugger throughout a conversation: its session is on the way of a run, all that
was heard is printed, all lines of the program can be shown, and it does not ask on after a
fault. -/
structure Intact (limit : RepeatLimit) (program : Program) (d : Debugger) : Prop where
  follows : ∃ k, Session.Follows (Machine.load limit program) k d.session
  printed : d.noted.heard = #[]
  unbroken : d.broken = false
  shown : program.length ≤ d.source.length
  stops : d.running = true → d.session.state ≠ .error

theorem report_of_follows {start : Machine} {k : Nat} {s : Session}
    (h : Session.Follows start k s) :
    ∃ reported, report s = some reported ∧ texts reported = [] ∧
      failures reported = s.messages := by
  unfold report Session.messages
  cases h with
  | running _ unfinished _ state noFault =>
      rcases state with hstate | hstate
      · rw [hstate, noFault]
        exact ⟨_, rfl, rfl, rfl⟩
      · have hline : s.machine.currentLine = some s.machine.cursor := by
          rw [Machine.currentLine, unfinished]
          rfl
        rw [hstate, hline, noFault]
        exact ⟨_, rfl, rfl, rfl⟩
  | finished _ _ state noFault =>
      rw [state, noFault]
      exact ⟨_, rfl, rfl, rfl⟩
  | failed _ state fault_eq =>
      rw [state, fault_eq]
      exact ⟨_, rfl, rfl, rfl⟩

theorem Intact.wentOn (h : d.Intact limit program) (running : d.running = true)
    {noted : Session.Noted}
    (onward : Session.Continues (Machine.load limit program) d.session noted) :
    (d.wentOn noted).1.Intact limit program ∧ Tells d (d.wentOn noted).1 (d.wentOn noted).2 := by
  obtain ⟨k, hfollows⟩ := onward.follows
  obtain ⟨k₀, hbefore⟩ := h.follows
  obtain ⟨reported, hreport, htexts, hfailures⟩ := report_of_follows hfollows
  have hquiet := hbefore.messages_eq_nil (h.stops running)
  simp only [Debugger.wentOn, hreport]
  refine ⟨⟨⟨k, hfollows⟩, rfl, h.unbroken, h.shown, ?_⟩, ?_, ?_⟩
  · intro hrunning hstate
    have hdone : noted.session.isDone = true := Session.isDone_iff.mpr (.inr hstate)
    simp [hdone] at hrunning
  · rw [texts_append, texts_map_written, htexts, List.append_nil]
    exact onward.heard
  · rw [failures_append, failures_map_written, hfailures, hquiet]
    rfl

theorem Intact.showLocation (h : d.Intact limit program) (running : d.running = true) :
    ∃ text, d.showLocation = (d, [.remark text]) := by
  obtain ⟨k, hfollows⟩ := h.follows
  unfold Debugger.showLocation
  cases hline : d.session.machine.currentLine with
  | none => exact ⟨_, rfl⟩
  | some line =>
      have hlt : line < d.source.length :=
        Nat.lt_of_lt_of_le (hfollows.currentLine_lt (h.stops running) hline) h.shown
      simp only [List.getElem?_eq_getElem hlt]
      exact ⟨_, rfl⟩

theorem Intact.withNoted (h : d.Intact limit program) {noted : Session.Noted}
    (session : ∃ breakpoints, noted.session = { d.session with breakpoints })
    (heard : noted.heard = d.noted.heard) : Intact limit program { d with noted } := by
  obtain ⟨breakpoints, hsession⟩ := session
  obtain ⟨k, hfollows⟩ := h.follows
  refine ⟨⟨k, ?_⟩, heard.trans h.printed, h.unbroken, h.shown, ?_⟩
  · change Session.Follows _ k noted.session
    rw [hsession]
    exact hfollows.withBreakpoints breakpoints
  · intro running
    change noted.session.state ≠ .error
    rw [hsession]
    exact h.stops running

/-- One command: only those that make the session go on show lines of the program or a fault. -/
theorem Intact.perform (h : d.Intact limit program) (running : d.running = true) (steps : Nat)
    (command : DebugCommand) :
    (d.perform steps command).1.Intact limit program ∧
      Tells d (d.perform steps command).1 (d.perform steps command).2 := by
  have hstart : Session.Continues (Machine.load limit program) d.session d.noted := by
    refine ⟨h.follows, ?_⟩
    rw [h.printed]
    exact List.append_nil _
  have hstep : ∀ n, Session.Continues (Machine.load limit program) d.session n →
      Session.Continues (Machine.load limit program) d.session n.step := fun _ h => h.step
  cases command with
  | step count => exact h.wentOn running (Session.Noted.stepTimes_keeps hstep hstart _)
  | resume => exact h.wentOn running (Session.Noted.resume_keeps hstep hstart _)
  | help => exact ⟨h, tells_of_quiet (quiet_map_remark id _) rfl rfl⟩
  | showVariables =>
      rw [Debugger.perform]
      split
      · exact ⟨h, d.tells_remark _⟩
      · exact ⟨h, tells_of_quiet (quiet_map_remark _ _) rfl rfl⟩
  | showOutput => exact ⟨h, tells_of_quiet (quiet_map_remark id _) rfl rfl⟩
  | location =>
      obtain ⟨text, htext⟩ := h.showLocation running
      rw [Debugger.perform, htext]
      exact ⟨h, d.tells_remark text⟩
  | setBreakpoint line =>
      exact ⟨h.withNoted ⟨_, rfl⟩ rfl, tells_of_quiet ⟨rfl, rfl⟩ rfl rfl⟩
  | clearBreakpoint line =>
      exact ⟨h.withNoted ⟨_, rfl⟩ rfl, tells_of_quiet ⟨rfl, rfl⟩ rfl rfl⟩
  | quit =>
      refine ⟨⟨h.follows, h.printed, h.unbroken, h.shown, ?_⟩, tells_of_quiet ⟨rfl, rfl⟩ rfl rfl⟩
      intro hrunning
      cases hrunning
  | badCount => exact ⟨h, d.tells_remark _⟩
  | lineMissing usage => exact ⟨h, d.tells_remark _⟩
  | badLine => exact ⟨h, d.tells_remark _⟩
  | unknown word => exact ⟨h, d.tells_remark _⟩

theorem Intact.respond (h : d.Intact limit program) (running : d.running = true) (steps : Nat)
    (line : String) :
    (d.respond steps line).1.Intact limit program ∧
      Tells d (d.respond steps line).1 (d.respond steps line).2 := by
  unfold Debugger.respond
  split
  · exact ⟨h, .refl d⟩
  · exact h.perform running steps _

theorem Intact.converse (h : d.Intact limit program) (steps : Nat) (interrupted : Bool)
    (lines : List String) :
    (d.converse steps interrupted lines).1.Intact limit program ∧
      Tells d (d.converse steps interrupted lines).1 (d.converse steps interrupted lines).2 := by
  induction lines generalizing d with
  | nil =>
      rw [Debugger.converse]
      split
      · exact ⟨h, tells_of_quiet ⟨rfl, rfl⟩ rfl rfl⟩
      · exact ⟨h, .refl d⟩
  | cons line rest ih =>
      rw [Debugger.converse]
      split
      · next running =>
          obtain ⟨hnext, htells⟩ := h.respond running steps line
          obtain ⟨hlast, hmore⟩ := ih hnext
          have hprompt : Tells d d [.prompt d.prompt] := tells_of_quiet ⟨rfl, rfl⟩ rfl rfl
          exact ⟨hlast, hprompt.trans (htells.trans hmore)⟩
      · exact ⟨h, .refl d⟩

end Debugger

namespace Context

variable {c : Context} {path : String} {cs : List Char} {mark : String} {limit : RepeatLimit}

def debuggerFor (mark : String) (limit : RepeatLimit) (cs : List Char) (breakpoints : List Int) :
    Debugger :=
  let source := String.ofList cs
  { noted :=
      { session := Session.start mark limit source (breakpoints.map (· - 1))
        notes := (Machine.loadNotes source (Program.ofSource mark source)).toArray }
    source := (Text.lines cs).map String.ofList }

theorem mapM_id_map_some {α : Type} (items : List α) : (items.map some).mapM id = some items := by
  induction items with
  | nil => rfl
  | cons item rest ih => simp [ih]

theorem debug_eq (readable : c.readProgram path = .ok cs)
    (marked : c.settings.commentMark? = some mark)
    (limited : c.settings.repeatLimit? = some limit) (breakpoints : List Int) :
    c.debug path (breakpoints.map some) =
      .conversation { c with printed := c.printed ++ Text.unlines Debugger.greeting }
        (debuggerFor mark limit cs breakpoints) := by
  unfold debug program? runLimit
  rw [readable, mapM_id_map_some, marked, limited]
  rfl

theorem intact_debuggerFor (mark : String) (limit : RepeatLimit) (cs : List Char)
    (breakpoints : List Int) :
    (debuggerFor mark limit cs breakpoints).Intact limit
      (Program.ofSource mark (String.ofList cs)) := by
  have hstart := Session.follows_load limit (Program.ofSource mark (String.ofList cs))
    (breakpoints.map (· - 1))
  refine ⟨⟨0, hstart⟩, rfl, rfl, ?_, fun _ => ?_⟩
  · simp [debuggerFor, Program.ofSource, Program.length_ofLines, Line.ofSource]
  · change (if _ then SessionState.finished else .ready) ≠ .error
    split <;> simp

theorem tells_debuggerFor {breakpoints : List Int} {last : Debugger} {said : List Utterance}
    (tells : Debugger.Tells (debuggerFor mark limit cs breakpoints) last said) :
    texts said = last.session.machine.output.toList ∧ failures said = last.session.messages := by
  have hempty : (debuggerFor mark limit cs breakpoints).session.machine.output = #[] :=
    (Machine.advance_keeps _).2.1
  have houtput := tells.output
  rw [hempty] at houtput
  exact ⟨houtput, tells.messages⟩

/-- A conversation with the debugger is faithful to a run with the same settings. Whatever is typed
in, the debugger never comes to show what is not there, it shows what the program has written after
some number of statements, and it ends with the code one exactly if the session has failed. Then
the run fails too, with the message that was shown. If the session is finished, then the run
succeeds and all of its output was shown. -/
theorem debugging_is_faithful (c : Context) (path : String) (cs : List Char) (mark : String)
    (limit : RepeatLimit) (breakpoints : List Int) (readable : c.readProgram path = .ok cs)
    (marked : c.settings.commentMark? = some mark)
    (limited : c.settings.repeatLimit? = some limit) :
    ∃ c' d, c.debug path (breakpoints.map some) = .conversation c' d ∧
      ∀ (steps : Nat) (interrupted : Bool) (lines : List String),
      let last := (d.converse steps interrupted lines).1
      let said := (d.converse steps interrupted lines).2
      let start := Machine.ofSource mark limit (String.ofList cs)
      debugStatus last = .exit (if last.session.state = .error then 1 else 0) ∧
      (∃ n, texts said = (start.runFor n).1.output.toList) ∧
      (∀ report, start.RunsTo report → texts said <+: report.output.toList) ∧
      (last.session.state = .error → ∃ report fault, start.RunsTo report ∧
        report.trouble = some (.fault fault) ∧ failures said = [fault.message]) ∧
      (last.session.state ≠ .error → failures said = []) ∧
      (last.session.state = .finished → ∃ report, start.RunsTo report ∧
        report.trouble = none ∧ report.output.toList = texts said) := by
  refine ⟨_, _, debug_eq readable marked limited breakpoints, fun steps interrupted lines => ?_⟩
  have hintact := intact_debuggerFor mark limit cs breakpoints
  obtain ⟨hlast, htells⟩ := hintact.converse steps interrupted lines
  intro last said start
  obtain ⟨k, hfollows⟩ := hlast.follows
  obtain ⟨htexts, hfailures⟩ := tells_debuggerFor htells
  have hrun := hfollows.runFor_fst
  rw [htexts, hfailures]
  refine ⟨if_neg (by rw [hlast.unbroken]; simp), ⟨k, by rw [← hrun]; rfl⟩, ?_, ?_, ?_, ?_⟩
  · intro report hreport
    rw [← hrun]
    exact hreport.output_prefix k
  · intro failed
    have hdone := hfollows.runsTo (Session.isDone_iff.mpr (.inr failed))
    obtain ⟨fault, hfault⟩ := hfollows.exists_fault failed
    refine ⟨_, fault, hdone, ?_, ?_⟩
    · rw [Session.report, hfault]
      rfl
    · rw [Session.messages, hfault]
      rfl
  · exact hfollows.messages_eq_nil
  · intro finished
    have hdone := hfollows.runsTo (Session.isDone_iff.mpr (.inl finished))
    refine ⟨_, hdone, ?_, rfl⟩
    rw [Session.report, hfollows.fault_eq_none (by rw [finished]; simp)]
    rfl

theorem debugging_is_faithful_to_failure :
    let source := "OUTPUT 1\nOUTPUT 2\nENDIF"
    let c : Context :=
      { folder := ({} : Folder).put ["p"] source.toUTF8.data.toList, settings := {} }
    ∃ c' d, c.debug "p" [some 2] = .conversation c' d ∧
      let last := (d.converse 10 false ["where", "c", "w", "clear 2", "break -7", "c"]).1
      let said := (d.converse 10 false ["where", "c", "w", "clear 2", "break -7", "c"]).2
      debugStatus last = .exit 1 ∧ texts said = ["1", "2"] ∧
      ∃ report fault, (Machine.ofSource "//" defaultLimit source).RunsTo report ∧
        report.trouble = some (.fault fault) ∧ failures said = [fault.message] := by
  intro source c
  have written : ({} : Folder).write "p" source = .ok c.folder := rfl
  have plain : source.toList.all Text.isPlain = true := by decide +kernel
  obtain ⟨hthere, hread⟩ := Folder.read_of_write (List.all_eq_true.mp plain) written
  have readable : c.readProgram "p" = .ok source.toList := by
    rw [readProgram, if_pos hthere, hread]
  obtain ⟨c', d, hdebug, hfaithful⟩ :=
    debugging_is_faithful c "p" source.toList "//" defaultLimit [2] readable rfl rfl
  obtain ⟨-, rfl⟩ := Course.conversation.inj ((debug_eq readable rfl rfl [2]).symm.trans hdebug)
  refine ⟨c', _, hdebug, ?_⟩
  intro last said
  have hcomputed : last.session.state = .error ∧ texts said = ["1", "2"] := by decide +kernel
  obtain ⟨hstatus, -, -, hfailed, -⟩ :=
    hfaithful 10 false ["where", "c", "w", "clear 2", "break -7", "c"]
  rw [String.ofList_toList] at hfailed
  refine ⟨?_, hcomputed.2, hfailed hcomputed.1⟩
  rw [hstatus, if_pos hcomputed.1]

end Context

end Cli

end Pseudocode
