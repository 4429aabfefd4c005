import Pseudocode.Cli.Invoke
import Pseudocode.Proofs.Cli.Folder
import Pseudocode.Proofs.Cli.Options
import Pseudocode.Proofs.Settings

/-!
Settings that a command saves. They are loaded by every later command that names their file, unless
the arguments set a limit that a file may not hold: such a file stops every command, also the one
that would repair it.
-/

namespace Pseudocode.Cli

open Pseudocode.Text

def Lasts (value : Json) : Prop := value.Sound ∧ value.isExact = true

def Overrides.Last (overrides : Overrides) : Prop :=
  (∀ mark ∈ overrides.comment, Lasts mark) ∧ ∀ limit ∈ overrides.limit, Lasts limit

theorem lasts_givenSetting {α : Type} {setting : α → Json} {value : Option α}
    (h : ∀ a ∈ value, Lasts (setting a)) : Lasts (givenSetting setting value) := by
  cases value with
  | none => exact ⟨.array nofun, rfl⟩
  | some a => exact h a rfl

theorem last_withComment {overrides : Overrides} (h : overrides.Last) (mark : Option String) :
    (overrides.withComment mark).Last := by
  refine ⟨?_, h.2⟩
  rintro value ⟨⟩
  exact lasts_givenSetting fun s _ => ⟨.text s, rfl⟩

theorem last_withLimit {overrides : Overrides} (h : overrides.Last) {limit : Option Int}
    (bound : ∀ n ∈ limit, n.natAbs < 10 ^ integerDigits) : (overrides.withLimit limit).Last := by
  refine ⟨h.1, ?_⟩
  rintro value ⟨⟩
  exact lasts_givenSetting fun n hn => ⟨.integer (bound n hn), rfl⟩

theorem configGrammar_keeps :
    ∀ option ∈ configGrammar.options,
      option.action.Keeps fun flags : ConfigFlags => flags.overrides.Last := by
  intro option mem
  simp only [configGrammar, List.mem_cons, List.not_mem_nil, or_false] at mem
  rcases mem with rfl | rfl | rfl | rfl | rfl | rfl
  · trivial
  · exact fun _ h => h
  · exact fun _ h => h
  · exact fun _ h => h
  · exact fun mark _ h => last_withComment h mark
  · exact fun _ _ bound h => last_withLimit h bound

theorem parse_of_parseWith {σ : Type} {manual : Manual} {g : Grammar σ} {start : σ}
    {arguments : List String} {parsed : Parsed σ}
    (h : parseWith manual g start arguments = .ok parsed) :
    g.parse start arguments = .ok parsed := by
  unfold parseWith at h
  split at h
  · next result =>
      cases h
      exact result
  · cases h
  · cases h

theorem last_of_parseCommand {name : String} {arguments more : List String}
    {showThem save reset : Bool} {overrides : Overrides}
    (h : parseCommand name arguments = .ok (.config showThem save reset overrides, more)) :
    overrides.Last := by
  have usual : ({} : ConfigFlags).overrides.Last := ⟨nofun, nofun⟩
  unfold parseCommand at h
  split at h
  case h_3 =>
    obtain ⟨p, hp, h⟩ := bind_eq_ok_iff.mp h
    cases h
    exact Grammar.keeps_parse configGrammar_keeps (parse_of_parseWith hp) usual
  case h_6 => cases h
  all_goals
    obtain ⟨p, -, h⟩ := bind_eq_ok_iff.mp h
    cases h

theorem last_of_parse {arguments : List String} {invocation : Invocation}
    {showThem save reset : Bool} {overrides : Overrides}
    (parsed : Invocation.parse arguments = .ok invocation)
    (command : invocation.command = some (.config showThem save reset overrides)) :
    overrides.Last := by
  obtain ⟨general, -, parsed⟩ := bind_eq_ok_iff.mp parsed
  dsimp only at parsed
  split at parsed
  · obtain ⟨⟨c, more⟩, hcommand, parsed⟩ := bind_eq_ok_iff.mp parsed
    obtain ⟨_, ⟨⟩, parsed⟩ := bind_eq_ok_iff.mp parsed
    dsimp only at parsed
    split at parsed
    · cases parsed
      cases command
      exact last_of_parseCommand hcommand
    · cases parsed
  · obtain ⟨_, ⟨⟩, parsed⟩ := bind_eq_ok_iff.mp parsed
    dsimp only at parsed
    split at parsed
    · cases parsed
      cases command
    · cases parsed

def loadedNote (path : String) (settings : Settings) : String :=
  if settings.verbose.isSet then "Loaded configuration from: " ++ path ++ "\n" else ""

def badLimitReport (folder : Folder) (path : String) : Report :=
  { out := settingsComplaint path .badLimit, folder, status := .exit 1 }

theorem sound_of_loadSettings {folder : Folder} {path : String} {c : Context}
    (h : loadSettings folder path = .ok c) :
    c.folder = folder ∧ c.settings.toJson.Sound ∧ Settings.isLimit c.settings.limit = true := by
  unfold loadSettings at h
  dsimp only at h
  split at h
  · split at h
    · cases h
    · split at h
      · cases h
      · cases h
      · next value hvalue =>
          split at h
          · cases h
          · next settings hsettings =>
              cases h
              exact ⟨rfl, Settings.sound_of_ofJson (Json.sound_of_read hvalue) hsettings⟩
  · cases h
    exact ⟨rfl, Settings.sound_usual, rfl⟩

theorem loadSettings_of_write {folder after : Folder} {path : String} {settings : Settings}
    (sound : settings.toJson.Sound) (exact : settings.toJson.isExact = true)
    (h : folder.write path settings.render = .ok after) :
    loadSettings after path =
      if Settings.isLimit settings.limit then .ok ⟨after, settings, loadedNote path settings⟩
      else .error (badLimitReport after path) := by
  have plain : ∀ ch ∈ settings.render.toList, isPlain ch = true := Json.isPlain_chars sound exact 0
  have value : Json.read settings.render.toList = .ok settings.toJson :=
    Json.read_render sound exact
  obtain ⟨has, read⟩ := Folder.read_of_write plain h
  unfold loadSettings
  simp only [has, read, value, Settings.ofJson_toJson, if_true]
  by_cases isLimit : Settings.isLimit settings.limit = true
  · rw [if_pos isLimit, if_pos isLimit]
    rfl
  · rw [if_neg isLimit, if_neg isLimit]
    simp [Context.report, badLimitReport]

def Status.code? : Status → Option Nat
  | .exit code => some code
  | _ => none

theorem Status.eq_exit_of_code? {status : Status} {code : Nat} (h : status.code? = some code) :
    status = .exit code := by
  cases status with
  | exit code' =>
      cases h
      rfl
  | _ => cases h

/-- A settings file serves: its settings are those given, and every command that names the file is
carried out with them. -/
def Serves (folder : Folder) (path : String) (settings : Settings) : Prop :=
  loadSettings folder path = .ok ⟨folder, settings, loadedNote path settings⟩ ∧
    ∀ steps arguments invocation command, Invocation.parse arguments = .ok invocation →
      invocation.settingsPath = path → invocation.command = some command →
      start steps folder arguments =
        command.perform ⟨folder, invocation.apply settings, loadedNote path settings⟩ steps path

/-- A settings file blocks: every command that names the file ends with a complaint and changes
nothing. -/
def Blocks (folder : Folder) (path : String) : Prop :=
  ∀ steps typed arguments invocation, Invocation.parse arguments = .ok invocation →
    invocation.settingsPath = path → invocation.command.isSome = true →
    invoke steps folder typed arguments = badLimitReport folder path

theorem start_of_parse {arguments : List String} {invocation : Invocation} {command : Command}
    (steps : Nat) (folder : Folder) (parsed : Invocation.parse arguments = .ok invocation)
    (given : invocation.command = some command) :
    start steps folder arguments =
      match loadSettings folder invocation.settingsPath with
      | .error report => .done report
      | .ok c =>
          command.perform { c with settings := invocation.apply c.settings } steps
            invocation.settingsPath := by
  unfold start
  cases hload : loadSettings folder invocation.settingsPath with
  | error report => simp only [parsed, given, hload]
  | ok c => simp only [parsed, given, hload]

theorem serves_of_loadSettings {folder : Folder} {path : String} {settings : Settings}
    (h : loadSettings folder path = .ok ⟨folder, settings, loadedNote path settings⟩) :
    Serves folder path settings := by
  refine ⟨h, ?_⟩
  rintro steps arguments invocation command parsed rfl given
  rw [start_of_parse steps folder parsed given, h]

theorem blocks_of_loadSettings {folder : Folder} {path : String}
    (h : loadSettings folder path = .error (badLimitReport folder path)) : Blocks folder path := by
  rintro steps typed arguments invocation parsed rfl given
  obtain ⟨command, given⟩ := Option.isSome_iff_exists.mp given
  rw [invoke, start_of_parse steps folder parsed given, h]

/-- The settings that a command saves: the usual ones if it resets them, and else those of the file
with what the arguments say. -/
def Invocation.saved (invocation : Invocation) (reset : Bool) (overrides : Overrides)
    (loaded : Settings) : Settings :=
  if reset then {} else overrides.apply (invocation.apply loaded)

theorem write_of_config {c : Context} {path : String} {showThem reset : Bool}
    (saves : (c.config path showThem true reset).status = .exit 0) :
    c.folder.write path (if reset then {} else c.settings : Settings).render =
      .ok (c.config path showThem true reset).folder := by
  unfold Context.config at saves ⊢
  dsimp only at saves ⊢
  cases written : c.folder.write path (if reset then {} else c.settings : Settings).render with
  | error fault =>
      rw [written] at saves
      cases saves
  | ok after => rfl

theorem invoke_config {steps : Nat} {folder : Folder} {typed : Typed} {arguments : List String}
    {invocation : Invocation} {c : Context} {showThem save reset : Bool} {overrides : Overrides}
    (parsed : Invocation.parse arguments = .ok invocation)
    (command : invocation.command = some (.config showThem save reset overrides))
    (loaded : loadSettings folder invocation.settingsPath = .ok c) :
    invoke steps folder typed arguments =
      Context.config { c with settings := overrides.apply (invocation.apply c.settings) }
        invocation.settingsPath showThem save reset := by
  simp only [invoke, start_of_parse steps folder parsed command, loaded, Command.perform]

theorem write_of_invoke {steps : Nat} {folder : Folder} {typed : Typed} {arguments : List String}
    {invocation : Invocation} {c : Context} {showThem reset : Bool} {overrides : Overrides}
    (parsed : Invocation.parse arguments = .ok invocation)
    (command : invocation.command = some (.config showThem true reset overrides))
    (loaded : loadSettings folder invocation.settingsPath = .ok c)
    (saves : (invoke steps folder typed arguments).status = .exit 0) :
    folder.write invocation.settingsPath (invocation.saved reset overrides c.settings).render =
      .ok (invoke steps folder typed arguments).folder := by
  obtain ⟨rfl, -⟩ := sound_of_loadSettings loaded
  rw [invoke_config parsed command loaded] at saves ⊢
  exact (write_of_config saves :)

theorem Lasts.getD {given : Option Json} (h : ∀ value ∈ given, Lasts value) {otherwise : Json}
    (usual : Lasts otherwise) : Lasts (given.getD otherwise) := by
  cases given with
  | none => exact usual
  | some value => exact h value rfl

theorem lasts_toJson_iff {settings : Settings} :
    Lasts settings.toJson ↔
      Lasts settings.comment ∧ Lasts settings.limit ∧ Lasts settings.showVariables ∧
        Lasts settings.debugMode ∧ Lasts settings.verbose := by
  simp only [Lasts, Settings.sound_toJson_iff, Settings.isExact_toJson_iff]
  constructor
  · rintro ⟨⟨a, b, c, d, e⟩, a', b', c', d', e'⟩
    exact ⟨⟨a, a'⟩, ⟨b, b'⟩, ⟨c, c'⟩, ⟨d, d'⟩, e, e'⟩
  · rintro ⟨⟨a, a'⟩, ⟨b, b'⟩, ⟨c, c'⟩, ⟨d, d'⟩, e, e'⟩
    exact ⟨⟨a, b, c, d, e⟩, a', b', c', d', e'⟩

theorem lasts_saved (invocation : Invocation) {overrides : Overrides} {loaded : Settings}
    (last : overrides.Last) (h : Lasts loaded.toJson) (reset : Bool) :
    Lasts (invocation.saved reset overrides loaded).toJson := by
  unfold Invocation.saved
  split
  · exact ⟨Settings.sound_usual, rfl⟩
  · have on : Lasts (.boolean true) := ⟨.boolean true, rfl⟩
    obtain ⟨comment, limit, showVariables, debugMode, verbose⟩ := lasts_toJson_iff.mp h
    refine lasts_toJson_iff.mpr
      ⟨Lasts.getD last.1 comment, Lasts.getD last.2 limit, showVariables, ?_, ?_⟩
    · dsimp only [Overrides.apply, Invocation.apply]
      split
      · exact on
      · exact debugMode
    · dsimp only [Overrides.apply, Invocation.apply]
      split
      · exact on
      · exact verbose

theorem limit_saved (invocation : Invocation) (overrides : Overrides) (loaded : Settings) :
    (invocation.saved false overrides loaded).limit = overrides.limit.getD loaded.limit := rfl

theorem isLimit_saved (invocation : Invocation) {overrides : Overrides} {loaded : Settings}
    (h : Settings.isLimit loaded.limit = true) {reset : Bool}
    (good : reset = true ∨ ∀ limit ∈ overrides.limit, Settings.isLimit limit = true) :
    Settings.isLimit (invocation.saved reset overrides loaded).limit = true := by
  cases reset with
  | true => rfl
  | false =>
      rw [limit_saved]
      cases given : overrides.limit with
      | none => exact h
      | some limit => exact (good.resolve_left nofun) limit given

/-- Settings that a command saves are loaded by every later command that names their file, unless
the arguments set a limit that a file may not hold. Then all commands that name the file fail. -/
theorem saved_settings_load_back (steps : Nat) (folder : Folder) (typed : Typed)
    (arguments : List String) {invocation : Invocation} {c : Context} {showThem reset : Bool}
    {overrides : Overrides} (parsed : Invocation.parse arguments = .ok invocation)
    (command : invocation.command = some (.config showThem true reset overrides))
    (loaded : loadSettings folder invocation.settingsPath = .ok c)
    (exact : c.settings.toJson.isExact = true)
    (saves : (invoke steps folder typed arguments).status = .exit 0) :
    ((reset = true ∨ ∀ limit ∈ overrides.limit, Settings.isLimit limit = true) →
        Serves (invoke steps folder typed arguments).folder invocation.settingsPath
          (invocation.saved reset overrides c.settings)) ∧
      ((reset = false ∧ ∃ limit ∈ overrides.limit, Settings.isLimit limit = false) →
        Blocks (invoke steps folder typed arguments).folder invocation.settingsPath) := by
  obtain ⟨-, sound, isLimit⟩ := sound_of_loadSettings loaded
  obtain ⟨savedSound, savedExact⟩ :=
    lasts_saved invocation (last_of_parse parsed command) ⟨sound, exact⟩ reset
  have load :=
    loadSettings_of_write savedSound savedExact (write_of_invoke parsed command loaded saves)
  constructor
  · intro good
    apply serves_of_loadSettings
    rw [load, if_pos (isLimit_saved invocation isLimit good)]
  · rintro ⟨rfl, limit, given, bad⟩
    have notLimit :
        ¬Settings.isLimit (invocation.saved false overrides c.settings).limit = true := by
      simp [limit_saved, Option.mem_def.mp given, bad]
    apply blocks_of_loadSettings
    rw [load, if_neg notLimit]

/-- A mark and a limit that were saved serve the commands that follow. A limit of zero is saved as
well, and blocks them. -/
theorem saved_limit_serves_or_blocks :
    Serves
        (invoke 0 {} {} ["-c", "a.json", "-v", "config", "--comment-char", "#\t✓", "--max-repeat",
          "5000", "--save"]).folder
        "a.json" { comment := .text "#\t✓", limit := .integer 5000, verbose := .boolean true } ∧
      Blocks (invoke 0 {} {} ["config", "--max-repeat", "0", "--save"]).folder
        defaultSettingsFile := by
  constructor
  · have parsed :
        Invocation.parse ["-c", "a.json", "-v", "config", "--comment-char", "#\t✓", "--max-repeat",
          "5000", "--save"] =
        .ok ⟨some "a.json", true, false,
          some (.config false true false ⟨some (.text "#\t✓"), some (.integer 5000)⟩)⟩ := rfl
    have loaded : loadSettings {} "a.json" = .ok { folder := {}, settings := {} } := rfl
    have saves :
        (invoke 0 {} {} ["-c", "a.json", "-v", "config", "--comment-char", "#\t✓", "--max-repeat",
          "5000", "--save"]).status.code? = some 0 := by decide +kernel
    have outcome :=
      saved_settings_load_back 0 {} {} _ parsed rfl loaded rfl (Status.eq_exit_of_code? saves)
    refine outcome.1 (.inr ?_)
    rintro limit ⟨⟩
    rfl
  · have parsed :
        Invocation.parse ["config", "--max-repeat", "0", "--save"] =
        .ok ⟨none, false, false, some (.config false true false ⟨none, some (.integer 0)⟩)⟩ := rfl
    have loaded : loadSettings {} defaultSettingsFile = .ok { folder := {}, settings := {} } := rfl
    have saves :
        (invoke 0 {} {} ["config", "--max-repeat", "0", "--save"]).status.code? = some 0 := by
      decide +kernel
    have outcome :=
      saved_settings_load_back 0 {} {} _ parsed rfl loaded rfl (Status.eq_exit_of_code? saves)
    exact outcome.2 ⟨rfl, .integer 0, rfl, rfl⟩

/-- Saving a limit of zero succeeds, and then the command that would set another limit fails, as
does the one that would reset the settings. -/
theorem zero_limit_locks_settings :
    (invoke 0 {} {} ["config", "--max-repeat", "0", "--save"]).status.code? = some 0 ∧
      (invoke 0 (invoke 0 {} {} ["config", "--max-repeat", "0", "--save"]).folder {}
        ["config", "--max-repeat", "5", "--save"]).status.code? = some 1 ∧
      (invoke 0 (invoke 0 {} {} ["config", "--max-repeat", "0", "--save"]).folder {}
        ["config", "--reset", "--save"]).status.code? = some 1 := by
  decide +kernel

end Pseudocode.Cli
