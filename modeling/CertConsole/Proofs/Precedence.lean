import CertConsole.Proofs.Validation

/-!
# Where the settings of an upload come from

Ten settings reach an upload, and each goes its own way there: the first place that sets it wins,
and what no place sets has its standard value. `Setting` names them, so that a law about all of them
is one statement. Laying one configuration over another is a choice per setting (`given_overlay`),
a file that cannot be used sets nothing (`given_loadLayer`), and `settings_precedence` puts the two
together.
-/
namespace CertConsole

/-- A setting of an upload. -/
inductive Setting where
  /-- The speed of the line. -/
  | baud
  /-- The time that one console line is waited for. -/
  | timeout
  /-- The wait before input that the console printed on its own is discarded. -/
  | settleDelay
  /-- The wait after the begin marker. -/
  | beginWait
  /-- The wait after each certificate line. -/
  | lineDelay
  /-- The wait after the end marker. -/
  | endWait
  /-- The wait after the status query. -/
  | statusWait
  /-- The lines that may be read for the answer to the begin marker. -/
  | beginAttempts
  /-- The lines that may be read for the save confirmation. -/
  | endAttempts
  /-- The lines that may be read for the status. -/
  | statusAttempts
  deriving DecidableEq, Repr

namespace Setting

/-- What a configuration gives for a setting, if it sets it. -/
def given (config : Configuration) : Setting → Option Nat
  | baud => config.serial.baud
  | timeout => config.serial.timeout
  | settleDelay => config.upload.settleDelay
  | beginWait => config.upload.beginWait
  | lineDelay => config.upload.lineDelay
  | endWait => config.upload.endWait
  | statusWait => config.upload.statusWait
  | beginAttempts => config.upload.beginAttempts
  | endAttempts => config.upload.endAttempts
  | statusAttempts => config.upload.statusAttempts

/-- What an upload has for a setting. -/
def used (serial : SerialSettings) (plan : UploadPlan) : Setting → Nat
  | baud => serial.baud
  | timeout => serial.timeout
  | settleDelay => plan.settleDelay
  | beginWait => plan.beginWait
  | lineDelay => plan.lineDelay
  | endWait => plan.endWait
  | statusWait => plan.statusWait
  | beginAttempts => plan.beginAttempts
  | endAttempts => plan.endAttempts
  | statusAttempts => plan.statusAttempts

/-- The value of a setting that is set nowhere. Times are in milliseconds. -/
def standard : Setting → Nat
  | baud => 115200
  | timeout => 2000
  | settleDelay => 500
  | beginWait => 2000
  | lineDelay => 100
  | endWait => 1000
  | statusWait => 1000
  | beginAttempts => 100
  | endAttempts => 20
  | statusAttempts => 20

/-- The settings that an upload cannot have zero for. -/
def positive : List Setting := [beginAttempts, endAttempts, statusAttempts, baud, timeout]

/-- A speed given outside of the files sets the speed and nothing else. -/
def outside (speed : Option Nat) : Setting → Option Nat
  | baud => speed
  | _ => none

/-- An empty configuration sets nothing. -/
theorem given_empty (setting : Setting) : setting.given {} = none := by
  cases setting <;> rfl

/-- One configuration over another gives what it sets, and else what the other one sets. -/
theorem given_overlay (upper lower : Configuration) (setting : Setting) :
    setting.given (upper.overlay lower) = (setting.given upper).or (setting.given lower) := by
  cases setting <;> rfl

/-- An upload has what was set outside of the files, else what the configuration sets, else the
standard value. -/
theorem used_eq (config : Configuration) (port : String) (speed : Option Nat)
    (setting : Setting) :
    setting.used (config.serialSettings port speed) config.plan =
      ((setting.outside speed).or (setting.given config)).getD setting.standard := by
  cases setting <;> rfl

/-- What is judged of an upload is what it has for the settings that cannot be zero. -/
theorem noneZero_iff (serial : SerialSettings) (plan : UploadPlan) :
    NoneZero (plan.judged ++ serial.judged) ↔
      ∀ setting ∈ positive, setting.used serial plan ≠ 0 := by
  have listed : (plan.judged ++ serial.judged).map (·.1) =
      positive.map (used serial plan) := rfl
  constructor
  · intro set setting inside zero
    have value : setting.used serial plan ∈ (plan.judged ++ serial.judged).map (·.1) := by
      rw [listed]
      exact List.mem_map_of_mem inside
    obtain ⟨judged, member, same⟩ := List.mem_map.mp value
    exact set judged member (same.trans zero)
  · intro set judged inside zero
    have value : judged.1 ∈ positive.map (used serial plan) := by
      rw [← listed]
      exact List.mem_map_of_mem inside
    obtain ⟨setting, member, same⟩ := List.mem_map.mp value
    exact set setting member (same.trans zero)

/-- What a file gives for a setting: nothing where it cannot be read, where it holds no
configuration, and where its configuration does not set it. -/
def inFile (files : Files) (path : String) (setting : Setting) : Option Nat :=
  ((files.read path).toOption.bind Configuration.ofText?).bind setting.given

/-- What the global file gives for a setting. -/
def inGlobalFile (environment : Environment) (files : Files) (setting : Setting) : Option Nat :=
  (Configuration.globalPath? environment).bind fun path => setting.inFile files path

end Setting

namespace Configuration

variable (files : Files) (environment : Environment)

/-- A file is loaded where it can be read and holds a configuration. -/
theorem load_eq (path : String) :
    (load files path).1 = (files.read path).toOption.bind ofText? := by
  unfold load Files.hasEntry
  rcases files.read path with cause | text
  · cases present : ! cause.isAbsence <;> simp [present, Except.toOption]
  · cases parsed : ofText? text <;> simp [parsed, Except.toOption]

/-- A file gives for a setting what is loaded of it. -/
theorem inFile_eq (path : String) (setting : Setting) :
    setting.inFile files path = (load files path).1.bind setting.given := by
  rw [Setting.inFile, load_eq]

/-- A file that need not be there sets what it gives, and else nothing. -/
theorem given_loadLayer (path : String) (loaded : Event) (setting : Setting) :
    setting.given (loadLayer files path loaded).1 = setting.inFile files path := by
  rw [inFile_eq, loadLayer]
  rcases load files path with ⟨_ | config, events⟩
  · exact setting.given_empty
  · rfl

/-- So does a file that the user names. -/
theorem given_loadNamed (path : String) (setting : Setting) :
    setting.given (loadNamed files path).1 = setting.inFile files path := by
  rw [inFile_eq, loadNamed]
  rcases load files path with ⟨_ | config, events⟩
  · exact setting.given_empty
  · rfl

/-- Of the standard files the local one goes first. -/
theorem given_loadStandard (setting : Setting) :
    setting.given (loadStandard environment files).1 =
      (setting.inFile files localPath).or (setting.inGlobalFile environment files) := by
  have upper := given_loadLayer files localPath (.localConfigLoaded localPath) setting
  unfold loadStandard Setting.inGlobalFile
  rcases globalPath? environment with _ | path
  · have lower := setting.given_empty
    rw [Setting.given_overlay, upper, lower]
    rfl
  · have lower := given_loadLayer files path (.globalConfigLoaded path) setting
    rw [Setting.given_overlay, upper, lower]
    rfl

end Configuration

namespace ArgumentState

/-- The speed that arguments come to with one that the environment holds. -/
def speed (state : ArgumentState) (held : Option String) : Except ArgumentStop (Option Nat) :=
  match state.baud, held with
  | some baud, _ => .ok (some baud)
  | none, some text => some <$> takeBaud text
  | none, none => .ok none

/-- The speed of the arguments goes first, and else that of the environment counts, which is one. -/
theorem speed_ok {state : ArgumentState} {held : Option String} {baud : Option Nat}
    (found : state.speed held = .ok baud) :
    baud = state.baud.or (held.bind fun text => (BaudRate.parse text).toOption) := by
  unfold speed at found
  cases own : state.baud with
  | some given =>
    simp only [own] at found
    cases found
    rfl
  | none =>
    cases held with
    | none =>
      simp only [own] at found
      cases found
      rfl
    | some text =>
      simp only [own, takeBaud] at found
      simp only [Option.none_or, Option.bind_some]
      cases parsed : BaudRate.parse text <;> rw [parsed] at found <;> cases found
      rfl

/-- What was asked for is put together once the speed is found. -/
theorem finish_eq (state : ArgumentState) (held : Option String) :
    state.finish held = state.speed held >>= fun baud =>
      match state.port, state.certificate with
      | some port, some certificate =>
        .ok { port, certificate, baud, config := state.config, output := state.output }
      | _, _ => .error .incomplete := by
  unfold finish speed
  rcases state.baud with _ | baud <;> rcases held with _ | text <;> rfl

/-- Without a speed in the environment what was read comes to the same but for the speed. -/
theorem finish_environment {state : ArgumentState} {held : Option String}
    {arguments : Arguments} (finished : state.finish held = .ok arguments) :
    ∃ flagged, state.finish none = .ok flagged ∧
      arguments = { flagged with
        baud := flagged.baud.or (held.bind fun text => (BaudRate.parse text).toOption) } := by
  have alone : state.speed none = .ok state.baud := by
    unfold speed
    rcases state.baud with _ | baud <;> rfl
  rw [finish_eq] at finished
  rw [finish_eq, alone]
  cases found : state.speed held with
  | error stop =>
    rw [found] at finished
    cases finished
  | ok baud =>
    rw [found] at finished
    obtain ⟨port, certificate, named, loaded⟩ : ∃ port certificate,
        state.port = some port ∧ state.certificate = some certificate := by
      cases named : state.port <;> cases loaded : state.certificate <;>
        simp only [named, loaded] at finished <;> cases finished
      exact ⟨_, _, rfl, rfl⟩
    simp only [named, loaded] at finished ⊢
    cases finished
    refine ⟨_, rfl, ?_⟩
    simp only [speed_ok found]

end ArgumentState

namespace Arguments

/-- Arguments are read to the last one, and then put together with what the environment holds. -/
theorem parse_eq (words : List String) (held : Option String) :
    Arguments.parse words held =
      (words.foldlM ArgumentState.read {} >>= ArgumentState.settle) >>= fun state =>
        state.finish held := by
  unfold Arguments.parse
  rw [bind_assoc]

/-- Arguments that are accepted with a speed in the environment are accepted without it, and say the
same but for the speed. -/
theorem parse_environment {words : List String} {held : Option String} {arguments : Arguments}
    (accepted : Arguments.parse words held = .ok arguments) :
    ∃ flagged, Arguments.parse words none = .ok flagged ∧
      arguments = { flagged with
        baud := flagged.baud.or (held.bind fun text => (BaudRate.parse text).toOption) } := by
  rw [parse_eq] at accepted
  rw [parse_eq]
  cases read : words.foldlM ArgumentState.read {} >>= ArgumentState.settle with
  | error stop =>
    rw [read] at accepted
    cases accepted
  | ok state =>
    rw [read] at accepted
    exact ArgumentState.finish_environment accepted

variable (arguments : Arguments) (environment : Environment) (files : Files)

/-- What the files give for a setting: the file that the user names, or else the local file and
behind it the global one. -/
theorem given_configuration (setting : Setting) :
    setting.given (arguments.configuration environment files).1 =
      match arguments.config with
      | some path => setting.inFile files path
      | none => (setting.inFile files Configuration.localPath).or
          (setting.inGlobalFile environment files) := by
  unfold configuration Configuration.gather
  rcases arguments.config with _ | path
  · exact Configuration.given_loadStandard files environment setting
  · exact Configuration.given_loadNamed files path setting

/-- What an upload has for a setting. -/
theorem used_settings (setting : Setting) :
    setting.used (arguments.serialSettings environment files) (arguments.plan environment files) =
      ((setting.outside arguments.baud).or
        (setting.given (arguments.configuration environment files).1)).getD setting.standard :=
  setting.used_eq _ arguments.port arguments.baud

/-- A job that is prepared has the settings that the arguments and the files come to. -/
theorem prepared_settings {job : UploadJob}
    (ready : arguments.prepared environment files = .ok job) :
    job.serial = arguments.serialSettings environment files ∧
      job.plan = arguments.plan environment files := by
  rcases arguments.prepared_cases environment files with
    ⟨cause, -, refused⟩ | ⟨-, cause, -, unread⟩ | ⟨-, text, -, done⟩
  · rw [refused] at ready
    cases ready
  · rw [unread] at ready
    cases ready
  · rw [done] at ready
    cases ready
    exact ⟨rfl, rfl⟩

/-- The configuration is refused exactly where a setting that cannot be zero is. -/
theorem prepared_refused_iff :
    (∃ cause, arguments.prepared environment files = .error (.configuration cause)) ↔
      ∃ setting ∈ Setting.positive, setting.used (arguments.serialSettings environment files)
        (arguments.plan environment files) = 0 := by
  have someZero : ¬ NoneZero (arguments.judged environment files) ↔
      ∃ setting ∈ Setting.positive, setting.used (arguments.serialSettings environment files)
        (arguments.plan environment files) = 0 := by
    unfold judged
    rw [Setting.noneZero_iff]
    simp only [ne_eq, Classical.not_forall, Decidable.not_not, exists_prop]
  rw [← someZero]
  rcases arguments.prepared_cases environment files with
    ⟨cause, zero, refused⟩ | ⟨set, cause, -, unread⟩ | ⟨set, text, -, done⟩
  · exact ⟨fun _ => zero.not_noneZero, fun _ => ⟨cause, refused⟩⟩
  · refine ⟨?_, fun unset => absurd set unset⟩
    rintro ⟨cause, refused⟩
    rw [unread] at refused
    cases refused
  · refine ⟨?_, fun unset => absurd set unset⟩
    rintro ⟨cause, refused⟩
    rw [done] at refused
    cases refused

/-- **Precedence, setting by setting.** Of arguments that are accepted, without a configuration file
that they name, an upload has for each of its settings what the local file gives, else what the
global file gives, else the standard value; with such a file it has what this file gives, else the
standard value, and nothing else that is stored matters. The speed that the arguments give goes
before all files, and so does behind it that of the environment. A file that cannot be read or holds
no configuration gives nothing, and no setting depends on what is given for another. The job that is
prepared has these values, and a zero is one of them: it is refused, not passed over. -/
theorem settings_precedence {words : List String} {environment : Environment}
    {arguments : Arguments}
    (accepted : Arguments.parse words environment.baud? = .ok arguments) (files : Files) :
    let serial := arguments.serialSettings environment files
    let plan := arguments.plan environment files
    let held := environment.baud?.bind fun text => (BaudRate.parse text).toOption
    ∃ flagged, Arguments.parse words none = .ok flagged ∧ flagged.config = arguments.config ∧
      (arguments.config = none → ∀ setting : Setting, setting.used serial plan =
        ((setting.outside (flagged.baud.or held)).or
          ((setting.inFile files Configuration.localPath).or
            (setting.inGlobalFile environment files))).getD setting.standard) ∧
      (∀ path, arguments.config = some path →
        (∀ setting : Setting, setting.used serial plan =
          ((setting.outside (flagged.baud.or held)).or
            (setting.inFile files path)).getD setting.standard) ∧
        ∀ elsewhere others, others.read path = files.read path → ∀ setting : Setting,
          setting.used (arguments.serialSettings elsewhere others)
            (arguments.plan elsewhere others) = setting.used serial plan) ∧
      (∀ elsewhere others, ∀ setting : Setting,
        setting.given (arguments.configuration elsewhere others).1 =
            setting.given (arguments.configuration environment files).1 →
          setting.used (arguments.serialSettings elsewhere others)
            (arguments.plan elsewhere others) = setting.used serial plan) ∧
      (∀ job, arguments.prepared environment files = .ok job →
        job.serial = serial ∧ job.plan = plan) ∧
      ((∃ cause, arguments.prepared environment files = .error (.configuration cause)) ↔
        ∃ setting ∈ Setting.positive, setting.used serial plan = 0) := by
  intro serial plan held
  obtain ⟨flagged, alone, same⟩ := parse_environment accepted
  have speed : arguments.baud = flagged.baud.or held := by rw [same]
  have config : flagged.config = arguments.config := by rw [same]
  have independent (elsewhere : Environment) (others : Files) (setting : Setting)
      (given : setting.given (arguments.configuration elsewhere others).1 =
        setting.given (arguments.configuration environment files).1) :
      setting.used (arguments.serialSettings elsewhere others) (arguments.plan elsewhere others) =
        setting.used serial plan := by
    rw [used_settings, used_settings, given]
  refine ⟨flagged, alone, config, ?_, ?_, independent, ?_, ?_⟩
  · intro unnamed setting
    rw [used_settings, given_configuration, unnamed, speed]
  · intro path named
    refine ⟨fun setting => ?_, fun elsewhere others stored setting => ?_⟩
    · rw [used_settings, given_configuration, named, speed]
    · refine independent elsewhere others setting ?_
      rw [given_configuration, given_configuration, named]
      simp only [Setting.inFile, stored]
  · exact fun job ready => arguments.prepared_settings environment files ready
  · exact arguments.prepared_refused_iff environment files

/-- With a local and a global file, a speed among the arguments and one in the environment each
place is passed over where an earlier one sets the setting, be it to zero. -/
theorem settings_precedence_layers :
    let words := ["--baud", "9600", "dev", "ca.crt"]
    let environment : Environment :=
      { values := [("HOME", "/home/user"), ("CERTUPLOAD_BAUD", "300")] }
    let files : Files := .ofList
      [("certupload.toml", .ok "[serial]\ntimeout_ms = 500\n[upload]\nsettle_ms = 0\n"),
        ("/home/user/.config/certupload/config.toml",
          .ok "[serial]\nbaud = 1200\ntimeout_ms = 900\n[upload]\nline_delay_ms = 7\n")]
    let arguments : Arguments := { port := "dev", certificate := "ca.crt", baud := some 9600 }
    let used := Setting.used (arguments.serialSettings environment files)
      (arguments.plan environment files)
    Arguments.parse words environment.baud? = .ok arguments ∧ used .baud = 9600 ∧
      used .timeout = 500 ∧ used .settleDelay = 0 ∧ used .lineDelay = 7 ∧ used .endWait = 1000 := by
  intro words environment files arguments used
  have accepted : Arguments.parse words environment.baud? = .ok arguments := rfl
  obtain ⟨flagged, alone, -, layered, -⟩ := settings_precedence accepted files
  have same : flagged = arguments := by
    have found : Arguments.parse words none = .ok arguments := rfl
    rw [found] at alone
    cases alone
    rfl
  have values := layered rfl
  rw [same] at values
  refine ⟨accepted, (values .baud).trans ?_, (values .timeout).trans ?_,
    (values .settleDelay).trans ?_, (values .lineDelay).trans ?_, (values .endWait).trans ?_⟩ <;>
    decide +kernel

end Arguments

end CertConsole
