import Knotwork.Library.Standard
import Knotwork.Proofs.Sessions

/-! What compiling leaves behind. Main statement: a run of the command either changes no file but the
journal's, or it succeeds and also writes one file, which holds the story of the script in the format
and under the settings that the options, the environment and the settings file ask for. -/

namespace Knotwork

structure Publication where
  format : Format
  directory : Path
  options : CompileOptions

namespace Publication

def place (publication : Publication) : Path :=
  (publication.directory.child publication.format.fileName).place

/-- A publication as the options of the command, the environment and the settings file ask for it. -/
structure Chosen (output : Option Path) (format entry : Option Text) (skipChecks : Bool)
    (environment : Environment) (members : List (Value × Value)) (publication : Publication) :
    Prop where
  format : Settings.layered format environment "BIGIF_OUTPUT_FORMAT" "format" "json" members =
    .text publication.format.name
  entry : Settings.layered entry environment "BIGIF_ENTRY_KNOT" "entry" "index" members =
    .text publication.options.entry
  directory : ∃ directory, Settings.readOutputDir (Value.member? "output_dir" members) =
    .ok directory ∧ publication.directory = output.getD directory
  validate : ∃ validate, Settings.readValidate (Value.member? "validate" members) = .ok validate ∧
    publication.options.validate = (validate && !skipChecks)
  defaults : Settings.readMetadata ((Value.member? "metadata" members).getD .null) =
    .ok publication.options.defaults

theorem chosen_of_drawn {output : Option Path} {format entry : Option Text} {skipChecks : Bool}
    {environment : Environment} {members : List (Value × Value)} {settings : Settings}
    {publication : Publication} (drawn : settings.Drawn entry environment members)
    (formatted : Settings.layered format environment "BIGIF_OUTPUT_FORMAT" "format" "json" members =
      .text publication.format.name)
    (directed : publication.directory = output.getD settings.outputDir)
    (entered : settings.entry = .text publication.options.entry)
    (checked : publication.options.validate = (settings.validate && !skipChecks))
    (described : publication.options.defaults = settings.metadata) :
    publication.Chosen output format entry skipChecks environment members := by
  refine ⟨formatted, drawn.entry.symm.trans entered, ⟨_, drawn.outputDir, directed⟩,
    ⟨_, drawn.validate, checked⟩, ?_⟩
  rw [described]
  exact drawn.metadata

theorem place_notMem_journalPlaces (publication : Publication) (log : Bool) (script : Path) :
    publication.place ∉ Run.journalPlaces log script := by
  obtain ⟨format, directory, options⟩ := publication
  have story : format.fileName ≠ ".." := by cases format <;> decide
  have other : format.fileName ≠ Journal.fileName := by cases format <;> decide
  intro member
  unfold Run.journalPlaces at member
  split at member
  · have same := List.mem_singleton.mp member
    rw [place, Path.place_child _ story, Path.place_child _ (by decide)] at same
    have names := congrArg Path.name same
    rw [Path.name_child, Path.name_child] at names
    exact other names
  · cases member

end Publication

theorem Format.publish_eq_ok {format : Format} {graph : Graph} {directory path : Path}
    {folder after : Folder} (published : format.publish graph directory folder = .ok (path, after)) :
    path = directory.child format.fileName ∧
      ∃ artifact, format.fileContent graph = .ok artifact ∧
        after.file? path.place = some artifact ∧ Folder.SameExcept [path.place] folder after := by
  unfold publish at published
  simp only [Except.bind_eq_ok, Except.mapError_eq_ok] at published
  obtain ⟨room, ensured, artifact, rendered, written, wrote, published⟩ := published
  cases published
  refine ⟨rfl, artifact, rendered, ?_, ?_⟩
  · rw [Folder.file?_write wrote, if_pos rfl]
  · exact (Folder.sameExcept_of_files _ (Folder.ensure_eq_ok ensured).1).trans
      (Folder.sameExcept_write wrote)

namespace Run

/-- A run has published the story of a script. Apart from the journal, no other file has changed. -/
def Publishes (load : Text → Except Text Value) (log : Bool) (script : Path) (output : Option Path)
    (format entry : Option Text) (file : Option Path) (skipChecks : Bool) (environment : Environment)
    (before after : Folder) : Prop :=
  ∃ (content : Text) (members : List (Value × Value)) (publication : Publication) (graph : Graph)
      (artifact : Text),
    before.file? script.place = some content ∧
      Settings.Given load before script file members ∧
      publication.Chosen output format entry skipChecks environment members ∧
      Knotwork.compile content.plainNewlines publication.options = .ok graph ∧
      publication.format.fileContent graph = .ok artifact ∧
      publication.place ∉ journalPlaces log script ∧
      after.file? publication.place = some artifact ∧
      Folder.SameExcept (publication.place :: journalPlaces log script) before after

theorem publishes_of_loaded {load : Text → Except Text Value} {log skipChecks : Bool}
    {script : Path} {output file : Option Path} {format entry : Option Text}
    {start opened session : Session} {text artifact : Text} {members : List (Value × Value)}
    {publication : Publication} {graph : Graph} {after : Folder}
    (loaded : Loaded log script start opened text) (keeps : opened.Keeps session)
    (empty : load [] = .ok .null) (given : Settings.Given load opened.folder script file members)
    (chosen : publication.Chosen output format entry skipChecks start.environment members)
    (compiled : Knotwork.compile text publication.options = .ok graph)
    (rendered : publication.format.fileContent graph = .ok artifact)
    (holds : after.file? publication.place = some artifact)
    (same : Folder.SameExcept (publication.place :: session.journal.places) session.folder after) :
    Publishes load log script output format entry file skipChecks start.environment start.folder
      after := by
  obtain ⟨content, held, rfl⟩ := loaded.content
  rw [keeps.journal, loaded.places] at same
  refine ⟨content, members, publication, graph, artifact, held, given.of_laid empty loaded.laid,
    chosen, compiled, rendered, publication.place_notMem_journalPlaces log script, holds, ?_⟩
  exact ((loaded.sameExcept keeps).mono (List.subset_cons_self _ _)).trans same

-- Only marked-up text that cannot be shown makes this step fail.
theorem leads_print {library : Library} {session : Session} {folder : Folder}
    {fails : Stop → Session → Prop} (markup : Text) (same : session.folder = folder) :
    Leads library session (print markup)
      (fun stop later => (∀ fault, stop ≠ .crash (.markup fault)) → fails stop later)
      fun _ later => later.folder = folder := by
  unfold print
  refine leads_bind_ok rfl ?_
  split
  · rename_i fault _
    exact leads_of_error rfl (by simp) fun shows => absurd rfl (shows fault)
  · exact leads_of_ok rfl same

theorem leads_publish {library : Library} {session : Session} (format : Format) (graph : Graph)
    (directory : Path)
    (apart : (directory.child format.fileName).place ∉ session.journal.places) :
    Leads library session (publish format graph directory) (fun _ later => session.Keeps later)
      fun _ later => ∃ artifact, format.fileContent graph = .ok artifact ∧
        later.folder.file? (directory.child format.fileName).place = some artifact ∧
        Folder.SameExcept ((directory.child format.fileName).place :: session.journal.places)
          session.folder later.folder := by
  unfold publish
  refine leads_bind_ok rfl ?_
  split
  · exact leads_of_error rfl (by simp) (.refl _)
  · exact leads_of_error rfl (by simp) (.refl _)
  · rename_i path folder published
    obtain ⟨rfl, artifact, rendered, holds, same⟩ := Format.publish_eq_ok published
    refine leads_bind_ok rfl ?_
    -- The event about the publication goes to the journal, which is another file.
    have noted (source message : Text) (fields : List (Text × Value)) :
        Leads library { session with folder }
          (note Weight.info source message fields >>= fun _ =>
            (pure (directory.child format.fileName) : Run Path))
          (fun _ later => session.Keeps later)
          fun _ later => ∃ artifact, format.fileContent graph = .ok artifact ∧
            later.folder.file? (directory.child format.fileName).place = some artifact ∧
            Folder.SameExcept ((directory.child format.fileName).place :: session.journal.places)
              session.folder later.folder := by
      refine Leads.bind ((leads_note _ _ _ _).mono (fun _ _ fails => fails.elim)
        fun _ _ keeps => keeps) fun _ later keeps => leads_of_ok rfl ⟨artifact, rendered, ?_, ?_⟩
      · exact (keeps.files _ apart).trans holds
      · exact (same.mono (by simp)).trans (keeps.files.mono (List.subset_cons_self _ _))
    cases format with
    | json => exact noted _ _ _
    | twee => exact noted _ _ _

theorem leads_compile {invocation : Invocation} {script : Path} {output : Option Path}
    {format : Option Text} {toOutput : Bool} {entry : Option Text} {file : Option Path}
    {skipChecks : Bool} {library : Library} (empty : library.load [] = .ok .null) (start : Session)
    (fresh : start.journal = {})
    (asked : invocation.command =
      .compile script output format toOutput entry file skipChecks) :
    Leads library start (execute invocation)
      (fun stop later => (∀ fault, stop ≠ .crash (.markup fault)) →
        Folder.SameExcept (journalPlaces invocation.log script) start.folder later.folder)
      fun _ later =>
        (toOutput = true →
          Folder.SameExcept (journalPlaces invocation.log script) start.folder later.folder) ∧
        (toOutput = false →
          Publishes library.load invocation.log script output format entry file skipChecks
            start.environment start.folder later.folder) := by
  unfold execute
  rw [asked]
  dsimp only
  refine Leads.bind ((leads_loadScript invocation script fresh).mono (fun _ _ same _ => same)
    fun _ _ loaded => loaded) ?_
  intro text opened loaded
  refine (quiet_loadSettings script file entry).leads_bind
    (fun _ _ keeps _ => loaded.sameExcept keeps) ?_
  rintro settings _ first ⟨members, given, drawn⟩
  refine (quiet_chooseFormat _).leads_bind
    (fun _ _ keeps _ => loaded.sameExcept (first.trans keeps)) ?_
  intro chosen _ second named
  have soFar := first.trans second
  refine (quiet_compile text _).leads_bind
    (fun _ _ keeps _ => loaded.sameExcept (soFar.trans keeps)) ?_
  rintro graph session third ⟨name, entered, compiled⟩
  have soFar := soFar.trans third
  split
  · rename_i emits
    refine (quiet_orCrash _ _).leads_bind
      (fun _ _ keeps _ => loaded.sameExcept (soFar.trans keeps)) ?_
    intro rendered _ fourth _
    refine (quiet_emit rendered).mono
      (fun _ _ keeps _ => loaded.sameExcept (soFar.trans (fourth.trans keeps))) ?_
    rintro _ later ⟨_, keeps⟩
    have same := loaded.sameExcept (soFar.trans (fourth.trans keeps))
    exact ⟨fun _ => same, fun silent => absurd emits (by simp [silent])⟩
  · rename_i writes
    let publication : Publication :=
      { format := chosen, directory := output.getD settings.outputDir
        options := { entry := name, validate := settings.validate && !skipChecks
                     defaults := settings.metadata } }
    have apart : publication.place ∉ session.journal.places := by
      rw [soFar.journal, loaded.places]
      exact publication.place_notMem_journalPlaces _ _
    refine Leads.bind ((leads_publish chosen graph _ apart).mono
      (fun _ _ keeps _ => loaded.sameExcept (soFar.trans keeps)) fun _ _ published => published) ?_
    rintro path last ⟨artifact, rendered, holds, same⟩
    have publishes : Publishes library.load invocation.log script output format entry file skipChecks
        start.environment start.folder last.folder := by
      rw [loaded.environment] at drawn
      have formatted : Settings.layered format start.environment "BIGIF_OUTPUT_FORMAT" "format"
          "json" members = .text chosen.name := by
        rw [← named]
        rcases format with _ | ⟨_ | ⟨c, rest⟩⟩
        · exact drawn.format.symm
        · exact drawn.format.symm
        · rfl
      have asFor : publication.Chosen output format entry skipChecks start.environment members :=
        Publication.chosen_of_drawn drawn formatted rfl entered rfl rfl
      exact publishes_of_loaded loaded soFar empty given asFor compiled rendered holds same
    refine Leads.bind (leads_print _ rfl) fun _ later same => ?_
    refine (leads_print _ same).mono (fun _ _ fails => fails) fun _ final same => ?_
    rw [same]
    exact ⟨fun emits => absurd emits writes, fun _ => publishes⟩

end Run

/-- Arguments name a command, unless they are refused before any command is looked for. -/
def Invocation.Names (parse : Arguments.Signature → List Text → Except NoInvocation Arguments.Parsed)
    (arguments : List Text) (name : Text) : Prop :=
  ∀ parsed, parse .program arguments = .ok parsed → parsed.words.head? = some name

theorem Invocation.read_eq_ok_compile {library : Library} {arguments : List Text}
    {invocation : Invocation} (named : Names library.parse arguments "compile")
    (read : Invocation.read library.parse arguments = .ok invocation) :
    ∃ script output format toOutput entry file skipChecks,
      invocation.command = .compile script output format toOutput entry file skipChecks := by
  rw [Invocation.read, Except.bind_eq_ok] at read
  obtain ⟨parsed, parses, read⟩ := read
  obtain ⟨rest, words⟩ := List.head?_eq_some_iff.mp (named parsed parses)
  rw [words] at read
  simp only [Except.bind_eq_ok] at read
  obtain ⟨command, readCommand, read⟩ := read
  cases read
  rw [readNamed, if_neg (by decide), if_pos rfl, Except.bind_eq_ok] at readCommand
  obtain ⟨parsed, _, readCommand⟩ := readCommand
  cases readCommand
  exact ⟨_, _, _, _, _, _, _, rfl⟩

section Outcome

variable {library : Library} {folder : Folder} {environment : Environment} {arguments : List Text}
  {invocation : Invocation} {later : Session}

theorem run_of_ok (read : Invocation.read library.parse arguments = .ok invocation)
    (ran : ((Run.execute invocation).run library).run { folder, environment } = (.ok (), later)) :
    run library folder environment arguments = { code := 0, session := later } := by
  unfold run
  rw [read]
  dsimp only
  rw [ran]

theorem run_of_error {stop : Stop} (read : Invocation.read library.parse arguments = .ok invocation)
    (ran : ((Run.execute invocation).run library).run { folder, environment } = (.error stop, later))
    (fault : stop ≠ .exit 0) :
    (run library folder environment arguments).code ≠ 0 ∧
      (run library folder environment arguments).session = later ∧
      ∀ reason, stop = .crash reason →
        (run library folder environment arguments).crash = some reason := by
  unfold run
  rw [read]
  dsimp only
  rw [ran]
  cases stop with
  | exit code => exact ⟨fun same => fault (congrArg Stop.exit same), rfl, by simp⟩
  | crash reason => exact ⟨by simp, rfl, by simp⟩

end Outcome

/-- Nothing half done escapes from compiling: a run that fails, or that writes the story to the
console, changes no file but the journal's, and any other run that succeeds publishes the story and
changes nothing else. -/
theorem compile_publishes_or_keeps_files (library : Library) (folder : Folder)
    (environment : Environment) (arguments : List Text) (empty : library.load [] = .ok .null)
    (named : Invocation.Names library.parse arguments "compile")
    (shows : ∀ fault, (run library folder environment arguments).crash ≠ some (.markup fault)) :
    (∃ reason, Invocation.read library.parse arguments = .error reason ∧
        (run library folder environment arguments).session.folder = folder ∧
        ((run library folder environment arguments).code = 0 ↔ reason = .help)) ∨
      ∃ verbosity log script output format toOutput entry file skipChecks,
        Invocation.read library.parse arguments = .ok ⟨verbosity, log,
            .compile script output format toOutput entry file skipChecks⟩ ∧
          ((run library folder environment arguments).code ≠ 0 ∨ toOutput = true →
            Folder.SameExcept (Run.journalPlaces log script) folder
              (run library folder environment arguments).session.folder) ∧
          ((run library folder environment arguments).code = 0 → toOutput = false →
            Run.Publishes library.load log script output format entry file skipChecks environment folder
              (run library folder environment arguments).session.folder) := by
  cases read : Invocation.read library.parse arguments with
  | error reason =>
      refine Or.inl ⟨reason, rfl, ?_⟩
      unfold run
      rw [read]
      cases reason <;> simp
  | ok invocation =>
      obtain ⟨script, output, format, toOutput, entry, file, skipChecks, asked⟩ :=
        Invocation.read_eq_ok_compile named read
      refine Or.inr ⟨invocation.verbosity, invocation.log, script, output, format, toOutput, entry,
        file, skipChecks, by rw [← asked], ?_⟩
      rcases Run.leads_compile empty { folder, environment } rfl asked with
        ⟨stop, later, ran, fault, fails⟩ | ⟨_, later, ran, emits, publishes⟩
      · obtain ⟨failed, ended, crashed⟩ := run_of_error read ran fault
        rw [ended]
        refine ⟨fun _ => fails ?_, fun succeeded => absurd succeeded failed⟩
        intro markup same
        exact shows markup (crashed _ same)
      · rw [run_of_ok read ran]
        refine ⟨?_, fun _ => publishes⟩
        rintro (failed | toOutput)
        · exact absurd rfl failed
        · exact emits toOutput

def hutFolder : Folder :=
  { files :=
      [(Path.ofText "tale/hut.bigif",
        "=== index ===\nA hut.\n* Knock -> door\n=== door ===\nNobody.\nEND"),
       (Path.ofText "tale/bigif.yaml", "format: json\noutput_dir: out\n")] }

def hutEnvironment : Environment := Table.ofPairs [("BIGIF_OUTPUT_FORMAT", "json")]

def hutArguments : List Text := ["--log", "compile", "tale/hut.bigif", "-f", "twee"]

theorem compile_publishes_or_keeps_files_hut :
    Library.standard.load [] = .ok .null ∧
      Invocation.Names Library.standard.parse hutArguments "compile" ∧
      (∀ fault, (run .standard hutFolder hutEnvironment hutArguments).crash ≠ some (.markup fault)) ∧
      Run.Publishes Library.standard.load true (Path.ofText "tale/hut.bigif") none (some "twee") none
        none false hutEnvironment hutFolder
        (run .standard hutFolder hutEnvironment hutArguments).session.folder := by
  have empty : Library.standard.load [] = .ok .null := rfl
  have parses : Library.standard.parse .program hutArguments =
      .ok ⟨[("log", [])], ["compile", "tale/hut.bigif", "-f", "twee"]⟩ := by
    decide +kernel
  have named : Invocation.Names Library.standard.parse hutArguments "compile" := by
    intro parsed accepted
    cases parses.symm.trans accepted
    rfl
  have read : Invocation.read Library.standard.parse hutArguments = .ok ⟨0, true,
      .compile (Path.ofText "tale/hut.bigif") none (some "twee") false none none false⟩ := by
    decide +kernel
  have succeeds : (run .standard hutFolder hutEnvironment hutArguments).code = 0 ∧
      (run .standard hutFolder hutEnvironment hutArguments).crash = none := by
    decide +kernel
  have shows (fault : Markup.Fault) :
      (run .standard hutFolder hutEnvironment hutArguments).crash ≠ some (.markup fault) := by
    rw [succeeds.2]
    simp
  refine ⟨empty, named, shows, ?_⟩
  rcases compile_publishes_or_keeps_files .standard hutFolder hutEnvironment _ empty named shows with
    ⟨reason, refused, _⟩ | ⟨_, _, _, _, _, _, _, _, _, asked, _, publishes⟩
  · cases read.symm.trans refused
  · cases read.symm.trans asked
    exact publishes succeeds.1 rfl

/-- A run may succeed without a change: where the story stands already, and where help was asked for.
An empty name of a format counts as none. -/
theorem compile_may_change_nothing :
    (run .standard hutFolder hutEnvironment ["compile", "tale/hut.bigif"]).code = 0 ∧
      (run .standard hutFolder hutEnvironment ["compile", "tale/hut.bigif"]).session.folder ≠
        hutFolder ∧
      (run .standard
        (run .standard hutFolder hutEnvironment ["compile", "tale/hut.bigif"]).session.folder
        hutEnvironment ["compile", "tale/hut.bigif"]).code = 0 ∧
      (run .standard
          (run .standard hutFolder hutEnvironment ["compile", "tale/hut.bigif"]).session.folder
          hutEnvironment ["compile", "tale/hut.bigif"]).session.folder =
        (run .standard hutFolder hutEnvironment ["compile", "tale/hut.bigif"]).session.folder ∧
      (run .standard hutFolder hutEnvironment ["compile", "--help"]).code = 0 ∧
      (run .standard hutFolder hutEnvironment ["compile", "--help"]).session.folder = hutFolder ∧
      (run .standard hutFolder hutEnvironment ["compile", "tale/hut.bigif", "-f", ""]).code = 0 := by
  decide +kernel

end Knotwork
