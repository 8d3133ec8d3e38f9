import Knotwork.Proofs.Layers
import Knotwork.Proofs.Validation

/-! Steps of a run, told by how they fail and what they return. Main statements: loading settings and
compiling write nothing but the journal, and what they return is what the settings file and the script
say; loading a script at most opens the journal's file. -/

namespace Knotwork

namespace Session

structure Keeps (before after : Session) : Prop where
  journal : after.journal = before.journal
  environment : after.environment = before.environment
  files : Folder.SameExcept before.journal.places before.folder after.folder

theorem Keeps.refl (session : Session) : session.Keeps session := ⟨rfl, rfl, .refl _ _⟩

theorem Keeps.trans {first second third : Session} (earlier : first.Keeps second)
    (later : second.Keeps third) : first.Keeps third := by
  refine ⟨later.journal.trans earlier.journal, later.environment.trans earlier.environment, ?_⟩
  have files := later.files
  rw [earlier.journal] at files
  exact earlier.files.trans files

end Session

namespace Run

variable {α β : Type} {library : Library} {session later : Session} {step : Run α}
  {next : α → Run β} {returns : α → Prop} {after : β → Prop}

theorem run_bind_ok {value : α} (ran : (step.run library).run session = (.ok value, later)) :
    ((step >>= next).run library).run session = ((next value).run library).run later := by
  simp only [bind, ReaderT.bind, ReaderT.run, ExceptT.bind, ExceptT.run, ExceptT.mk, StateT.bind]
    at ran ⊢
  rw [ran]
  rfl

theorem run_bind_error {stop : Stop} (ran : (step.run library).run session = (.error stop, later)) :
    ((step >>= next).run library).run session = (.error stop, later) := by
  simp only [bind, ReaderT.bind, ReaderT.run, ExceptT.bind, ExceptT.run, ExceptT.mk, StateT.bind]
    at ran ⊢
  rw [ran]
  rfl

/-- How a step from a session may end: it fails like this, but never as if all were done, or returns
like this. -/
def Leads (library : Library) (session : Session) (step : Run α) (fails : Stop → Session → Prop)
    (returns : α → Session → Prop) : Prop :=
  (∃ stop later, (step.run library).run session = (.error stop, later) ∧ stop ≠ .exit 0 ∧
      fails stop later) ∨
    ∃ value later, (step.run library).run session = (.ok value, later) ∧ returns value later

section

variable {fails othersFail : Stop → Session → Prop} {reaches othersReach : α → Session → Prop}
  {ends : β → Session → Prop}

theorem leads_of_ok {value : α} (ran : (step.run library).run session = (.ok value, later))
    (holds : reaches value later) : Leads library session step fails reaches :=
  Or.inr ⟨value, later, ran, holds⟩

theorem leads_of_error {stop : Stop} (ran : (step.run library).run session = (.error stop, later))
    (fault : stop ≠ .exit 0) (holds : fails stop later) : Leads library session step fails reaches :=
  Or.inl ⟨stop, later, ran, fault, holds⟩

theorem Leads.mono (leads : Leads library session step fails reaches)
    (failing : ∀ stop later, fails stop later → othersFail stop later)
    (reaching : ∀ value later, reaches value later → othersReach value later) :
    Leads library session step othersFail othersReach := by
  rcases leads with ⟨stop, later, ran, fault, holds⟩ | ⟨value, later, ran, holds⟩
  · exact leads_of_error ran fault (failing stop later holds)
  · exact leads_of_ok ran (reaching value later holds)

theorem leads_bind_ok {value : α} (ran : (step.run library).run session = (.ok value, later))
    (leads : Leads library later (next value) fails ends) :
    Leads library session (step >>= next) fails ends := by
  have goes : ((step >>= next).run library).run session = ((next value).run library).run later :=
    run_bind_ok ran
  rcases leads with ⟨stop, last, ended, fault, holds⟩ | ⟨result, last, ended, holds⟩
  · exact leads_of_error (goes.trans ended) fault holds
  · exact leads_of_ok (goes.trans ended) holds

theorem Leads.bind (first : Leads library session step fails reaches)
    (second : ∀ value later, reaches value later → Leads library later (next value) fails ends) :
    Leads library session (step >>= next) fails ends := by
  rcases first with ⟨stop, later, ran, fault, holds⟩ | ⟨value, later, ran, holds⟩
  · exact leads_of_error (run_bind_error ran) fault holds
  · exact leads_bind_ok ran (second value later holds)

end

/-- A step from a session writes nothing but the journal, and returns such values only. -/
def Quiet (library : Library) (session : Session) (step : Run α) (returns : α → Prop) : Prop :=
  Leads library session step (fun _ later => session.Keeps later) fun value later =>
    returns value ∧ session.Keeps later

theorem Quiet.bind (first : Quiet library session step returns)
    (second : ∀ value later, session.Keeps later → returns value →
      Quiet library later (next value) after) : Quiet library session (step >>= next) after := by
  refine Leads.bind first ?_
  rintro value later ⟨holds, keeps⟩
  refine (second value later keeps holds).mono (fun _ _ kept => keeps.trans kept) ?_
  rintro result last ⟨holds, kept⟩
  exact ⟨holds, keeps.trans kept⟩

theorem Quiet.leads_bind {fails : Stop → Session → Prop} {ends : β → Session → Prop}
    (first : Quiet library session step returns)
    (failing : ∀ stop later, session.Keeps later → fails stop later)
    (second : ∀ value later, session.Keeps later → returns value →
      Leads library later (next value) fails ends) :
    Leads library session (step >>= next) fails ends := by
  have leads : Leads library session step fails fun value later =>
      returns value ∧ session.Keeps later :=
    first.mono failing fun _ _ returned => returned
  exact leads.bind fun value later returned => second value later returned.2 returned.1

theorem Quiet.halt (stops : Quiet library session step fun _ => False) :
    Quiet library session (step >>= next) after :=
  stops.bind fun _ _ _ returned => returned.elim

theorem quiet_whether {asked : Prop} [Decidable asked] {rest : Run β}
    (first : Quiet library session step returns) (second : ∀ later, Quiet library later rest after) :
    Quiet library session (if asked then step >>= fun _ => rest else rest) after := by
  split
  · exact first.bind fun _ later _ _ => second later
  · exact second session

theorem quiet_pure {value : α} (holds : returns value) :
    Quiet library session (pure value) returns :=
  leads_of_ok rfl ⟨holds, .refl _⟩

theorem quiet_throw {stop : Stop} (fails : stop ≠ .exit 0) :
    Quiet library session (throw stop : Run α) returns :=
  leads_of_error rfl fails (.refl _)

theorem quiet_crash (reason : Crash) : Quiet library session (crash reason : Run α) returns :=
  quiet_throw (by simp)

theorem quiet_get : Quiet library session (get : Run Session) (· = session) :=
  leads_of_ok rfl ⟨rfl, .refl _⟩

theorem quiet_read : Quiet library session (read : Run Library) (· = library) :=
  leads_of_ok rfl ⟨rfl, .refl _⟩

theorem quiet_modify {change : Session → Session} (keeps : session.Keeps (change session)) :
    Quiet library session (modify change : Run Unit) fun _ => True :=
  leads_of_ok rfl ⟨trivial, keeps⟩

theorem quiet_orCrash {ε : Type} (reason : ε → Crash) (result : Except ε α) :
    Quiet library session (orCrash reason result) fun value => result = .ok value := by
  cases result with
  | ok value => exact quiet_pure rfl
  | error error => exact quiet_crash _

theorem quiet_print (markup : Text) : Quiet library session (print markup) fun _ => True := by
  unfold print
  refine quiet_read.bind fun _ _ _ _ => ?_
  split
  · exact quiet_crash _
  · exact quiet_modify ⟨rfl, rfl, .refl _ _⟩

theorem quiet_present (item : Shown) : Quiet library session (present item) fun _ => True :=
  quiet_modify ⟨rfl, rfl, .refl _ _⟩

theorem quiet_emit (text : Text) : Quiet library session (emit text) fun _ => True :=
  quiet_read.bind fun _ _ _ _ => quiet_modify ⟨rfl, rfl, .refl _ _⟩

theorem quiet_record (entry : Entry) : Quiet library session (record entry) fun _ => True :=
  quiet_modify ⟨rfl, rfl, session.journal.sameExcept_record session.folder entry⟩

theorem leads_note (weight : Weight) (source message : Text) (fields : List (Text × Value)) :
    Leads library session (note weight source message fields) (fun _ _ => False)
      fun _ later => session.Keeps later := by
  unfold note
  refine leads_bind_ok rfl (leads_bind_ok rfl ?_)
  split
  · rename_i entry _
    exact leads_of_ok rfl ⟨rfl, rfl, session.journal.sameExcept_record session.folder entry⟩
  · exact leads_of_ok rfl (.refl _)

theorem quiet_note (weight : Weight) (source message : Text) (fields : List (Text × Value)) :
    Quiet library session (note weight source message fields) fun _ => True :=
  (leads_note _ _ _ _).mono (fun _ _ fails => fails.elim) fun _ _ keeps => ⟨trivial, keeps⟩

theorem quiet_failWith (message : Text) : Quiet library session (failWith message : Run α) returns :=
  (quiet_print _).bind fun _ _ _ _ => quiet_throw (by simp)

theorem quiet_forM {γ : Type} {action : γ → Run Unit}
    (each : ∀ item session, Quiet library session (action item) fun _ => True) (items : List γ) :
    Quiet library session (items.forM action) fun _ => True := by
  induction items generalizing session with
  | nil => exact quiet_pure trivial
  | cons item rest ih => exact (each item session).bind fun _ _ _ _ => ih

theorem quiet_showFeedback (document : Feedback) :
    Quiet library session (showFeedback document) fun _ => True := by
  refine (quiet_print _).bind fun _ _ _ _ => ?_
  refine (quiet_present _).bind fun _ _ _ _ => ?_
  exact quiet_read.bind fun _ _ _ _ => quiet_forM (fun entry _ => quiet_record entry) _

theorem quiet_reportError (error : StoryError) {feedback : Run Unit}
    (shows : ∀ session, Quiet library session feedback fun _ => True) :
    Quiet library session (reportError error feedback : Run α) returns := by
  refine (quiet_note _ _ _ _).bind fun _ _ _ _ => ?_
  refine quiet_read.bind fun _ _ _ _ => ?_
  refine (quiet_print _).bind fun _ _ _ _ => ?_
  exact (shows _).bind fun _ _ _ _ => quiet_throw (by simp)

theorem quiet_failCompiling (error : StoryError) :
    Quiet library session (failCompiling error : Run α) returns := by
  refine quiet_reportError error fun _ => ?_
  split
  · exact quiet_pure trivial
  · exact quiet_showFeedback _

theorem quiet_parse (text : Text) :
    Quiet library session (parse text) fun script => Script.read text = .ok script := by
  unfold parse
  split
  · exact quiet_failCompiling _
  · rename_i read
    exact (quiet_note _ _ _ _).bind fun _ _ _ _ => quiet_pure read

theorem quiet_entryName (script : Script) (entry : Value) :
    Quiet library session (entryName script entry) fun name => entry = .text name := by
  have shows (session : Session) :
      Quiet library session (print [] >>= fun _ => crash .wrongKind) fun _ : Unit => True :=
    (quiet_print _).bind fun _ _ _ _ => quiet_crash _
  unfold entryName
  split
  · exact quiet_pure rfl
  · exact quiet_crash _
  · exact quiet_crash _
  · exact quiet_crash _
  · exact quiet_reportError _ fun _ => quiet_showFeedback _
  · dsimp only
    split
    · exact (quiet_crash _).halt
    · exact quiet_reportError _ shows

theorem quiet_explore (script : Script) (entry : Value) :
    Quiet library session (explore script entry) fun graph =>
      ∃ name, entry = .text name ∧ script.graph name = .ok graph := by
  unfold explore
  refine (quiet_entryName script entry).bind fun name _ _ named => ?_
  dsimp only
  refine quiet_whether (quiet_note _ _ _ _) fun later => ?_
  refine (quiet_forM (fun _ _ => quiet_note _ _ _ _) _).bind fun _ _ _ _ => ?_
  split
  · exact quiet_failCompiling _
  · rename_i graph built
    exact (quiet_note _ _ _ _).bind fun _ _ _ _ => quiet_pure ⟨name, named, built⟩

theorem quiet_compile (text : Text) (settings : Settings) :
    Quiet library session (compile text settings) fun graph =>
      ∃ entry, settings.entry = .text entry ∧
        Knotwork.compile text
          { entry, validate := settings.validate, defaults := settings.metadata } = .ok graph := by
  unfold compile
  refine (quiet_parse text).bind fun script _ _ parsed => ?_
  refine (quiet_explore script settings.entry).bind fun graph _ _ explored => ?_
  obtain ⟨entry, named, built⟩ := explored
  have compiled : Knotwork.compile text
      { entry, validate := settings.validate, defaults := settings.metadata } =
        .ok (graph.withDefaults settings.metadata) := by
    simp only [Knotwork.compile, parsed, Script.compile_eq parsed, built, Except.map]
  dsimp only
  split
  · split
    · exact (quiet_note _ _ _ _).bind fun _ _ _ _ => (quiet_failCompiling _).halt
    · exact (quiet_note _ _ _ _).bind fun _ _ _ _ => quiet_pure ⟨entry, named, compiled⟩
  · exact quiet_pure ⟨entry, named, compiled⟩

theorem quiet_chooseFormat (value : Value) :
    Quiet library session (chooseFormat value) fun format => value = .text format.name := by
  unfold chooseFormat
  split
  · split
    · rename_i format known
      exact quiet_pure (by rw [Format.ofName_eq_ok known])
    · exact quiet_read.bind fun _ _ _ _ => quiet_failWith _
  · exact quiet_crash _
  · exact quiet_crash _
  · exact quiet_crash _
  · exact quiet_read.bind fun _ _ _ _ => quiet_failWith _

theorem quiet_loadSettings (script : Path) (file : Option Path) (entry : Option Text) :
    Quiet library session (loadSettings script file entry) fun settings =>
      ∃ members, Settings.Given library.load session.folder script file members ∧
        settings.Drawn entry session.environment members := by
  unfold loadSettings
  refine quiet_get.bind ?_
  rintro _ later _ rfl
  refine (quiet_orCrash _ _).bind fun path? _ _ chosen => ?_
  refine quiet_read.bind ?_
  rintro _ last _ rfl
  split
  · exact quiet_crash _
  · exact quiet_failWith _
  · rename_i settings loaded
    obtain ⟨members, given, drawn⟩ := Settings.given_and_drawn chosen loaded
    refine quiet_pure ⟨members, given, ?_⟩
    -- An entry that is named but empty counts as none.
    rcases entry with _ | ⟨_ | ⟨c, rest⟩⟩
    · exact drawn
    · exact { drawn with }
    · exact { drawn with entry := rfl }

def journalPlaces (log : Bool) (script : Path) : List Path :=
  if log then [((script.parent.child "logs").child Journal.fileName).place] else []

structure Loaded (log : Bool) (script : Path) (start later : Session) (text : Text) : Prop where
  content : ∃ content, start.folder.file? script.place = some content ∧ text = content.plainNewlines
  environment : later.environment = start.environment
  places : later.journal.places = journalPlaces log script
  laid : Journal.Laid (journalPlaces log script) start.folder later.folder

theorem Loaded.sameExcept {log : Bool} {script : Path} {start opened : Session} {text : Text}
    (loaded : Loaded log script start opened text) (keeps : opened.Keeps later) :
    Folder.SameExcept (journalPlaces log script) start.folder later.folder := by
  have files := keeps.files
  rw [loaded.places] at files
  exact loaded.laid.same.trans files

theorem leads_readScript {log : Bool} {script : Path} {start opened : Session} {content : Text}
    (held : start.folder.file? script.place = some content)
    (environment : opened.environment = start.environment)
    (places : opened.journal.places = journalPlaces log script)
    (laid : Journal.Laid (journalPlaces log script) start.folder opened.folder) :
    Leads library opened
      (do
        let text ← orCrash .folder ((← get).folder.read script)
        return text.plainNewlines)
      (fun _ later => Folder.SameExcept (journalPlaces log script) start.folder later.folder)
      fun text later => Loaded log script start later text := by
  refine leads_bind_ok rfl ?_
  cases found : opened.folder.read script with
  | error error => exact leads_of_error (run_bind_error rfl) (by simp) laid.same
  | ok text =>
      have same : text = content := by
        have stays := laid.extended.files _ _ held
        rw [Folder.read_eq_ok found] at stays
        exact Option.some.inj stays
      subst same
      exact leads_of_ok rfl ⟨⟨text, held, rfl⟩, environment, places, laid⟩

theorem leads_loadScript (invocation : Invocation) (script : Path) {start : Session}
    (fresh : start.journal = {}) :
    Leads library start (loadScript invocation script)
      (fun _ later =>
        Folder.SameExcept (journalPlaces invocation.log script) start.folder later.folder)
      fun text later => Loaded invocation.log script start later text := by
  unfold loadScript
  refine leads_bind_ok rfl ?_
  cases leads : start.folder.leadsToFile script with
  | error error => exact leads_of_error (run_bind_error rfl) (by simp) (.refl _ _)
  | ok there =>
      refine leads_bind_ok rfl ?_
      dsimp only
      split
      · have stops (message : Text) :
            Quiet library start (failWith message : Run Unit) fun _ => False := quiet_failWith _
        refine (stops _).leads_bind ?_ fun _ _ _ returned => returned.elim
        intro _ later keeps
        have files := keeps.files
        rw [fresh] at files
        exact files.mono (List.nil_subset _)
      · rename_i found
        obtain ⟨content, held⟩ := Folder.leadsToFile_eq_true (leads.trans (by simpa using found))
        split
        · rename_i log
          refine leads_bind_ok rfl ?_
          rcases configured : start.journal.configure start.folder invocation.verbosity true
            (some (script.parent.child "logs")) with ⟨made, opened, error?⟩
          refine leads_bind_ok rfl ?_
          have asked : journalPlaces invocation.log script =
              [((script.parent.child "logs").child Journal.fileName).place] := if_pos log
          rcases Journal.configure_file configured with ⟨rfl, file, laid⟩ | ⟨error, rfl, files⟩
          · rw [← asked] at laid
            refine leads_readScript held rfl ?_ laid
            rw [asked, Journal.places, file]
            rfl
          · exact leads_of_error (run_bind_error rfl) (by simp) (Folder.sameExcept_of_files _ files)
        · rename_i silent
          have none : journalPlaces invocation.log script = [] := if_neg silent
          refine leads_readScript held rfl ?_ ?_
          · rw [none, fresh]
            rfl
          · rw [none]
            exact Journal.laid_none _

end Run

end Knotwork
