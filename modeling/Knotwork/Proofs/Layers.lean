import Knotwork.Command.Execute
import Knotwork.Proofs.Files

/-! What settings come to. A setting is given by an option, a variable of the environment, a settings
file, or not at all. Main statements: settings that are loaded are those of these layers, and a
settings file that was read was there before the journal was opened. -/

namespace Knotwork

theorem Format.ofName_eq_ok {name : Text} {format : Format} (known : ofName name = .ok format) :
    format.name = name := by
  unfold ofName at known
  split at known
  · rename_i found
    cases known
    simpa using List.find?_some found
  · cases known

namespace Settings

def layered (option : Option Text) (environment : Environment) (override key standard : Text)
    (members : List (Value × Value)) : Value :=
  match option with
  | some (c :: rest) => .text (c :: rest)
  | _ =>
      match environment.filled? override with
      | some text => .text text
      | none => (Value.member? key members).getD (.text standard)

/-- The settings file of a run is the one that is named, or else the one beside the script, and these
are its members. Nothing at all beside the script counts as a file without members. -/
def Given (value : Text → Except Text Value) (folder : Folder) (script : Path) (file : Option Path)
    (members : List (Value × Value)) : Prop :=
  (∃ text, folder.file? (file.getD (beside script)).place = some text ∧
      value text = .ok (.map members)) ∨
    (file = none ∧ folder.leadsSomewhere (beside script) = .ok false ∧ members = [])

variable {value : Text → Except Text Value} {folder before after : Folder}
  {environment : Environment} {settings : Settings} {members : List (Value × Value)} {script : Path}
  {file : Option Path}

/-- Settings as the layers give them. Only the entry and the format have more layers than the settings
file, and options other than the entry are not looked at here. -/
structure Drawn (option : Option Text) (environment : Environment) (members : List (Value × Value))
    (settings : Settings) : Prop where
  entry : settings.entry =
    layered option environment "BIGIF_ENTRY_KNOT" "entry" Script.defaultEntry members
  format : settings.format = layered none environment "BIGIF_OUTPUT_FORMAT" "format" "json" members
  outputDir : readOutputDir (Value.member? "output_dir" members) = .ok settings.outputDir
  validate : readValidate (Value.member? "validate" members) = .ok settings.validate
  metadata : readMetadata ((Value.member? "metadata" members).getD .null) = .ok settings.metadata

theorem ofMembers_eq_ok (made : ofMembers members environment = .ok settings) :
    settings.Drawn none environment members := by
  unfold ofMembers at made
  dsimp only at made
  split at made
  · cases made
  · simp only [Except.bind_eq_ok] at made
    obtain ⟨validate, valid, directory, placed, metadata, described, made⟩ := made
    cases made
    exact ⟨rfl, rfl, placed, valid, described⟩

theorem load_eq_ok {path? : Option Path}
    (loaded : load value folder environment path? = .ok settings) :
    ∃ members, ofMembers members environment = .ok settings ∧
      (path? = none ∧ members = [] ∨
        ∃ path text, path? = some path ∧ folder.file? path.place = some text ∧
          value text = .ok (.map members)) := by
  unfold load at loaded
  split at loaded
  · rw [Except.mapError_eq_ok] at loaded
    exact ⟨[], loaded, Or.inl ⟨rfl, rfl⟩⟩
  · rename_i path
    split at loaded
    · cases loaded
    · cases loaded
    · rw [Except.mapError_eq_ok, loadFile] at loaded
      simp only [Except.bind_eq_ok, Except.mapError_eq_ok] at loaded
      obtain ⟨text, found, content, read, loaded⟩ := loaded
      split at loaded
      · cases loaded
      · rename_i members
        rw [Except.mapError_eq_ok] at loaded
        exact ⟨members, loaded, Or.inr ⟨path, text, rfl, Folder.read_eq_ok found, read⟩⟩
      · cases loaded

theorem choose_eq_ok {path? : Option Path} (chosen : choose folder script file = .ok path?) :
    path? = some (file.getD (beside script)) ∨
      (path? = none ∧ file = none ∧ folder.leadsSomewhere (beside script) = .ok false) := by
  unfold choose at chosen
  split at chosen
  · cases chosen
    exact Or.inl rfl
  · rw [look, Except.bind_eq_ok] at chosen
    obtain ⟨there, found, chosen⟩ := chosen
    cases chosen
    cases there with
    | true => exact Or.inl rfl
    | false => exact Or.inr ⟨rfl, rfl, found⟩

theorem given_and_drawn {path? : Option Path} (chosen : choose folder script file = .ok path?)
    (loaded : load value folder environment path? = .ok settings) :
    ∃ members, Given value folder script file members ∧ settings.Drawn none environment members := by
  obtain ⟨members, made, origin⟩ := load_eq_ok loaded
  refine ⟨members, ?_, ofMembers_eq_ok made⟩
  rcases choose_eq_ok chosen with rfl | ⟨rfl, unnamed, nowhere⟩
  · rcases origin with ⟨absent, _⟩ | ⟨path, text, same, held, read⟩
    · cases absent
    · cases same
      exact Or.inl ⟨text, held, read⟩
  · rcases origin with ⟨_, empty⟩ | ⟨path, text, same, _⟩
    · exact Or.inr ⟨unnamed, nowhere, empty⟩
    · cases same

theorem Given.of_laid {places : List Path} (empty : value [] = .ok .null)
    (laid : Journal.Laid places before after) (given : Given value after script file members) :
    Given value before script file members := by
  rcases given with ⟨text, held, read⟩ | ⟨unnamed, nowhere, none⟩
  · refine Or.inl ⟨text, ?_, read⟩
    by_cases opened : (file.getD (beside script)).place ∈ places
    · have content := (laid.opened _ opened).symm.trans held
      cases old : before.file? (file.getD (beside script)).place with
      | some text => simpa [old] using content
      | none =>
          rw [old] at content
          cases content
          cases empty.symm.trans read
    · rw [← laid.same _ opened, held]
  · exact Or.inr ⟨unnamed, laid.extended.leadsSomewhere_eq_false nowhere, none⟩

end Settings

end Knotwork
