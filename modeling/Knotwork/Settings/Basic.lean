import Knotwork.Path
import Knotwork.Story.Explore
import Knotwork.Value.Literal

/-!
Settings of a compilation: what a settings file and the environment say.
-/

namespace Knotwork

abbrev Environment := Table Text

def Environment.filled? (environment : Environment) (name : Text) : Option Text :=
  match environment.find? name with
  | some (c :: rest) => some (c :: rest)
  | _ => none

structure Settings where
  entry : Value := .text Script.defaultEntry
  format : Value := .text "json"
  outputDir : Path := { parts := ["build"] }
  validate : Bool := true
  metadata : Table Text := Table.empty

inductive SettingsError where
  | metadataNotMap
  | validateNotBool (value : Value)
  | outputDirNotText (value : Value)
  | integerTooLong

namespace SettingsError

def kindOf : Value → Text
  | .null => "NoneType"
  | .bool _ => "bool"
  | .int _ => "int"
  | .float _ => "float"
  | .text _ => "str"
  | .bytes _ => "bytes"
  | .moment value => if value.clock.isSome then "datetime" else "date"
  | .list _ => "list"
  | .map _ => "dict"
  | .collection value => value.kind

def message : SettingsError → Text
  | .metadataNotMap => "'metadata' must be a mapping"
  | .validateNotBool value => "'validate' must be true or false, got " ++ value.literal
  | .outputDirNotText (.bytes _) =>
      "argument should be a str object or an os.PathLike object returning str, not <class 'bytes'>"
  | .outputDirNotText value =>
      "expected str, bytes or os.PathLike object, not " ++ kindOf value
  | .integerTooLong => Value.tooLongMessage

end SettingsError

namespace Settings

def readMetadata (value : Value) : Except SettingsError (Table Text) :=
  match value with
  | .map members =>
      if Value.isTooLong (.map members) then .error .integerTooLong
      else .ok (Table.ofPairs (members.map fun (key, value) => (key.plainKey, value.plain)))
  -- Nothing at all counts as no metadata.
  | value => if value.isVoid then .ok Table.empty else .error .metadataNotMap

def readValidate (value : Option Value) : Except SettingsError Bool :=
  match value with
  | none => .ok true
  | some (.bool value) => .ok value
  | some value => .error (if value.isTooLong then .integerTooLong else .validateNotBool value)

def readOutputDir (value : Option Value) : Except SettingsError Path :=
  match value with
  | none => .ok { parts := ["build"] }
  | some (.text path) => .ok (Path.ofText path)
  | some value => .error (.outputDirNotText value)

/-- Settings from the members of a settings file. The environment wins over the file. Metadata that is
no map is found out first, but its texts are made last. -/
def ofMembers (members : List (Value × Value)) (environment : Environment) :
    Except SettingsError Settings := do
  let metadata := readMetadata ((Value.member? "metadata" members).getD .null)
  if let .error .metadataNotMap := metadata then throw .metadataNotMap
  let validate ← readValidate (Value.member? "validate" members)
  let chosen (override key standard : Text) : Value :=
    match environment.filled? override with
    | some text => .text text
    | none => (Value.member? key members).getD (.text standard)
  let outputDir ← readOutputDir (Value.member? "output_dir" members)
  return { entry := chosen "BIGIF_ENTRY_KNOT" "entry" Script.defaultEntry
           format := chosen "BIGIF_OUTPUT_FORMAT" "format" "json"
           outputDir, validate, metadata := ← metadata }

end Settings

end Knotwork
