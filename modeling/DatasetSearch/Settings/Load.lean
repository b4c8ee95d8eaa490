import DatasetSearch.FileTree
import DatasetSearch.Settings.Document
import DatasetSearch.Settings.Overrides
import DatasetSearch.Text.Utf8

/-!
Where settings come from. The first of the candidate paths that exists is the settings file, and no
other is looked at, whatever the first one holds; without any the defaults are taken. Variables of
the environment override the file, and the outcome has to be valid.
-/

set_option autoImplicit false
set_option relaxedAutoImplicit false

namespace DatasetSearch.Settings

inductive LoadFault where
  | isDirectory
  | notText
  | notYaml
  | invalid (fault : Fault)
  deriving DecidableEq, Repr

def pathVariable : String := environmentStart ++ "SETTINGS_PATH"

/-- The names and values that surround a program, and the files it sees. -/
structure Surroundings where
  lookup : String → Option String
  /-- The home directory of the account, for when the environment names none. -/
  accountHome : Option String := none
  files : FileTree
  workingDirectory : List String

/-- The directory for configuration files: the one that is set, if its path is absolute, and else
the usual one under the home directory. -/
def configDirectory? (lookup : String → Option String) (accountHome : Option String := none) :
    Option String :=
  match (lookup "XDG_CONFIG_HOME").filter FileTree.isAbsolute with
  | some path => some path
  | none =>
    (((lookup "HOME").filter (!·.isEmpty)).or accountHome).map (FileTree.join · ".config")

def defaultPaths (lookup : String → Option String) (accountHome : Option String := none) :
    List String :=
  ["settings.yml", "config/settings.yml"] ++
    ((configDirectory? lookup accountHome).map
      (FileTree.join · "catalog-search/settings.yml")).toList

namespace Surroundings

variable (surroundings : Surroundings)

/-- A path that is named explicitly comes before the default ones. -/
def candidates : List String :=
  (surroundings.lookup pathVariable).toList ++
    defaultPaths surroundings.lookup surroundings.accountHome

def find? (path : String) : Option FileTree :=
  surroundings.files.find? surroundings.workingDirectory path

end Surroundings

def ofBytes (content : List UInt8) : Except LoadFault Settings :=
  match Text.Utf8.decode? content with
  | none => .error .notText
  | some text =>
    match ofYaml? (String.ofList text) with
    | none => .error .notYaml
    | some settings => .ok settings

def ofFile : FileTree → Except LoadFault Settings
  | .directory _ => .error .isDirectory
  | .file content => ofBytes content

/-- The settings before overrides. -/
def start (surroundings : Surroundings) : Except LoadFault Settings :=
  match surroundings.candidates.findSome? surroundings.find? with
  | none => .ok {}
  | some file => ofFile file

def load (surroundings : Surroundings) : Except LoadFault Settings := do
  let settings := (← start surroundings).merge fun name ↦
    surroundings.lookup (environmentStart ++ name)
  match settings.validate with
  | .ok () => return settings
  | .error fault => .error (.invalid fault)

end DatasetSearch.Settings
