import DatasetSearch.Settings.Basic
import DatasetSearch.Text.Numeral

/-!
Variables of the environment that override settings. Each variable sets one field; a port that does
not read as a 16-bit number leaves the port as it is.
-/

set_option autoImplicit false
set_option relaxedAutoImplicit false

namespace DatasetSearch.Settings

inductive Override where
  | port
  | bindAddress
  | connectionString
  | database
  | collection
  | searchIndex
  deriving DecidableEq, Repr

namespace Override

def name : Override → String
  | port => "PORT"
  | bindAddress => "BIND_ADDRESS"
  | connectionString => "CONNECTION_STRING"
  | database => "DATABASE"
  | collection => "COLLECTION"
  | searchIndex => "SEARCH_INDEX"

/-- The overrides in the order in which they are looked up. -/
def all : List Override :=
  [port, bindAddress, connectionString, database, collection, searchIndex]

def readPort (value : String) : Option UInt16 :=
  match Text.Numeral.read (.unsigned 16) value.toList with
  | .ok n => some (UInt16.ofNat n.toNat)
  | .error _ => none

def apply (settings : Settings) (value : String) : Override → Settings
  | port =>
    { settings with server :=
      { settings.server with port := (readPort value).getD settings.server.port } }
  | bindAddress => { settings with server := { settings.server with bindAddress := value } }
  | connectionString =>
    { settings with database := { settings.database with connectionString := value } }
  | database => { settings with database := { settings.database with databaseName := value } }
  | collection => { settings with database := { settings.database with collection := value } }
  | searchIndex => { settings with database := { settings.database with searchIndex := value } }

end Override

/-- Looks one variable up and applies it if it is set. -/
def mergeOne (lookup : String → Option String) (settings : Settings) (override : Override) :
    Settings :=
  match lookup override.name with
  | some value => override.apply settings value
  | none => settings

def merge (lookup : String → Option String) (settings : Settings) : Settings :=
  Override.all.foldl (mergeOne lookup) settings

end DatasetSearch.Settings
