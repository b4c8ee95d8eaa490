import DatasetSearch.Fields
import DatasetSearch.Settings.Basic
import DatasetSearch.Text.Numeral
import DatasetSearch.Text.Percent
import DatasetSearch.Text.Utf8

/-!
Connection strings: a scheme, user information if there is any, hosts, a database and options. A
string whose scheme asks for a service record is accepted only after a look-up in the network,
which is not made here. What the settings add to a string has to fit together with its options.
-/

set_option autoImplicit false
set_option relaxedAutoImplicit false

namespace DatasetSearch.Executor

structure ConnectionString where
  /-- Whether the host is to be looked up as a service record. -/
  service : Bool
  hosts : List String
  options : Fields String
  deriving DecidableEq, Repr

namespace ConnectionString

/-! ### parts -/

/-- Splits around the first place of a character. -/
def cut (c : Char) (cs : List Char) : List Char × Option (List Char) :=
  match cs.dropWhile (· != c) with
  | [] => (cs, none)
  | _ :: rest => (cs.takeWhile (· != c), some rest)

/-- Splits around the last place of a character. -/
def cutLast (c : Char) (cs : List Char) : Option (List Char) × List Char :=
  match cut c cs.reverse with
  | (after, some before) => (some before.reverse, after.reverse)
  | (_, none) => (none, cs)

def percentDecoded? (cs : List Char) : Option (List Char) :=
  Text.Utf8.decode? (Text.Percent.decode (Text.Utf8.encode cs))

def scheme? (cs : List Char) : Option (Bool × List Char) :=
  match cut ':' cs with
  | (name, some ('/' :: '/' :: rest)) =>
    if String.ofList name = "mongodb" then some (false, rest)
    else if String.ofList name = "mongodb+srv" then some (true, rest)
    else none
  | _ => none

def isUserInfo (cs : List Char) : Bool :=
  cs.all (!":/?#[]@".toList.contains ·) && Text.Percent.isClean (Text.Utf8.encode cs) &&
    (percentDecoded? cs).isSome

/-- Empty user information asks for a login without saying whose. -/
def areCredentials (cs : List Char) : Bool :=
  let (name, password) := cut ':' cs
  !name.isEmpty && isUserInfo name && password.all isUserInfo

def isHost (service : Bool) (cs : List Char) : Bool :=
  if (String.ofList cs).endsWith ".sock" then !service
  else match cs.splitOn ':' with
    | [name] => !name.isEmpty
    | [name, port] =>
      !name.isEmpty && !service &&
        match Text.Numeral.read (.unsigned 16) port with
        | .ok n => n != 0
        | .error _ => false
    | _ => false

def isDatabaseName (cs : List Char) : Bool :=
  match percentDecoded? cs with
  | some name => name.all (!"/\\ \"$".toList.contains ·)
  | none => false

/-! ### options -/

inductive OptionKind where
  | flag
  | number (bits : Nat)
  | oneOf (names : List String)
  | text
  deriving Repr

def optionKinds : Fields OptionKind := [
  ("appname", .text), ("authmechanism", .oneOf ["SCRAM-SHA-1", "SCRAM-SHA-256", "MONGODB-X509",
    "PLAIN"]), ("authsource", .text), ("authmechanismproperties", .text),
  ("compressors", .text), ("connecttimeoutms", .number 64), ("directconnection", .flag),
  ("heartbeatfrequencyms", .number 64), ("journal", .flag), ("loadbalanced", .flag),
  ("localthresholdms", .number 64), ("maxconnecting", .number 32), ("maxidletimems", .number 64),
  ("maxpoolsize", .number 32), ("maxstalenessseconds", .number 63), ("minpoolsize", .number 32),
  ("readconcernlevel", .text),
  ("readpreference", .oneOf ["primary", "secondary", "primaryPreferred", "secondaryPreferred",
    "nearest"]),
  ("readpreferencetags", .text), ("replicaset", .text), ("retryreads", .flag),
  ("retrywrites", .flag), ("serverselectiontimeoutms", .number 64),
  ("sockettimeoutms", .number 64), ("srvmaxhosts", .number 32), ("srvservicename", .text),
  ("ssl", .flag), ("tls", .flag), ("tlsallowinvalidcertificates", .flag),
  ("tlscafile", .text), ("tlscertificatekeyfile", .text), ("tlsinsecure", .flag),
  ("uuidrepresentation", .oneOf ["csharpLegacy", "javaLegacy", "pythonLegacy"]), ("w", .text),
  ("waitqueuetimeoutms", .number 64), ("wtimeoutms", .number 64),
  ("zlibcompressionlevel", .number 31)]

def OptionKind.accepts (value : String) : OptionKind → Bool
  | flag => value == "true" || value == "false"
  | number bits =>
    match Text.Numeral.read (.unsigned bits) value.toList with
    | .ok _ => true
    | .error _ => false
  | oneOf names => names.contains value
  | text => true

/-- An option is a known name and a value that fits it. -/
def option? (cs : List Char) : Option (String × String) :=
  match cut '=' cs with
  | (name, some value) => do
    let key := String.ofList (name.map Char.toLower)
    let value := String.ofList (← percentDecoded? value)
    let kind ← Fields.get? key optionKinds
    guard (kind.accepts value && !(key == "authsource" && value.isEmpty))
    return (key, value)
  | (_, none) => none

/-- Options may not be repeated, tags of the read preference apart. -/
def options? (cs : List Char) : Option (Fields String) := do
  let parts := cs.splitOn '&'
  let names := (parts.map fun part ↦ (cut '=' part).1).filter fun name ↦
    String.ofList (name.map Char.toLower) != "readpreferencetags"
  guard (decide names.Nodup)
  parts.mapM option?

def natOption? (options : Fields String) (key : String) : Option Nat :=
  (Fields.get? key options).bind fun value ↦
    match Text.Numeral.read (.unsigned 64) value.toList with
    | .ok n => some n.toNat
    | .error _ => none

def isSet (options : Fields String) (key : String) : Bool :=
  Fields.get? key options == some "true"

/-- A mechanism for logging in needs a name, unless a certificate gives it. -/
def hasLogin (credentials : Option (List Char)) (options : Fields String) : Bool :=
  credentials.isSome ||
    (Fields.get? "authmechanism" options).all (· == "MONGODB-X509")

/-- Pool sizes and the ways of connecting that exclude each other. -/
def fitsTogether (hosts : List String) (options : Fields String) (maxPoolSize : Option Nat) :
    Bool :=
  let single := hosts.length ≤ 1
  let balanced := isSet options "loadbalanced"
  let direct := isSet options "directconnection"
  maxPoolSize.all (fun most ↦
    most != 0 && (natOption? options "minpoolsize").all (· ≤ most)) &&
  (!direct || single) &&
  (!balanced || (single && !direct && (Fields.get? "replicaset" options).isNone)) &&
  (natOption? options "heartbeatfrequencyms").all (500 ≤ ·)

/-! ### whole strings -/

def parse? (s : String) : Option ConnectionString := do
  let (service, rest) ← scheme? s.toList
  let (authority, afterSlash) := cut '/' rest
  guard (afterSlash.isSome || !rest.contains '?')
  let (database, optionText) := cut '?' (afterSlash.getD [])
  guard (isDatabaseName database)
  let (credentials, hostText) := cutLast '@' authority
  guard (credentials.all areCredentials)
  let hosts := hostText.splitOn ','
  guard (hosts.all (isHost service) && (!service || hosts.length == 1))
  let options ← match optionText with
    | none => some []
    | some [] => some []
    | some text => options? text
  let names := hosts.map String.ofList
  guard (hasLogin credentials options)
  guard (fitsTogether names options (natOption? options "maxpoolsize"))
  return ⟨service, names, options⟩

end ConnectionString

/-! ### connecting -/

inductive ConnectFault where
  | connectionString
  | timeout
  | client
  deriving DecidableEq, Repr

/-- A span of seconds that a duration can hold: not negative, and below two to the power 64. -/
def isDuration (seconds : Binary64) : Bool :=
  seconds.isFinite && (!seconds.negative || seconds.isZero) &&
    (let (num, den) := seconds.ratio; num < den <<< 64)

/-- Prepares a client from settings. No server is contacted, and as no look-up is made either, a
string that needs one is refused. -/
def connect (settings : Settings.Database) : Except ConnectFault ConnectionString :=
  match (ConnectionString.parse? settings.connectionString).filter (!·.service) with
  | none => .error .connectionString
  | some parsed =>
    if !isDuration settings.requestTimeout then .error .timeout
    else if !ConnectionString.fitsTogether parsed.hosts parsed.options
        (some settings.maxPoolSize.toNat) then .error .client
    else .ok parsed

end DatasetSearch.Executor
