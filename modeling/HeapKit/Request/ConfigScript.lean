import HeapKit.Memory.ConfigFlags
import HeapKit.Request.MemoryConfig
import HeapKit.Request.MemorySession

/-!
# Configuration requests

These requests show the default configuration, read one from a file's text,
validate one given as an object, or read one from command-line flags.

Reading a file fails in three ways: the text does not decode into a
configuration (kind `error`, the message after `decode mem config: `, with each
byte that is not UTF-8 shown as U+FFFD), a key to compare is a collection (a
runtime error), or the configuration decoded is not valid (the kind of the
validation error). A file named by a path is looked for on a small file system
of the usual top-level directories and a few below them, and the devices
`/dev/null` (empty) and `/dev/zero` and `/dev/full` (zero bytes without end);
opening fails when a name along the path is missing or is a file, and reading
fails for a directory.

Validation errors given as `err` or `validate` have every address-like
`0x…` in their message hidden, as everywhere outside a session.
-/

namespace HeapKit.Request

open HeapKit.Memory

/-- A message with every address hidden; outside a session no handle can be named. -/
def hideAddresses (message : String) : String := (default : Session).scrub message

/-- A validation result as an answer field. -/
def validationJson (config : Config) : Json :=
  match config.validate with
  | none => .null
  | some error => .object [("kind", .string error.kindName), ("message", .string (hideAddresses error.message))]

/-- The answer to a configuration file's bytes. -/
def configFileAnswer (bytes : List UInt8) : Outcome Json :=
  match Config.ofYamlBytes bytes with
  | .error (.unhashable typeName amongNone) =>
    .error (.runtime (ConfigFileError.unhashableMessage typeName amongNone))
  | .error error =>
    .ok (.object [("error", .string "error"),
      ("message", .string (String.ofList (Utf8.decodeLossy (Utf8.encode "decode mem config: " ++ error.messageBytes))))])
  | .ok config =>
    match config.validate with
    | some error => .error (.library error.kindName error.message)
    | none => .ok (.object [("config", configJson config)])

/-- What a path leads to. -/
inductive PathTarget where
  | directory
  /-- A file, and its bytes. -/
  | file (bytes : List UInt8)
  /-- A name along the path does not exist. -/
  | missing
  /-- A name along the path, other than the last, is a file. -/
  | notDirectory
  deriving Repr, Inhabited

/-- The directories of the file system requests see, as their names from the
root. -/
def knownDirectories : List (List String) :=
  [[], ["bin"], ["boot"], ["dev"], ["etc"], ["home"], ["lib"], ["lib64"], ["media"], ["mnt"],
   ["opt"], ["proc"], ["root"], ["run"], ["sbin"], ["srv"], ["sys"], ["tmp"], ["usr"], ["var"],
   ["dev", "pts"], ["dev", "shm"], ["proc", "self"], ["usr", "bin"], ["usr", "lib"],
   ["usr", "local"], ["usr", "sbin"], ["usr", "share"], ["var", "lib"], ["var", "log"],
   ["var", "tmp"]]

/-- What reading a device gives at most: zero bytes without end are read as
this many, far more than a reader looks at before it stops on the first. -/
def zeroDeviceLength : Nat := 4096

/-- The files of the file system requests see, with their bytes. -/
def knownFiles : List (List String × List UInt8) :=
  [(["dev", "null"], []), (["dev", "zero"], List.replicate zeroDeviceLength 0),
   (["dev", "full"], List.replicate zeroDeviceLength 0)]

/-- The bytes of a known file. -/
def fileBytes? (place : List String) : Option (List UInt8) :=
  (knownFiles.find? fun (name, _) => name == place).map Prod.snd

/-- Walks the names of a path from a directory. An empty name or `.` stays
where it is, `..` goes up (the root is its own parent, and the working
directory, empty, lies under the root), and any other name must exist; only a
directory may be walked on from. -/
def walkPath : Option (List String) → List String → PathTarget
  | none, [] => .directory
  | some place, [] =>
    if knownDirectories.contains place then .directory
    else
      match fileBytes? place with
      | some bytes => .file bytes
      | none => .missing
  | place, name :: rest =>
    let isDirectory := match place with
      | none => true
      | some place => knownDirectories.contains place
    if !isDirectory then .notDirectory
    else if name == "" || name == "." then walkPath place rest
    else if name == ".." then walkPath (some ((place.getD []).dropLast)) rest
    else
      match place with
      | none => .missing
      | some place =>
        let next := place ++ [name]
        if knownDirectories.contains next || (fileBytes? next).isSome then walkPath (some next) rest
        else .missing

/-- What a path leads to: an absolute path is walked from the root, another
from the working directory. -/
def resolvePath (path : String) : PathTarget :=
  if path.isEmpty then .missing
  else
    match path.splitOn "/" with
    | "" :: names => walkPath (some []) names
    | names => walkPath none names

/-- The answer to opening a configuration file by its path. -/
def configPathAnswer (path : String) : Outcome Json :=
  let failure (message : String) : Outcome Json :=
    .ok (.object [("error", .string "error"), ("message", .string message)])
  if path.contains (Char.ofNat 0) then failure ("open mem config: open " ++ path ++ ": invalid argument")
  else
    match resolvePath path with
    | .directory => failure ("decode mem config: yaml: input error: read " ++ path ++ ": is a directory")
    | .file bytes => configFileAnswer bytes
    | .missing => failure ("open mem config: open " ++ path ++ ": no such file or directory")
    | .notDirectory => failure ("open mem config: open " ++ path ++ ": not a directory")

/-- `default_config`: the default configuration. -/
def defaultConfigRequest (_request : Json) : Outcome Json :=
  .ok (.object [("config", configJson Config.default)])

/-- A string field of a request, with a default. -/
def stringField (request : Json) (name : String) (default : String) : Outcome String :=
  match fieldOf request name with
  | none => .ok default
  | some (.string text) => .ok text
  | some _ => refuse s!"field \"{name}\" is not a string"

/-- `parse_config`: reads the configuration in `yaml`, which must be given. -/
def parseConfigRequest (request : Json) : Outcome Json := do
  let _ ← requiredField request "yaml"
  configFileAnswer (Utf8.encode (← stringField request "yaml" ""))

/-- `load_config`: reads the configuration in a file that holds `yaml` when it
is given, else in the file at `path`. -/
def loadConfigRequest (request : Json) : Outcome Json := do
  let path ← stringField request "path" ""
  match fieldOf request "yaml" with
  | some _ => configFileAnswer (Utf8.encode (← stringField request "yaml" ""))
  | none => configPathAnswer path

/-- `validate_config`: validates the configuration object `config`. -/
def validateConfigRequest (request : Json) : Outcome Json := do
  let config ← readConfigFields ((fieldOf request "config").getD (.object []))
  .ok (.object [("err", validationJson config)])

/-- `flags`: reads the flags `args` in the scope `prefix`, `mem.` by default.
The arguments must be a list, the scope is read next, and then every argument
must be a string. -/
def flagsRequest (request : Json) : Outcome Json := do
  let readArgument : Json → Outcome String
    | .string text => .ok text
    | _ => refuse "args must be strings"
  let _ ← requiredField request "args"
  let items ← listField request "args"
  let scope ← match fieldOf request "prefix" with
    | none => pure "mem."
    | some (.string scope) => pure scope
    | some _ => refuse "field \"prefix\" is not a string"
  let arguments ← readEach readArgument items
  if let some problem := scopeProblem? scope then throw (.abort problem)
  let reading := Config.default.readFlags scope arguments
  let fields := [("config", configJson reading.config),
    ("rest", .array (reading.rest.map Json.string)), ("validate", validationJson reading.config)]
  let errorField := match reading.error with
    | some error => [("parse_error", Json.string error.message)]
    | none => []
  .ok (.object (fields ++ errorField))

end HeapKit.Request
