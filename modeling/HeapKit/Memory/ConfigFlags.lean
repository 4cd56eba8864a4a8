import HeapKit.Memory.ConfigFile
import HeapKit.Text.Integer

/-!
# Configuration flags

Each field of a configuration has a command-line flag: its name with dashes for
underscores, after a scope that is `mem.` unless another is given
(`-mem.backend`, `-mem.chunk-size`, `-mem.freed-history`, ...). A flag's name
may not start with a dash or hold `=`: a scope that makes one so cannot be
used, and the first such name is reported.

Arguments are read from the front. A flag starts with one or two dashes; a lone
`--` ends the flags and is dropped, and the first argument that is no flag
(`-` alone among them) ends them too. A value follows `=` or, for a flag that
is no switch, comes as the next argument; a switch without a value is turned
on. Reading stops at the first problem: a malformed flag, an unknown name
(`-h` and `-help` ask for help), a missing value, or a value that does not
read. A value that does not read still leaves its mark: off for a switch, zero
or the nearest bound for the history size, zero or the largest size for a
size. The arguments after those read are left over.
-/

namespace HeapKit.Memory

namespace ConfigField

/-- Every field, in the order of the configuration. -/
def all : List ConfigField :=
  [.backend, .source, .chunkSize, .maxBlockSize, .debugMemset, .leakDetection, .failOnLeak,
   .abortOnError, .backtrace, .freedHistory]

/-- The name of a field's flag, after the scope. -/
def flagName : ConfigField → String
  | .backend => "backend"
  | .source => "source"
  | .chunkSize => "chunk-size"
  | .maxBlockSize => "max-block-size"
  | .debugMemset => "debug-memset"
  | .leakDetection => "leak-detection"
  | .failOnLeak => "fail-on-leak"
  | .abortOnError => "abort-on-error"
  | .backtrace => "backtrace"
  | .freedHistory => "freed-history"

end ConfigField

/-- Why a scope cannot be used: the problem with the first flag name it makes
unusable, if any. -/
def scopeProblem? (scope : String) : Option String :=
  let names := ConfigField.all.map fun field => scope ++ field.flagName
  match names.find? fun name => name.startsWith "-" || name.contains '=' with
  | none => none
  | some name =>
    if name.startsWith "-" then some ("flag " ++ Quoted.quote name ++ " begins with -")
    else some ("flag " ++ Quoted.quote name ++ " contains =")

/-- Why reading flags stopped. -/
inductive FlagError where
  /-- An argument with dashes but no proper name. -/
  | malformed (argument : String)
  /-- `-h` or `-help` where no such flag is defined. -/
  | helpRequested
  /-- A name with no flag. -/
  | undefined (name : String)
  /-- A flag that needs a value came last, without one. -/
  | missingValue (name : String)
  /-- A switch's value is not a truth value. -/
  | badSwitch (value name : String)
  /-- A value that does not read, and why. -/
  | badValue (value name reason : String)
  deriving DecidableEq, Repr

namespace FlagError

/-- The text of the error. -/
def message : FlagError → String
  | .malformed argument => "bad flag syntax: " ++ argument
  | .helpRequested => "flag: help requested"
  | .undefined name => "flag provided but not defined: -" ++ name
  | .missingValue name => "flag needs an argument: -" ++ name
  | .badSwitch value name => "invalid boolean value " ++ Quoted.quote value ++ " for -" ++ name ++ ": parse error"
  | .badValue value name reason =>
    "invalid value " ++ Quoted.quote value ++ " for flag -" ++ name ++ ": " ++ reason

end FlagError

/-- The configuration after reading flags, the arguments left over, and the
problem that stopped the reading, if one did. -/
structure FlagReading where
  config : Config
  rest : List String
  error : Option FlagError := none
  deriving Repr

/-- Sets a field from a flag's value text; the reason when the text does not
read, the field then set as a failed reading leaves it. -/
def Config.setFromText (config : Config) (field : ConfigField) (value : String) :
    Config × Option String :=
  match field.target with
  | .size =>
    match ByteSize.parse (Utf8.encode value) with
    | .ok size => (config.setField field (.size size), none)
    | .error error =>
      (config.setField field (.size error.leftValue),
        some (ByteSize.failureMessage (Utf8.encode value) error))
  | .count =>
    match IntegerText.parseSigned value 0 64 with
    | .ok whole => (config.setField field (.count whole), none)
    | .error .malformed => (config.setField field (.count 0), some "parse error")
    | .error (.range bound) => (config.setField field (.count bound), some "value out of range")
  | .switch =>
    match IntegerText.parseBool? value with
    | some flag => (config.setField field (.switch flag), none)
    | none => (config.setField field (.switch false), some "parse error")
  | _ => (config.setField field (.text (Utf8.encode value)), none)

/-- Splits a flag's name from a value after the first `=` past its first character. -/
def splitValue (name : List Char) : List Char × Option String :=
  match name with
  | [] => ([], none)
  | first :: rest =>
    match rest.findIdx? (· == '=') with
    | some position => (first :: rest.take position, some (String.ofList (rest.drop (position + 1))))
    | none => (name, none)

/-- Reads flags in the scope `scope` from the front of the arguments. -/
def Config.readFlags (scope : String) : Config → List String → FlagReading
  | config, [] => { config, rest := [] }
  | config, argument :: rest =>
    match argument.toList with
    | '-' :: second :: more =>
      if second == '-' && more.isEmpty then { config, rest }
      else
        let nameChars := if second == '-' then more else second :: more
        match nameChars with
        | [] | '-' :: _ | '=' :: _ =>
          { config, rest := argument :: rest, error := some (.malformed argument) }
        | _ =>
          let (nameChars, value?) := splitValue nameChars
          let name := String.ofList nameChars
          match ConfigField.all.find? (fun field => scope ++ field.flagName == name) with
          | none =>
            let error := if name == "help" || name == "h" then FlagError.helpRequested else .undefined name
            { config, rest, error := some error }
          | some field =>
            if field.target == .switch then
              match value? with
              | none => Config.readFlags scope (config.setField field (.switch true)) rest
              | some value =>
                match config.setFromText field value with
                | (config, none) => Config.readFlags scope config rest
                | (config, some _) => { config, rest, error := some (.badSwitch value name) }
            else
              match value? with
              | some value =>
                match config.setFromText field value with
                | (config, none) => Config.readFlags scope config rest
                | (config, some reason) => { config, rest, error := some (.badValue value name reason) }
              | none =>
                match rest with
                | value :: after =>
                  match config.setFromText field value with
                  | (config, none) => Config.readFlags scope config after
                  | (config, some reason) =>
                    { config, rest := after, error := some (.badValue value name reason) }
                | [] => { config, rest := [], error := some (.missingValue name) }
    | _ => { config, rest := argument :: rest }

end HeapKit.Memory
