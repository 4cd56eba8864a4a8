import HeapKit.Memory.Config
import HeapKit.Yaml.Node
import HeapKit.Yaml.Untyped
import HeapKit.Text.ByteSize
import HeapKit.Text.Base64
import HeapKit.Text.Utf8

/-!
# Configuration files

A configuration file is a YAML stream whose first document, if any, is a
mapping from field names to values, read on top of the default configuration.
The names are those of the configuration: `backend`, `source`, `chunk_size`,
`max_block_size`, `debug_memset`, `leak_detection`, `fail_on_leak`,
`abort_on_error`, `backtrace` and `freed_history`.

* A text field takes the text of any scalar; a switch takes a boolean, or one
  of the words `y`, `yes`, `on`, `n`, `no`, `off` in three cases; the history
  size takes an integer, or a float that is cut to an integer; a size takes any
  scalar, read as a byte size. A null leaves a field as it is.
* A mapping key `<<` merges a mapping, or a sequence of mappings, into the
  configuration where it stands. The merge comes after the mapping's other
  keys, whichever place it has (of several, the last counts). A key the
  mapping already has, or an earlier merged mapping gave, is skipped with its
  value, unread. To know them, the mapping's keys are read as untyped values
  first; a key that is a list or a mapping cannot be compared, and stops the
  reading with a runtime error.
* An alias stands for the node of its anchor; an alias met again inside its
  own node is an error.

Problems of kind are collected, one line each: a key that is no field, a field
given twice, a key given twice in one mapping (which stops that mapping from
being read), and a value of the wrong kind. Problems of the stream, a tag that
does not fit its scalar, a bad merge, a collection as a key of an untyped
mapping, and a size that does not read stop the reading at once.
-/

namespace HeapKit.Memory

open HeapKit.Yaml

/-- Why a configuration file could not be read. -/
inductive ConfigFileError where
  /-- The stream is not well-formed, or its nodes cannot be read at all. -/
  | stream (error : YamlError)
  /-- A size field's text is not a byte size. -/
  | size (text : List UInt8) (error : ByteSize.SizeError)
  /-- Values of the wrong kind, one line each. A line quotes at most seven bytes
  of a long value, so it need not be well-formed UTF-8. -/
  | mismatches (lines : List (List UInt8))
  /-- A key to compare was a collection, of the named type. Looked up among no
  keys at all, it is caught before it is hashed (`amongNone`). -/
  | unhashable (typeName : String) (amongNone : Bool)
  deriving Repr

namespace ConfigFileError

/-- The text of an error for a collection used as a key: a lookup among no keys
names the type after a colon, hashing it is a runtime error. -/
def unhashableMessage (typeName : String) (amongNone : Bool) : String :=
  if amongNone then "hash of unhashable type: " ++ typeName
  else "runtime error: hash of unhashable type " ++ typeName

/-- The bytes of the error's text. -/
def messageBytes : ConfigFileError → List UInt8
  | .stream error => Utf8.encode error.message
  | .size text error => Utf8.encode (ByteSize.failureMessage text error)
  | .mismatches lines =>
    Utf8.encode "yaml: unmarshal errors:\n  " ++ (Utf8.encode "\n  ").intercalate lines
  | .unhashable typeName amongNone => Utf8.encode (unhashableMessage typeName amongNone)

end ConfigFileError

/-! ### Fields -/

/-- The fields of a configuration. -/
inductive ConfigField where
  | backend
  | source
  | chunkSize
  | maxBlockSize
  | debugMemset
  | leakDetection
  | failOnLeak
  | abortOnError
  | backtrace
  | freedHistory
  deriving DecidableEq, Repr

/-- What a node is read into: the whole configuration, a value of one kind, or
an untyped value. -/
inductive Target where
  | configuration
  | text
  | switch
  | count
  | size
  | untyped
  deriving DecidableEq, Repr

namespace Target

/-- The name of the type a target stands for, as problems of kind give it. -/
def typeName : Target → String
  | .configuration => "mem.Config"
  | .text => "string"
  | .switch => "bool"
  | .count => "int"
  | .size => "datasize.ByteSize"
  | .untyped => "interface \x7b\x7d"

end Target

namespace ConfigField

/-- The field a key names. -/
def ofKey? : String → Option ConfigField
  | "backend" => some .backend
  | "source" => some .source
  | "chunk_size" => some .chunkSize
  | "max_block_size" => some .maxBlockSize
  | "debug_memset" => some .debugMemset
  | "leak_detection" => some .leakDetection
  | "fail_on_leak" => some .failOnLeak
  | "abort_on_error" => some .abortOnError
  | "backtrace" => some .backtrace
  | "freed_history" => some .freedHistory
  | _ => none

/-- The field a key's bytes name. -/
def ofName? (name : List UInt8) : Option ConfigField :=
  (Utf8.decode? name).bind fun chars => ofKey? (String.ofList chars)

/-- The kind of value a field takes. -/
def target : ConfigField → Target
  | .backend | .source => .text
  | .chunkSize | .maxBlockSize => .size
  | .debugMemset | .leakDetection | .failOnLeak | .abortOnError | .backtrace => .switch
  | .freedHistory => .count

end ConfigField

/-- A value read for a target. -/
inductive Setting where
  | text (value : List UInt8)
  | switch (value : Bool)
  | count (value : Int)
  | size (value : Nat)
  /-- The whole configuration was read into. -/
  | configuration
  | untyped (value : Untyped)
  deriving Repr

/-- Sets a field to a value of its kind; a value of another kind changes nothing. -/
def Config.setField (config : Config) : ConfigField → Setting → Config
  | .backend, .text value => { config with backend := value }
  | .source, .text value => { config with source := value }
  | .chunkSize, .size value => { config with chunkSize := value }
  | .maxBlockSize, .size value => { config with maxBlockSize := value }
  | .debugMemset, .switch value => { config with debugMemset := value }
  | .leakDetection, .switch value => { config with leakDetection := value }
  | .failOnLeak, .switch value => { config with failOnLeak := value }
  | .abortOnError, .switch value => { config with abortOnError := value }
  | .backtrace, .switch value => { config with backtrace := value }
  | .freedHistory, .count value => { config with freedHistory := value }
  | _, _ => config

/-! ### Scalars -/

/-- The words a switch reads as on and as off, besides booleans. -/
def onWords : List String := ["y", "Y", "yes", "Yes", "YES", "on", "On", "ON"]

/-- See `onWords`. -/
def offWords : List String := ["n", "N", "no", "No", "NO", "off", "Off", "OFF"]

/-- The integer a float is cut to, toward zero, for a float not above `2 ^ 63`.
A value below the signed 64-bit range, negative infinity among them, becomes the
smallest integer; NaN and larger values give `none`. -/
def truncatedCount? (value : Binary64) : Option Int :=
  if value.isNaN then none else
  let negative := value.isNegative
  let least : Int := -Int.pow 2 63
  match BinaryFormat.double.decode? value.bits.toNat with
  | none => if negative then some least else none
  | some finite =>
    let magnitude :=
      if 0 ≤ finite.exponent then finite.significand * Nat.pow 2 finite.exponent.toNat
      else finite.significand / Nat.pow 2 (-finite.exponent).toNat
    if !negative && magnitude > Nat.pow 2 63 then none
    else
      let whole : Int := if negative then -(magnitude : Int) else magnitude
      if whole < least || whole ≥ Int.pow 2 63 then some least else some whole

/-- At most ten bytes of a scalar's text, else its first seven and an ellipsis. -/
def clipped (text : String) : List UInt8 :=
  let bytes := Utf8.encode text
  if bytes.length > 10 then bytes.take 7 ++ Utf8.encode "..." else bytes

/-- The problem line for a node of tag `tag` and text `text` that does not fit
a target. -/
def mismatchLine (line : Nat) (tag text : String) (target : Target) : List UInt8 :=
  let shown :=
    if tag == "!!seq" || tag == "!!map" then [] else Utf8.encode " `" ++ clipped text ++ Utf8.encode "`"
  Utf8.encode ("line " ++ toString line ++ ": cannot unmarshal " ++ tag) ++ shown ++
    Utf8.encode (" into " ++ target.typeName)

/-- The untyped value of a resolved scalar written `text`; `bytes` is the text
it stands for. -/
def untypedScalar (text : String) (bytes : List UInt8) : ScalarValue → Untyped
  | .null => .null
  | .boolean value => .boolean value
  | .integer value => .integer value
  | .unsigned value => .unsigned value
  | .float value => .float value
  | .timestamp => .time (Stamp.ofText text)
  | .text _ => .text bytes

/-! ### Reading nodes -/

/-- The state of reading a document into a configuration: the configuration so
far, the problems of kind in reverse, the aliases being followed, counts of
nodes read, of those read inside aliases, and of aliases being followed, and
while a merge is under way the keys it has taken. -/
structure Decoding where
  config : Config := {}
  problems : List (List UInt8) := []
  following : List Nat := []
  nodesRead : Nat := 1
  nodesInAliases : Nat := 0
  aliasDepth : Nat := 0
  merged : Option (List Untyped) := none

/-- Reading steps: they change the state or stop with an error. -/
abbrev DecodeM := StateT Decoding (Except ConfigFileError)

/-- Records a problem of kind. -/
def addProblemBytes (line : List UInt8) : DecodeM Unit :=
  modify fun state => { state with problems := line :: state.problems }

/-- Records a problem of kind. -/
def addProblem (line : String) : DecodeM Unit := addProblemBytes (Utf8.encode line)

/-- Stops with a problem of the stream's nodes. -/
def stopWith {α : Type} (message : String) : DecodeM α := throw (.stream (.plain message))

/-- Whether so many of the nodes read came from aliases that the document looks
built to blow up: over a hundred such nodes, over a thousand in all, and a share
above 99% for up to 400000 nodes, falling evenly to 10% at 4000000. -/
def tooManyAliased (aliased total : Nat) : Bool :=
  aliased > 100 && total > 1000 &&
    (if total ≤ 400000 then 100 * aliased > 99 * total
     else if total ≥ 4000000 then 10 * aliased > total
     else (360000000 * aliased : Int) > (total : Int) * (392000000 - 89 * (total : Int)))

/-- Counts one node read, and stops when aliases account for too many. -/
def countNode : DecodeM Unit := do
  let state ← get
  let nodesRead := state.nodesRead + 1
  let nodesInAliases := if state.aliasDepth > 0 then state.nodesInAliases + 1 else state.nodesInAliases
  set { state with nodesRead, nodesInAliases }
  if tooManyAliased nodesInAliases nodesRead then stopWith "document contains excessive aliasing"

/-- Starts following an alias, which must not be followed already. -/
def enterAlias (name : String) (serial : Nat) : DecodeM Unit := do
  let state ← get
  if state.following.contains serial then
    stopWith ("anchor '" ++ name ++ "' value contains itself")
  set { state with following := serial :: state.following, aliasDepth := state.aliasDepth + 1 }

/-- Stops following an alias. -/
def leaveAlias (serial : Nat) : DecodeM Unit :=
  modify fun state =>
    { state with following := state.following.erase serial, aliasDepth := state.aliasDepth - 1 }

/-- The kind and text by which keys of one mapping are compared. -/
def keyIdentity : Node → Nat × String
  | .scalar _ value _ => (0, value)
  | .sequence _ _ _ => (1, "")
  | .mapping _ _ _ => (2, "")
  | .alias name _ _ _ => (3, name)

/-- The text of a key, for messages. -/
def keyText (node : Node) : String := (keyIdentity node).2

/-- Records every key that repeats an earlier key of the same mapping; says
whether there was one. -/
def checkDuplicateKeys (entries : List (Node × Node)) : DecodeM Bool := do
  let keys := entries.map Prod.fst
  let mut found := false
  for (first, position) in keys.zipIdx do
    for later in keys.drop (position + 1) do
      if keyIdentity first == keyIdentity later then
        addProblem ("line " ++ toString later.line ++ ": mapping key " ++ Quoted.quote (keyText later) ++
          " already defined at line " ++ toString first.line)
        found := true
  return found

/-- Whether a key merges another mapping in. -/
def isMergeKey : Node → Bool
  | .scalar tag value _ => value == "<<" && tag == "!!merge"
  | _ => false

/-- The tag a node shows: its own, or for an alias that of its anchored node. -/
def shownTag (anchors : Array Node) : Node → String
  | .scalar tag _ _ | .sequence tag _ _ | .mapping tag _ _ => tag
  | .alias _ place _ _ =>
    match anchors.getD place default with
    | .scalar tag _ _ | .sequence tag _ _ | .mapping tag _ _ => tag
    | .alias _ _ _ _ => ""

/-- Whether an alias's anchored node is a mapping. -/
def anchorsMapping (anchors : Array Node) (place : Nat) : Bool :=
  match anchors.getD place default with
  | .mapping _ _ _ => true
  | _ => false

/-- Whether every key of a mapping shows the tag of text or of a merge, which
makes the mapping text-keyed when read untyped. -/
def hasTextKeys (anchors : Array Node) (entries : List (Node × Node)) : Bool :=
  entries.all fun (key, _) =>
    let tag := shownTag anchors key
    tag == "!!str" || tag == "!!merge"

/-- Stops with a runtime error when a key to add to the keys taken is a
collection. -/
def requireComparable (key : Untyped) : DecodeM Unit :=
  if key.isCollection then throw (.unhashable key.typeName false) else pure ()

/-- Stops with a runtime error when a key to look up among the keys taken is a
collection; among no keys it is caught before it is hashed. -/
def requireComparableAmong (keys : List Untyped) (key : Untyped) : DecodeM Unit :=
  if key.isCollection then throw (.unhashable key.typeName keys.isEmpty) else pure ()

/-- The bytes a binary scalar encodes. -/
def binaryBytes (text : String) : DecodeM (List UInt8) :=
  match Base64.decode? text with
  | some bytes => pure bytes
  | none => stopWith "!!binary value contains invalid base64 data"

/-- Whether bytes spell one of the words. -/
def spellsWord (words : List String) (bytes : List UInt8) : Bool :=
  words.any fun word => Utf8.encode word == bytes

/-- Reads a scalar into a target; `none` when it is null or does not fit. -/
def readScalar (target : Target) (tag text : String) (line : Nat) : DecodeM (Option Setting) := do
  let (resolvedTag, value) ←
    if tag == "!!str" then pure ("!!str", ScalarValue.text text)
    else
      match resolve tag text with
      | .ok resolved => pure resolved
      | .error error => throw (.stream error)
  let (value, raw) ←
    if resolvedTag == "!!binary" then do
      let decoded ← binaryBytes text
      pure (ScalarValue.text "", decoded)
    else pure (value, Utf8.encode text)
  if target == .untyped then return some (.untyped (untypedScalar text raw value))
  if let .null := value then return none
  let mismatch : DecodeM (Option Setting) := do
    addProblemBytes (mismatchLine line tag text target)
    return none
  match target with
  | .text => return some (.text raw)
  | .size =>
    match ByteSize.parse raw with
    | .ok size => return some (.size size)
    | .error error => throw (.size raw error)
  | .switch =>
    match value with
    | .boolean flag => return some (.switch flag)
    | .text _ =>
      if spellsWord onWords raw then return some (.switch true)
      else if spellsWord offWords raw then return some (.switch false)
      else mismatch
    | _ => mismatch
  | .count =>
    match value with
    | .integer whole => return some (.count whole)
    | .float number =>
      match truncatedCount? number with
      | some whole => return some (.count whole)
      | none => mismatch
    | _ => mismatch
  | .configuration | .untyped => mismatch

/-- Where the entries of a mapping go: the configuration's fields, or an untyped
mapping built so far. -/
inductive MappingOut where
  | configuration
  | untyped (textKeys : Bool) (entries : List (Untyped × Untyped))

/-- The problem line for a key that names no field. -/
def unknownFieldLine (line : Nat) (name : List UInt8) : List UInt8 :=
  Utf8.encode ("line " ++ toString line ++ ": field ") ++ name ++ Utf8.encode " not found in type mem.Config"

/-- The problem line for a field given twice. -/
def repeatedFieldLine (line : Nat) (name : List UInt8) : List UInt8 :=
  Utf8.encode ("line " ++ toString line ++ ": field ") ++ name ++ Utf8.encode " already set in type mem.Config"

mutual

/-- Reads a node into a target; `none` when nothing was read. Reading into the
configuration sets its fields as the mapping gives them. The fuel bounds the
depth of nesting and of aliases followed. -/
def readNode (anchors : Array Node) : Nat → Target → Node → DecodeM (Option Setting)
  | 0, _, _ => stopWith "document nesting too deep"
  | fuel + 1, target, node => do
    countNode
    match node with
    | .alias name place serial _ =>
      enterAlias name serial
      let result ← readNode anchors fuel target (anchors.getD place default)
      leaveAlias serial
      return result
    | .scalar tag text line => readScalar target tag text line
    | .sequence tag items line =>
      if target == .untyped then
        return some (.untyped (.list (← readItems anchors fuel items)))
      addProblemBytes (mismatchLine line tag "" target)
      return none
    | .mapping tag entries line =>
      if ← checkDuplicateKeys entries then return none
      match target with
      | .configuration =>
        let _ ← readEntries anchors fuel .configuration entries
        return some .configuration
      | .untyped =>
        match ← readEntries anchors fuel (.untyped (hasTextKeys anchors entries) []) entries with
        | .untyped textKeys read => return some (.untyped (.map textKeys read))
        | .configuration => return none
      | _ =>
        addProblemBytes (mismatchLine line tag "" target)
        return none

/-- Reads the items of a list untyped; items that read as nothing are left out. -/
def readItems (anchors : Array Node) : Nat → List Node → DecodeM (List Untyped)
  | 0, _ => stopWith "document nesting too deep"
  | fuel + 1, items => do
    let mut values : List Untyped := []
    for item in items do
      if let some (.untyped value) ← readNode anchors fuel .untyped item then
        values := values ++ [value]
    return values

/-- Reads the entries of a mapping into `out`: the keys in order, skipping those
a merge under way has taken, then the last `<<` entry's mapping or mappings. -/
def readEntries (anchors : Array Node) : Nat → MappingOut → List (Node × Node) → DecodeM MappingOut
  | 0, _, _ => stopWith "document nesting too deep"
  | fuel + 1, out, entries => do
    let mut taken := (← get).merged
    modify fun state => { state with merged := none }
    let mut out := out
    let mut mergeValue : Option Node := none
    let mut done : List ConfigField := []
    for (key, value) in entries do
      if isMergeKey key then
        mergeValue := some value
        continue
      match out with
      | .configuration =>
        let some (.text name) ← readNode anchors fuel .text key | continue
        if let some keys := taken then
          if keys.any (Untyped.sameKey (.text name)) then continue
          taken := some (keys ++ [.text name])
        match ConfigField.ofName? name with
        | none => addProblemBytes (unknownFieldLine key.line name)
        | some field =>
          if done.contains field then
            addProblemBytes (repeatedFieldLine key.line name)
            continue
          done := field :: done
          if let some setting ← readNode anchors fuel field.target value then
            modify fun state => { state with config := state.config.setField field setting }
      | .untyped textKeys read =>
        let keyValue? : Option Untyped ←
          if textKeys then do
            match ← readNode anchors fuel .text key with
            | some (.text name) => pure (some (.text name))
            | _ => pure none
          else do
            match ← readNode anchors fuel .untyped key with
            | some (.untyped keyValue) => pure (some keyValue)
            | _ => pure none
        let some keyValue := keyValue? | continue
        if let some keys := taken then
          requireComparableAmong keys keyValue
          if keys.any (Untyped.sameKey keyValue) then continue
          taken := some (keys ++ [keyValue])
        if keyValue.isCollection then
          stopWith ("invalid map key: " ++ keyValue.literal (fuel + 1))
        match ← readNode anchors fuel .untyped value with
        | some (.untyped entryValue) => out := .untyped textKeys (Untyped.put read keyValue entryValue)
        | _ =>
          if shownTag anchors value == "!!null" && !(read.any fun entry => entry.1.sameKey keyValue) then
            out := .untyped textKeys (Untyped.put read keyValue .null)
    modify fun state => { state with merged := taken }
    match mergeValue with
    | none => return out
    | some value => mergeEntries anchors fuel out entries value

/-- Merges the value of a `<<` entry into `out`. When no merge is under way, the
keys of the mapping `entries` are read untyped first and taken. -/
def mergeEntries (anchors : Array Node) : Nat → MappingOut → List (Node × Node) → Node → DecodeM MappingOut
  | 0, _, _, _ => stopWith "document nesting too deep"
  | fuel + 1, out, entries, value => do
    let fresh := (← get).merged.isNone
    if fresh then
      modify fun state => { state with merged := some [] }
      for (key, _) in entries do
        if let some (.untyped keyValue) ← readNode anchors fuel .untyped key then
          requireComparable keyValue
          modify fun state => { state with merged := state.merged.map (· ++ [keyValue]) }
    let wantMap : DecodeM MappingOut := stopWith "map merge requires map or sequence of maps as the value"
    let out ← match value with
      | .mapping _ _ _ => mergeOne anchors fuel out value
      | .alias _ place _ _ =>
        if anchorsMapping anchors place then mergeOne anchors fuel out value else wantMap
      | .sequence _ items _ => do
        let mut out := out
        for item in items do
          match item with
          | .mapping _ _ _ => pure ()
          | .alias _ place _ _ => if !anchorsMapping anchors place then let _ ← wantMap
          | _ => let _ ← wantMap
          out ← mergeOne anchors fuel out item
        pure out
      | _ => wantMap
    if fresh then modify fun state => { state with merged := none }
    return out

/-- Reads one merged mapping, given directly or by an alias, into `out`. -/
def mergeOne (anchors : Array Node) : Nat → MappingOut → Node → DecodeM MappingOut
  | 0, _, _ => stopWith "document nesting too deep"
  | fuel + 1, out, node => do
    countNode
    match node with
    | .alias name place serial _ =>
      enterAlias name serial
      let result ← mergeOne anchors fuel out (anchors.getD place default)
      leaveAlias serial
      return result
    | .mapping _ entries _ =>
      if ← checkDuplicateKeys entries then return out
      readEntries anchors fuel out entries
    | _ => return out

end

/-- Reads a configuration on top of the default configuration from what reading
a stream gave: an error, no document, or a document. `bound` bounds the size of
the stream and so the depth of its nodes and aliases. -/
def Config.ofDocument (bound : Nat) : Except YamlError (Option Document) → Except ConfigFileError Config
  | .error error => .error (.stream error)
  | .ok none => .ok Config.default
  | .ok (some document) =>
    match (readNode document.anchors ((bound + 2) * (bound + 2)) .configuration document.root).run {} with
    | .error error => .error error
    | .ok (_, state) =>
      if state.problems.isEmpty then .ok state.config else .error (.mismatches state.problems.reverse)

/-- Reads a configuration file given as text. -/
def Config.ofYaml (text : String) : Except ConfigFileError Config :=
  Config.ofDocument text.length (Document.read? text)

/-- Reads a configuration file given as bytes. -/
def Config.ofYamlBytes (bytes : List UInt8) : Except ConfigFileError Config :=
  Config.ofDocument bytes.length (Document.readBytes? bytes)

end HeapKit.Memory
