/-!
# YAML tokens

The scanner cuts a YAML character stream into tokens: the stream and document
markers, directives, the starts of block collections and the end that closes
them, the brackets of flow collections, the entry, key and value indicators,
anchors, aliases, tags and scalars.

Every token carries the marks where it starts and where it stops. A mark counts
characters, lines and columns from zero; a carriage return followed by a line
feed counts as two characters of one line break.
-/

namespace HeapKit.Yaml

/-- A position in the character stream, every count from zero. -/
structure Mark where
  index : Nat := 0
  line : Nat := 0
  column : Nat := 0
  deriving Repr, Inhabited, DecidableEq

/-- How a scalar was written. -/
inductive ScalarStyle where
  | plain
  | singleQuoted
  | doubleQuoted
  | literal
  | folded
  deriving Repr, Inhabited, DecidableEq

/-- The kinds of tokens, with what each one carries. -/
inductive TokenKind where
  | streamStart
  | streamEnd
  | versionDirective (major minor : Nat)
  | tagDirective (handle expansion : String)
  | documentStart
  | documentEnd
  | blockSequenceStart
  | blockMappingStart
  | blockEnd
  | flowSequenceStart
  | flowSequenceEnd
  | flowMappingStart
  | flowMappingEnd
  | blockEntry
  | flowEntry
  | key
  | value
  | alias (name : String)
  | anchor (name : String)
  | tag (handle suffix : String)
  | scalar (text : String) (style : ScalarStyle)
  deriving Repr, Inhabited, DecidableEq

/-- A token and the marks where it starts and stops. -/
structure Token where
  kind : TokenKind
  start : Mark
  stop : Mark
  deriving Repr, Inhabited

/-- Why a stream could not be read: a problem at a mark, found while reading
something that started at another mark, or a problem with no position. -/
inductive YamlError where
  /-- A problem the scanner or the parser found. The context mark is where the
  construct being read started; the problem mark is where reading stopped. -/
  | located (fromScanner : Bool) (context problemAt : Mark) (problem : String)
  /-- A problem stated on its own. -/
  | plain (message : String)
  deriving Repr, Inhabited

namespace YamlError

/-- The line number an error names: the line of its context, else the line of its
problem, counted from one for scanner errors; the first line is never named. -/
def lineNumber : YamlError → Nat
  | .located fromScanner context problemAt _ =>
    let step := if fromScanner then 1 else 0
    if context.line != 0 then context.line + step
    else if problemAt.line != 0 then problemAt.line + step
    else 0
  | .plain _ => 0

/-- The text of an error. -/
def message (error : YamlError) : String :=
  match error with
  | .located _ _ _ problem =>
    let line := error.lineNumber
    "yaml: " ++ (if line != 0 then "line " ++ toString line ++ ": " else "") ++ problem
  | .plain text => "yaml: " ++ text

end YamlError

end HeapKit.Yaml
