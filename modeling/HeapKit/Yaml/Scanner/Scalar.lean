import HeapKit.Yaml.Scanner

/-!
# Scanning scalars

Scalars come in five styles. A plain scalar runs until a `: ` or a comment, in
flow context also until a flow indicator, and continues on following lines that
are indented deeper than the enclosing block. A quoted scalar runs to its
closing quote: single-quoted ones escape a quote by doubling it, double-quoted
ones know backslash escapes. A block scalar (`|` literal, `>` folded) takes the
following more indented lines, with an optional indentation indicator and an
optional chomping indicator for its final line breaks.

Line breaks inside plain, quoted and folded scalars are folded: a single break
between two pieces of text becomes a space, and each further break a line feed.
-/

namespace HeapKit.Yaml

/-- The parts a scalar is assembled from while its lines are read: the text so
far, the first line break after it, the breaks after that, and the blanks after
it when no break came. -/
structure Folding where
  text : String := ""
  leadingBreak : String := ""
  trailingBreaks : String := ""
  whitespace : String := ""
  leadingBlanks : Bool := false
  deriving Repr, Inhabited

namespace Folding

/-- What joins the text to the piece after a line break: a single line feed
folds into a space, further breaks stay as they are. -/
def folded (folding : Folding) : String :=
  if folding.leadingBreak.front == '\n' && !folding.leadingBreak.isEmpty then
    if folding.trailingBreaks.isEmpty then " " else folding.trailingBreaks
  else folding.leadingBreak ++ folding.trailingBreaks

/-- Adds what stands between the text and the next piece: the folded breaks
after a line break, else the blanks. -/
def join (folding : Folding) : Folding :=
  if folding.leadingBlanks then
    { folding with text := folding.text ++ folding.folded, leadingBreak := "", trailingBreaks := "",
                   leadingBlanks := false }
  else { folding with text := folding.text ++ folding.whitespace, whitespace := "" }

end Folding

/-- Whether the scanner stands at `---` or `...` followed by a blank or break. -/
def Scanner.atDocumentIndicator (scanner : Scanner) : Bool :=
  ((scanner.ahead 0 == '-' && scanner.ahead 1 == '-' && scanner.ahead 2 == '-') ||
    (scanner.ahead 0 == '.' && scanner.ahead 1 == '.' && scanner.ahead 2 == '.')) &&
  isBlankOrEnd (scanner.ahead 3)

/-- Reads blanks and line breaks between pieces of a scalar. Blanks before the
first break are kept; blanks after it are indentation. With a column bound, a
tab in the indentation before that column is an error. -/
def foldBlanks (tabCheck : Option (Int × Mark)) : Folding → Nat → ScanM Folding
  | folding, 0 => pure folding
  | folding, fuel + 1 => do
    let c ← current
    if isBlank c then
      if let some (indent, start) := tabCheck then
        if folding.leadingBlanks && ((← get).mark.column : Int) < indent && c == '\t' then
          scanError start "found a tab character that violates indentation"
      if !folding.leadingBlanks then
        let c ← readChar
        foldBlanks tabCheck { folding with whitespace := folding.whitespace.push c } fuel
      else
        skip
        foldBlanks tabCheck folding fuel
    else if isBreak c then
      let line ← readBreak
      if !folding.leadingBlanks then
        foldBlanks tabCheck { folding with whitespace := "", leadingBreak := line, leadingBlanks := true } fuel
      else
        foldBlanks tabCheck { folding with trailingBreaks := folding.trailingBreaks ++ line } fuel
    else pure folding

/-! ### Plain scalars -/

/-- Whether a plain scalar ends before the character `c`, followed by `next`. -/
def endsPlain (flow : Bool) (c next : Char) : Bool :=
  (c == ':' && isBlankOrEnd next) ||
  (flow && (c == ',' || c == '?' || c == '[' || c == ']' || c == '{' || c == '}'))

/-- Reads the non-blank characters of a plain scalar, returning the mark after
the last one read. -/
def plainWord (flow : Bool) : Folding → Mark → Nat → ScanM (Folding × Mark)
  | folding, stop, 0 => pure (folding, stop)
  | folding, stop, fuel + 1 => do
    let c ← current
    if isBlankOrEnd c || endsPlain flow c (← peekAhead 1) then return (folding, stop)
    let folding := folding.join
    let c ← readChar
    ensure 2
    plainWord flow { folding with text := folding.text.push c } (← get).mark fuel

/-- Reads the pieces of a plain scalar line by line. -/
def plainLines (indent : Int) (start : Mark) : Folding → Mark → Nat → ScanM (Folding × Mark)
  | folding, stop, 0 => pure (folding, stop)
  | folding, stop, fuel + 1 => do
    ensure 4
    let scanner ← get
    if scanner.mark.column == 0 && scanner.atDocumentIndicator then return (folding, stop)
    if scanner.ahead 0 == '#' then return (folding, stop)
    let (folding, stop) ← plainWord (scanner.flowLevel > 0) folding stop (← stepBound)
    let c ← current
    if !(isBlank c || isBreak c) then return (folding, stop)
    let folding ← foldBlanks (some (indent, start)) folding (← stepBound)
    let scanner ← get
    if scanner.flowLevel == 0 && (scanner.mark.column : Int) < indent then return (folding, stop)
    plainLines indent start folding stop fuel

/-- Scans a plain scalar. One that ran over a line break lets a simple key follow. -/
def scanPlainScalar : ScanM Token := do
  let scanner ← get
  let start := scanner.mark
  let (folding, stop) ← plainLines (scanner.indent + 1) start {} start (← stepBound)
  if folding.leadingBlanks then modify fun scanner => { scanner with keyAllowed := true }
  return { kind := .scalar folding.text .plain, start, stop }

/-! ### Quoted scalars -/

/-- The text of a one-letter escape in a double-quoted scalar. -/
def escapeText? : Char → Option String
  | '0' => some (Char.ofNat 0).toString
  | 'a' => some (Char.ofNat 7).toString
  | 'b' => some (Char.ofNat 8).toString
  | 't' => some "\t"
  | '\t' => some "\t"
  | 'n' => some "\n"
  | 'v' => some (Char.ofNat 11).toString
  | 'f' => some (Char.ofNat 12).toString
  | 'r' => some "\r"
  | 'e' => some (Char.ofNat 27).toString
  | ' ' => some " "
  | '"' => some "\""
  | '\'' => some "'"
  | '\\' => some "\\"
  | 'N' => some (Char.ofNat 0x85).toString
  | '_' => some (Char.ofNat 0xA0).toString
  | 'L' => some (Char.ofNat 0x2028).toString
  | 'P' => some (Char.ofNat 0x2029).toString
  | _ => none

/-- The number of hexadecimal digits after `x`, `u` and `U` escapes. -/
def escapeDigits : Char → Nat
  | 'x' => 2
  | 'u' => 4
  | 'U' => 8
  | _ => 0

/-- Reads a character given by hexadecimal digits after an escape. -/
def readCodeEscape (start : Mark) (width : Nat) : ScanM Char := do
  ensure width
  let scanner ← get
  let digits := (List.range width).map scanner.ahead
  if !digits.all isHexDigit then scanError start "did not find expected hexdecimal number"
  let code := digits.foldl (fun code digit => code * 16 + hexValue digit) 0
  if (0xD800 ≤ code && code ≤ 0xDFFF) || code > 0x10FFFF then
    scanError start "found invalid Unicode character escape code"
  skipWhile (fun _ => true) width
  return Char.ofNat code

/-- Reads the non-blank characters of a quoted scalar, up to a blank, a break or
the closing quote. Says also whether it stopped at an escaped line break. -/
def quotedWord (single : Bool) (start : Mark) : String → Nat → ScanM (String × Bool)
  | text, 0 => pure (text, false)
  | text, fuel + 1 => do
    let c ← current
    let next ← peekAhead 1
    if isBlankOrEnd c then return (text, false)
    else if single && c == '\'' && next == '\'' then
      skip
      skip
      quotedWord single start (text.push '\'') fuel
    else if single && c == '\'' then return (text, false)
    else if !single && c == '"' then return (text, false)
    else if !single && c == '\\' && isBreak next then
      skip
      skipLine
      return (text, true)
    else if !single && c == '\\' then
      match escapeText? next with
      | some escaped =>
        skip
        skip
        quotedWord single start (text ++ escaped) fuel
      | none =>
        let width := escapeDigits next
        if width == 0 then scanError start "found unknown escape character"
        skip
        skip
        let code ← readCodeEscape start width
        quotedWord single start (text.push code) fuel
    else
      let c ← readChar
      quotedWord single start (text.push c) fuel

/-- Reads a quoted scalar up to its closing quote. -/
def quotedLines (single : Bool) (start : Mark) : Folding → Nat → ScanM String
  | folding, 0 => pure folding.text
  | folding, fuel + 1 => do
    let scanner ← get
    if scanner.mark.column == 0 && scanner.atDocumentIndicator then
      scanError start "found unexpected document indicator"
    if scanner.ahead 0 == endOfInput then scanError start "found unexpected end of stream"
    let (text, escapedBreak) ← quotedWord single start folding.text (← stepBound)
    let c ← current
    if (single && c == '\'') || (!single && c == '"') then return text
    let folding ← foldBlanks none { folding with text, leadingBlanks := escapedBreak } (← stepBound)
    quotedLines single start folding.join fuel

/-- Scans a single- or double-quoted scalar. -/
def scanQuotedScalar (single : Bool) : ScanM Token := do
  let start := (← get).mark
  skip
  let text ← quotedLines single start {} (← stepBound)
  skip
  return { kind := .scalar text (if single then .singleQuoted else .doubleQuoted), start,
           stop := (← get).mark }

/-! ### Block scalars -/

/-- Reads the indentation spaces of a block scalar line, stopping at a known
indentation. -/
def skipIndentation (indent : Nat) : Nat → ScanM Unit
  | 0 => pure ()
  | fuel + 1 => do
    let scanner ← get
    if (indent == 0 || scanner.mark.column < indent) && scanner.ahead 0 == ' ' then
      skip
      skipIndentation indent fuel

/-- Reads the empty lines and the indentation before a line of a block scalar.
An indentation of zero is not known yet and is set from the deepest of these
lines, at least one more than the enclosing block. Returns the indentation, the
breaks read and the mark after the last break. -/
def blockGap (start : Mark) (blockIndent : Int) (indent : Nat) (breaks : String) (stop : Mark)
    (deepest : Nat) : Nat → ScanM (Nat × String × Mark)
  | 0 => pure (indent, breaks, stop)
  | fuel + 1 => do
    skipIndentation indent (← stepBound)
    let scanner ← get
    let deepest := max deepest scanner.mark.column
    if (indent == 0 || scanner.mark.column < indent) && scanner.ahead 0 == '\t' then
      scanError start "found a tab character where an indentation space is expected"
    if !isBreak (scanner.ahead 0) then
      let indent :=
        if indent == 0 then max (max deepest (blockIndent + 1).toNat) 1 else indent
      return (indent, breaks, stop)
    let line ← readBreak
    blockGap start blockIndent indent (breaks ++ line) (← get).mark deepest fuel

/-- The lines of a block scalar, while they start at its indentation. -/
structure BlockLines where
  text : String := ""
  leadingBreak : String := ""
  trailingBreaks : String := ""
  leadingBlank : Bool := false
  stop : Mark := {}

/-- Reads the lines of a block scalar. Folded scalars join two lines that both
start without a blank by a space, unless empty lines stand between them. -/
def blockLines (literal : Bool) (start : Mark) (blockIndent : Int) (indent : Nat) :
    BlockLines → Nat → ScanM BlockLines
  | lines, 0 => pure lines
  | lines, fuel + 1 => do
    let scanner ← get
    if scanner.mark.column != indent || scanner.ahead 0 == endOfInput then return lines
    let trailingBlank := isBlank (scanner.ahead 0)
    let joined :=
      if !literal && !lines.leadingBlank && !trailingBlank && lines.leadingBreak.front == '\n' &&
          !lines.leadingBreak.isEmpty then
        if lines.trailingBreaks.isEmpty then " " else ""
      else lines.leadingBreak
    let text := lines.text ++ joined ++ lines.trailingBreaks
    let leadingBlank := isBlank (scanner.ahead 0)
    let text ← readWhile (fun c => !isBreakOrEnd c) text (← stepBound)
    let leadingBreak ← readBreak
    let (_, trailingBreaks, stop) ←
      blockGap start blockIndent indent "" (← get).mark 0 (← stepBound)
    blockLines literal start blockIndent indent
      { text, leadingBreak, trailingBreaks, leadingBlank, stop } fuel

/-- Reads the indicators after `|` or `>`: chomping (`+` keep, `-` strip) and an
indentation digit, in either order. -/
def blockIndicators (start : Mark) : ScanM (Int × Nat) := do
  let c ← current
  let digit (d : Char) : ScanM Nat := do
    if d == '0' then scanError start "found an indentation indicator equal to 0"
    skip
    return d.toNat - '0'.toNat
  if c == '+' || c == '-' then
    skip
    let d ← current
    let increment ← if isDigit d then digit d else pure 0
    return (if c == '+' then 1 else -1, increment)
  else if isDigit c then
    let increment ← digit c
    let e ← current
    if e == '+' || e == '-' then
      skip
      return (if e == '+' then 1 else -1, increment)
    return (0, increment)
  else return (0, 0)

/-- Scans a literal or folded block scalar. -/
def scanBlockScalar (literal : Bool) : ScanM Token := do
  let start := (← get).mark
  skip
  let (chomping, increment) ← blockIndicators start
  skipWhile isBlank (← stepBound)
  if (← current) == '#' then skipWhile (fun c => !isBreakOrEnd c) (← stepBound)
  if !isBreakOrEnd (← current) then scanError start "did not find expected comment or line break"
  if isBreak (← current) then skipLine
  let scanner ← get
  let blockIndent := scanner.indent
  let indent : Nat :=
    if increment > 0 then
      if blockIndent ≥ 0 then (blockIndent + increment).toNat else increment
    else 0
  let (indent, trailingBreaks, stop) ←
    blockGap start blockIndent indent "" scanner.mark 0 (← stepBound)
  let lines ← blockLines literal start blockIndent indent { trailingBreaks, stop } (← stepBound)
  let text := lines.text ++ (if chomping != -1 then lines.leadingBreak else "") ++
    (if chomping == 1 then lines.trailingBreaks else "")
  return { kind := .scalar text (if literal then .literal else .folded), start, stop := lines.stop }

end HeapKit.Yaml
