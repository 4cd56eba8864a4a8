import HeapKit.Yaml.Scanner
import HeapKit.Text.Utf8

/-!
# Scanning node properties and directives

A node may carry an anchor (`&name`) that later aliases (`*name`) refer to, and
a tag: verbatim (`!<uri>`), with a named handle (`!!str`, `!h!suffix`), or local
(`!suffix`, or `!` alone). Tag characters may be written as `%` escapes of the
bytes of their UTF-8 encoding.

A directive line starts with `%` at the first column: `%YAML major.minor` or
`%TAG handle expansion`.
-/

namespace HeapKit.Yaml

/-! ### Anchors and aliases -/

/-- Whether an anchor or alias name may end before `c`. -/
def endsAnchor (c : Char) : Bool :=
  isBlankOrEnd c || c == '?' || c == ':' || c == ',' || c == ']' || c == '}' || c == '%' ||
    c == '@' || c == '`'

/-- Scans an anchor or an alias: a non-empty name of word characters. -/
def scanAnchor (isAlias : Bool) : ScanM Token := do
  let start := (← get).mark
  skip
  let name ← readWhile isWordChar "" (← stepBound)
  let stop := (← get).mark
  if name.isEmpty || !endsAnchor (← current) then
    scanError start "did not find expected alphabetic or numeric character"
  return { kind := if isAlias then .alias name else .anchor name, start, stop }

/-! ### Tags -/

/-- Characters that may stand in a tag: word characters and the URI marks,
flow indicators `,`, `[` and `]` among them, even inside a flow collection. -/
def isTagChar (c : Char) : Bool :=
  isWordChar c || ";/?:@&=+$,.!~*'()[]%".contains c

/-- The number of bytes of a UTF-8 sequence with this first byte, zero when it
can start none. -/
def sequenceWidth (byte : Nat) : Nat :=
  if byte < 0x80 then 1
  else if byte / 0x20 == 0x6 then 2
  else if byte / 0x10 == 0xE then 3
  else if byte / 0x08 == 0x1E then 4
  else 0

/-- Reads the `%`-escaped bytes of one character of a tag. -/
def escapedBytes (start : Mark) (width : Nat) : List UInt8 → Nat → ScanM (List UInt8)
  | bytes, 0 => pure bytes
  | bytes, count + 1 => do
    ensure 3
    let scanner ← get
    if !(scanner.ahead 0 == '%' && isHexDigit (scanner.ahead 1) && isHexDigit (scanner.ahead 2)) then
      scanError start "did not find URI escaped octet"
    let byte := hexValue (scanner.ahead 1) * 16 + hexValue (scanner.ahead 2)
    let width ← if bytes.isEmpty then
        let width := sequenceWidth byte
        if width == 0 then scanError start "found an incorrect leading UTF-8 octet"
        pure width
      else
        if byte / 0x40 != 2 then scanError start "found an incorrect trailing UTF-8 octet"
        pure width
    skip
    skip
    skip
    let bytes := bytes ++ [byte.toUInt8]
    if bytes.length == width then pure bytes else escapedBytes start width bytes count

/-- Reads a `%`-escaped character of a tag. Its bytes need only look like a
UTF-8 sequence; each byte of one that is not well-formed reads as U+FFFD. -/
def readEscapedChar (start : Mark) : ScanM String := do
  let bytes ← escapedBytes start 0 [] 4
  pure (String.ofList (Utf8.decodeLossy bytes))

/-- Reads the characters of a tag after `head` (without its leading `!`). -/
def tagText (start : Mark) : String → Nat → ScanM String
  | text, 0 => pure text
  | text, fuel + 1 => do
    let c ← current
    if !isTagChar c then return text
    if c == '%' then
      let escaped ← readEscapedChar start
      tagText start (text ++ escaped) fuel
    else
      let c ← readChar
      tagText start (text.push c) fuel

/-- Scans the text of a tag after an optional head. Some text is required. -/
def scanTagText (head : String) (start : Mark) : ScanM String := do
  let text ← tagText start (head.drop 1).toString (← stepBound)
  if text.isEmpty && head.isEmpty then scanError start "did not find expected tag URI"
  return text

/-- Scans a tag handle: `!`, `!!` or `!word!`. In a directive nothing else may
stand there; in a tag the `!word` read may turn out to start the suffix. -/
def scanTagHandle (directive : Bool) (start : Mark) : ScanM String := do
  if (← current) != '!' then scanError start "did not find expected '!'"
  skip
  let handle ← readWhile isWordChar "!" (← stepBound)
  if (← current) == '!' then
    skip
    return handle.push '!'
  if directive && handle != "!" then scanError start "did not find expected '!'"
  return handle

/-- Scans a tag into its handle and suffix. -/
def scanTag : ScanM Token := do
  let start := (← get).mark
  let (handle, suffix) ←
    if (← peekAhead 1) == '<' then do
      skip
      skip
      let suffix ← scanTagText "" start
      if (← current) != '>' then scanError start "did not find the expected '>'"
      skip
      pure ("", suffix)
    else do
      let handle ← scanTagHandle false start
      if handle.length > 1 && handle.front == '!' && handle.back == '!' then
        let suffix ← scanTagText "" start
        pure (handle, suffix)
      else
        let suffix ← scanTagText handle start
        if suffix.isEmpty then pure ("", "!") else pure ("!", suffix)
  let c ← current
  if !isBlankOrEnd c && ((← get).flowLevel == 0 || c != ',') then
    scanError start "did not find expected whitespace or line break"
  return { kind := .tag handle suffix, start, stop := (← get).mark }

/-! ### Directives -/

/-- Reads one number of a `%YAML` version: one or two digits. -/
def versionNumber (start : Mark) : ScanM Nat := do
  let digits ← readWhile isDigit "" 3
  if digits.length > 2 then scanError start "found extremely long version number"
  if digits.isEmpty then scanError start "did not find expected version number"
  return digits.foldl (fun value digit => value * 10 + (digit.toNat - '0'.toNat)) 0

/-- Scans a directive line: `%YAML` or `%TAG`, then the rest of the line up to a
comment or line break. -/
def scanDirective : ScanM Token := do
  let start := (← get).mark
  skip
  let name ← readWhile isWordChar "" (← stepBound)
  if name.isEmpty then scanError start "could not find expected directive name"
  if !isBlankOrEnd (← current) then scanError start "found unexpected non-alphabetical character"
  let kind ← if name == "YAML" then do
      skipWhile isBlank (← stepBound)
      let major ← versionNumber start
      if (← current) != '.' then scanError start "did not find expected digit or '.' character"
      skip
      let minor ← versionNumber start
      pure (TokenKind.versionDirective major minor)
    else if name == "TAG" then do
      skipWhile isBlank (← stepBound)
      let handle ← scanTagHandle true start
      if !isBlank (← current) then scanError start "did not find expected whitespace"
      skipWhile isBlank (← stepBound)
      let expansion ← scanTagText "" start
      if !isBlankOrEnd (← current) then
        scanError start "did not find expected whitespace or line break"
      pure (TokenKind.tagDirective handle expansion)
    else scanError start "found unknown directive name"
  let stop := (← get).mark
  skipWhile isBlank (← stepBound)
  if (← current) == '#' then skipWhile (fun c => !isBreakOrEnd c) (← stepBound)
  if !isBreakOrEnd (← current) then scanError start "did not find expected comment or line break"
  skipLine
  return { kind, start, stop }

end HeapKit.Yaml
