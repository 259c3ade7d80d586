import ChartParams.Yaml.Token.Scalar

/-!
# Tags, anchors and directives in YAML texts
-/

namespace ChartParams.Yaml

/-- The characters of the part of a tag after its handle, beside the letters and digits. Inside
angle brackets a few more are allowed. -/
def isTagChar (isVerbatim : Bool) (c : Char) : Bool :=
  isWordChar c || [';', '/', '?', ':', '@', '&', '=', '+', '$', '.', '!', '~', '*', '\'', '(', ')',
    '%'].contains c || (isVerbatim && [',', '[', ']'].contains c)

def asciiBytes (text : List Char) : TagBytes := text.map fun c => UInt8.ofNat c.toNat

/-- The number of bytes that follow the first byte of a character. -/
def followers? (lead : Nat) : Option Nat :=
  if lead < 0x80 then some 0
  else if 0xC0 ≤ lead ∧ lead < 0xE0 then some 1
  else if 0xE0 ≤ lead ∧ lead < 0xF0 then some 2
  else if 0xF0 ≤ lead ∧ lead < 0xF8 then some 3
  else none

/-- The bytes of a part of a tag, where a percent sign and two hexadecimal digits write a byte. So
many bytes are `missing` from the character before, and have to be written that way. -/
def decodePercent (missing : Nat) : List Char → Option TagBytes
  | [] => if missing = 0 then some [] else none
  | '%' :: high :: low :: rest => do
      let high ← hexDigit? high
      let low ← hexDigit? low
      let byte := high * 16 + low
      let missing ←
        if missing = 0 then followers? byte
        else if 0x80 ≤ byte ∧ byte < 0xC0 then some (missing - 1)
        else none
      let bytes ← decodePercent missing rest
      some (UInt8.ofNat byte :: bytes)
  | c :: rest =>
      if missing = 0 ∧ c ≠ '%' then do
        let bytes ← decodePercent 0 rest
        some (UInt8.ofNat c.toNat :: bytes)
      else
        none

def tagRest (isVerbatim : Bool) (cursor : Cursor) : Option (TagBytes × Cursor) := do
  let (found, cursor) := cursor.takeWhile (isTagChar isVerbatim)
  let bytes ← decodePercent 0 found
  some (bytes, cursor)

def upToNull (bytes : TagBytes) : TagBytes := bytes.takeWhile (· != 0)

/-- The handle of a tag: an exclamation mark, then letters and digits and another one or not. -/
def tagHandle (cursor : Cursor) : Option (List Char × Cursor) :=
  if cursor.sees '!' 0 then
    let (name, cursor) := (cursor.skip 1).takeWhile isWordChar
    if cursor.sees '!' 0 then
      some ('!' :: name ++ ['!'], cursor.skip 1)
    else
      some ('!' :: name, cursor)
  else
    none

/-- A tag: one in angle brackets, or a handle with a rest. The tag that is only an exclamation mark
has an empty handle. -/
def scanTag (inFlow : Bool) (cursor : Cursor) : Option (Token × Cursor) := do
  let (token, cursor) ←
    if cursor.sees '<' 1 then do
      let (uri, cursor) ← tagRest true (cursor.skip 2)
      if uri.isEmpty ∨ !cursor.sees '>' 0 then
        none
      else
        some (Token.tag [] (upToNull uri), cursor.skip 1)
    else do
      let (handle, cursor) ← tagHandle cursor
      if 1 < handle.length ∧ handle.getLast? = some '!' then do
        let (rest, cursor) ← tagRest false cursor
        if rest.isEmpty then none else some (Token.tag handle (upToNull rest), cursor)
      else do
        let (rest, cursor) ← tagRest false cursor
        let rest := upToNull (asciiBytes (handle.drop 1) ++ rest)
        if rest.isEmpty then
          some (Token.tag [] (asciiBytes ['!']), cursor)
        else
          some (Token.tag ['!'] rest, cursor)
  if cursor.atGap 0 || (inFlow && cursor.sees ',' 0) then some (token, cursor) else none

def scanName (cursor : Cursor) : Option (List Char × Cursor) :=
  let (name, cursor) := cursor.takeWhile isWordChar
  let mayFollow (c : Char) : Bool :=
    ['?', ':', ',', ']', '\x7d', '%', '@', Char.ofNat 0x60].contains c
  if name.isEmpty ∨ !(cursor.atGap 0 || cursor.looksLike mayFollow 0) then
    none
  else
    some (name, cursor)

def versionNumber (cursor : Cursor) : Option (Nat × Cursor) :=
  let (digits, cursor) := cursor.takeWhile Char.isDigit
  if digits.isEmpty ∨ 9 < digits.length then
    none
  else
    some (digits.foldl (fun total c => total * 10 + (c.toNat - '0'.toNat)) 0, cursor)

def endOfDirective (cursor : Cursor) : Option Cursor :=
  let cursor := cursor.skipWhile isSpaceOrTab
  let cursor := if cursor.sees '#' 0 then cursor.skipWhile fun c => !isBreak c else cursor
  if cursor.atLineEnd 0 then some cursor.skipBreak else none

/-- A directive, from its percent sign: the version of the text or a handle of tags. -/
def scanDirective (cursor : Cursor) : Option (Token × Cursor) := do
  let (name, cursor) := (cursor.skip 1).takeWhile isWordChar
  if !cursor.atGap 0 then
    none
  else if name = ['Y', 'A', 'M', 'L'] then do
    let (major, cursor) ← versionNumber (cursor.skipWhile isSpaceOrTab)
    if !cursor.sees '.' 0 then
      none
    else
      let (minor, cursor) ← versionNumber (cursor.skip 1)
      let cursor ← endOfDirective cursor
      some (.version major minor, cursor)
  else if name = ['T', 'A', 'G'] then do
    let (handle, cursor) ← tagHandle (cursor.skipWhile isSpaceOrTab)
    if (handle ≠ ['!'] ∧ handle.getLast? ≠ some '!') ∨ !cursor.looksLike isSpaceOrTab 0 then
      none
    else
      let (stem, cursor) ← tagRest true (cursor.skipWhile isSpaceOrTab)
      if stem.isEmpty ∨ !cursor.atGap 0 then
        none
      else
        let cursor ← endOfDirective cursor
        some (.tagHandle handle (upToNull stem), cursor)
  else
    none

end ChartParams.Yaml
