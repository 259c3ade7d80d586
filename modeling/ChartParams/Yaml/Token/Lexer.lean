import ChartParams.Yaml.Token.Tag

/-!
# The tokens of a YAML text

Blocks show in the text only by their indentation, and a key only by the colon after it. The lexer
therefore keeps the columns of the open blocks, and for every level of brackets the place where a
key may have begun; when a colon follows, the tokens of the key are put in at that place.
-/

namespace ChartParams.Yaml

structure KeyStart where
  /-- Whether nothing but a key can stand here. -/
  isRequired : Bool
  /-- The number of tokens before it. -/
  position : Nat
  index : Nat
  line : Nat
  column : Nat

structure Lexer where
  cursor : Cursor
  tokens : Array Token
  /-- The column of the innermost block, below zero at the top. -/
  indent : Int
  /-- The columns of the blocks around it. -/
  outer : List Int
  keyAllowed : Bool
  /-- The key that may have begun outside of all open brackets, or in the innermost ones. -/
  keyStart : Option KeyStart
  /-- The keys that may have begun in the brackets around those. -/
  outerKeys : List (Option KeyStart)

namespace Lexer

/-- The longest text of a key on one line, in bytes. -/
def maxKeyLength : Nat := 1024

def start (text : List Char) : Lexer := ⟨.start text, #[], -1, [], true, none, []⟩

def inFlow (lexer : Lexer) : Bool := !lexer.outerKeys.isEmpty

def push (lexer : Lexer) (token : Token) : Lexer := { lexer with tokens := lexer.tokens.push token }

def moveTo (lexer : Lexer) (cursor : Cursor) : Lexer := { lexer with cursor := cursor }

def pushSkip (lexer : Lexer) (token : Token) (n : Nat) : Lexer :=
  (lexer.push token).moveTo (lexer.cursor.skip n)

def allowKey (lexer : Lexer) (allowed : Bool) : Lexer := { lexer with keyAllowed := allowed }

/-- Open a block at a column that is further right than the innermost block. Its token is put in
before the token number `position`. -/
def openBlock (lexer : Lexer) (column position : Nat) (token : Token) : Lexer :=
  if !lexer.inFlow && lexer.indent < column then
    { lexer with
      indent := column
      outer := lexer.indent :: lexer.outer
      tokens := lexer.tokens.insertIdxIfInBounds position token }
  else
    lexer

def openBlockHere (lexer : Lexer) (token : Token) : Lexer :=
  lexer.openBlock lexer.cursor.column lexer.tokens.size token

def closeBlocks (lexer : Lexer) (column : Int) : Lexer :=
  if lexer.inFlow then
    lexer
  else
    let columns := lexer.indent :: lexer.outer
    let kept := columns.dropWhile (column < ·)
    { lexer with
      indent := kept.headD (-1)
      outer := kept.tail
      tokens := lexer.tokens ++ Array.replicate (columns.length - kept.length) Token.blockEnd }

/-- Give up the key that may have begun. It must not have been required. -/
def dropKey (lexer : Lexer) : Option Lexer :=
  if lexer.keyStart.any (·.isRequired) then none else some { lexer with keyStart := none }

def noteKey (lexer : Lexer) : Option Lexer :=
  if lexer.keyAllowed then do
    let lexer ← lexer.dropKey
    let here := lexer.cursor
    some { lexer with
      keyStart := some
        { isRequired := !lexer.inFlow && lexer.indent == here.column
          position := lexer.tokens.size
          index := here.index
          line := here.line
          column := here.column } }
  else
    some lexer

/-- Whether the text since the start of a key is on one line and not too long. -/
def isOneLine (lexer : Lexer) (key : KeyStart) : Bool :=
  key.line == lexer.cursor.line && lexer.cursor.index ≤ key.index + maxKeyLength

/-- Go over blanks, comments and line breaks. A tab counts as blank only where no key may start. A
byte order mark at the start of a line is left out but moves what follows by one column. -/
def skipGap (lexer : Lexer) : Nat → Lexer
  | 0 => lexer
  | rounds + 1 =>
      let cursor := lexer.cursor
      let cursor :=
        if cursor.column = 0 ∧ cursor.sees byteOrderMark 0 then cursor.skip 1 else cursor
      let tabsAllowed := lexer.inFlow || !lexer.keyAllowed
      let cursor := cursor.skipWhile fun c => c == ' ' || (tabsAllowed && c == '\t')
      let cursor := if cursor.sees '#' 0 then cursor.skipWhile fun c => !isBreak c else cursor
      if cursor.looksLike isBreak 0 then
        let keyAllowed := !lexer.inFlow || lexer.keyAllowed
        skipGap ((lexer.moveTo cursor.skipBreak).allowKey keyAllowed) rounds
      else
        lexer.moveTo cursor

def betweenDocuments (lexer : Lexer) : Option Lexer := do
  let lexer ← (lexer.closeBlocks (-1)).dropKey
  some (lexer.allowKey false)

def directive (lexer : Lexer) : Option Lexer := do
  let lexer ← lexer.betweenDocuments
  let (token, cursor) ← scanDirective lexer.cursor
  some ((lexer.push token).moveTo cursor)

def documentMark (lexer : Lexer) (token : Token) : Option Lexer := do
  let lexer ← lexer.betweenDocuments
  some (lexer.pushSkip token 3)

def openFlow (lexer : Lexer) (token : Token) : Option Lexer := do
  let lexer ← lexer.noteKey
  let lexer := { lexer with
    keyStart := none
    outerKeys := lexer.keyStart :: lexer.outerKeys }
  some ((lexer.allowKey true).pushSkip token 1)

def closeFlow (lexer : Lexer) (token : Token) : Option Lexer := do
  let lexer ← lexer.dropKey
  let lexer := match lexer.outerKeys with
    | [] => lexer
    | key :: rest => { lexer with keyStart := key, outerKeys := rest }
  some ((lexer.allowKey false).pushSkip token 1)

def flowEntry (lexer : Lexer) : Option Lexer := do
  let lexer ← lexer.dropKey
  some ((lexer.allowKey true).pushSkip .flowEntry 1)

/-- Open a block for an indicator, which has to stand where a key may start. -/
def openForIndicator (lexer : Lexer) (token : Token) : Option Lexer :=
  if lexer.inFlow then
    some lexer
  else if lexer.keyAllowed then
    some (lexer.openBlockHere token)
  else
    none

def blockEntry (lexer : Lexer) : Option Lexer := do
  let lexer ← lexer.openForIndicator .blockSequenceStart
  let lexer ← lexer.dropKey
  some ((lexer.allowKey true).pushSkip .blockEntry 1)

def explicitKey (lexer : Lexer) : Option Lexer := do
  let lexer ← lexer.openForIndicator .blockMappingStart
  let lexer ← lexer.dropKey
  some ((lexer.allowKey !lexer.inFlow).pushSkip .key 1)

def valueAfter (lexer : Lexer) (key : KeyStart) : Lexer :=
  let lexer := { lexer with
    keyStart := none
    tokens := lexer.tokens.insertIdxIfInBounds key.position .key }
  ((lexer.openBlock key.column key.position .blockMappingStart).allowKey false).pushSkip .value 1

def value (lexer : Lexer) : Option Lexer :=
  match lexer.keyStart with
  | some key =>
      if lexer.isOneLine key then
        some (lexer.valueAfter key)
      else if key.isRequired then
        none
      else
        withoutKey { lexer with keyStart := none }
  | none => withoutKey lexer
where
  withoutKey (lexer : Lexer) : Option Lexer := do
    let lexer ← lexer.openForIndicator .blockMappingStart
    some ((lexer.allowKey !lexer.inFlow).pushSkip .value 1)

def name (lexer : Lexer) (token : List Char → Token) : Option Lexer := do
  let lexer ← lexer.noteKey
  let (found, cursor) ← scanName (lexer.cursor.skip 1)
  some (((lexer.push (token found)).moveTo cursor).allowKey false)

def tag (lexer : Lexer) : Option Lexer := do
  let lexer ← lexer.noteKey
  let (token, cursor) ← scanTag lexer.inFlow lexer.cursor
  some (((lexer.push token).moveTo cursor).allowKey false)

def blockText (lexer : Lexer) (style : Style) : Option Lexer := do
  let lexer ← lexer.dropKey
  let (text, cursor) ← blockScalar (style == .literal) lexer.indent lexer.cursor
  some (((lexer.push (.scalar text style)).moveTo cursor).allowKey true)

def quotedText (lexer : Lexer) (style : Style) : Option Lexer := do
  let lexer ← lexer.noteKey
  let (text, cursor) ← quotedScalar (style == .singleQuoted) lexer.cursor
  some (((lexer.push (.scalar text style)).moveTo cursor).allowKey false)

/-- A plain scalar. A key may start after it only in another line. -/
def plainText (lexer : Lexer) : Option Lexer := do
  let lexer ← lexer.noteKey
  let (text, hasBreak, cursor) ←
    plainScalar lexer.inFlow (lexer.indent + 1).toNat lexer.cursor
  some (((lexer.push (.scalar text .plain)).moveTo cursor).allowKey hasBreak)

def isIndicator (c : Char) : Bool :=
  ['-', '?', ':', ',', '[', ']', '\x7b', '\x7d', '#', '&', '*', '!', '|', '>', '\'', '"', '%', '@',
    Char.ofNat 0x60].contains c

/-- Whether a plain scalar starts here. A dash, a question mark and a colon may start one if
something follows them. -/
def startsPlain (lexer : Lexer) : Bool :=
  let cursor := lexer.cursor
  (!cursor.atGap 0 && !cursor.looksLike isIndicator 0) ||
    (cursor.sees '-' 0 && !cursor.looksLike isSpaceOrTab 1) ||
    (!lexer.inFlow && cursor.looksLike (fun c => c == '?' || c == ':') 0 && !cursor.atGap 1)

/-- Add the next token that starts with the character `c`. -/
def next (lexer : Lexer) (c : Char) : Option Lexer :=
  let cursor := lexer.cursor
  if cursor.column = 0 ∧ c = '%' then
    lexer.directive
  else if cursor.atDocumentMark then
    lexer.documentMark (if c = '-' then .documentStart else .documentEnd)
  else if c = '[' then
    lexer.openFlow .flowSequenceStart
  else if c = '\x7b' then
    lexer.openFlow .flowMappingStart
  else if c = ']' then
    lexer.closeFlow .flowSequenceEnd
  else if c = '\x7d' then
    lexer.closeFlow .flowMappingEnd
  else if c = ',' then
    lexer.flowEntry
  else if c = '-' ∧ cursor.atGap 1 then
    lexer.blockEntry
  else if c = '?' ∧ (lexer.inFlow || cursor.atGap 1) then
    lexer.explicitKey
  else if c = ':' ∧ (lexer.inFlow || cursor.atGap 1) then
    lexer.value
  else if c = '*' then
    lexer.name .aliasTo
  else if c = '&' then
    lexer.name .anchor
  else if c = '!' then
    lexer.tag
  else if c = '|' ∧ !lexer.inFlow then
    lexer.blockText .literal
  else if c = '>' ∧ !lexer.inFlow then
    lexer.blockText .folded
  else if c = '\'' then
    lexer.quotedText .singleQuoted
  else if c = '"' then
    lexer.quotedText .doubleQuoted
  else if lexer.startsPlain then
    lexer.plainText
  else
    none

/-- The tokens up to the end of the text. The number bounds how many there are. -/
def run (lexer : Lexer) : Nat → Option (List Token)
  | 0 => none
  | rounds + 1 =>
      let lexer := lexer.skipGap (lexer.cursor.rest.length + 1)
      let lexer := lexer.closeBlocks lexer.cursor.column
      match lexer.cursor.peek? 0 with
      | none => do
          let lexer ← (lexer.closeBlocks (-1)).dropKey
          some lexer.tokens.toList
      | some c => do
          let lexer ← lexer.next c
          run lexer rounds

end Lexer

def tokens? (text : List Char) : Option (List Token) :=
  (Lexer.start text).run (text.length + 1)

end ChartParams.Yaml
