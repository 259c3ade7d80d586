import ChartParams.Yaml.Cursor
import ChartParams.Yaml.Token.Basic

/-!
# Scalars in YAML texts

Plain, quoted and block scalars. Each reader takes the cursor at the start of a scalar and gives the
text of the scalar with the cursor after it. Numbers that bound the rounds of a loop start with the
length of the text that is left.
-/

namespace ChartParams.Yaml

/-- What stands between two words of a scalar: blanks on one line, or line breaks. -/
structure Gap where
  blanks : List Char
  breaks : List Char
  /-- Whether a backslash took away the first line break. -/
  isEscaped : Bool

namespace Gap

def empty : Gap := ⟨[], [], false⟩

def hasBreak (gap : Gap) : Bool := gap.isEscaped || !gap.breaks.isEmpty

/-- What a gap stands for. Blanks stand for themselves, a single line feed for a space, and of more
breaks the first one is left out if it is a line feed. -/
def text (gap : Gap) : List Char :=
  if gap.isEscaped then
    gap.breaks
  else
    match gap.breaks with
    | [] => gap.blanks
    | ['\n'] => [' ']
    | '\n' :: more => more
    | breaks => breaks

/-- Take blanks and line breaks. Blanks before a break and at the start of a line are dropped. A tab
before the column `indent` of a further line is refused. -/
def take (indent : Nat) (gap : Gap) (cursor : Cursor) : Nat → Option (Gap × Cursor)
  | 0 => some (gap, cursor)
  | rounds + 1 =>
      match cursor.peek? 0 with
      | none => some (gap, cursor)
      | some c =>
          if isSpaceOrTab c then
            if gap.hasBreak then
              if c = '\t' ∧ cursor.column < indent then
                none
              else
                take indent gap (cursor.skip 1) rounds
            else
              take indent { gap with blanks := gap.blanks ++ [c] } (cursor.skip 1) rounds
          else if isBreak c then
            let (found, cursor) := cursor.takeBreak
            take indent { gap with blanks := [], breaks := gap.breaks ++ found } cursor rounds
          else
            some (gap, cursor)

end Gap

/-! ## Plain scalars -/

def isFlowIndicator (c : Char) : Bool :=
  c == ',' || c == '[' || c == ']' || c == '\x7b' || c == '\x7d'

/-- Whether a plain scalar ends here: before a colon with a gap after it, and inside brackets before
an indicator. -/
def endsPlain (inFlow : Bool) (cursor : Cursor) : Bool :=
  (cursor.sees ':' 0 && cursor.atGap 1) || (inFlow && cursor.looksLike isFlowIndicator 0)

/-- A word of a plain scalar, reversed. Inside brackets a colon must not touch an indicator. -/
def plainWord (inFlow : Bool) (done : List Char) (cursor : Cursor) :
    Nat → Option (List Char × Cursor)
  | 0 => some (done, cursor)
  | rounds + 1 =>
      if cursor.atGap 0 then
        some (done, cursor)
      else if inFlow && cursor.sees ':' 0 &&
          cursor.looksLike (fun c => isFlowIndicator c || c == '?') 1 then
        none
      else if endsPlain inFlow cursor then
        some (done, cursor)
      else
        match cursor.peek? 0 with
        | some c => plainWord inFlow (c :: done) (cursor.skip 1) rounds
        | none => some (done, cursor)

/-- The words of a plain scalar with the gaps between them. The result says whether a line break
follows the scalar. -/
def plainWords (inFlow : Bool) (indent : Nat) (done : List Char) (gap : Gap) (cursor : Cursor) :
    Nat → Option (List Char × Bool × Cursor)
  | 0 => some (done, gap.hasBreak, cursor)
  | rounds + 1 =>
      if cursor.atDocumentMark || cursor.sees '#' 0 then
        some (done, gap.hasBreak, cursor)
      else do
        let (word, cursor) ← plainWord inFlow [] cursor cursor.rest.length
        let (done, gap) :=
          if word.isEmpty then (done, gap) else (done ++ gap.text ++ word.reverse, Gap.empty)
        if cursor.atEnd || !cursor.atGap 0 then
          some (done, gap.hasBreak, cursor)
        else
          let (gap, cursor) ← gap.take indent cursor cursor.rest.length
          if !inFlow && cursor.column < indent then
            some (done, gap.hasBreak, cursor)
          else
            plainWords inFlow indent done gap cursor rounds

/-- A plain scalar whose further lines start at the column `indent` at least. -/
def plainScalar (inFlow : Bool) (indent : Nat) (cursor : Cursor) :
    Option (List Char × Bool × Cursor) :=
  plainWords inFlow indent [] Gap.empty cursor (cursor.rest.length + 1)

/-! ## Quoted scalars -/

def hexDigit? (c : Char) : Option Nat :=
  if '0' ≤ c ∧ c ≤ '9' then some (c.toNat - '0'.toNat)
  else if 'a' ≤ c ∧ c ≤ 'f' then some (c.toNat - 'a'.toNat + 10)
  else if 'A' ≤ c ∧ c ≤ 'F' then some (c.toNat - 'A'.toNat + 10)
  else none

def hexNumber? (digits : List Char) : Option Nat :=
  digits.foldlM (fun total c => (hexDigit? c).map (total * 16 + ·)) 0

def numberedChar? (width : Nat) (cursor : Cursor) : Option (Char × Cursor) := do
  let digits := cursor.rest.take width
  if digits.length < width then
    none
  else
    let code ← hexNumber? digits
    if code.isValidChar then some (Char.ofNat code, cursor.skip width) else none

def escapedChar? (cursor : Cursor) : Option (Char × Cursor) := do
  let c ← cursor.peek? 0
  let cursor := cursor.skip 1
  match c with
  | '0' => some ('\x00', cursor)
  | 'a' => some ('\x07', cursor)
  | 'b' => some ('\x08', cursor)
  | 't' | '\t' => some ('\t', cursor)
  | 'n' => some ('\n', cursor)
  | 'v' => some ('\x0b', cursor)
  | 'f' => some ('\x0c', cursor)
  | 'r' => some ('\r', cursor)
  | 'e' => some ('\x1b', cursor)
  | ' ' => some (' ', cursor)
  | '"' => some ('"', cursor)
  | '/' => some ('/', cursor)
  | '\\' => some ('\\', cursor)
  | 'N' => some (nextLine, cursor)
  | '_' => some (Char.ofNat 0xA0, cursor)
  | 'L' => some (lineSeparator, cursor)
  | 'P' => some (paragraphSeparator, cursor)
  | 'x' => numberedChar? 2 cursor
  | 'u' => numberedChar? 4 cursor
  | 'U' => numberedChar? 8 cursor
  | _ => none

/-- A word of a quoted scalar, reversed. The result says whether an escaped line break ends it. -/
def quotedWord (isSingle : Bool) (done : List Char) (cursor : Cursor) :
    Nat → Option (List Char × Bool × Cursor)
  | 0 => some (done, false, cursor)
  | rounds + 1 =>
      match cursor.rest with
      | [] => some (done, false, cursor)
      | c :: next =>
          if isSpaceOrTab c || isBreak c then
            some (done, false, cursor)
          else if isSingle then
            if c = '\'' then
              if next.head? = some '\'' then
                quotedWord isSingle ('\'' :: done) (cursor.skip 2) rounds
              else
                some (done, false, cursor)
            else
              quotedWord isSingle (c :: done) (cursor.skip 1) rounds
          else if c = '"' then
            some (done, false, cursor)
          else if c = '\\' then
            if next.head?.any isBreak then
              some (done, true, (cursor.skip 1).skipBreak)
            else do
              let (escaped, cursor) ← escapedChar? (cursor.skip 1)
              quotedWord isSingle (escaped :: done) cursor rounds
          else
            quotedWord isSingle (c :: done) (cursor.skip 1) rounds

/-- The words of a quoted scalar with the gaps between them, up to the closing quote. -/
def quotedWords (isSingle : Bool) (done : List Char) (cursor : Cursor) :
    Nat → Option (List Char × Cursor)
  | 0 => none
  | rounds + 1 =>
      if cursor.atDocumentMark || cursor.atEnd then
        none
      else do
        let (word, isEscaped, cursor) ← quotedWord isSingle [] cursor cursor.rest.length
        let done := done ++ word.reverse
        if cursor.sees (if isSingle then '\'' else '"') 0 then
          some (done, cursor.skip 1)
        else
          let (gap, cursor) ← Gap.take 0 ⟨[], [], isEscaped⟩ cursor cursor.rest.length
          quotedWords isSingle (done ++ gap.text) cursor rounds

def quotedScalar (isSingle : Bool) (cursor : Cursor) : Option (List Char × Cursor) :=
  quotedWords isSingle [] (cursor.skip 1) (cursor.rest.length + 1)

/-! ## Block scalars -/

inductive Chomping
  | strip
  | clip
  | keep
deriving DecidableEq

def chomping? (cursor : Cursor) : Option Chomping :=
  match cursor.peek? 0 with
  | some '+' => some .keep
  | some '-' => some .strip
  | _ => none

def indentation? (cursor : Cursor) : Option (Option Nat) :=
  match cursor.peek? 0 with
  | some c =>
      if c = '0' then none
      else if c.isDigit then some (some (c.toNat - '0'.toNat))
      else some none
  | none => some none

/-- The header of a block scalar: chomping and indentation, in either order. -/
def blockHeader (cursor : Cursor) : Option (Chomping × Option Nat × Cursor) :=
  match chomping? cursor with
  | some chomping => do
      let cursor := cursor.skip 1
      let indentation ← indentation? cursor
      some (chomping, indentation, cursor.skip (if indentation.isSome then 1 else 0))
  | none => do
      let indentation ← indentation? cursor
      match indentation with
      | none => some (.clip, none, cursor)
      | some _ =>
          let cursor := cursor.skip 1
          match chomping? cursor with
          | some chomping => some (chomping, indentation, cursor.skip 1)
          | none => some (.clip, indentation, cursor)

/-- Take empty lines, and the indentation of the line after them up to the column `indent`, or all
of it if that is not known. A tab must not stand in the indentation. The third number is the widest
indentation. -/
def blockBreaks (indent : Option Nat) (breaks : List Char) (widest : Nat) (cursor : Cursor) :
    Nat → Option (List Char × Nat × Cursor)
  | 0 => some (breaks, widest, cursor)
  | rounds + 1 =>
      let missing := match indent with
        | some column => column - cursor.column
        | none => cursor.rest.length
      let spaces := ((cursor.rest.take missing).takeWhile (· == ' ')).length
      let cursor := cursor.skip spaces
      let widest := max widest cursor.column
      let inIndentation := indent.all (cursor.column < ·)
      if inIndentation && cursor.sees '\t' 0 then
        none
      else if cursor.looksLike isBreak 0 then
        let (found, cursor) := cursor.takeBreak
        blockBreaks indent (breaks ++ found) widest cursor rounds
      else
        some (breaks, widest, cursor)

/-- The lines of a block scalar. `lineBreak` is the break after the line before, `breaks` are the
empty lines after that, and `afterBlank` tells whether that line started with a blank. -/
def blockLines (isLiteral : Bool) (indent : Nat) (done lineBreak breaks : List Char)
    (afterBlank : Bool) (cursor : Cursor) :
    Nat → Option (List Char × List Char × List Char × Cursor)
  | 0 => some (done, lineBreak, breaks, cursor)
  | rounds + 1 =>
      if cursor.column = indent ∧ !cursor.atEnd then do
        let startsBlank := cursor.looksLike isSpaceOrTab 0
        let joined :=
          if !isLiteral && lineBreak == ['\n'] && !afterBlank && !startsBlank then
            if breaks.isEmpty then [' '] else breaks
          else
            lineBreak ++ breaks
        let (line, cursor) := cursor.takeWhile fun c => !isBreak c
        let (lineBreak, cursor) := cursor.takeBreak
        let (breaks, _, cursor) ← blockBreaks (some indent) [] 0 cursor (cursor.rest.length + 1)
        blockLines isLiteral indent (done ++ joined ++ line) lineBreak breaks startsBlank cursor
          rounds
      else
        some (done, lineBreak, breaks, cursor)

/-- A block scalar, from its indicator. `parent` is the column of the block around it, below zero
at the top. -/
def blockScalar (isLiteral : Bool) (parent : Int) (cursor : Cursor) :
    Option (List Char × Cursor) := do
  let (chomping, indentation, cursor) ← blockHeader (cursor.skip 1)
  let cursor := cursor.skipWhile isSpaceOrTab
  let cursor :=
    if cursor.sees '#' 0 then cursor.skipWhile fun c => !isBreak c else cursor
  if !cursor.atLineEnd 0 then
    none
  else
    let cursor := cursor.skipBreak
    let known := indentation.map fun width => (max parent 0).toNat + width
    let (breaks, widest, cursor) ← blockBreaks known [] 0 cursor (cursor.rest.length + 1)
    let indent := known.getD (max widest (max (parent + 1) 1).toNat)
    let (text, lineBreak, breaks, cursor) ←
      blockLines isLiteral indent [] [] breaks false cursor (cursor.rest.length + 1)
    let text := if chomping = .strip then text else text ++ lineBreak
    let text := if chomping = .keep then text ++ breaks else text
    some (text, cursor)

end ChartParams.Yaml
