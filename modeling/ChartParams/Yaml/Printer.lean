import ChartParams.Json.Printer
import ChartParams.Yaml.Scalar

/-!
# YAML text of documents

`Yaml.text` writes a document in block style: one entry or item a line, indented by two spaces. The
items of a sequence stand below the start of their key. A string is written plainly if it reads as
itself then, else in quotes; a string of several lines is written as a literal block if that can
hold it.
-/

namespace ChartParams.Yaml

/-- The characters that are written as they are, even between double quotes. -/
def isPrintable (c : Char) : Bool :=
  let code := c.toNat
  code == 0x0A || (0x20 ≤ code && code ≤ 0x7E) ||
    (0xA0 ≤ code && code ≤ 0xFFFD && c != byteOrderMark) || 0x10000 ≤ code

namespace Scalar

def hasPair (p : Char → Char → Bool) (text : List Char) : Bool :=
  (text.zip text.tail).any fun (first, second) => p first second

def isLeadingIndicator (c : Char) : Bool :=
  ['#', ',', '[', ']', '\x7b', '\x7d', '&', '*', '!', '|', '>', '\'', '"', '%', '@',
    Char.ofNat 0x60].contains c

/-- Whether a text means something else at the start of a line. A question mark, a colon or a dash
does so only in front of a space. -/
def startsAsIndicator (text : List Char) : Bool :=
  text.head?.any isLeadingIndicator || text.take 3 == ['-', '-', '-'] ||
    text.take 3 == ['.', '.', '.'] ||
    (text.head?.any ['?', ':', '-'].contains && text.tail.head?.all (· == ' '))

/-- Whether a text can be written plainly, as far as its characters go. -/
def mayBePlain (text : List Char) : Bool :=
  !text.isEmpty && text.all (fun c => isPrintable c && !isBreak c) &&
    text.head? != some ' ' && text.getLast? != some ' ' && text.getLast? != some ':' &&
    !startsAsIndicator text &&
    !hasPair (fun first second => first == ':' && second == ' ') text &&
    !hasPair (fun first second => first == ' ' && second == '#') text

/-- Whether a text can be written in single quotes, where line breaks swallow spaces around them. -/
def mayBeSingleQuoted (text : List Char) : Bool :=
  text.all isPrintable && !hasPair (fun first second => first == ' ' && isBreak second) text &&
    !hasPair (fun first second => isBreak first && second == ' ') text

/-- Whether a text can be written as a literal block, which cannot show spaces at the end of a
line. -/
def mayBeLiteral (text : List Char) : Bool :=
  text.all isPrintable && !hasPair (fun first second => first == ' ' && isBreak second) text &&
    text.getLast? != some ' '

/-- How a string is written. -/
def style (text : List Char) : Style :=
  if text.contains '\n' then
    if mayBeLiteral text then .literal else .doubleQuoted
  else if isOwnText text && mayBePlain text then
    .plain
  else if mayBeSingleQuoted text then
    .singleQuoted
  else
    .doubleQuoted

/-- Indent the lines of a text. `atStart` tells whether it begins at the start of a line. Empty
lines stay empty. -/
def indentLines (indentation : List Char) (atStart : Bool) : List Char → List Char
  | [] => []
  | c :: rest =>
      if isBreak c then
        c :: indentLines indentation true rest
      else
        (if atStart then indentation else []) ++ c :: indentLines indentation false rest

def endsLine (text : List Char) : Bool := text.getLast?.any isBreak

def singleQuoted (indentation : List Char) (text : List Char) : List Char :=
  let doubled := text.flatMap fun c => if c = '\'' then ['\'', '\''] else [c]
  '\'' :: indentLines indentation false doubled ++
    (if endsLine text then indentation else []) ++ ['\'']

/-- The header of a literal block: the width of the indentation if the text itself starts with a
blank or a break, and what becomes of the breaks at its end. -/
def literalHeader (text : List Char) : List Char :=
  let width := if text.head?.any (fun c => c == ' ' || isBreak c) then ['2'] else []
  let chomping := match text.reverse with
    | [] => ['-']
    | [last] => if isBreak last then ['+'] else ['-']
    | last :: before :: _ => if !isBreak last then ['-'] else if isBreak before then ['+'] else []
  '|' :: width ++ chomping

def literal (indentation : List Char) (text : List Char) : List Char :=
  literalHeader text ++ '\n' :: indentLines indentation true text

def numberEscape (code : Nat) : List Char :=
  let digits (width : Nat) := (Json.hexDigits width code).map Char.toUpper
  if code ≤ 0xFF then 'x' :: digits 2
  else if code ≤ 0xFFFF then 'u' :: digits 4
  else 'U' :: digits 8

def escapeChar (c : Char) : List Char :=
  match c with
  | '"' => ['\\', '"']
  | '\\' => ['\\', '\\']
  | '\x00' => ['\\', '0']
  | '\x07' => ['\\', 'a']
  | '\x08' => ['\\', 'b']
  | '\t' => ['\\', 't']
  | '\n' => ['\\', 'n']
  | '\x0b' => ['\\', 'v']
  | '\x0c' => ['\\', 'f']
  | '\r' => ['\\', 'r']
  | '\x1b' => ['\\', 'e']
  | c =>
      if c = nextLine then ['\\', 'N']
      else if c = lineSeparator then ['\\', 'L']
      else if c = paragraphSeparator then ['\\', 'P']
      else if isPrintable c then [c]
      else '\\' :: numberEscape c.toNat

def doubleQuoted (text : List Char) : List Char := '"' :: text.flatMap escapeChar ++ ['"']

def write (column : Nat) (text : List Char) : List Char :=
  let indentation := List.replicate column ' '
  match style text with
  | .plain => text
  | .singleQuoted => singleQuoted indentation text
  | .literal => literal indentation text
  | .doubleQuoted | .folded => doubleQuoted text

end Scalar

/-- The longest key, in bytes, that is written in front of a colon without a mark of its own. -/
def maxSimpleKeySize : Nat := 128

def isSimpleKey (key : String) : Bool :=
  key.utf8ByteSize ≤ maxSimpleKeySize && !key.toList.any isBreak

def endLine (text : List Char) : String :=
  String.ofList (if Scalar.endsLine text then text else text ++ ['\n'])

def stringLines (column : Nat) (text : String) : String := endLine (Scalar.write column text.toList)

def indentation (column : Nat) : String := String.ofList (List.replicate column ' ')

def numberText : Number → String
  | .int n _ => toString n
  | .float x _ => Layout.yaml.text x

mutual

/-- The lines of a value. All but the first are indented up to a column. -/
def lines (column : Nat) : Json → String
  | .null => "null\n"
  | .bool true => "true\n"
  | .bool false => "false\n"
  | .num n => numberText n ++ "\n"
  | .str text => stringLines column text
  | .arr [] => "[]\n"
  | .arr (item :: rest) => (indentation column).intercalate (itemLines column (item :: rest))
  | .obj [] => "\x7b\x7d\n"
  | .obj (member :: rest) => (indentation column).intercalate (memberLines column (member :: rest))

def itemLines (column : Nat) : List Json → List String
  | [] => []
  | item :: rest => ("- " ++ lines (column + 2) item) :: itemLines column rest

/-- The lines of each member, from its key on. A key that is long or has several lines is marked by
a question mark, and its value follows on the next line. -/
def memberLines (column : Nat) : List (String × Json) → List String
  | [] => []
  | (key, value) :: rest =>
      let written := Scalar.write (column + 2) key.toList
      let member :=
        if isSimpleKey key then
          String.ofList written ++ ":" ++
            match value with
            | .arr (_ :: _) => "\n" ++ indentation column ++ lines column value
            | .obj (_ :: _) => "\n" ++ indentation (column + 2) ++ lines (column + 2) value
            | _ => " " ++ lines (column + 2) value
        else
          "? " ++ endLine written ++ indentation column ++ ": " ++ lines (column + 2) value
      member :: memberLines column rest

end

def text : Json → String
  | .str string => stringLines 2 string
  | doc => lines 0 doc

end ChartParams.Yaml
