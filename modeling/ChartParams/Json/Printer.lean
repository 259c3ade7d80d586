import ChartParams.Json.Basic
import ChartParams.Numeric.Layout

/-!
# Text of documents

`Json.compact` writes a document without any space, `Json.pretty` with one member or item a line.
-/

namespace ChartParams

namespace Number

def text : Number → String
  | int n _ => toString n
  | float x _ => Layout.json.text x

end Number

namespace Json

def hexDigits (width n : Nat) : List Char :=
  let digits := Nat.toDigits 16 n
  List.replicate (width - digits.length) '0' ++ digits

/-- A character as it stands between quotes. Only the quote, the backslash and the control
characters below the space are escaped. -/
def escapeChar (c : Char) : List Char :=
  match c with
  | '"' => ['\\', '"']
  | '\\' => ['\\', '\\']
  | '\n' => ['\\', 'n']
  | '\r' => ['\\', 'r']
  | '\t' => ['\\', 't']
  | '\x08' => ['\\', 'b']
  | '\x0c' => ['\\', 'f']
  | c => if c.toNat < 0x20 then '\\' :: 'u' :: hexDigits 4 c.toNat else [c]

def quote (text : String) : String :=
  String.ofList ('"' :: text.toList.flatMap escapeChar ++ ['"'])

mutual

def compact : Json → String
  | null => "null"
  | bool true => "true"
  | bool false => "false"
  | num n => n.text
  | str s => quote s
  | arr items => "[" ++ ",".intercalate (compactItems items) ++ "]"
  | obj members => "\x7b" ++ ",".intercalate (compactMembers members) ++ "\x7d"

def compactItems : List Json → List String
  | [] => []
  | item :: rest => compact item :: compactItems rest

def compactMembers : List (String × Json) → List String
  | [] => []
  | (key, value) :: rest => (quote key ++ ":" ++ compact value) :: compactMembers rest

end

def newLine (depth : Nat) : String := String.ofList ('\n' :: List.replicate (2 * depth) ' ')

mutual

/-- The text of a document with one item or member a line, indented by two spaces. -/
def prettyAt (depth : Nat) : Json → String
  | null => "null"
  | bool true => "true"
  | bool false => "false"
  | num n => n.text
  | str s => quote s
  | arr [] => "[]"
  | arr (item :: rest) =>
      "[" ++ newLine (depth + 1) ++
        ("," ++ newLine (depth + 1)).intercalate
          (prettyAt (depth + 1) item :: prettyItems (depth + 1) rest) ++
        newLine depth ++ "]"
  | obj [] => "\x7b\x7d"
  | obj ((key, value) :: rest) =>
      "\x7b" ++ newLine (depth + 1) ++
        ("," ++ newLine (depth + 1)).intercalate
          ((quote key ++ ": " ++ prettyAt (depth + 1) value) :: prettyMembers (depth + 1) rest) ++
        newLine depth ++ "\x7d"

def prettyItems (depth : Nat) : List Json → List String
  | [] => []
  | item :: rest => prettyAt depth item :: prettyItems depth rest

def prettyMembers (depth : Nat) : List (String × Json) → List String
  | [] => []
  | (key, value) :: rest =>
      (quote key ++ ": " ++ prettyAt depth value) :: prettyMembers depth rest

end

def pretty (doc : Json) : String := prettyAt 0 doc

end Json

end ChartParams
