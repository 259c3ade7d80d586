/-!
# Places in a YAML text

A cursor is the rest of a text together with the place where it starts. The lexer moves it forward;
lines are counted so that keys can be told from other scalars.
-/

namespace ChartParams.Yaml

def isAllowed (c : Char) : Bool :=
  let code := c.toNat
  code == 0x09 || code == 0x0A || code == 0x0D || (0x20 ≤ code && code ≤ 0x7E) || code == 0x85 ||
    (0xA0 ≤ code && code ≤ 0xD7FF) || (0xE000 ≤ code && code ≤ 0xFFFD) || 0x10000 ≤ code

def byteOrderMark : Char := Char.ofNat 0xFEFF

def nextLine : Char := Char.ofNat 0x85
def lineSeparator : Char := Char.ofNat 0x2028
def paragraphSeparator : Char := Char.ofNat 0x2029

def isSpaceOrTab (c : Char) : Bool := c == ' ' || c == '\t'

def isBreak (c : Char) : Bool :=
  c == '\n' || c == '\r' || c == nextLine || c == lineSeparator || c == paragraphSeparator

def isWordChar (c : Char) : Bool :=
  c.isAlphanum || c == '_' || c == '-'

/-- The rest of a text and the place where it starts. -/
structure Cursor where
  rest : List Char
  /-- The number of bytes before it. -/
  index : Nat
  line : Nat
  column : Nat

namespace Cursor

def start (text : List Char) : Cursor := ⟨text, 0, 0, 0⟩

def peek? (cursor : Cursor) (n : Nat) : Option Char := cursor.rest[n]?

def sees (cursor : Cursor) (c : Char) (n : Nat) : Bool := cursor.peek? n == some c

/-- Whether the character `n` places ahead satisfies `p`. The end of the text satisfies nothing. -/
def looksLike (cursor : Cursor) (p : Char → Bool) (n : Nat) : Bool := (cursor.peek? n).any p

def atEnd (cursor : Cursor) : Bool := cursor.rest.isEmpty

def atLineEnd (cursor : Cursor) (n : Nat) : Bool := (cursor.peek? n).all isBreak

def atGap (cursor : Cursor) (n : Nat) : Bool :=
  (cursor.peek? n).all fun c => isSpaceOrTab c || isBreak c

def skip (cursor : Cursor) (n : Nat) : Cursor :=
  let width := (cursor.rest.take n).foldl (fun total c => total + c.utf8Size) 0
  ⟨cursor.rest.drop n, cursor.index + width, cursor.line, cursor.column + n⟩

def skipWhile (cursor : Cursor) (p : Char → Bool) : Cursor :=
  cursor.skip (cursor.rest.takeWhile p).length

def takeWhile (cursor : Cursor) (p : Char → Bool) : List Char × Cursor :=
  (cursor.rest.takeWhile p, cursor.skipWhile p)

/-- Take a line break. Every break is a line feed but the separators of lines and paragraphs. -/
def takeBreak (cursor : Cursor) : List Char × Cursor :=
  match cursor.rest with
  | '\r' :: '\n' :: rest => (['\n'], ⟨rest, cursor.index + 2, cursor.line + 1, 0⟩)
  | c :: rest =>
      if c = lineSeparator ∨ c = paragraphSeparator then
        ([c], ⟨rest, cursor.index + c.utf8Size, cursor.line + 1, 0⟩)
      else if isBreak c then
        (['\n'], ⟨rest, cursor.index + c.utf8Size, cursor.line + 1, 0⟩)
      else
        ([], cursor)
  | [] => ([], cursor)

def skipBreak (cursor : Cursor) : Cursor := cursor.takeBreak.2

/-- Whether the line starts here with the mark of the start or of the end of a document. -/
def atDocumentMark (cursor : Cursor) : Bool :=
  cursor.column == 0 && (cursor.rest.take 3 == ['-', '-', '-'] ||
    cursor.rest.take 3 == ['.', '.', '.']) && cursor.atGap 3

end Cursor

end ChartParams.Yaml
