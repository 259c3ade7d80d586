import ChartParams.Json.Basic
import ChartParams.Numeric.Numeral

/-!
# Reading documents

`Json.parse? text` is the document that `text` spells in strict JSON, with at most 127 containers
inside each other. A key that an object repeats keeps its first place and takes the last value.
Readers take the characters that are left and give back a value with the characters after it.
-/

namespace ChartParams

namespace Json

/-- A reader of values of type `α` at the front of a text. -/
abbrev Reader (α : Type) := List Char → Option (α × List Char)

def isSpace (c : Char) : Bool := c == ' ' || c == '\n' || c == '\t' || c == '\r'

def skipSpace (text : List Char) : List Char := text.dropWhile isSpace

def hex4 : Reader Nat
  | a :: b :: c :: d :: rest => do
      let a ← hexDigit? a
      let b ← hexDigit? b
      let c ← hexDigit? c
      let d ← hexDigit? d
      some (((a * 16 + b) * 16 + c) * 16 + d, rest)
  | _ => none
where
  hexDigit? (c : Char) : Option Nat :=
    if '0' ≤ c ∧ c ≤ '9' then some (c.toNat - '0'.toNat)
    else if 'a' ≤ c ∧ c ≤ 'f' then some (c.toNat - 'a'.toNat + 10)
    else if 'A' ≤ c ∧ c ≤ 'F' then some (c.toNat - 'A'.toNat + 10)
    else none

/-- The character of a `\u` escape, whose second half follows if the first is a surrogate. -/
def unicodeEscape : Reader Char := fun text => do
  let (high, rest) ← hex4 text
  if 0xD800 ≤ high ∧ high ≤ 0xDBFF then
    match rest with
    | '\\' :: 'u' :: rest =>
        let (low, rest) ← hex4 rest
        if 0xDC00 ≤ low ∧ low ≤ 0xDFFF then
          some (Char.ofNat (0x10000 + (high - 0xD800) * 0x400 + (low - 0xDC00)), rest)
        else
          none
    | _ => none
  else if 0xDC00 ≤ high ∧ high ≤ 0xDFFF then
    none
  else
    some (Char.ofNat high, rest)

def escape : Reader Char
  | '"' :: rest => some ('"', rest)
  | '\\' :: rest => some ('\\', rest)
  | '/' :: rest => some ('/', rest)
  | 'b' :: rest => some ('\x08', rest)
  | 'f' :: rest => some ('\x0c', rest)
  | 'n' :: rest => some ('\n', rest)
  | 'r' :: rest => some ('\r', rest)
  | 't' :: rest => some ('\t', rest)
  | 'u' :: rest => unicodeEscape rest
  | _ => none

/-- The characters of a string up to its closing quote, put in front of `done` in reverse. The
number bounds how many there are. -/
def stringBody (done : List Char) : Nat → Reader String
  | 0, _ => none
  | _ + 1, [] => none
  | _ + 1, '"' :: rest => some (String.ofList done.reverse, rest)
  | room + 1, '\\' :: rest => do
      let (c, rest) ← escape rest
      stringBody (c :: done) room rest
  | room + 1, c :: rest => if c.toNat < 0x20 then none else stringBody (c :: done) room rest

def string : Reader String := fun text => stringBody [] text.length text

/-- The digits of a number literal: a whole part without a leading zero, a fraction after a point,
and an exponent, of which the last two may be missing. -/
structure Literal where
  negative : Bool
  whole : List Char
  fraction : Option (List Char)
  exponent : Option Int

def digits : Reader (List Char) := fun text =>
  match Numeral.spanDigits text with
  | ([], _) => none
  | found => some found

def fraction : Reader (Option (List Char))
  | '.' :: rest => (digits rest).map fun (found, rest) => (some found, rest)
  | rest => some (none, rest)

def exponent : Reader (Option Int)
  | 'e' :: rest | 'E' :: rest =>
      let (negative, rest) := match rest with
        | '-' :: rest => (true, rest)
        | '+' :: rest => (false, rest)
        | rest => (false, rest)
      (digits rest).map fun (found, rest) =>
        let size : Int := Numeral.ofDigits found
        (some (if negative then -size else size), rest)
  | rest => some (none, rest)

def literal : Reader Literal := fun text => do
  let (negative, text) := match text with
    | '-' :: rest => (true, rest)
    | rest => (false, rest)
  let (whole, text) ← match text with
    | '0' :: rest => some (['0'], rest)
    | rest => digits rest
  let (fraction, text) ← fraction text
  let (exponent, text) ← exponent text
  some (⟨negative, whole, fraction, exponent⟩, text)

/-- Take digits into a significand as long as it stays an unsigned word; the rest is given back. -/
def takeDigits : Nat → List Char → Nat × List Char
  | significand, [] => (significand, [])
  | significand, c :: rest =>
      let next := significand * 10 + (c.toNat - '0'.toNat)
      if next < 0x1_0000_0000_0000_0000 then takeDigits next rest else (significand, c :: rest)

def powerOfTen (n : Nat) : Binary64 := .ofInt (Nat.pow 10 n)

/-- Multiply or divide by a power of ten, at most `10 ^ 308` at a time. No answer if the value
leaves the range of the doubles. -/
def scale (x : Binary64) (power : Int) : Nat → Option Binary64
  | 0 => some x
  | rounds + 1 =>
      if power.natAbs ≤ 308 then
        if 0 ≤ power then
          let scaled := x.mul (powerOfTen power.toNat)
          if scaled.isFinite then some scaled else none
        else
          some (x.div (powerOfTen power.natAbs))
      else if x.isZero then
        some x
      else if 0 ≤ power then
        none
      else
        scale (x.div (powerOfTen 308)) (power + 308) rounds

/-- The double of a literal. The digits that fit an unsigned word make the significand, which is
then scaled by the power of ten that is left; digits after those only count as places. -/
def Literal.float? (l : Literal) : Option Number :=
  let (significand, dropped) := takeDigits 0 l.whole
  let (significand, kept) := match l.fraction with
    | none => (significand, 0)
    | some fraction =>
        let (significand, rest) := takeDigits significand fraction
        (significand, fraction.length - rest.length)
  let power : Int := dropped.length - kept + l.exponent.getD 0
  let magnitude? : Option Binary64 :=
    if significand = 0 then some (.zero false)
    else if 0x8000_0000 ≤ (l.exponent.getD 0).natAbs then
      if 0 < l.exponent.getD 0 then none else some (.zero false)
    else scale (.ofInt significand) power (power.natAbs / 308 + 2)
  magnitude?.bind fun magnitude =>
    Number.ofBinary64? (if l.negative then magnitude.neg else magnitude)

/-- The number of a literal: a whole number if it has neither fraction nor exponent and is in range,
and is not a negative zero. -/
def Literal.number? (l : Literal) : Option Number :=
  match l.fraction, l.exponent with
  | none, none =>
      let size := Numeral.ofDigits l.whole
      if l.negative ∧ size = 0 then
        l.float?
      else
        match Number.ofInt? (if l.negative then -(size : Int) else size) with
        | some n => some n
        | none => l.float?
  | _, _ => l.float?

def number : Reader Json := fun text => do
  let (l, rest) ← literal text
  let n ← l.number?
  some (.num n, rest)

/-- Items with commas between them up to the closing bracket, after the first item. The number
bounds how many there are. -/
def moreItems (value : Reader Json) (done : List Json) : Nat → Reader (List Json)
  | 0, _ => none
  | room + 1, text =>
      match skipSpace text with
      | ']' :: rest => some (done.reverse, rest)
      | ',' :: rest => do
          let (item, rest) ← value (skipSpace rest)
          moreItems value (item :: done) room rest
      | _ => none

def items (value : Reader Json) : Reader (List Json) := fun text =>
  match skipSpace text with
  | ']' :: rest => some ([], rest)
  | start => do
      let (item, rest) ← value start
      moreItems value [item] (rest.length + 1) rest

def member (value : Reader Json) : Reader (String × Json)
  | '"' :: rest => do
      let (key, rest) ← string rest
      match skipSpace rest with
      | ':' :: rest =>
          let (content, rest) ← value (skipSpace rest)
          some ((key, content), rest)
      | _ => none
  | _ => none

/-- Members with commas between them up to the closing brace, after the first member. The number
bounds how many there are. -/
def moreMembers (value : Reader Json) (done : Members) : Nat → Reader Members
  | 0, _ => none
  | room + 1, text =>
      match skipSpace text with
      | '\x7d' :: rest => some (done, rest)
      | ',' :: rest => do
          let ((key, content), rest) ← member value (skipSpace rest)
          moreMembers value (done.put key content) room rest
      | _ => none

def members (value : Reader Json) : Reader Members := fun text =>
  match skipSpace text with
  | '\x7d' :: rest => some ([], rest)
  | start => do
      let ((key, content), rest) ← member value start
      moreMembers value [(key, content)] (rest.length + 1) rest

def value : (depth : Nat) → Reader Json
  | _, 'n' :: 'u' :: 'l' :: 'l' :: rest => some (null, rest)
  | _, 't' :: 'r' :: 'u' :: 'e' :: rest => some (bool true, rest)
  | _, 'f' :: 'a' :: 'l' :: 's' :: 'e' :: rest => some (bool false, rest)
  | _, '"' :: rest => do
      let (s, rest) ← string rest
      some (str s, rest)
  | depth + 1, '[' :: rest => do
      let (found, rest) ← items (value depth) rest
      some (arr found, rest)
  | depth + 1, '\x7b' :: rest => do
      let (found, rest) ← members (value depth) rest
      some (obj found, rest)
  | _, text => number text

/-- The document that a text spells, with at most `depth` containers inside each other. -/
def parseWithin? (depth : Nat) (text : String) : Option Json := do
  let (doc, rest) ← value depth (skipSpace text.toList)
  if (skipSpace rest).isEmpty then some doc else none

def maxNesting : Nat := 127

def parse? (text : String) : Option Json := parseWithin? maxNesting text

end Json

end ChartParams
