import ChartParams.Json.Basic
import ChartParams.Numeric.Numeral
import ChartParams.Yaml.Token.Tag

/-!
# What scalars stand for

A plain scalar is null, a boolean, a number or a string, by its text alone. A scalar in quotes or in
a block is a string. A tag of the core schema decides the type of its scalar, however it is written.
-/

namespace ChartParams.Yaml.Scalar

def isNull (text : List Char) : Bool :=
  ["null", "Null", "NULL", "~"].contains (String.ofList text)

def flag? (text : List Char) : Option Bool :=
  let word := String.ofList text
  if ["true", "True", "TRUE"].contains word then some true
  else if ["false", "False", "FALSE"].contains word then some false
  else none

def digitIn? (base : Nat) (c : Char) : Option Nat := (hexDigit? c).filter (· < base)

def natural? (base : Nat) (digits : List Char) : Option Nat :=
  if digits.isEmpty then
    none
  else
    digits.foldlM (fun total c => (digitIn? base c).map (total * base + ·)) 0

/-- A text without the sign in front, if there is one. -/
def withoutSign : List Char → List Char
  | '+' :: rest | '-' :: rest => rest
  | text => text

/-- Whether a text looks like a whole number but starts with a needless zero, which makes it a
string. -/
def hasLeadingZero (text : List Char) : Bool :=
  match withoutSign text with
  | '0' :: second :: rest => (second :: rest).all Char.isDigit
  | _ => false

/-- A whole number without a sign, in base sixteen, eight, two or ten. -/
def magnitude? : List Char → Option Nat
  | '0' :: 'x' :: digits => natural? 16 digits
  | '0' :: 'o' :: digits => natural? 8 digits
  | '0' :: 'b' :: digits => natural? 2 digits
  | digits => if hasLeadingZero digits then none else natural? 10 digits

def integer? : List Char → Option Int
  | '-' :: rest => (magnitude? rest).map fun n => -(n : Int)
  | '+' :: rest => (magnitude? rest).map Int.ofNat
  | text => (magnitude? text).map Int.ofNat

def specialFloat? (text : List Char) : Option Binary64 :=
  let word := String.ofList text
  if [".inf", ".Inf", ".INF", "+.inf", "+.Inf", "+.INF"].contains word then
    some (.infinity false)
  else if ["-.inf", "-.Inf", "-.INF"].contains word then
    some (.infinity true)
  else if [".nan", ".NaN", ".NAN"].contains word then
    some .nan
  else
    none

/-- A float. A decimal that is too large is none. -/
def float? (text : List Char) : Option Binary64 :=
  match specialFloat? text with
  | some x => some x
  | none =>
      match Numeral.readBinary64 (String.ofList text) with
      | .ok x => if x.isFinite then some x else none
      | .error _ => none

def ofFloat (x : Binary64) : Json :=
  match Number.ofBinary64? x with
  | some n => .num n
  | none => .null

/-- What a plain scalar stands for. A whole number that is a word of 128 bits but of no machine is
refused; beyond that it is a float. -/
def ofPlain? (text : List Char) : Option Json :=
  if text.isEmpty || isNull text then
    some .null
  else
    match flag? text, (integer? text).filter fun n => IsLongWord n with
    | some b, _ => some (.bool b)
    | none, some n => (Number.ofInt? n).map .num
    | none, none =>
        match if hasLeadingZero text then none else float? text with
        | some x => some (ofFloat x)
        | none => some (.str (String.ofList text))

def coreTag (name : String) : TagBytes := asciiBytes ("tag:yaml.org,2002:" ++ name).toList

/-- Whether a tag starts as those do that a text makes up. -/
def startsLocal (tag : TagBytes) : Bool := tag.head? == some (UInt8.ofNat '!'.toNat)

/-- What a scalar with a tag stands for. With any tag beside those of the core schema it is a
string, unless the tag is a garbled one of the text's own, which does not count. -/
def ofTagged? (tag : TagBytes) (text : List Char) (isPlain : Bool) : Option Json :=
  if tag == coreTag "bool" then
    (flag? text).map .bool
  else if tag == coreTag "int" then
    ((integer? text).bind Number.ofInt?).map .num
  else if tag == coreTag "float" then
    (float? text).map ofFloat
  else if tag == coreTag "null" then
    if isNull text then some .null else none
  else if startsLocal tag && isPlain then
    ofPlain? text
  else
    some (.str (String.ofList text))

def toJson? (tag : Option TagBytes) (text : List Char) (isPlain : Bool) : Option Json :=
  match tag with
  | some tag => ofTagged? tag text isPlain
  | none => if isPlain then ofPlain? text else some (.str (String.ofList text))

/-- Whether a text stands for itself when it is written as a plain scalar, in this format and in
those that take every row of digits for a number. -/
def isOwnText (text : List Char) : Bool :=
  match ofPlain? text with
  | some (.str _) => !hasLeadingZero text
  | _ => false

end ChartParams.Yaml.Scalar
