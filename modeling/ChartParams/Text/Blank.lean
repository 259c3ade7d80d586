/-!
# Blank characters

The characters with the Unicode property `White_Space`, and text without the blanks around it.
-/

namespace ChartParams

/-- The characters with the Unicode property `White_Space`. -/
def isBlank (c : Char) : Bool :=
  let code := c.toNat
  (9 ≤ code && code ≤ 13) || code == 0x20 || code == 0x85 || code == 0xA0 || code == 0x1680 ||
    (0x2000 ≤ code && code ≤ 0x200A) || code == 0x2028 || code == 0x2029 || code == 0x202F ||
    code == 0x205F || code == 0x3000

def trimBlanks (text : List Char) : List Char :=
  ((text.dropWhile isBlank).reverse.dropWhile isBlank).reverse

def trim (text : String) : String :=
  String.ofList (trimBlanks text.toList)

def trimEnd (text : String) : String :=
  String.ofList (text.toList.reverse.dropWhile isBlank).reverse

@[simp]
theorem trimBlanks_nil : trimBlanks [] = [] := rfl

/-- Text that starts and ends with something else than a blank is left as it is. -/
theorem trimBlanks_eq_self {text : List Char} (first : ∀ c ∈ text.head?, isBlank c = false)
    (last : ∀ c ∈ text.getLast?, isBlank c = false) : trimBlanks text = text := by
  have dropped : ∀ {chars : List Char}, (∀ c ∈ chars.head?, isBlank c = false) →
      chars.dropWhile isBlank = chars := by
    intro chars start
    cases chars with
    | nil => rfl
    | cons c rest => simp [List.dropWhile, start c (by simp)]
  rw [trimBlanks, dropped first, dropped (by simpa using last), List.reverse_reverse]

end ChartParams
