import ChartParams.Json.Leaf
import ChartParams.Proofs.Quantity.Units
import Mathlib.Tactic.IntervalCases

/-!
# Leaves that are read back

The text of a string and that of a whole number spell the same leaf again, and the text of any other
number spells a number.
-/

namespace ChartParams

theorem Numeral.exists_toDigits_eq_cons_of_pos {n : Nat} (positive : 0 < n) :
    ∃ c rest, Nat.toDigits 10 n = c :: rest ∧ c.isDigit = true ∧ c ≠ '0' := by
  induction n using Nat.strongRecOn with
  | ind n inductionHypothesis =>
      by_cases small : n < 10
      · refine ⟨Nat.digitChar n, [], Nat.toDigits_of_lt_base small, ?_⟩
        interval_cases n <;> decide
      · obtain ⟨c, rest, isCons, isDigit, nonzero⟩ :=
          inductionHypothesis (n / 10) (by omega) (by omega)
        refine ⟨c, rest ++ [Nat.digitChar (n % 10)], ?_, isDigit, nonzero⟩
        rw [Nat.toDigits_of_base_le (by decide) (by omega), isCons]
        rfl

namespace Json

theorem parse_eq_ok_iff {text : String} {doc : Json} :
    parse text = .ok doc ↔ parse? text = some doc := by
  rw [parse]
  cases parse? text <;> simp

theorem escape_hexDigits {n : Nat} (isControl : n < 0x20) (rest : List Char) :
    escape ('u' :: hexDigits 4 n ++ rest) = some (Char.ofNat n, rest) := by
  interval_cases n <;> rfl

/-- A character is read back from its escape. -/
theorem stringBody_escapeChar (c : Char) (done rest : List Char) (room : Nat) :
    stringBody done (room + 1) (escapeChar c ++ rest) = stringBody (c :: done) room rest := by
  unfold escapeChar
  split
  case h_8 notQuote notBackslash _ _ _ _ _ =>
    split
    · rename_i isControl
      have read := escape_hexDigits isControl rest
      rw [Char.ofNat_toNat] at read
      rw [List.cons_append, stringBody, read]
      rfl
    · rename_i printable
      rw [List.singleton_append, stringBody, if_neg printable]
      · exact notQuote
      · exact notBackslash
  all_goals rfl

theorem stringBody_quoted (text done rest : List Char) {room : Nat} (enough : text.length < room) :
    stringBody done room (text.flatMap escapeChar ++ '"' :: rest) =
      some (String.ofList (done.reverse ++ text), rest) := by
  induction text generalizing done room with
  | nil =>
      obtain ⟨room, rfl⟩ := Nat.exists_eq_add_of_lt enough
      simp [stringBody]
  | cons c text inductionHypothesis =>
      cases room with
      | zero => cases enough
      | succ room =>
          rw [List.flatMap_cons, List.append_assoc, stringBody_escapeChar,
            inductionHypothesis _ (Nat.lt_of_succ_lt_succ enough), List.reverse_cons]
          simp

theorem escapeChar_ne_nil (c : Char) : escapeChar c ≠ [] := by
  unfold escapeChar
  split
  case h_8 => split <;> simp
  all_goals simp

theorem length_le_escaped (text : List Char) :
    text.length ≤ (text.flatMap escapeChar).length := by
  induction text with
  | nil => exact Nat.le_refl 0
  | cons c text inductionHypothesis =>
      have nonempty := List.length_pos_iff.mpr (escapeChar_ne_nil c)
      rw [List.flatMap_cons, List.length_append, List.length_cons]
      omega

theorem toList_quote (text : String) :
    (quote text).toList = '"' :: (text.toList.flatMap escapeChar ++ ['"']) :=
  String.toList_ofList

theorem string_escaped (text : String) (rest : List Char) :
    string (text.toList.flatMap escapeChar ++ '"' :: rest) = some (text, rest) := by
  have enough : text.toList.length < (text.toList.flatMap escapeChar ++ '"' :: rest).length := by
    have fewer := length_le_escaped text.toList
    rw [List.length_append, List.length_cons]
    omega
  rw [string, stringBody_quoted _ _ _ enough, List.reverse_nil, List.nil_append,
    String.ofList_toList]

theorem skipSpace_cons {c : Char} (notSpace : isSpace c = false) (rest : List Char) :
    skipSpace (c :: rest) = c :: rest :=
  List.dropWhile_cons_of_neg (Bool.not_eq_true _ ▸ notSpace)

theorem parse_quote (text : String) : parse (quote text) = .ok (.str text) := by
  rw [parse_eq_ok_iff, parse?, parseWithin?, toList_quote, skipSpace_cons (by decide), value,
    string_escaped]
  rfl

def StartsNumber (c : Char) : Prop := c.isDigit = true ∨ c = '-'

theorem value_eq_number {c : Char} (different : c ∉ ['n', 't', 'f', '"', '[', '\x7b'])
    (depth : Nat) (rest : List Char) : value depth (c :: rest) = number (c :: rest) := by
  simp only [List.mem_cons, List.not_mem_nil, or_false, not_or] at different
  obtain ⟨n, t, f, quote, bracket, brace⟩ := different
  rw [value] <;> simp [n, t, f, quote, bracket, brace]

theorem value_of_startsNumber {c : Char} (starts : StartsNumber c) (depth : Nat)
    (rest : List Char) : value depth (c :: rest) = number (c :: rest) := by
  apply value_eq_number
  intro isOther
  simp only [List.mem_cons, List.not_mem_nil, or_false] at isOther
  rcases isOther with rfl | rfl | rfl | rfl | rfl | rfl <;> simp [StartsNumber] at starts

theorem not_isSpace_of_startsNumber {c : Char} (starts : StartsNumber c) : isSpace c = false := by
  rw [isSpace, Bool.eq_false_iff]
  intro isSpace
  simp only [Bool.or_eq_true, beq_iff_eq] at isSpace
  obtain ((rfl | rfl) | rfl) | rfl := isSpace <;> simp [StartsNumber] at starts

theorem parse?_of_startsNumber {text : String} {c : Char} {rest : List Char}
    (isText : text.toList = c :: rest) (starts : StartsNumber c) :
    parse? text = (number (c :: rest)).bind fun (doc, rest) =>
      if (skipSpace rest).isEmpty then some doc else none := by
  rw [parse?, parseWithin?, isText, skipSpace_cons (not_isSpace_of_startsNumber starts),
    value_of_startsNumber starts]
  rfl

theorem exists_num_of_parse {text : String} {c : Char} {rest : List Char} {doc : Json}
    (isText : text.toList = c :: rest) (starts : StartsNumber c) (success : parse text = .ok doc) :
    ∃ n, doc = .num n := by
  rw [parse_eq_ok_iff, parse?_of_startsNumber isText starts] at success
  obtain ⟨⟨found, afterwards⟩, read, complete⟩ := Option.bind_eq_some_iff.mp success
  obtain ⟨⟨spelled, afterLiteral⟩, -, isNumber⟩ := Option.bind_eq_some_iff.mp read
  obtain ⟨n, -, isNumber⟩ := Option.bind_eq_some_iff.mp isNumber
  cases isNumber
  dsimp only at complete
  split at complete
  · cases complete
    exact ⟨n, rfl⟩
  · cases complete

theorem literal_signedDigits (n : Int) :
    literal (signedDigits n) =
      some (⟨decide (n < 0), Nat.toDigits 10 n.natAbs, none, none⟩, []) := by
  rcases Nat.eq_zero_or_pos n.natAbs with zero | positive
  · rw [Int.natAbs_eq_zero.mp zero]
    rfl
  · obtain ⟨c, rest, isCons, isDigit, nonzero⟩ := Numeral.exists_toDigits_eq_cons_of_pos positive
    have spanned : Numeral.spanDigits (Nat.toDigits 10 n.natAbs ++ []) = _ :=
      Numeral.spanDigits_append Numeral.isDigit_of_mem_toDigits nofun
    have notMinus : c ≠ '-' := by
      rintro rfl
      cases isDigit
    rw [isCons, List.append_nil] at spanned
    rw [signedDigits, isCons]
    by_cases negative : n < 0 <;>
      simp [negative, literal, digits, spanned, nonzero, notMinus, fraction, exponent]

theorem number_signedDigits {n : Int} (range : IsWord n) :
    number (signedDigits n) = some (.num (.int n range), []) := by
  have notNegativeZero : ¬(decide (n < 0) = true ∧ n.natAbs = 0) := by
    simp only [decide_eq_true_eq]
    omega
  have signed : (if decide (n < 0) = true then -(n.natAbs : Int) else n.natAbs) = n := by
    simp only [decide_eq_true_eq]
    split <;> omega
  have spelled : Number.ofInt? n = some (.int n range) := dif_pos range
  rw [number, literal_signedDigits, Option.bind_eq_bind, Option.bind_some]
  simp only [Literal.number?, Numeral.ofDigits_toDigits, if_neg notNegativeZero, signed, spelled]
  rfl

theorem startsNumber_signedDigits (n : Int) :
    ∃ c rest, signedDigits n = c :: rest ∧ StartsNumber c := by
  obtain ⟨c, rest, isCons, isDigit⟩ := Numeral.exists_toDigits_eq_cons n.natAbs
  rw [signedDigits, isCons]
  split
  · exact ⟨'-', c :: rest, rfl, .inr rfl⟩
  · exact ⟨c, rest, rfl, .inl isDigit⟩

theorem parse_int {n : Int} (range : IsWord n) :
    parse (num (.int n range)).compact = .ok (.num (.int n range)) := by
  have isText : (num (.int n range)).compact.toList = signedDigits n := toList_toString n
  obtain ⟨c, rest, isCons, starts⟩ := startsNumber_signedDigits n
  rw [parse_eq_ok_iff, parse?_of_startsNumber (isText.trans isCons) starts, ← isCons,
    number_signedDigits range]
  rfl

end Json

namespace Layout

theorem exists_placePoint_eq_cons (layout : Layout) {c : Char} {rest : List Char}
    (isDigit : c.isDigit = true) (exponent : Int) :
    ∃ first others, layout.placePoint (c :: rest) exponent = first :: others ∧
      first.isDigit = true := by
  unfold placePoint
  split
  · exact ⟨c, _, rfl, isDigit⟩
  · dsimp only
    split
    · rename_i short
      obtain ⟨taken, isTaken⟩ := Nat.exists_eq_add_of_lt short
      have some_left : (c :: rest).length - (-exponent).toNat = taken + 1 := by omega
      rw [some_left]
      exact ⟨c, _, rfl, isDigit⟩
    · exact ⟨'0', _, rfl, rfl⟩

theorem exists_magnitudeText_eq_cons (layout : Layout) (d : Decimal) :
    ∃ first others, layout.magnitudeText d = first :: others ∧ first.isDigit = true := by
  obtain ⟨c, rest, isCons, isDigit⟩ := Numeral.exists_toDigits_eq_cons d.digits
  unfold magnitudeText
  rw [Decimal.digitsOf, isCons]
  dsimp only
  split_ifs
  · exact layout.exists_placePoint_eq_cons isDigit d.exponent
  · cases rest <;> exact ⟨c, _, rfl, isDigit⟩

end Layout

namespace Json

theorem startsNumber_text (n : Number) :
    ∃ c rest, n.text.toList = c :: rest ∧ StartsNumber c := by
  cases n with
  | int n range =>
      obtain ⟨c, rest, isCons, starts⟩ := startsNumber_signedDigits n
      exact ⟨c, rest, (toList_toString n).trans isCons, starts⟩
  | float x finite =>
      have isNumber : x.isNaN = false := by simp [Binary64.isNaN, finite]
      have bounded : x.isInfinite = false := by simp [Binary64.isInfinite, finite]
      obtain ⟨c, rest, isCons, isDigit⟩ :=
        Layout.json.exists_magnitudeText_eq_cons (Decimal.shortest Layout.json.tie x)
      rw [Number.text, Layout.text, isNumber, bounded, if_neg Bool.false_ne_true,
        if_neg Bool.false_ne_true]
      cases x.isZero <;> cases x.isNegative
      · exact ⟨c, rest, by simp [isCons], .inl isDigit⟩
      · exact ⟨'-', c :: rest, by simp [isCons], .inr rfl⟩
      · exact ⟨'0', ['.', '0'], by simp [Layout.json], .inl rfl⟩
      · exact ⟨'-', ['0', '.', '0'], by simp [Layout.json], .inr rfl⟩

end Json

end ChartParams
