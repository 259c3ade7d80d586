import ChartParams.Proofs.Json.Leaves
import ChartParams.Proofs.Quantity.Grammar

/-!
# Numbers with text after them

The reader of numbers takes as much as it can from the front of a text. What it takes stays the same
if something is put after the text, unless a number could go on there. This is put together from the
parts of a number, in the order in which they are read.
-/

namespace ChartParams

namespace Json

/-- A text that no number goes on with. -/
def EndsNumber (rest : List Char) : Prop :=
  ∀ c ∈ rest.head?, c.isDigit = false ∧ c ≠ '.' ∧ c ≠ 'e' ∧ c ≠ 'E'

/-- What a reader takes from the front of a text does not depend on what is put after the text, if
no number goes on there. -/
def Reader.Extends {α : Type} (reader : Reader α) : Prop :=
  ∀ ⦃text found after rest⦄, reader text = some (found, after) → EndsNumber rest →
    reader (text ++ rest) = some (found, after ++ rest)

namespace Reader.Extends

variable {α β : Type} {first : Reader α} {next : α → Reader β}

theorem bind (firstExtends : first.Extends) (nextExtends : ∀ found, (next found).Extends) :
    Reader.Extends fun text => (first text).bind fun (found, rest) => next found rest := by
  intro text found after rest read ends
  obtain ⟨⟨middle, afterFirst⟩, readFirst, readNext⟩ := Option.bind_eq_some_iff.mp read
  dsimp only
  rw [firstExtends readFirst ends, Option.bind_some]
  exact nextExtends middle readNext ends

theorem bindOption (value : Option α) (nextExtends : ∀ found, (next found).Extends) :
    Reader.Extends fun text => value.bind fun found => next found text := by
  intro text found after rest read ends
  obtain ⟨middle, rfl, readNext⟩ := Option.bind_eq_some_iff.mp read
  exact nextExtends middle readNext ends

theorem pure (found : α) : Reader.Extends fun text => some (found, text) := by
  rintro text found after rest ⟨⟩ ends
  rfl

end Reader.Extends

theorem spanDigits_append_of_ends {rest : List Char} (ends : EndsNumber rest) (text : List Char) :
    Numeral.spanDigits (text ++ rest) =
      ((Numeral.spanDigits text).1, (Numeral.spanDigits text).2 ++ rest) := by
  induction text with
  | nil =>
      cases rest with
      | nil => rfl
      | cons c rest => simp [Numeral.spanDigits, (ends c rfl).1]
  | cons c text inductionHypothesis =>
      simp only [Numeral.spanDigits, Prod.mk.injEq] at inductionHypothesis ⊢
      by_cases isDigit : c.isDigit = true <;> simp [isDigit, inductionHypothesis]

theorem extends_digits : Reader.Extends digits := by
  intro text found after rest read ends
  unfold digits at read ⊢
  rw [spanDigits_append_of_ends ends]
  generalize Numeral.spanDigits text = spanned at read ⊢
  obtain ⟨_ | ⟨c, others⟩, remaining⟩ := spanned
  · cases read
  · cases read
    rfl

theorem extends_fraction : Reader.Extends fraction := by
  intro text found after rest read ends
  fun_cases fraction text with
  | case1 text =>
      obtain ⟨⟨digits, afterDigits⟩, isDigits, isFound⟩ := Option.map_eq_some_iff.mp read
      cases isFound
      rw [List.cons_append, fraction, extends_digits isDigits ends]
      rfl
  | case2 text noPoint =>
      rw [fraction] at read
      · cases read
        rw [fraction]
        rintro others isPoint
        rcases List.append_eq_cons_iff.mp isPoint with ⟨-, rfl⟩ | ⟨others, rfl, -⟩
        · exact (ends '.' rfl).2.1 rfl
        · exact noPoint others rfl
      · exact noPoint

def afterMark : Reader (Option Int) := fun text =>
  (digits (splitSign text).2).map fun (found, rest) =>
    (some (signed (splitSign text).1 (Numeral.ofDigits found)), rest)

theorem exponent_mark {mark : Char} (isMark : mark ∈ ['e', 'E']) (text : List Char) :
    exponent (mark :: text) = afterMark text := by
  simp only [List.mem_cons, List.not_mem_nil, or_false] at isMark
  rcases isMark with rfl | rfl <;> rfl

theorem exponent_of_no_mark {text : List Char} (noMark : ∀ c ∈ text.head?, c ∉ ['e', 'E']) :
    exponent text = some (none, text) := by
  rw [exponent]
  · rintro rest rfl
    exact noMark 'e' rfl List.mem_cons_self
  · rintro rest rfl
    exact noMark 'E' rfl (List.mem_cons_of_mem _ List.mem_cons_self)

theorem splitSign_of_nonempty {text : List Char} (nonempty : text ≠ []) (rest : List Char) :
    splitSign (text ++ rest) = ((splitSign text).1, (splitSign text).2 ++ rest) := by
  obtain ⟨c, others, rfl⟩ := List.exists_cons_of_ne_nil nonempty
  unfold splitSign
  rw [List.cons_append]
  split <;> simp_all

theorem extends_afterMark : Reader.Extends afterMark := by
  intro text found after rest read ends
  obtain ⟨⟨digits, afterDigits⟩, isDigits, isFound⟩ := Option.map_eq_some_iff.mp read
  cases isFound
  have nonempty : text ≠ [] := by
    rintro rfl
    cases isDigits
  rw [afterMark, splitSign_of_nonempty nonempty, extends_digits isDigits ends]
  rfl

theorem extends_exponent : Reader.Extends exponent := by
  intro text found after rest read ends
  cases text with
  | nil =>
      cases read
      exact exponent_of_no_mark fun c first => by simpa using (ends c first).2.2
  | cons c text =>
      by_cases isMark : c ∈ ['e', 'E']
      · rw [exponent_mark isMark] at read
        rw [List.cons_append, exponent_mark isMark]
        exact extends_afterMark read ends
      · have noMark : ∀ d ∈ (c :: text).head?, d ∉ ['e', 'E'] := by
          rintro d ⟨⟩
          exact isMark
        rw [exponent_of_no_mark noMark] at read
        cases read
        exact exponent_of_no_mark noMark

/-- The digits in front of the point: a single zero, or others that do not start with one. -/
def wholePart : Reader (List Char)
  | '0' :: rest => some (['0'], rest)
  | rest => digits rest

theorem extends_wholePart : Reader.Extends wholePart := by
  intro text found after rest read ends
  fun_cases wholePart text with
  | case1 text =>
      cases read
      rfl
  | case2 text noZero =>
      rw [wholePart] at read
      · have nonempty : text ≠ [] := by
          rintro rfl
          cases read
        obtain ⟨c, others, rfl⟩ := List.exists_cons_of_ne_nil nonempty
        rw [List.cons_append, wholePart]
        · exact extends_digits read ends
        · rintro others ⟨⟩
          exact noZero _ rfl
      · exact noZero

def splitMinus : List Char → Bool × List Char
  | '-' :: rest => (true, rest)
  | rest => (false, rest)

def unsigned (negative : Bool) : Reader Literal := fun text => do
  let (whole, text) ← wholePart text
  let (fraction, text) ← fraction text
  let (exponent, text) ← exponent text
  some (⟨negative, whole, fraction, exponent⟩, text)

theorem literal_eq (text : List Char) :
    literal text = unsigned (splitMinus text).1 (splitMinus text).2 := by
  unfold unsigned
  fun_cases splitMinus text with
  | case1 rest => fun_cases wholePart rest <;> simp [literal, *]
  | case2 noMinus => fun_cases wholePart text <;> simp [literal, *]

theorem extends_unsigned (negative : Bool) : (unsigned negative).Extends :=
  extends_wholePart.bind fun whole =>
    extends_fraction.bind fun fraction =>
      extends_exponent.bind fun exponent =>
        .pure (Literal.mk negative whole fraction exponent)

theorem extends_literal : Reader.Extends literal := by
  intro text found after rest read ends
  rw [literal_eq] at read ⊢
  have nonempty : text ≠ [] := by
    rintro rfl
    cases read
  have splits : splitMinus (text ++ rest) = ((splitMinus text).1, (splitMinus text).2 ++ rest) := by
    obtain ⟨c, others, rfl⟩ := List.exists_cons_of_ne_nil nonempty
    unfold splitMinus
    rw [List.cons_append]
    split <;> simp_all
  rw [splits]
  exact extends_unsigned _ read ends

theorem extends_number : Reader.Extends number :=
  extends_literal.bind fun spelled =>
    .bindOption spelled.number? fun n =>
      .pure (num n)

end Json

end ChartParams
