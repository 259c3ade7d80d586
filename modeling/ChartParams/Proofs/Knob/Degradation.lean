import ChartParams.Proofs.Knob.Warnings
import ChartParams.Proofs.Numeric.Integers

/-!
# Malformed values

What is read of a value that is not what its reader expects: the zero of the type, with a warning
that names the path. Numbers and flags have malformed values that are read as zero without a trace:
objects and arrays in place of a number, and whatever is malformed in place of a flag.
-/

namespace ChartParams

def Notice.Names (path : String) (notice : Notice) : Prop :=
  ∃ what why, notice.message = what ++ path ++ ": " ++ why

/-- Nothing but a warning about a path is read, and a value in place of what was lost. -/
def Logged.WarnsAt {α : Type} (path : String) (zero : α) (read : Logged Notice α) : Prop :=
  ∃ notice : Notice, read = .report notice zero ∧ notice.isWarning = true ∧ notice.Names path

/-- What is read is zero, with a warning that names the path, or without a notice where what is
there is passed over in silence. -/
def Logged.Degrades {α : Type} (path : String) (zero : α) (isSilent : Prop)
    (read : Logged Notice α) : Prop :=
  (isSilent → read = pure zero) ∧ (¬isSilent → read.WarnsAt path zero)

namespace Json

def IsNumeric : Json → Prop
  | num _ | bool _ => True
  | str text => ∃ x, Numeral.readBinary64 (trim text) = .ok x
  | null | arr _ | obj _ => False

def IsFlag : Json → Prop
  | num _ | bool _ => True
  | str text => ∃ b, Reading.flag? text = some b
  | null | arr _ | obj _ => False

def IsContainer : Json → Prop
  | arr _ | obj _ => True
  | null | bool _ | num _ | str _ => False

end Json

namespace Reading

section Malformed

variable {doc : Json} {path : String} {value : Json} (found : doc.get? path = some value)

include found

theorem degrades_quantity {α : Type} {read : String → Except Quantity.Error α} {zero : α}
    {measure : Quantity.Overflow → Quantity → Except Quantity.Error Int64}
    (reads : ∀ text, (∃ amount, read text = .ok amount) ↔ Quantity.Measurable measure text)
    (malformed : ¬value.HoldsAmount measure) :
    (quantity read zero doc path).Degrades path zero False := by
  refine ⟨False.elim, fun _ => ?_⟩
  obtain ⟨nonempty, unmeasured⟩ := not_or.mp malformed
  have text : quantityText? doc path = some value.leafText := by
    simp [quantityText?, Json.textAt, found, path_of_get? found, nonempty]
  rw [quantity, text]
  dsimp only
  cases result : read value.leafText with
  | ok amount => exact absurd ((reads _).mp ⟨amount, result⟩) unmeasured
  | error error =>
      exact ⟨.badQuantity path error, rfl, rfl, "failed to parse quantity at ", error.message, rfl⟩

variable (notNull : value ≠ .null)

include notNull

theorem degrades_integer (malformed : ¬value.IsNumeric) :
    (integer doc path).Degrades path 0 value.IsContainer := by
  rw [integer, found]
  cases value with
  | null => exact absurd rfl notNull
  | num | bool => exact absurd trivial malformed
  | str text =>
      refine ⟨False.elim, fun _ => ?_⟩
      dsimp only
      cases read : Numeral.readInt64 (trim text) with
      | ok n => exact absurd (Numeral.exists_readBinary64_of_readInt64 read) malformed
      | error fault =>
          cases readFloat : Numeral.readBinary64 (trim text) with
          | ok x => exact absurd ⟨x, readFloat⟩ malformed
          | error _ =>
              exact ⟨.badInteger path text, rfl, rfl, "failed to parse int at ", showText text, rfl⟩
  | arr | obj => exact ⟨fun _ => rfl, fun loud => absurd trivial loud⟩

theorem degrades_float (malformed : ¬value.IsNumeric) :
    (float doc path).Degrades path (.zero false) value.IsContainer := by
  rw [float, found]
  cases value with
  | null => exact absurd rfl notNull
  | num | bool => exact absurd trivial malformed
  | str text =>
      refine ⟨False.elim, fun _ => ?_⟩
      dsimp only
      cases read : Numeral.readBinary64 (trim text) with
      | ok x => exact absurd ⟨x, read⟩ malformed
      | error fault =>
          exact ⟨.badFloat path text, rfl, rfl, "failed to parse float at ", showText text, rfl⟩
  | arr | obj => exact ⟨fun _ => rfl, fun loud => absurd trivial loud⟩

theorem degrades_flag (malformed : ¬value.IsFlag) :
    (KnobType.flag.read doc path).Degrades path false True := by
  refine ⟨fun _ => ?_, fun loud => absurd trivial loud⟩
  change (pure (flag doc path) : Logged Notice Bool) = pure false
  rw [flag, found]
  cases value with
  | null => exact absurd rfl notNull
  | num | bool => exact absurd trivial malformed
  | str text =>
      dsimp only
      cases spelled : flag? text with
      | some b => exact absurd ⟨b, spelled⟩ malformed
      | none => rfl
  | arr | obj => rfl

theorem degrades_environment
    (malformed : ∀ env, (KnobType.format .environment).decode value ≠ .ok env) :
    (environment doc path).Degrades path [] False := by
  refine ⟨False.elim, fun _ => ?_⟩
  rw [environment, found]
  cases value with
  | null => exact absurd rfl notNull
  | _ =>
      dsimp only
      split
      · rename_i env decoded
        exact absurd decoded (malformed env)
      · rename_i fault _
        exact ⟨.badEnvironment path fault, rfl, rfl, "failed to decode env list at ", fault.message,
          rfl⟩

theorem degrades_storage
    (malformed : ∀ request, StorageDocument.record.decode value ≠ .ok request) :
    (storage doc path).Degrades path none False := by
  refine ⟨False.elim, fun _ => ?_⟩
  rw [storage, found]
  cases value with
  | null => exact absurd rfl notNull
  | _ =>
      dsimp only
      split
      · rename_i fault _
        exact ⟨.badStorage path fault, rfl, rfl, "failed to decode storage at ", fault.message, rfl⟩
      · rename_i request decoded
        exact absurd decoded (malformed request)

/-- Malformed values of every type are read as zero. All but two sorts of them are reported with a
warning that names the path: containers in place of a number, and malformed flags. -/
theorem degrades_unless_silent :
    (¬value.IsNumeric → (integer doc path).Degrades path 0 value.IsContainer) ∧
    (¬value.IsNumeric → (float doc path).Degrades path (.zero false) value.IsContainer) ∧
    (¬value.IsFlag → (KnobType.flag.read doc path).Degrades path false True) ∧
    ((∀ env, (KnobType.format .environment).decode value ≠ .ok env) →
      (environment doc path).Degrades path [] False) ∧
    (¬value.HoldsAmount Quantity.value → (memory doc path).Degrades path 0 False) ∧
    (¬value.HoldsAmount Quantity.value → (storageSize doc path).Degrades path 0 False) ∧
    (¬value.HoldsAmount Quantity.milliValue →
      (cores doc path).Degrades path (.zero false) False) ∧
    ((∀ request, StorageDocument.record.decode value ≠ .ok request) →
      (storage doc path).Degrades path none False) :=
  ⟨degrades_integer found notNull, degrades_float found notNull, degrades_flag found notNull,
    degrades_environment found notNull, degrades_quantity found fun _ => BinaryUnit.exists_read_iff,
    degrades_quantity found fun _ => BinaryUnit.exists_read_iff,
    degrades_quantity found fun _ => Cores.exists_read_iff, degrades_storage found notNull⟩

end Malformed

theorem degrades_unless_silent_text :
    let doc := Json.obj [("some", .str "some")]
    (integer doc "some").WarnsAt "some" 0 ∧ (float doc "some").WarnsAt "some" (.zero false) ∧
      KnobType.flag.read doc "some" = pure false ∧ (environment doc "some").WarnsAt "some" [] ∧
      (memory doc "some").WarnsAt "some" 0 ∧ (storageSize doc "some").WarnsAt "some" 0 ∧
      (cores doc "some").WarnsAt "some" (.zero false) ∧
      (storage doc "some").WarnsAt "some" none := by
  intro doc
  have found : doc.get? "some" = some (.str "some") := rfl
  have notNumeric : ¬(Json.str "some").IsNumeric := by
    rintro ⟨x, read⟩
    cases read
  have notFlag : ¬(Json.str "some").IsFlag := by
    rintro ⟨b, spelled⟩
    cases spelled
  have noAmount {measure} : ¬(Json.str "some").HoldsAmount measure := by
    rintro (isEmpty | ⟨quantity, amount, parsed, -⟩)
    · exact absurd isEmpty (by decide)
    · cases parsed
  obtain ⟨integers, floats, flags, environments, memories, sizes, processors, volumes⟩ :=
    degrades_unless_silent found nofun
  exact ⟨(integers notNumeric).2 id, (floats notNumeric).2 id, (flags notFlag).1 trivial,
    (environments nofun).2 id, (memories noAmount).2 id, (sizes noAmount).2 id,
    (processors noAmount).2 id, (volumes nofun).2 id⟩

/-- A flag that is spelled in another way and a list in place of a number are read as zero without
any notice. -/
theorem degrades_silently :
    let doc := Json.obj [("hostNetwork", .str "yes"), ("replicas", .arr [])]
    (doc.get? "hostNetwork" = some (.str "yes") ∧ ¬(Json.str "yes").IsFlag ∧
      KnobType.flag.read doc "hostNetwork" = pure false ∧
      ¬(KnobType.flag.read doc "hostNetwork").WarnsAt "hostNetwork" false) ∧
    (doc.get? "replicas" = some (.arr []) ∧ ¬(Json.arr []).IsNumeric ∧
      integer doc "replicas" = pure 0 ∧ ¬(integer doc "replicas").WarnsAt "replicas" 0 ∧
      float doc "replicas" = pure (.zero false) ∧
      ¬(float doc "replicas").WarnsAt "replicas" (.zero false)) := by
  intro doc
  have silent {α : Type} {path : String} {zero value : α} {read : Logged Notice α}
      (isPure : read = pure value) : ¬read.WarnsAt path zero := by
    rintro ⟨notice, isReport, -⟩
    have logs := congrArg Logged.log (isPure.symm.trans isReport)
    cases logs
  have notFlag : ¬(Json.str "yes").IsFlag := by
    rintro ⟨b, spelled⟩
    cases spelled
  exact ⟨⟨rfl, notFlag, rfl, silent rfl⟩, rfl, id, rfl, silent rfl, rfl, silent rfl⟩

end Reading

end ChartParams
