import ChartParams.Proofs.Json.Members
import ChartParams.Yaml.Document
import Mathlib.Tactic.SplitIfs

/-!
# Documents of YAML texts

Every document that a YAML text holds is well formed: no mapping names a key twice, because a key
that comes again takes the place of the one before. What holds of all values that are read follows
the reading through its steps.
-/

namespace ChartParams.Yaml

def Resolving.Gives {α : Type} (property : α → Prop) (reading : Resolving α) : Prop :=
  ∀ count found after, reading.run count = some (found, after) → property found

namespace Resolving.Gives

variable {α β : Type} {property : α → Prop} {holds : β → Prop}

theorem pure {value : α} (holds : property value) :
    Gives property (Pure.pure value : Resolving α) := by
  rintro count found after ⟨⟩
  exact holds

theorem failure : Gives property (Alternative.failure : Resolving α) := by
  rintro count found after ⟨⟩

theorem lift {value : Option α} (holds : ∀ found, value = some found → property found) :
    Gives property (liftM value : Resolving α) := by
  cases value with
  | none => nofun
  | some value =>
      rintro count _ after ⟨⟩
      exact holds value rfl

theorem bind {first : Resolving β} {next : β → Resolving α} (firstGives : first.Gives holds)
    (nextGives : ∀ value, holds value → (next value).Gives property) :
    (first >>= next).Gives property := by
  intro count found after read
  obtain ⟨⟨middle, afterFirst⟩, readFirst, readNext⟩ := Option.bind_eq_some_iff.mp read
  exact nextGives middle (firstGives _ _ _ readFirst) _ _ _ readNext

theorem trivial (reading : Resolving α) : reading.Gives fun _ => True :=
  fun _ _ _ _ => True.intro

theorem mapM {read : β → Resolving α} {items : List β}
    (each : ∀ item ∈ items, (read item).Gives property) :
    (items.mapM read).Gives fun found => ∀ value ∈ found, property value := by
  induction items with
  | nil => exact pure nofun
  | cons item rest inductionHypothesis =>
      rw [List.forall_mem_cons] at each
      rw [List.mapM_cons]
      refine bind each.1 fun value holds => ?_
      refine bind (inductionHypothesis each.2) fun values allHold => ?_
      exact pure (List.forall_mem_cons.mpr ⟨holds, allHold⟩)

theorem foldlM (property : α → Prop) {step : α → β → Resolving α} {items : List β} {start : α}
    (startHolds : property start)
    (each : ∀ item ∈ items, ∀ value, property value → (step value item).Gives property) :
    (items.foldlM step start).Gives property := by
  induction items generalizing start with
  | nil => exact pure startHolds
  | cons item rest inductionHypothesis =>
      rw [List.forall_mem_cons] at each
      rw [List.foldlM_cons]
      exact bind (each.1 start startHolds) fun value holds => inductionHypothesis holds each.2

end Resolving.Gives

namespace Scalar

variable {text : List Char} {doc : Json}

theorem ofFloat_wellFormed (x : Binary64) : (ofFloat x).WellFormed := by
  unfold ofFloat
  split <;> trivial

theorem ofPlain?_wellFormed (read : ofPlain? text = some doc) : doc.WellFormed := by
  unfold ofPlain? at read
  split at read
  · cases read
    trivial
  · split at read
    · cases read
      trivial
    · obtain ⟨n, -, rfl⟩ := Option.map_eq_some_iff.mp read
      trivial
    · split at read
      · cases read
        exact ofFloat_wellFormed _
      · cases read
        trivial

theorem ofTagged?_wellFormed {tag : TagBytes} {isPlain : Bool}
    (read : ofTagged? tag text isPlain = some doc) : doc.WellFormed := by
  unfold ofTagged? at read
  split_ifs at read
  · obtain ⟨b, -, rfl⟩ := Option.map_eq_some_iff.mp read
    trivial
  · obtain ⟨n, -, rfl⟩ := Option.map_eq_some_iff.mp read
    trivial
  · obtain ⟨x, -, rfl⟩ := Option.map_eq_some_iff.mp read
    exact ofFloat_wellFormed x
  · cases read
    trivial
  · exact ofPlain?_wellFormed read
  · cases read
    trivial

theorem toJson?_wellFormed {tag : Option TagBytes} {isPlain : Bool}
    (read : toJson? tag text isPlain = some doc) : doc.WellFormed := by
  unfold toJson? at read
  split at read
  · exact ofTagged?_wellFormed read
  · split_ifs at read
    · exact ofPlain?_wellFormed read
    · cases read
      trivial

end Scalar

theorem scalarJson_wellFormed (properties : Properties) (text : List Char) (isPlain : Bool) :
    (toJson.scalarJson properties text isPlain).Gives Json.WellFormed := by
  unfold toJson.scalarJson
  split
  · exact .failure
  · exact .lift fun doc => Scalar.toJson?_wellFormed

theorem toJson_wellFormed (anchors : Anchors) (depth : Nat) (node : Node) :
    (toJson anchors depth node).Gives Json.WellFormed := by
  induction depth generalizing node with
  | zero =>
      refine .bind (.trivial _) fun node _ => ?_
      split
      · exact scalarJson_wellFormed _ _ _
      · exact .failure
  | succ depth inductionHypothesis =>
      refine .bind (.trivial _) fun node _ => ?_
      split
      · exact scalarJson_wellFormed _ _ _
      · split
        · exact .failure
        · refine .bind (.mapM fun item _ => inductionHypothesis item) fun values wellFormed => ?_
          exact .pure (Json.allWellFormed_iff.mpr wellFormed)
      · split
        · exact .failure
        · have start : (Json.obj []).WellFormed := Json.wellFormed_obj_iff.mpr ⟨.nil, nofun⟩
          refine .bind (.foldlM (fun members => (Json.obj members).WellFormed) start ?_)
            fun members wellFormed => .pure wellFormed
          intro entry _ members wellFormed
          refine .bind (.trivial _) fun key _ => ?_
          refine .bind (inductionHypothesis _) fun value isWellFormed => ?_
          exact .pure (wellFormed.put isWellFormed)
      · exact .failure

theorem wellFormed_of_parse? {text : String} {doc : Json} (parsed : parse? text = some doc) :
    doc.WellFormed := by
  unfold parse? at parsed
  dsimp only at parsed
  split at parsed
  case isFalse => cases parsed
  case isTrue =>
    obtain ⟨tokens, -, parsed⟩ := Option.bind_eq_some_iff.mp parsed
    obtain ⟨root?, -, parsed⟩ := Option.bind_eq_some_iff.mp parsed
    split at parsed
    · cases parsed
      trivial
    · obtain ⟨⟨found, count⟩, read, isFound⟩ := Option.bind_eq_some_iff.mp parsed
      cases isFound
      exact toJson_wellFormed _ _ _ _ _ _ read

end ChartParams.Yaml
