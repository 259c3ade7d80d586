import ChartParams.Json.Reader
import ChartParams.Proofs.Json.Members

/-!
# Documents that are read

What holds of leaves and is passed on to containers holds of every document that a text spells. In
particular such a document names no key twice: the reader puts every member into the object that it
has so far.
-/

namespace ChartParams

namespace Json

variable {property : Json → Prop} {value : Reader Json} {text rest : List Char}

theorem moreItems_forall
    (each : ∀ text found rest, value text = some (found, rest) → property found) {room : Nat}
    {done found : List Json} (doneHolds : ∀ item ∈ done, property item)
    (success : moreItems value done room text = some (found, rest)) :
    ∀ item ∈ found, property item := by
  induction room generalizing done text with
  | zero => cases success
  | succ room inductionHypothesis =>
      rw [moreItems] at success
      split at success
      · cases success
        simpa using doneHolds
      · obtain ⟨⟨item, afterItem⟩, read, success⟩ := Option.bind_eq_some_iff.mp success
        refine inductionHypothesis ?_ success
        rw [List.forall_mem_cons]
        exact ⟨each _ _ _ read, doneHolds⟩
      · cases success

theorem items_forall
    (each : ∀ text found rest, value text = some (found, rest) → property found)
    {found : List Json} (success : items value text = some (found, rest)) :
    ∀ item ∈ found, property item := by
  rw [items] at success
  split at success
  · cases success
    exact List.forall_mem_nil _
  · obtain ⟨⟨item, afterItem⟩, read, success⟩ := Option.bind_eq_some_iff.mp success
    exact moreItems_forall each (by simpa using each _ _ _ read) success

theorem member_forall
    (each : ∀ text found rest, value text = some (found, rest) → property found)
    {key : String} {content : Json} (success : member value text = some ((key, content), rest)) :
    property content := by
  unfold member at success
  split at success
  · obtain ⟨⟨name, afterKey⟩, -, success⟩ := Option.bind_eq_some_iff.mp success
    dsimp only at success
    split at success
    · obtain ⟨⟨found, afterValue⟩, read, success⟩ := Option.bind_eq_some_iff.mp success
      cases success
      exact each _ _ _ read
    · cases success
  · cases success

theorem moreMembers_forall
    (each : ∀ text found rest, value text = some (found, rest) → property found) {room : Nat}
    {done found : Members} (distinct : done.keys.Nodup)
    (doneHolds : ∀ member ∈ done, property member.2)
    (success : moreMembers value done room text = some (found, rest)) :
    found.keys.Nodup ∧ ∀ member ∈ found, property member.2 := by
  induction room generalizing done text with
  | zero => cases success
  | succ room inductionHypothesis =>
      rw [moreMembers] at success
      split at success
      · cases success
        exact ⟨distinct, doneHolds⟩
      · obtain ⟨⟨⟨key, content⟩, afterMember⟩, read, success⟩ := Option.bind_eq_some_iff.mp success
        exact inductionHypothesis (Members.nodup_keys_put distinct)
          (Members.forall_mem_put (member_forall each read) doneHolds) success
      · cases success

theorem members_forall
    (each : ∀ text found rest, value text = some (found, rest) → property found)
    {found : Members} (success : members value text = some (found, rest)) :
    found.keys.Nodup ∧ ∀ member ∈ found, property member.2 := by
  rw [members] at success
  split at success
  · cases success
    exact ⟨List.nodup_nil, List.forall_mem_nil _⟩
  · obtain ⟨⟨⟨key, content⟩, afterMember⟩, read, success⟩ := Option.bind_eq_some_iff.mp success
    have first : ∀ member ∈ [(key, content)], property member.2 :=
      List.forall_mem_singleton.mpr (member_forall each read)
    exact moreMembers_forall each (by simp) first success

theorem exists_num_of_number {found : Json} (success : number text = some (found, rest)) :
    ∃ n, found = .num n := by
  obtain ⟨⟨spelled, afterLiteral⟩, -, success⟩ := Option.bind_eq_some_iff.mp success
  obtain ⟨n, -, success⟩ := Option.bind_eq_some_iff.mp success
  cases success
  exact ⟨n, rfl⟩

/-- What holds of leaves, and of containers one level above their parts, holds of every document
that is read within a depth. -/
theorem value_induction {motive : Nat → Json → Prop}
    (null : ∀ depth, motive depth .null) (bool : ∀ depth value, motive depth (.bool value))
    (num : ∀ depth n, motive depth (.num n)) (str : ∀ depth text, motive depth (.str text))
    (arr : ∀ depth items, (∀ item ∈ items, motive depth item) → motive (depth + 1) (.arr items))
    (obj : ∀ depth (members : Members), members.keys.Nodup →
      (∀ member ∈ members, motive depth member.2) → motive (depth + 1) (.obj members))
    (depth : Nat) :
    ∀ text found rest, Json.value depth text = some (found, rest) → motive depth found := by
  induction depth using Nat.strongRecOn with
  | ind depth inductionHypothesis =>
      intro text found rest success
      fun_cases Json.value depth text with
      | case1 | case2 | case3 =>
          rw [Json.value] at success
          cases success
          apply_assumption
      | case4 afterQuote =>
          rw [Json.value] at success
          obtain ⟨⟨s, afterString⟩, -, success⟩ := Option.bind_eq_some_iff.mp success
          cases success
          exact str depth s
      | case5 depth afterBracket =>
          rw [Json.value] at success
          obtain ⟨⟨found, afterItems⟩, read, success⟩ := Option.bind_eq_some_iff.mp success
          cases success
          exact arr depth found
            (items_forall (inductionHypothesis depth (Nat.lt_succ_self depth)) read)
      | case6 depth afterBrace =>
          rw [Json.value] at success
          obtain ⟨⟨found, afterMembers⟩, read, success⟩ := Option.bind_eq_some_iff.mp success
          cases success
          obtain ⟨distinct, each⟩ :=
            members_forall (inductionHypothesis depth (Nat.lt_succ_self depth)) read
          exact obj depth found distinct each
      | case7 =>
          have isNumber : number text = some (found, rest) := by
            rw [Json.value] at success <;> assumption
          obtain ⟨n, rfl⟩ := exists_num_of_number isNumber
          exact num depth n

def ReadsWellFormed (value : Reader Json) : Prop :=
  ∀ text found rest, value text = some (found, rest) → found.WellFormed

theorem value_wellFormed (depth : Nat) : ReadsWellFormed (Json.value depth) :=
  value_induction (motive := fun _ doc => doc.WellFormed) (fun _ => trivial) (fun _ _ => trivial)
    (fun _ _ => trivial) (fun _ _ => trivial) (fun _ _ each => allWellFormed_iff.mpr each)
    (fun _ _ distinct each => ⟨distinct, membersWellFormed_iff.mpr each⟩) depth

theorem exists_value_of_parse? {text : String} {doc : Json} (success : parse? text = some doc) :
    ∃ rest, Json.value maxNesting (skipSpace text.toList) = some (doc, rest) := by
  obtain ⟨⟨found, rest⟩, read, success⟩ := Option.bind_eq_some_iff.mp success
  dsimp only at success
  split at success
  · cases success
    exact ⟨rest, read⟩
  · cases success

theorem WellFormed.of_parse? {text : String} {doc : Json} (success : parse? text = some doc) :
    doc.WellFormed := by
  obtain ⟨rest, read⟩ := exists_value_of_parse? success
  exact value_wellFormed _ _ _ _ read

end Json

end ChartParams
