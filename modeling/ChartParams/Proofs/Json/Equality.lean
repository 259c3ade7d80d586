import ChartParams.Proofs.Json.Sameness

/-!
# Equality of documents

Whether two documents are equal can be computed, so that what a text spells can be decided.
-/

namespace ChartParams

namespace Json

mutual

def equal : Json → Json → Bool
  | null, null => true
  | bool a, bool b => a == b
  | num a, num b => a == b
  | str a, str b => a == b
  | arr xs, arr ys => equalItems xs ys
  | obj ms, obj ns => equalMembers ms ns
  | _, _ => false

def equalItems : List Json → List Json → Bool
  | [], [] => true
  | x :: xs, y :: ys => equal x y && equalItems xs ys
  | _, _ => false

def equalMembers : List (String × Json) → List (String × Json) → Bool
  | [], [] => true
  | (key, x) :: xs, (other, y) :: ys => key == other && equal x y && equalMembers xs ys
  | _, _ => false

end

theorem equalItems_iff {xs ys : List Json} (each : ∀ x ∈ xs, ∀ y, equal x y = true ↔ x = y) :
    equalItems xs ys = true ↔ xs = ys := by
  induction xs generalizing ys with
  | nil => cases ys <;> simp [equalItems]
  | cons x xs inductionHypothesis =>
      rw [List.forall_mem_cons] at each
      cases ys with
      | nil => simp [equalItems]
      | cons y ys => simp [equalItems, each.1, inductionHypothesis each.2]

theorem equalMembers_iff {xs ys : Members} (each : ∀ x ∈ xs, ∀ y, equal x.2 y = true ↔ x.2 = y) :
    equalMembers xs ys = true ↔ xs = ys := by
  induction xs generalizing ys with
  | nil => cases ys <;> simp [equalMembers]
  | cons x xs inductionHypothesis =>
      rw [List.forall_mem_cons] at each
      cases ys with
      | nil => simp [equalMembers]
      | cons y ys => simp [equalMembers, each.1, inductionHypothesis each.2, Prod.ext_iff]

theorem equal_iff {doc other : Json} : equal doc other = true ↔ doc = other := by
  induction doc using induction_parts generalizing other with
  | null | bool | num | str => cases other <;> simp [equal]
  | arr items inductionHypothesis =>
      cases other with
      | arr others => simp [equal, equalItems_iff fun x present y => inductionHypothesis x present]
      | _ => simp [equal]
  | obj members inductionHypothesis =>
      cases other with
      | obj others =>
          simp [equal, equalMembers_iff fun x present y => inductionHypothesis x present]
      | _ => simp [equal]

instance : DecidableEq Json := fun _ _ => decidable_of_iff _ equal_iff

end Json

end ChartParams
