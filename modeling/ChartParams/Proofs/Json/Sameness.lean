import ChartParams.Proofs.Json.Places

/-!
# Documents that are the same

Two documents agree at a place if they hold the same leaf there, or an object each, or nothing.
Documents that agree at every place differ at most in the order of the members of their objects, so
they are the same value.
-/

namespace ChartParams

namespace Number

theorem same_self (n : Number) : n.same n = true := by
  cases n with
  | int value range => simp [same]
  | float x finite =>
      have notNaN : x.isNaN = false := by simp [Binary64.isNaN, finite]
      simp [same, Binary64.same, notNaN]

end Number

namespace Json

variable {doc other leaf : Json} {key : String} {keys rest : List String}

@[elab_as_elim]
theorem induction_parts {motive : Json → Prop} (null : motive null)
    (bool : ∀ value, motive (bool value))
    (num : ∀ value, motive (num value)) (str : ∀ value, motive (str value))
    (arr : ∀ items, (∀ item ∈ items, motive item) → motive (arr items))
    (obj : ∀ members : Members, (∀ member ∈ members, motive member.2) → motive (obj members)) :
    (doc : Json) → motive doc
  | .null => null
  | .bool value => bool value
  | .num value => num value
  | .str value => str value
  | .arr items => arr items fun item _ => induction_parts null bool num str arr obj item
  | .obj members => obj members fun (_, value) _ => induction_parts null bool num str arr obj value
termination_by doc => sizeOf doc
decreasing_by
  · rename_i present
    have smaller := List.sizeOf_lt_of_mem present
    rw [Json.arr.sizeOf_spec]
    omega
  · rename_i present
    have smaller := List.sizeOf_lt_of_mem present
    rw [Prod.mk.sizeOf_spec] at smaller
    rw [Json.obj.sizeOf_spec]
    omega

/-- Two documents hold the same leaf at a place, or an object each, or nothing. -/
def AgreeAt (doc other : Json) (keys : List String) : Prop :=
  (∀ leaf, doc.HoldsLeaf keys leaf ↔ other.HoldsLeaf keys leaf) ∧
    (doc.HoldsObject keys ↔ other.HoldsObject keys)

theorem agreeAt_of_getAt?_eq (equality : doc.getAt? keys = other.getAt? keys) :
    AgreeAt doc other keys := by
  simp only [AgreeAt, HoldsLeaf, HoldsObject, equality, implies_true, and_self]

theorem agreeAt_of_holdsObject (holds : doc.HoldsObject keys) (otherHolds : other.HoldsObject keys) :
    AgreeAt doc other keys := by
  constructor
  · intro leaf
    apply iff_of_false
    · intro holdsLeaf
      exact holdsLeaf.not_holdsObject holds
    · intro holdsLeaf
      exact holdsLeaf.not_holdsObject otherHolds
  · exact iff_of_true holds otherHolds

theorem AgreeAt.symm (agree : AgreeAt doc other keys) : AgreeAt other doc keys :=
  ⟨fun leaf => (agree.1 leaf).symm, agree.2.symm⟩

theorem AgreeAt.eq_of_leaf (agree : AgreeAt doc other []) (notObject : doc.isObject = false) :
    other = doc :=
  Option.some.inj ((agree.1 doc).mp ⟨rfl, notObject⟩).1

/-- The values at a key of objects that agree at all places agree at all places. -/
theorem exists_member_of_agreeAt {members others : Members} {value : Json}
    (agree : ∀ keys, AgreeAt (obj members) (obj others) keys)
    (present : members.get? key = some value) :
    ∃ counterpart, others.get? key = some counterpart ∧
      ∀ rest, AgreeAt value counterpart rest := by
  have isThere : ∃ counterpart, others.get? key = some counterpart := by
    have here : value.getAt? [] = some value := rfl
    rcases holds_of_getAt? here with holds | holds
    · have leafThere := ((agree [key]).1 value).mp (holdsLeaf_cons.mpr ⟨value, present, holds⟩)
      obtain ⟨counterpart, found, -⟩ := holdsLeaf_cons.mp leafThere
      exact ⟨counterpart, found⟩
    · have objectThere := (agree [key]).2.mp (holdsObject_cons.mpr ⟨value, present, holds⟩)
      obtain ⟨counterpart, found, -⟩ := holdsObject_cons.mp objectThere
      exact ⟨counterpart, found⟩
  obtain ⟨counterpart, found⟩ := isThere
  refine ⟨counterpart, found, ?_⟩
  intro rest
  have agreeBelow := agree (key :: rest)
  simpa only [AgreeAt, HoldsLeaf, HoldsObject, getAt?_cons, member?, present, found,
    Option.bind_some] using agreeBelow

theorem mem_keys_of_agreeAt {members others : Members}
    (agree : ∀ keys, AgreeAt (obj members) (obj others) keys) (isKey : key ∈ members.keys) :
    key ∈ others.keys := by
  cases present : members.get? key with
  | none => exact absurd isKey (Members.get?_eq_none_iff.mp present)
  | some value =>
      obtain ⟨counterpart, found, -⟩ := exists_member_of_agreeAt agree present
      exact Members.key_mem_keys (Members.mem_of_get? found)

theorem length_eq_of_agreeAt {members others : Members} (distinct : members.keys.Nodup)
    (otherDistinct : others.keys.Nodup)
    (agree : ∀ keys, AgreeAt (obj members) (obj others) keys) :
    members.length = others.length := by
  have swapped (keys : List String) : AgreeAt (obj others) (obj members) keys := (agree keys).symm
  have keysPerm : members.keys.Perm others.keys := by
    apply (List.perm_ext_iff_of_nodup distinct otherDistinct).mpr
    intro key
    exact ⟨mem_keys_of_agreeAt agree, mem_keys_of_agreeAt swapped⟩
  simpa only [Members.keys, List.length_map] using keysPerm.length_eq

theorem sameItems_self {items : List Json} (each : ∀ item ∈ items, item.same item = true) :
    sameItems items items = true := by
  induction items with
  | nil => rfl
  | cons item rest inductionHypothesis =>
      rw [List.forall_mem_cons] at each
      rw [sameItems, each.1, inductionHypothesis each.2]
      rfl

theorem sameMembers_of_forall {members others : Members}
    (each : ∀ member ∈ members, ∃ counterpart, others.get? member.1 = some counterpart ∧
      member.2.same counterpart = true) :
    sameMembers members others = true := by
  induction members with
  | nil => rfl
  | cons member rest inductionHypothesis =>
      rw [List.forall_mem_cons] at each
      obtain ⟨⟨counterpart, found, same⟩, eachRest⟩ := each
      rw [sameMembers, found, inductionHypothesis eachRest, Bool.and_true]
      exact same

/-- Documents that agree at every place are the same. -/
theorem same_of_agreeAt (wellFormed : doc.WellFormed) (otherWellFormed : other.WellFormed)
    (agree : ∀ keys, AgreeAt doc other keys) : doc.same other = true := by
  induction doc using Json.induction_parts generalizing other with
  | null | bool | str =>
      rw [(agree []).eq_of_leaf rfl]
      simp [same]
  | num n =>
      rw [(agree []).eq_of_leaf rfl]
      exact n.same_self
  | arr items inductionHypothesis =>
      rw [(agree []).eq_of_leaf rfl]
      apply sameItems_self
      intro item present
      have itemWellFormed := allWellFormed_iff.mp wellFormed item present
      exact inductionHypothesis item present itemWellFormed itemWellFormed
        fun keys => agreeAt_of_getAt?_eq rfl
  | obj members inductionHypothesis =>
      obtain ⟨others, rfl⟩ := ((agree []).2.mp ⟨_, rfl, rfl⟩).exists_obj
      have distinct := wellFormed.nodup_keys
      have sameLength := length_eq_of_agreeAt distinct otherWellFormed.nodup_keys agree
      rw [same, sameLength, beq_self_eq_true, Bool.true_and]
      apply sameMembers_of_forall
      intro member isMember
      have present := (Members.get?_eq_some_iff distinct).mpr isMember
      obtain ⟨counterpart, found, agreeBelow⟩ := exists_member_of_agreeAt agree present
      exact ⟨counterpart, found, inductionHypothesis member isMember (wellFormed.get? present)
        (otherWellFormed.get? found) agreeBelow⟩

end Json

end ChartParams
