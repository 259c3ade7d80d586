import ChartParams.Json.Basic

/-!
# Members of objects

What `put` and `remove` do to the keys of an object and to the values at them. With every key named
once, the value at a key is the value of the one member with that key, so the order of the members
does not matter for reading them. In particular `remove`, which moves the last member into the free
place, loses no other key.
-/

namespace ChartParams

namespace Members

variable {key other : String} {value : Json} {members : Members}

@[simp]
theorem keys_nil : keys [] = [] := rfl

@[simp]
theorem keys_cons (member : String × Json) (rest : Members) :
    keys (member :: rest) = member.1 :: keys rest := rfl

theorem key_mem_keys (membership : (key, value) ∈ members) : key ∈ members.keys :=
  List.mem_map.mpr ⟨(key, value), membership, rfl⟩

theorem mem_of_get? (found : members.get? key = some value) : (key, value) ∈ members := by
  fun_induction get? key members with
  | case1 => simp at found
  | case2 v rest =>
      cases found
      exact List.mem_cons_self
  | case3 k v rest different inductionHypothesis =>
      exact List.mem_cons_of_mem _ (inductionHypothesis found)

theorem get?_eq_none_iff : members.get? key = none ↔ key ∉ members.keys := by
  fun_induction get? key members with
  | case1 => simp
  | case2 v rest => simp
  | case3 k v rest different inductionHypothesis =>
      simp [inductionHypothesis, Ne.symm different]

theorem get?_eq_some_iff (distinct : members.keys.Nodup) :
    members.get? key = some value ↔ (key, value) ∈ members := by
  refine ⟨mem_of_get?, fun membership => ?_⟩
  fun_induction get? key members with
  | case1 => simp at membership
  | case2 v rest =>
      rcases List.mem_cons.mp membership with equality | later
      · cases equality
        rfl
      · exact absurd (key_mem_keys later) (List.nodup_cons.mp distinct).1
  | case3 k v rest different inductionHypothesis =>
      rcases List.mem_cons.mp membership with equality | later
      · cases equality
        exact absurd rfl different
      · exact inductionHypothesis (List.nodup_cons.mp distinct).2 later

theorem mem_keys_put :
    other ∈ (members.put key value).keys ↔ other = key ∨ other ∈ members.keys := by
  fun_induction put key value members with
  | case1 => simp
  | case2 v rest => simp
  | case3 k v rest different inductionHypothesis =>
      simp only [keys_cons, List.mem_cons, inductionHypothesis]
      exact or_left_comm

theorem nodup_keys_put (distinct : members.keys.Nodup) : (members.put key value).keys.Nodup := by
  fun_induction put key value members with
  | case1 => simp
  | case2 v rest => simpa using distinct
  | case3 k v rest different inductionHypothesis =>
      obtain ⟨fresh, restDistinct⟩ := List.nodup_cons.mp distinct
      refine List.nodup_cons.mpr ⟨fun present => ?_, inductionHypothesis restDistinct⟩
      rcases mem_keys_put.mp present with equality | inRest
      · exact different equality
      · exact fresh inRest

theorem forall_mem_put {property : String × Json → Prop} (new : property (key, value))
    (old : ∀ member ∈ members, property member) :
    ∀ member ∈ members.put key value, property member := by
  fun_induction put key value members with
  | case1 => exact List.forall_mem_singleton.mpr new
  | case2 v rest =>
      rw [List.forall_mem_cons] at old ⊢
      exact ⟨new, old.2⟩
  | case3 k v rest different inductionHypothesis =>
      rw [List.forall_mem_cons] at old ⊢
      exact ⟨old.1, inductionHypothesis old.2⟩

theorem get?_put (key other : String) (value : Json) (members : Members) :
    (members.put key value).get? other =
      if other = key then some value else members.get? other := by
  split
  case isTrue equality => rw [equality, get?_put_self]
  case isFalse different => exact get?_put_of_ne different value members

theorem put_eq_self (found : members.get? key = some value) : members.put key value = members := by
  fun_induction get? key members with
  | case1 => cases found
  | case2 v rest =>
      cases found
      rw [put, if_pos rfl]
  | case3 k v rest different inductionHypothesis =>
      rw [put, if_neg different, inductionHypothesis found]

theorem put_of_fresh (fresh : key ∉ members.keys) (value : Json) :
    members.put key value = members ++ [(key, value)] := by
  induction members with
  | nil => rfl
  | cons member rest inductionHypothesis =>
      rw [keys_cons, List.mem_cons, not_or] at fresh
      rw [put, if_neg (Ne.symm fresh.1), inductionHypothesis fresh.2, List.cons_append]

theorem put_put (key : String) (first second : Json) (members : Members) :
    (members.put key first).put key second = members.put key second := by
  fun_induction put key first members with
  | case1 => simp [put]
  | case2 v rest => simp [put]
  | case3 k v rest different inductionHypothesis => simp [put, different, inductionHypothesis]

theorem remove_perm_filter (distinct : members.keys.Nodup) :
    (members.remove key).Perm (members.filter fun member => member.1 ≠ key) := by
  induction members with
  | nil => exact .nil
  | cons member rest inductionHypothesis =>
      obtain ⟨k, v⟩ := member
      obtain ⟨fresh, restDistinct⟩ := List.nodup_cons.mp distinct
      by_cases same : k = key
      · subst same
        have untouched : rest.filter (fun member => member.1 ≠ k) = rest := by
          refine List.filter_eq_self.mpr fun member membership => decide_eq_true fun equality => ?_
          exact fresh (equality ▸ key_mem_keys membership)
        rw [List.filter_cons_of_neg (by simp), untouched]
        simp only [remove, if_true]
        rcases List.eq_nil_or_concat rest with rfl | ⟨front, last, rfl⟩
        · exact .nil
        · have swapped : ([last] ++ front).Perm (front ++ [last]) := List.perm_append_comm
          simpa using swapped
      · rw [List.filter_cons_of_pos (by simpa using same)]
        simp only [remove, if_neg same]
        exact (inductionHypothesis restDistinct).cons _

theorem nodup_keys_remove (distinct : members.keys.Nodup) : (members.remove key).keys.Nodup := by
  have removed : (members.remove key).Perm _ := remove_perm_filter distinct
  have permuted := removed.map Prod.fst
  exact permuted.nodup_iff.mpr (distinct.sublist (List.filter_sublist.map _))

theorem get?_remove (distinct : members.keys.Nodup) :
    (members.remove key).get? other = if other = key then none else members.get? other := by
  have mem_remove_iff (value : Json) :
      (other, value) ∈ members.remove key ↔ (other, value) ∈ members ∧ other ≠ key := by
    rw [(remove_perm_filter distinct).mem_iff, List.mem_filter, decide_eq_true_iff]
  split
  case isTrue equality =>
    rw [Option.eq_none_iff_forall_not_mem]
    intro value found
    exact ((mem_remove_iff value).mp (mem_of_get? found)).2 equality
  case isFalse different =>
    apply Option.ext
    intro value
    rw [get?_eq_some_iff (nodup_keys_remove distinct), get?_eq_some_iff distinct, mem_remove_iff]
    exact and_iff_left different

end Members

namespace Json

theorem allWellFormed_iff {items : List Json} :
    AllWellFormed items ↔ ∀ item ∈ items, item.WellFormed := by
  induction items with
  | nil => simp [AllWellFormed]
  | cons item rest inductionHypothesis => simp [AllWellFormed, inductionHypothesis]

theorem membersWellFormed_iff {members : Members} :
    MembersWellFormed members ↔ ∀ member ∈ members, member.2.WellFormed := by
  induction members with
  | nil => simp [MembersWellFormed]
  | cons member rest inductionHypothesis => simp [MembersWellFormed, inductionHypothesis]

theorem wellFormed_obj_iff {members : Members} :
    (obj members).WellFormed ↔
      members.keys.Nodup ∧ ∀ key value, members.get? key = some value → value.WellFormed := by
  rw [WellFormed, membersWellFormed_iff]
  refine and_congr_right fun distinct =>
    ⟨fun each key value found => ?_, fun each member present => ?_⟩
  · exact each _ (Members.mem_of_get? found)
  · exact each member.1 member.2 ((Members.get?_eq_some_iff distinct).mpr present)

theorem WellFormed.nodup_keys {members : Members} (wellFormed : (obj members).WellFormed) :
    members.keys.Nodup :=
  (wellFormed_obj_iff.mp wellFormed).1

theorem WellFormed.get? {members : Members} {key : String} {value : Json}
    (wellFormed : (obj members).WellFormed) (found : members.get? key = some value) :
    value.WellFormed :=
  (wellFormed_obj_iff.mp wellFormed).2 key value found

theorem WellFormed.member {doc value : Json} {key : String} (wellFormed : doc.WellFormed)
    (found : doc.member? key = some value) : value.WellFormed := by
  cases doc with
  | obj members => exact wellFormed.get? found
  | _ => simp [member?] at found

theorem WellFormed.put {members : Members} {key : String} {value : Json}
    (wellFormed : (obj members).WellFormed) (valueWellFormed : value.WellFormed) :
    (obj (members.put key value)).WellFormed := by
  obtain ⟨distinct, each⟩ := wellFormed_obj_iff.mp wellFormed
  refine wellFormed_obj_iff.mpr ⟨Members.nodup_keys_put distinct, fun other found present => ?_⟩
  rw [Members.get?_put] at present
  split at present
  · cases present
    exact valueWellFormed
  · exact each other found present

end Json

end ChartParams
