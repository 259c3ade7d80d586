import ChartParams.Attempt
import ChartParams.Format.Record

/-!
# The first fault of a document

Reading stops at the first item, member or field that does not fit, and its fault is the fault of the
whole. So if a document is read and then one part of it is exchanged for one with a fault, that fault
is reported: everything in front of the part still fits, and what is behind it is not looked at.
-/

namespace ChartParams

theorem findSome?_append_cons {α β : Type} {f : α → Option β} {before after : List α} {item : α}
    {fault : β} (accepted : before.findSome? f = none) (refused : f item = some fault) :
    (before ++ item :: after).findSome? f = some fault := by
  rw [List.findSome?_append, accepted, Option.none_or, List.findSome?_cons, refused]

namespace Format

variable {α : Type} {format : Format α} {doc : Json}

/-- Why a document cannot be read, nothing if it can. -/
def fault? (format : Format α) (doc : Json) : Option FormatFault :=
  match format.decode doc with
  | .ok _ => none
  | .error fault => some fault

theorem fault?_eq_none_iff : format.fault? doc = none ↔ ∃ value, format.decode doc = .ok value := by
  rw [fault?]
  cases format.decode doc <;> simp

theorem fault?_eq_some_iff {fault : FormatFault} :
    format.fault? doc = some fault ↔ format.decode doc = .error fault := by
  rw [fault?]
  cases format.decode doc <;> simp

theorem fault?_optional (present : doc ≠ .null) : format.optional.fault? doc = format.fault? doc := by
  rw [fault?, optional_decode present, fault?]
  cases format.decode doc <;> rfl

theorem fault?_list (items : List Json) :
    format.list.fault? (.arr items) = items.findSome? format.fault? := by
  rw [fault?, list]
  dsimp only
  induction items with
  | nil => rfl
  | cons item rest inductionHypothesis =>
      rw [List.findSome?_cons, ← inductionHypothesis, decodeItems, fault?]
      cases format.decode item with
      | error fault => rfl
      | ok value => cases decodeItems format.decode rest <;> rfl

/-- If an array is read, each item is, and an item that cannot be read would have been the fault of
the whole. -/
theorem fault?_list_exchange {before after : List Json} {item : Json}
    (accepted : format.list.fault? (.arr (before ++ item :: after)) = none) :
    format.fault? item = none ∧ ∀ changed fault, format.fault? changed = some fault →
      format.list.fault? (.arr (before ++ changed :: after)) = some fault := by
  rw [fault?_list, List.findSome?_append, Option.or_eq_none_iff, List.findSome?_cons] at accepted
  constructor
  · cases refused : format.fault? item with
    | none => rfl
    | some fault => simp [refused] at accepted
  · intro changed fault refused
    rw [fault?_list]
    exact findSome?_append_cons accepted.1 refused

end Format

namespace Fields

variable {σ α : Type} {tooFew : Nat → FormatFault}

/-- The keys of the fields, each with the faults of the values at it. -/
def faults {α : Type} : Fields σ α → List (String × (Json → Option FormatFault))
  | done => []
  | field first rest => (first.key, first.format.fault?) :: rest.faults

theorem map_faults (fields : Fields σ α) : fields.faults.map Prod.fst = fields.keys := by
  induction fields with
  | done => rfl
  | field first rest inductionHypothesis => rw [faults, List.map_cons, inductionHypothesis, keys]

theorem faultAt?_of_mem {fields : Fields σ α} {key : String} {fault? : Json → Option FormatFault}
    (distinct : fields.keys.Nodup) (membership : (key, fault?) ∈ fields.faults) (value : Json) :
    fields.faultAt? key value = fault? value := by
  induction fields with
  | done => cases membership
  | field first rest inductionHypothesis =>
      obtain ⟨fresh, restDistinct⟩ := List.nodup_cons.mp distinct
      rw [faultAt?]
      rcases List.mem_cons.mp membership with equality | inRest
      · cases equality
        rw [if_pos rfl]
        cases isDecoded : first.format.decode value <;> simp only [Format.fault?, isDecoded]
      · have known : key ∈ rest.keys := map_faults rest ▸ List.mem_map_of_mem inRest
        have different : first.key ≠ key := fun same => fresh (same ▸ known)
        rw [if_neg different]
        exact inductionHypothesis restDistinct inRest

/-- If items are read in the order of the fields, each fits its field, and an item that does not fit
would have been the fault of the whole. -/
theorem ofItems_exchange {fields : Fields σ α} {make : α} {index : Nat} {before after : List Json}
    {item : Json} {made : σ × List Json} {key : String} {fault? : Json → Option FormatFault}
    (accepted : fields.ofItems tooFew index make (before ++ item :: after) = .ok made)
    (isField : fields.faults[before.length]? = some (key, fault?)) :
    fault? item = none ∧ ∀ changed fault, fault? changed = some fault →
      fields.ofItems tooFew index make (before ++ changed :: after) = .error fault := by
  induction fields generalizing index before with
  | done => cases isField
  | field first rest inductionHypothesis =>
      cases before with
      | nil =>
          cases isField
          rw [List.nil_append, ofItems] at accepted
          obtain ⟨content, read, -⟩ := bind_eq_ok_iff.mp accepted
          refine ⟨Format.fault?_eq_none_iff.mpr ⟨content, read⟩, fun changed fault refused => ?_⟩
          rw [List.nil_append, ofItems, Format.fault?_eq_some_iff.mp refused]
          rfl
      | cons earlier before =>
          rw [List.cons_append, ofItems] at accepted
          obtain ⟨content, read, accepted⟩ := bind_eq_ok_iff.mp accepted
          simp only [List.cons_append, ofItems, read]
          exact inductionHypothesis accepted isField

end Fields

namespace Record

variable {σ : Type} {record : Record σ} {key : String} {item : Json} {fault : FormatFault}

/-- An object has the fault of the first member that has one. -/
theorem fault?_obj_eq_some {members : Members}
    (refused : members.findSome? record.memberFault? = some fault) :
    record.format.fault? (.obj members) = some fault := by
  have decodes : record.format.decode (.obj members) = .error fault := by
    change record.decode (.obj members) = .error fault
    rw [decode, refused]
  exact Format.fault?_eq_some_iff.mpr decodes

theorem findSome?_of_fault?_obj {members : Members}
    (accepted : record.format.fault? (.obj members) = none) :
    members.findSome? record.memberFault? = none := by
  rw [Option.eq_none_iff_forall_not_mem]
  intro fault refused
  rw [fault?_obj_eq_some refused] at accepted
  cases accepted

/-- A strict record reports a key that it does not know if everything in front of it fits. -/
theorem fault?_obj_unknown (isStrict : record.isStrict = true) (unknown : key ∉ record.keys)
    {before after : Members} (accepted : record.format.fault? (.obj (before ++ after)) = none) :
    record.format.fault? (.obj (before ++ (key, item) :: after)) =
      some (.unknownField key record.keys) := by
  have inFront : before.findSome? record.memberFault? = none := by
    have all := findSome?_of_fault?_obj accepted
    rw [List.findSome?_append] at all
    exact (Option.or_eq_none_iff.mp all).1
  refine fault?_obj_eq_some (findSome?_append_cons inFront ?_)
  rw [memberFault?, if_pos ⟨isStrict, unknown⟩]

/-- If an object is read, each member fits its field, and a value that does not fit would have been
the fault of the whole. -/
theorem fault?_obj_exchange (distinct : record.keys.Nodup) {before after : Members}
    {fault? : Json → Option FormatFault} (isField : (key, fault?) ∈ record.fields.faults)
    (accepted : record.format.fault? (.obj (before ++ (key, item) :: after)) = none) :
    fault? item = none ∧ ∀ changed fault, fault? changed = some fault →
      record.format.fault? (.obj (before ++ (key, changed) :: after)) = some fault := by
  have known : key ∈ record.fields.keys :=
    Fields.map_faults record.fields ▸ List.mem_map_of_mem isField
  have atKey (value : Json) : record.memberFault? (key, value) = fault? value := by
    rw [memberFault?, if_neg (fun unknown => unknown.2 known)]
    exact Fields.faultAt?_of_mem distinct isField value
  have all := findSome?_of_fault?_obj accepted
  rw [List.findSome?_append, Option.or_eq_none_iff, List.findSome?_cons, atKey] at all
  constructor
  · cases refused : fault? item with
    | none => rfl
    | some fault => simp [refused] at all
  · exact fun changed fault refused =>
      fault?_obj_eq_some (findSome?_append_cons all.1 ((atKey changed).trans refused))

theorem fault?_arr_exchange {before after : List Json} {fault? : Json → Option FormatFault}
    (isField : record.fields.faults[before.length]? = some (key, fault?))
    (accepted : record.format.fault? (.arr (before ++ item :: after)) = none) :
    fault? item = none ∧ ∀ changed fault, fault? changed = some fault →
      record.format.fault? (.arr (before ++ changed :: after)) = some fault := by
  obtain ⟨value, success⟩ := Format.fault?_eq_none_iff.mp accepted
  change record.decode (.arr (before ++ item :: after)) = .ok value at success
  rw [decode] at success
  obtain ⟨made, read, -⟩ := bind_eq_ok_iff.mp success
  obtain ⟨fits, exchange⟩ := Fields.ofItems_exchange read isField
  refine ⟨fits, fun changed fault refused => Format.fault?_eq_some_iff.mpr ?_⟩
  change record.decode (.arr (before ++ changed :: after)) = .error fault
  rw [decode, exchange changed fault refused]
  rfl

end Record

end ChartParams
