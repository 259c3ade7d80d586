import ChartParams.Proofs.Params.Construction

/-!
# Applying a parameter list to a document

The document of a parameter list, merged over any other document, changes what is on the way to a
write or below one, and nothing else. That also holds where the other document has a leaf or null in
the place of an object.
-/

namespace ChartParams

open ChartParams.Path

namespace Assembled

variable {writes : List Write} {base overlay merged : Json}

/-- Merging an assembled document leaves every place alone from which all its writes are apart. -/
theorem getAt?_merge_of_apart (assembled : Assembled writes overlay) (wellFormed : base.WellFormed)
    (merges : base.merge overlay false = .ok merged) {place : List String} (belowRoot : place ≠ [])
    (apart : ∀ write ∈ writes, Apart write.keys place) :
    merged.getAt? place = base.getAt? place := by
  have nothing : overlay.getAt? place = none := assembled.getAt?_eq_none_of_apart belowRoot apart
  have free : ¬overlay.IsBlocked place := assembled.not_isBlocked_of_apart apart
  exact Json.getAt?_merge_of_spared wellFormed assembled.wellFormed merges nothing free

/-- A leaf that is written apart from all other writes arrives in every document. -/
theorem getAt?_merge_of_write (assembled : Assembled writes overlay) (wellFormed : base.WellFormed)
    (merges : base.merge overlay false = .ok merged) {before after : List Write} {write : Write}
    (split : writes = before ++ write :: after)
    (apart : ∀ other ∈ before ++ after, Apart write.keys other.keys)
    (notObject : write.value.isObject = false) :
    merged.getAt? write.keys = some write.value := by
  have last (later : Write) (inAfter : later ∈ after) : Apart write.keys later.keys :=
    apart later (List.mem_append_right before inAfter)
  have held : overlay.getAt? write.keys = some write.value :=
    assembled.getAt?_of_lastWrite split last (.inl notObject)
  exact Json.getAt?_merge_of_overlay wellFormed assembled.wellFormed merges held (.inl notObject)

end Assembled

namespace Params

variable {schema : Schema} {params : Params} {base doc merged : Json}

/-- A parameter list that is applied to a document leaves every path alone that is apart from all
that it writes, and a leaf that it writes apart from its other writes is read back. -/
theorem merge_construct (wellFormed : base.WellFormed)
    (built : (params.construct schema).result = .ok doc)
    (merges : base.merge doc false = .ok merged) :
    (∀ path, (∀ write ∈ params.writes schema, Apart write.keys (split path)) →
      merged.get? path = base.get? path) ∧
    ∀ before write after, params.writes schema = before ++ write :: after →
      (∀ other ∈ before ++ after, Apart write.keys other.keys) → write.value.isObject = false →
        merged.get? write.path = some write.value := by
  have assembled := assembled_of_construct built
  constructor
  · intro path apart
    cases isEmpty : path.isEmpty with
    | true => rw [Json.get?, Json.get?, isEmpty, if_pos rfl, if_pos rfl]
    | false =>
        rw [Json.get?_eq_getAt? isEmpty, Json.get?_eq_getAt? isEmpty]
        exact assembled.getAt?_merge_of_apart wellFormed merges (split_ne_nil path) apart
  · intro before write after isSplit apart notObject
    have written : write ∈ params.writes schema :=
      isSplit ▸ List.mem_append_right before List.mem_cons_self
    have nonempty : write.path.isEmpty = false := assembled.path_isEmpty written
    rw [Json.get?_eq_getAt? nonempty]
    exact assembled.getAt?_merge_of_write wellFormed merges isSplit apart notObject

/-- The document has a text where an object is needed and null where another is. A parameter that
the schema does not know, one without a map key and a knob without a value write nothing. -/
theorem merge_construct_mixed :
    let schema : Schema := {
      friendlyName := "", categories := [], dependencies := [], plugins := [], customParams := []
      params := [⟨"tree", "top.tree", none, "", none, false⟩, ⟨"blank", "", none, "", none, false⟩]
      roles := [⟨"web", "", "", some ⟨some (.new .text "web.image"),
        some (.new .integer "web.priority"), none, none, none, []⟩, none, none⟩] }
    let params : Params := {
      customParams := []
      params := [⟨"tree", none, "[true]"⟩, ⟨"other", none, "true"⟩, ⟨"blank", none, "true"⟩]
      roles := [⟨"web", some ⟨some "nginx", none, none, none, none, []⟩, none⟩] }
    let base := Json.obj
      [("web", .str "old"), ("other", .obj [("priority", .bool true)]), ("top", .null)]
    ∃ doc merged, base.WellFormed ∧ (params.construct schema).result = .ok doc ∧
      base.merge doc false = .ok merged ∧
      merged.get? "other.priority" = some (.bool true) ∧
      merged.get? "web.priority" = base.get? "web.priority" ∧
      merged.get? "top.tree" = some (.arr [.bool true]) := by
  intro schema params base
  let doc := Json.obj
    [("top", .obj [("tree", .arr [.bool true])]), ("web", .obj [("image", .str "nginx")])]
  let merged := Json.obj [("web", .obj [("image", .str "nginx")]),
    ("other", .obj [("priority", .bool true)]), ("top", .obj [("tree", .arr [.bool true])])]
  have wellFormed : base.WellFormed := by
    simp [base, Json.WellFormed, Json.MembersWellFormed, Members.keys]
  have built : (params.construct schema).result = .ok doc := rfl
  have merges : base.merge doc false = .ok merged := rfl
  have isSplit : params.writes schema =
      [] ++ ⟨"top.tree", .arr [.bool true]⟩ :: [⟨"web.image", .str "nginx"⟩] := rfl
  have applied := merge_construct wellFormed built merges
  refine ⟨doc, merged, wellFormed, built, merges, ?_, ?_, ?_⟩
  · rw [applied.1 "other.priority" (by rw [isSplit]; decide)]
    rfl
  · exact applied.1 "web.priority" (by rw [isSplit]; decide)
  · exact applied.2 [] _ _ isSplit (by decide) rfl

end Params

end ChartParams
