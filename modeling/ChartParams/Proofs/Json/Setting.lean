import ChartParams.Proofs.Json.Writing

/-!
# Reading what was set

A value that was set at a path is read there, and its own contents are read below. Above the path
there are objects. What is read at any other path is what was there before.
-/

namespace ChartParams

namespace Json

open ChartParams.Path

variable {doc written value : Json} {path : String}

theorem get?_of_ne_empty {other : String} (nonempty : other ≠ "") :
    doc.get? other = doc.getAt? (split other) :=
  get?_eq_getAt? (by simpa using nonempty)

/-- After a write, every path reads the value or what is in it, an object on the way to it, or what
it read before. -/
theorem get?_set (success : doc.set path value = .ok written) {other : String}
    (nonempty : other ≠ "") :
    (split other = split path → written.get? other = some value) ∧
    (∀ more, more ≠ [] → split other = split path ++ more →
      written.get? other = value.getAt? more) ∧
    (Above (split other) (split path) → ∃ members, written.get? other = some (obj members)) ∧
    (Apart (split path) (split other) → written.get? other = doc.get? other) := by
  have wrote := (set_eq_ok_iff.mp success).2
  rw [get?_of_ne_empty nonempty, get?_of_ne_empty nonempty]
  refine ⟨fun same => ?_, fun more _ longer => ?_, fun above => ?_, fun apart => ?_⟩
  · rw [same]
    exact getAt?_setAtFrom_self wrote
  · rw [longer]
    exact getAt?_setAtFrom_append wrote more
  · obtain ⟨found, present, isObject⟩ := holdsObject_above (getAt?_setAtFrom_self wrote) above
    cases found with
    | obj members => exact ⟨members, present⟩
    | _ => cases isObject
  · exact getAt?_setAtFrom_apart wrote apart

/-- A key with a dot in it, below a null that becomes an object. -/
theorem get?_set_through_null :
    let kept := Json.obj [("0", .arr [.bool false])]
    let doc := Json.obj [("web", .null), ("kept", kept)]
    let value := Json.obj [("on", .bool true)]
    let written := Json.obj [("web", .obj [("x.y", .obj [("z", value)])]), ("kept", kept)]
    doc.set "web.x\\.y.z" value = .ok written ∧
    written.get? "web.x\\.y.z" = some value ∧
    written.get? "web.x\\.y.z.on" = some (.bool true) ∧
    (∃ members, written.get? "web" = some (.obj members)) ∧
    written.get? "kept.0" = doc.get? "kept.0" := by
  intro kept doc value written
  have success : doc.set "web.x\\.y.z" value = .ok written := rfl
  refine ⟨success, ?_, ?_, ?_, ?_⟩
  · exact (get?_set success (by decide)).1 rfl
  · exact (get?_set success (by decide)).2.1 ["on"] (by decide) rfl
  · have above : Above (split "web") (split "web.x\\.y.z") :=
      ⟨by decide +kernel, by decide +kernel⟩
    exact (get?_set success (by decide)).2.2.1 above
  · exact (get?_set success (by decide)).2.2.2 (by decide +kernel)

end Json

end ChartParams
