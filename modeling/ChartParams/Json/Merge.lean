import ChartParams.Json.Basic

/-!
# Merging documents

An overlay is laid over a document. Where both hold an object the overlay's members are merged one
after another; everywhere else the overlay wins, arrays included. A key that the document lacks is
copied as it stands. With `deleteNull`, a null member of the overlay removes its key.

Objects are merged down to `maxMergeDepth` keys. A merge that has to go deeper fails and reports
the document as far as it was merged.
-/

namespace ChartParams

/-- The number of keys below which objects are not merged any more. -/
def maxMergeDepth : Nat := 64

structure MergeTooDeep where
  /-- The document as far as it was merged. -/
  reached : Json

namespace Members

/-- Merge one member of an overlay. `mergeObjects` merges two objects at the same key. -/
def mergeMember (deleteNull : Bool) (mergeObjects : Members → Members → Except Members Members)
    (members : Members) : String × Json → Except Members Members
  | (key, value) =>
      if deleteNull && value.isNull then
        .ok (members.remove key)
      else
        match members.get? key, value with
        | some (.obj old), .obj new =>
            match mergeObjects old new with
            | .ok merged => .ok (members.put key (.obj merged))
            | .error reached => .error (members.put key (.obj reached))
        | _, _ => .ok (members.put key value)

/-- Merge the members of an overlay into those of a document, objects at most `room` levels deep.
A failed merge gives back the members as far as they were merged. -/
def mergeWithin (deleteNull : Bool) : (room : Nat) → Members → Members → Except Members Members
  | 0, members, _ => .error members
  | room + 1, members, overlay =>
      overlay.foldlM (mergeMember deleteNull (mergeWithin deleteNull room)) members

end Members

namespace Json

def merge (doc overlay : Json) (deleteNull : Bool) : Except MergeTooDeep Json :=
  match doc, overlay with
  | obj members, obj changes =>
      match Members.mergeWithin deleteNull (maxMergeDepth + 1) members changes with
      | .ok merged => .ok (obj merged)
      | .error reached => .error ⟨obj reached⟩
  | _, overlay => .ok overlay

def mergeAll (docs : List Json) : Except MergeTooDeep Json :=
  docs.foldlM (fun doc overlay => doc.merge overlay false) (obj [])

/-- Whether a document holds no value at all. -/
def isEmpty : Json → Bool
  | null => true
  | obj members => members.isEmpty
  | _ => false

end Json

end ChartParams
