import ChartParams.Proofs.Format.Faults
import ChartParams.Schema.Loading
import Mathlib.Data.List.Forall2

/-!
# Misspelled keys in schemas

A schema is made of structures that hold each other: a role holds bundles, a bundle holds knobs, and
so on. `Entity.layout` says which keys each structure has and which structures are at them.
`AddsUnknownKey` puts a key that is none of these into one of the objects of a document, however deep
it is inside. A document that is a schema is refused after that, with the name of the key and the
keys that would have been allowed.
-/

namespace ChartParams

namespace Schema

/-- The structures that a schema is made of. -/
inductive Entity
  | schema
  | dependency
  | plugin
  | parameter
  | role
  | roleBase
  | resources
  | knob (type : KnobType)
  | storage
  | healthChecks
  | healthProbe

/-- How a structure is kept: as itself, or where it may be null, or in a list. -/
inductive Shape
  | one (entity : Entity)
  | optional (entity : Entity)
  | many (entity : Entity)

namespace Entity

/-- The keys of a structure in order, with the structures that are kept at them. -/
def layout : Entity → List (String × Option Shape)
  | schema =>
      [("friendlyName", none), ("categories", none), ("dependencies", some (.many dependency)),
        ("roles", some (.many role)), ("params", some (.many parameter)),
        ("plugins", some (.many plugin)), ("customParams", none)]
  | dependency =>
      [("name", none), ("minVersion", none), ("maxVersion", none), ("dependencyOptional", none),
        ("aliasConfigVar", none), ("chartName", none), ("type", none)]
  | plugin => [("name", none), ("version", none), ("args", none), ("disable", none)]
  | parameter =>
      [("name", none), ("mapKey", none), ("defaultValue", none), ("description", none),
        ("type", none), ("required", none)]
  | role =>
      [("name", none), ("description", none), ("type", none),
        ("baseConfig", some (.optional roleBase)), ("resources", some (.optional resources)),
        ("healthChecks", some (.optional healthChecks))]
  | roleBase =>
      [("image", some (.optional (knob .text))), ("priority", some (.optional (knob .integer))),
        ("replicas", some (.optional (knob .integer))),
        ("env", some (.optional (knob .environment))),
        ("useHostNetwork", some (.optional (knob .flag))), ("others", some (.many parameter))]
  | resources =>
      [("limitsMemory", some (.optional (knob .memory))),
        ("limitsCpu", some (.optional (knob .cores))),
        ("limitsGpu", some (.optional (knob .cores))),
        ("requestsMemory", some (.optional (knob .memory))),
        ("requestsCpu", some (.optional (knob .cores))),
        ("requestsGpu", some (.optional (knob .cores))),
        ("storageResources", some (.many storage))]
  | knob _ =>
      [("mapKey", none), ("defaultValue", none), ("description", none), ("type", none),
        ("required", none)]
  | storage =>
      [("name", none), ("mapKey", none), ("defaultValue", none), ("description", none),
        ("type", none), ("required", none)]
  | healthChecks =>
      [("readinessProbe", some (.optional healthProbe)),
        ("livenessProbe", some (.optional healthProbe))]
  | healthProbe => [("defined", none), ("enable", none)]

def keys (entity : Entity) : List String := entity.layout.map Prod.fst

@[reducible]
def Value : Entity → Type
  | schema => Schema
  | dependency => Dependency
  | plugin => Plugin
  | parameter => Parameter
  | role => Role
  | roleBase => RoleBase
  | resources => Resources
  | knob type => Knob type
  | storage => Storage
  | healthChecks => HealthChecks
  | healthProbe => HealthProbe

def record : (entity : Entity) → Record entity.Value
  | schema => Schema.record
  | dependency => Dependency.record
  | plugin => Plugin.record
  | parameter => Parameter.record
  | role => Role.record
  | roleBase => RoleBase.record
  | resources => Resources.record
  | knob type => Knob.record type
  | storage => Storage.record
  | healthChecks => HealthChecks.record
  | healthProbe => HealthProbe.record

end Entity

/-- `changed` is `doc` with one more member in an object that is read as the structure `found`. The
member stands anywhere in that object, and its key is none of the keys of the structure. A structure
is read from an object by its keys, or from an array in the order of its keys. -/
inductive AddsUnknownKey (found : Entity) (key : String) : Shape → Json → Json → Prop
  | here (before after : Members) {value : Json} (unknown : key ∉ found.keys) :
      AddsUnknownKey found key (.one found) (.obj (before ++ after))
        (.obj (before ++ (key, value) :: after))
  | member (before after : Members) {entity : Entity} {name : String} {shape : Shape}
      {item changed : Json} (isField : (name, some shape) ∈ entity.layout)
      (inside : AddsUnknownKey found key shape item changed) :
      AddsUnknownKey found key (.one entity) (.obj (before ++ (name, item) :: after))
        (.obj (before ++ (name, changed) :: after))
  | place (before after : List Json) {entity : Entity} {name : String} {shape : Shape}
      {item changed : Json} (isField : entity.layout[before.length]? = some (name, some shape))
      (inside : AddsUnknownKey found key shape item changed) :
      AddsUnknownKey found key (.one entity) (.arr (before ++ item :: after))
        (.arr (before ++ changed :: after))
  | optional {entity : Entity} {doc changed : Json}
      (inside : AddsUnknownKey found key (.one entity) doc changed) :
      AddsUnknownKey found key (.optional entity) doc changed
  | item (before after : List Json) {entity : Entity} {item changed : Json}
      (inside : AddsUnknownKey found key (.one entity) item changed) :
      AddsUnknownKey found key (.many entity) (.arr (before ++ item :: after))
        (.arr (before ++ changed :: after))

def Shape.fault? : Shape → Json → Option FormatFault
  | one entity => entity.record.format.fault?
  | optional entity => entity.record.format.optional.fault?
  | many entity => entity.record.format.list.fault?

/-- A field has a key, and the faults of a shape if it has one. -/
def Agrees (entry : String × Option Shape) (field : String × (Json → Option FormatFault)) : Prop :=
  entry.1 = field.1 ∧ ∀ shape ∈ entry.2, shape.fault? = field.2

namespace Entity

variable {entity : Entity} {name : String} {shape : Shape}

theorem layout_agrees (entity : Entity) :
    List.Forall₂ Agrees entity.layout entity.record.fields.faults := by
  cases entity
  all_goals repeat' constructor
  all_goals rintro shape ⟨⟩
  all_goals rfl

theorem getElem?_faults {index : Nat} (isField : entity.layout[index]? = some (name, some shape)) :
    entity.record.fields.faults[index]? = some (name, shape.fault?) := by
  obtain ⟨inside, isEntry⟩ := List.getElem?_eq_some_iff.mp isField
  have fieldInside : index < entity.record.fields.faults.length :=
    entity.layout_agrees.length_eq ▸ inside
  have agrees := entity.layout_agrees.get inside fieldInside
  rw [List.get_eq_getElem, List.get_eq_getElem, isEntry] at agrees
  exact List.getElem?_eq_some_iff.mpr ⟨fieldInside, Prod.ext agrees.1.symm (agrees.2 shape rfl).symm⟩

theorem mem_faults (isField : (name, some shape) ∈ entity.layout) :
    (name, shape.fault?) ∈ entity.record.fields.faults := by
  obtain ⟨index, isEntry⟩ := List.getElem?_of_mem isField
  exact List.mem_of_getElem? (getElem?_faults isEntry)

theorem keys_record (entity : Entity) : entity.record.keys = entity.keys := by
  cases entity <;> rfl

theorem nodup_keys (entity : Entity) : entity.record.keys.Nodup := by
  cases entity with
  | knob type => cases type <;> decide
  | _ => decide

theorem isStrict_record (entity : Entity) : entity.record.isStrict = true := by
  cases entity <;> rfl

end Entity

/-- The key that is added is reported, if the document could be read without it. The induction is on
the way down to the object that it is added to. -/
theorem AddsUnknownKey.fault?_changed {found : Entity} {key : String} {shape : Shape}
    {doc changed : Json} (adds : AddsUnknownKey found key shape doc changed)
    (accepted : shape.fault? doc = none) :
    shape.fault? changed = some (.unknownField key found.keys) := by
  induction adds with
  | here _ _ unknown =>
      rw [← found.keys_record] at unknown ⊢
      exact Record.fault?_obj_unknown found.isStrict_record unknown accepted
  | @member _ _ entity _ _ _ _ isField _ inductionHypothesis =>
      obtain ⟨fits, exchange⟩ :=
        Record.fault?_obj_exchange entity.nodup_keys (Entity.mem_faults isField) accepted
      exact exchange _ _ (inductionHypothesis fits)
  | place _ _ isField _ inductionHypothesis =>
      obtain ⟨fits, exchange⟩ :=
        Record.fault?_arr_exchange (Entity.getElem?_faults isField) accepted
      exact exchange _ _ (inductionHypothesis fits)
  | @optional entity doc changed inside inductionHypothesis =>
      have present : doc ≠ .null ∧ changed ≠ .null := by
        cases inside <;> exact ⟨nofun, nofun⟩
      rw [Shape.fault?, Format.fault?_optional present.1] at accepted
      rw [Shape.fault?, Format.fault?_optional present.2]
      exact inductionHypothesis accepted
  | item _ _ _ inductionHypothesis =>
      obtain ⟨fits, exchange⟩ := Format.fault?_list_exchange accepted
      exact exchange _ _ (inductionHypothesis fits)

/-- A key that is no key of its structure is refused in every object of a schema, wherever it stands:
the document is no schema any more, and the error names the key. -/
theorem ofJson_addsUnknownKey {found : Entity} {key : String} {doc changed : Json} {schema : Schema}
    (accepted : ofJson doc = .ok schema)
    (adds : AddsUnknownKey found key (.one .schema) doc changed) :
    ofJson changed = .error (.schema (.unknownField key found.keys)) := by
  have fits : (Shape.one .schema).fault? doc = none :=
    Format.fault?_eq_none_iff.mpr ⟨schema, mapError_eq_ok_iff.mp accepted⟩
  have refused : Schema.record.decode changed = .error (.unknownField key found.keys) :=
    Format.fault?_eq_some_iff.mp (adds.fault?_changed fits)
  rw [ofJson, refused]
  rfl

/-- A knob inside a bundle inside the second role, which is given as an array. -/
theorem ofJson_addsUnknownKey_knob :
    let web (image : Members) := Json.arr
      [.str "web", .str "", .str "Deployment", .obj [("others", .arr []), ("image", .obj image)]]
    let doc (image : Members) := Json.obj
      [("friendlyName", .str "Demo"), ("roles", .arr [.obj [("name", .str "db")], web image])]
    let image : Members := [("mapKey", .str "web.image"), ("required", .bool true)]
    let changed : Members :=
      [("mapKey", .str "web.image"), ("mapkey", .null), ("required", .bool true)]
    (∃ schema, ofJson (doc image) = .ok schema) ∧
      AddsUnknownKey (.knob .text) "mapkey" (.one .schema) (doc image) (doc changed) ∧
      ofJson (doc changed) = .error (.schema (.unknownField "mapkey"
        ["mapKey", "defaultValue", "description", "type", "required"])) := by
  intro web doc image changed
  have accepted : ofJson (doc image) = .ok _ := rfl
  have inKnob : AddsUnknownKey (.knob .text) "mapkey" (.one (.knob .text)) (.obj image)
      (.obj changed) :=
    .here [("mapKey", .str "web.image")] [("required", .bool true)] (by decide)
  have inBase : AddsUnknownKey (.knob .text) "mapkey" (.one .roleBase)
      (.obj [("others", .arr []), ("image", .obj image)])
      (.obj [("others", .arr []), ("image", .obj changed)]) :=
    .member [("others", .arr [])] [] List.mem_cons_self (.optional inKnob)
  have inRole : AddsUnknownKey (.knob .text) "mapkey" (.one .role) (web image) (web changed) :=
    .place [.str "web", .str "", .str "Deployment"] [] rfl (.optional inBase)
  have inRoles : AddsUnknownKey (.knob .text) "mapkey" (.many .role)
      (.arr [.obj [("name", .str "db")], web image])
      (.arr [.obj [("name", .str "db")], web changed]) :=
    .item [.obj [("name", .str "db")]] [] inRole
  have adds : AddsUnknownKey (.knob .text) "mapkey" (.one .schema) (doc image) (doc changed) :=
    .member [("friendlyName", .str "Demo")] [] (by simp [Entity.layout]) inRoles
  exact ⟨⟨_, accepted⟩, adds, ofJson_addsUnknownKey accepted adds⟩

end Schema

end ChartParams
