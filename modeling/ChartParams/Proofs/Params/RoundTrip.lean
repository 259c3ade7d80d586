import ChartParams.Params.Record
import ChartParams.Proofs.Format.RoundTrip
import ChartParams.Proofs.Knob.ReadBack

/-!
# Parameter lists that are read back

A parameter list is read back from the document that is written for it if its numbers of cores are
finite. A number that is not finite would be written as null, which reads as no value at all.
-/

namespace ChartParams

namespace KnobType

variable {type : KnobType}

/-- The values that documents can hold. -/
def IsStorable : (type : KnobType) → type.Value → Prop
  | cores, x => x.isFinite = true
  | text, _ | integer, _ | flag, _ | environment, _ | memory, _ => True

theorem lawfulAt {value : type.Value} (storable : type.IsStorable value) :
    type.format.LawfulAt value := by
  cases type with
  | text | flag => rfl
  | integer | memory => exact Format.int64_lawful value
  | environment => exact Format.list_lawful EnvVar.format_lawful value
  | cores => exact Format.binary64_lawfulAt storable

theorem encode_ne_null {value : type.Value} (storable : type.IsStorable value) :
    type.format.encode value ≠ .null := by
  cases type with
  | text | flag | integer | memory | environment => exact nofun
  | cores =>
      change Format.binary64.encode value ≠ .null
      rw [Format.binary64_encode storable]
      exact nofun

theorem optional_lawfulAt (type : KnobType) {option : Option type.Value}
    (storable : ∀ value ∈ option, type.IsStorable value) :
    type.format.optional.LawfulAt option :=
  Format.optional_lawfulAt fun value isValue =>
    ⟨lawfulAt (storable value isValue), encode_ne_null (storable value isValue)⟩

theorem optional_lawful (type : KnobType) (always : ∀ value, type.IsStorable value) :
    type.format.optional.Lawful := fun _ =>
  optional_lawfulAt type fun value _ => always value

end KnobType

theorem Record.optional_lawfulAt {σ : Type} {record : Record σ} {option : Option σ}
    (each : ∀ value ∈ option, record.format.LawfulAt value) :
    record.format.optional.LawfulAt option :=
  Format.optional_lawfulAt fun value isValue => ⟨each value isValue, nofun⟩

theorem Record.optional_lawful {σ : Type} {record : Record σ} (lawful : record.format.Lawful) :
    record.format.optional.Lawful :=
  Format.optional_lawful lawful fun _ => nofun

namespace Params

def Resources.cores (resources : Resources) : List Binary64 :=
  resources.limitsCpu.toList ++ resources.limitsGpu.toList ++ resources.requestsCpu.toList ++
    resources.requestsGpu.toList

theorem Parameter.format_lawful : Parameter.record.format.Lawful := by
  intro parameter
  refine Record.decode_encode (by decide) ?_ rfl
  refine .required (Format.text_lawful _) ?_
  refine .omittable (Format.optional_lawful Format.kind_lawful (fun _ => nofun) _) ?_
  exact .plain (Format.text_lawful _) trivial

theorem Storage.format_lawful : Storage.record.format.Lawful := by
  intro storage
  refine Record.decode_encode (by decide) ?_ rfl
  refine .required (Format.text_lawful _) ?_
  exact .nullable (Record.optional_lawful StorageSpec.format_lawful _) trivial

theorem RoleBase.format_lawful : RoleBase.record.format.Lawful := by
  intro base
  refine Record.decode_encode (by decide) ?_ rfl
  refine .omittable (KnobType.optional_lawful .text (fun _ => trivial) _) ?_
  refine .omittable (KnobType.optional_lawful .integer (fun _ => trivial) _) ?_
  refine .omittable (KnobType.optional_lawful .integer (fun _ => trivial) _) ?_
  refine .omittable (KnobType.optional_lawful .environment (fun _ => trivial) _) ?_
  refine .omittable (KnobType.optional_lawful .flag (fun _ => trivial) _) ?_
  exact .plain (Format.list_lawful Parameter.format_lawful _) trivial

theorem Resources.lawfulAt {resources : Resources}
    (finite : ∀ count ∈ resources.cores, count.isFinite = true) :
    Resources.record.format.LawfulAt resources := by
  simp only [cores, List.forall_mem_append, Option.mem_toList] at finite
  obtain ⟨⟨⟨limitsCpu, limitsGpu⟩, requestsCpu⟩, requestsGpu⟩ := finite
  refine Record.decode_encode (by decide) ?_ rfl
  refine .omittable (KnobType.optional_lawful .memory (fun _ => trivial) _) ?_
  refine .omittable (KnobType.optional_lawfulAt .cores limitsCpu) ?_
  refine .omittable (KnobType.optional_lawfulAt .cores limitsGpu) ?_
  refine .omittable (KnobType.optional_lawful .memory (fun _ => trivial) _) ?_
  refine .omittable (KnobType.optional_lawfulAt .cores requestsCpu) ?_
  refine .omittable (KnobType.optional_lawfulAt .cores requestsGpu) ?_
  exact .plain (Format.list_lawful Storage.format_lawful _) trivial

theorem Role.lawfulAt {role : Role}
    (finite : ∀ resources ∈ role.resources, ∀ count ∈ resources.cores, count.isFinite = true) :
    Role.record.format.LawfulAt role := by
  refine Record.decode_encode (by decide) ?_ rfl
  refine .required (Format.text_lawful _) ?_
  refine .omittable (Record.optional_lawful RoleBase.format_lawful _) ?_
  refine .omittable (Record.optional_lawfulAt ?_) trivial
  exact fun resources isResources => Resources.lawfulAt (finite resources isResources)

/-- A parameter list is read back if its numbers of cores are finite and its custom parameters are
sorted by name, as they are kept. -/
theorem lawfulAt {params : Params}
    (finite : ∀ role ∈ params.roles, ∀ resources ∈ role.resources, ∀ count ∈ resources.cores,
      count.isFinite = true)
    (sorted : Format.IsSorted params.customParams) : record.format.LawfulAt params := by
  refine Record.decode_encode (by decide) ?_ rfl
  refine .plain (Format.list_lawful Parameter.format_lawful _) ?_
  refine .plain (Format.list_lawfulAt ?_) ?_
  · exact fun role membership => Role.lawfulAt (finite role membership)
  refine .plain (Format.dictionary_lawfulAt ?_ sorted) trivial
  exact fun entry _ => Format.text_lawful entry.2

end Params

end ChartParams
