import ChartParams.Attempt
import ChartParams.Knob.Value
import ChartParams.Proofs.Format.Record
import ChartParams.Proofs.Numeric.Finite
import Mathlib.Data.String.Basic

/-!
# Values that are read back

Not every value of a type is read back from its document: a number that is not finite is written as
null, and a dictionary is read in the order of its keys. `Format.LawfulAt` says it of one value, and
`Format.Yields` says what holds of every value that is read. Together they show that whatever was
read is read back.
-/

namespace ChartParams

namespace Format

variable {α : Type} {format : Format α} {P : α → Prop}

/-- Every value that is read has a property. -/
def Yields (format : Format α) (P : α → Prop) : Prop :=
  ∀ doc value, format.decode doc = .ok value → P value

/-- The entries stand in the order of their keys, which all differ. -/
def IsSorted (entries : List (String × α)) : Prop :=
  entries.Pairwise fun first second => first.1 < second.1

theorem forall_of_decodeItems (yields : format.Yields P) {items : List Json} {values : List α}
    (success : decodeItems format.decode items = .ok values) : ∀ value ∈ values, P value := by
  induction items generalizing values with
  | nil =>
      cases success
      exact fun _ membership => (nomatch membership)
  | cons item rest inductionHypothesis =>
      obtain ⟨value, read, success⟩ := bind_eq_ok_iff.mp success
      obtain ⟨others, readOthers, success⟩ := bind_eq_ok_iff.mp success
      cases success
      exact List.forall_mem_cons.mpr ⟨yields item value read, inductionHypothesis readOthers⟩

theorem list_yields (yields : format.Yields P) :
    format.list.Yields fun values => ∀ value ∈ values, P value := by
  intro doc values success
  cases doc with
  | arr items => exact forall_of_decodeItems yields success
  | _ => cases success

theorem optional_yields
    (yields : ∀ doc value, doc ≠ .null → format.decode doc = .ok value → P value) :
    format.optional.Yields fun option => ∀ value ∈ option, P value := by
  intro doc option success value isValue
  cases isValue
  by_cases missing : doc = .null
  · subst missing
    cases success
  · rw [optional_decode missing] at success
    cases read : format.decode doc with
    | error fault =>
        rw [read] at success
        cases success
    | ok found =>
        rw [read] at success
        cases success
        exact yields doc value missing read

theorem binary64_encode {x : Binary64} (finite : x.isFinite = true) :
    binary64.encode x = .num (.float x finite) := by
  simp only [binary64, Number.ofBinary64?, dif_pos finite]

theorem binary64_lawfulAt {x : Binary64} (finite : x.isFinite = true) : binary64.LawfulAt x := by
  rw [LawfulAt, binary64_encode finite]
  rfl

theorem binary64_yields : binary64.Yields fun x => x.isFinite = true := by
  intro doc x success
  cases doc with
  | num n =>
      cases success
      cases n with
      | int n isWord => exact Binary64.isFinite_ofInt isWord
      | float x finite => exact finite
  | _ => cases success

section Dictionary

variable {key : String} {value : α} {entries done : List (String × α)}

theorem insertSorted_of_forall_lt (last : ∀ entry ∈ entries, entry.1 < key) :
    insertSorted key value entries = entries ++ [(key, value)] := by
  induction entries with
  | nil => rfl
  | cons entry rest inductionHypothesis =>
      obtain ⟨here, later⟩ := List.forall_mem_cons.mp last
      rw [insertSorted, if_neg here.ne, if_neg here.not_gt, inductionHypothesis later]
      rfl

theorem eq_or_mem_of_mem_insertSorted {entry : String × α}
    (membership : entry ∈ insertSorted key value entries) :
    entry.1 = key ∨ entry ∈ entries := by
  induction entries with
  | nil => exact .inl (congrArg Prod.fst (List.mem_singleton.mp membership))
  | cons first rest inductionHypothesis =>
      rw [insertSorted] at membership
      split at membership
      · rcases List.mem_cons.mp membership with rfl | later
        · exact .inl rfl
        · exact .inr (List.mem_cons_of_mem _ later)
      split at membership
      · rcases List.mem_cons.mp membership with rfl | later
        · exact .inl rfl
        · exact .inr later
      · rcases List.mem_cons.mp membership with rfl | later
        · exact .inr List.mem_cons_self
        · exact (inductionHypothesis later).imp_right (List.mem_cons_of_mem _)

theorem isSorted_insertSorted (sorted : IsSorted entries) :
    IsSorted (insertSorted key value entries) := by
  induction entries with
  | nil => exact List.pairwise_singleton _ _
  | cons first rest inductionHypothesis =>
      obtain ⟨firstLeast, restSorted⟩ := List.pairwise_cons.mp sorted
      rw [insertSorted]
      split
      · rename_i same
        exact List.pairwise_cons.mpr ⟨same ▸ firstLeast, restSorted⟩
      rename_i different
      split
      · rename_i least
        refine List.pairwise_cons.mpr ⟨?_, sorted⟩
        exact List.forall_mem_cons.mpr
          ⟨least, fun entry membership => least.trans (firstLeast entry membership)⟩
      · rename_i notLeast
        have above : first.1 < key := lt_of_le_of_ne (not_lt.mp notLeast) different
        refine List.pairwise_cons.mpr ⟨fun entry membership => ?_, inductionHypothesis restSorted⟩
        rcases eq_or_mem_of_mem_insertSorted membership with same | later
        · exact same ▸ above
        · exact firstLeast entry later

theorem decodeEntries_map (each : ∀ entry ∈ entries, format.LawfulAt entry.2)
    (sorted : IsSorted (done ++ entries)) :
    decodeEntries format.decode done
      (entries.map fun (key, value) => (key, format.encode value)) = .ok (done ++ entries) := by
  induction entries generalizing done with
  | nil => rw [List.append_nil]; rfl
  | cons entry rest inductionHypothesis =>
      obtain ⟨here, later⟩ := List.forall_mem_cons.mp each
      have last : ∀ earlier ∈ done, earlier.1 < entry.1 := fun earlier membership =>
        (List.pairwise_append.mp sorted).2.2 earlier membership entry List.mem_cons_self
      have moved : done ++ entry :: rest = (done ++ [entry]) ++ rest := by simp
      rw [moved] at sorted ⊢
      rw [List.map_cons, decodeEntries, here, ← inductionHypothesis later sorted,
        ← insertSorted_of_forall_lt last]
      rfl

theorem dictionary_lawfulAt (each : ∀ entry ∈ entries, format.LawfulAt entry.2)
    (sorted : IsSorted entries) : format.dictionary.LawfulAt entries :=
  decodeEntries_map each sorted

theorem isSorted_of_decodeEntries {decode : Json → Except FormatFault α} {members : Members}
    (sorted : IsSorted done) (success : decodeEntries decode done members = .ok entries) :
    IsSorted entries := by
  induction members generalizing done with
  | nil =>
      cases success
      exact sorted
  | cons member rest inductionHypothesis =>
      obtain ⟨value, -, success⟩ := bind_eq_ok_iff.mp success
      exact inductionHypothesis (isSorted_insertSorted sorted) success

theorem dictionary_yields (format : Format α) : format.dictionary.Yields IsSorted := by
  intro doc entries success
  cases doc with
  | obj members => exact isSorted_of_decodeEntries List.Pairwise.nil success
  | _ => cases success

end Dictionary

end Format

namespace Field

variable {σ β : Type} {field : Field σ β} {content : β} {P : β → Prop}

def Yielded (field : Field σ β) (content : β) : Prop :=
  (∃ doc, field.format.decode doc = .ok content) ∨ field.absent = some content

theorem Yielded.of (yielded : field.Yielded content) (read : field.format.Yields P)
    (missing : ∀ content ∈ field.absent, P content) : P content := by
  rcases yielded with ⟨doc, success⟩ | absent
  · exact read doc content success
  · exact missing content absent

end Field

namespace Fields

variable {σ α : Type} {P : σ → Prop}

/-- Every structure that is made from contents that the fields yield has a property. -/
def Produce (P : σ → Prop) {α : Type} : Fields σ α → α → Prop
  | done, made => P made
  | field first rest, make => ∀ content, first.Yielded content → rest.Produce P (make content)

theorem Produce.ofMembers {fields : Fields σ α} {make : α} {members : Members} {value : σ}
    (produce : fields.Produce P make) (success : fields.ofMembers members make = .ok value) :
    P value := by
  induction fields with
  | done =>
      cases success
      exact produce
  | field first rest inductionHypothesis =>
      rw [Fields.ofMembers] at success
      split at success
      · obtain ⟨content, read, success⟩ := bind_eq_ok_iff.mp success
        exact inductionHypothesis (produce content (.inl ⟨_, read⟩)) success
      · rename_i content _ absent
        exact inductionHypothesis (produce content (.inr absent)) success
      · cases success

theorem Produce.ofItems {fields : Fields σ α} {make : α} {tooFew : Nat → FormatFault}
    {index : Nat} {items rest : List Json} {value : σ} (produce : fields.Produce P make)
    (success : fields.ofItems tooFew index make items = .ok (value, rest)) : P value := by
  induction fields generalizing index items with
  | done =>
      cases success
      exact produce
  | field first others inductionHypothesis =>
      cases items with
      | nil =>
          rw [Fields.ofItems] at success
          split at success
          · rename_i content absent
            exact inductionHypothesis (produce content (.inr absent)) success
          · cases success
      | cons item items =>
          obtain ⟨content, read, success⟩ := bind_eq_ok_iff.mp success
          exact inductionHypothesis (produce content (.inl ⟨item, read⟩)) success

end Fields

namespace Record

variable {σ : Type} {record : Record σ} {P : σ → Prop}

theorem yields (produce : record.fields.Produce P record.make) : record.format.Yields P := by
  intro doc value success
  change record.decode doc = .ok value at success
  cases doc with
  | obj members =>
      rw [decode] at success
      split at success
      · cases success
      · exact produce.ofMembers success
  | arr items =>
      obtain ⟨⟨made, rest⟩, read, success⟩ := bind_eq_ok_iff.mp success
      dsimp only at success
      split at success
      · cases success
        exact produce.ofItems read
      · cases success
  | _ => cases success

end Record

end ChartParams
