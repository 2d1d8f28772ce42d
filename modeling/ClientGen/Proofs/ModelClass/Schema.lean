import ClientGen.ModelClass

/-! The values that are read as schemas, and what is wrong with every other value. -/

namespace ClientGen

namespace Json

theorem members?_eq_none_iff {j : Json} : j.members? = none ↔ ∀ members, j ≠ .object members := by
  cases j <;> simp [Json.members?]

theorem members?_eq_some_iff {j : Json} {members : List (String × Json)} :
    j.members? = some members ↔ j = .object members := by
  cases j <;> simp [Json.members?]

end Json

namespace ModelSchema

variable {entity key : String} {schema : Json}

def HasPart (schema : Json) (key : String) : Prop :=
  ∀ j, schema.get? key = some j → j = .null ∨ ∃ members, j = .object members

def membersAt (schema : Json) (key : String) : List (String × Json) :=
  ((schema.get? key).bind Json.members?).getD []

structure Readable (schema : Json) : Prop where
  object : ∃ members, schema = .object members
  properties : HasPart schema "properties"
  relations : HasPart schema "$linkedData"

inductive ReadFault (schema : Json) : SchemaFault → Prop
  | notObject (h : ∀ members, schema ≠ .object members) : ReadFault schema .notObject
  | properties {members : List (String × Json)} (hobject : schema = .object members)
    (h : ¬HasPart schema "properties") : ReadFault schema (.partNotObject "properties")
  | relations {members : List (String × Json)} (hobject : schema = .object members)
    (hproperties : HasPart schema "properties") (h : ¬HasPart schema "$linkedData") :
    ReadFault schema (.partNotObject "$linkedData")

/-- A schema as it is read, with nothing in the parts that are not there. -/
def parts (schema : Json) : ModelSchema :=
  { description := (schema.get? "description").bind Json.text?
    properties := membersAt schema "properties"
    relations := membersAt schema "$linkedData" }

def partFault? (schema : Json) (key : String) : Option SchemaFault :=
  match schema.get? key with
  | none | some .null | some (.object _) => none
  | some _ => some (.partNotObject key)

def readFault? (schema : Json) : Option SchemaFault :=
  match schema.members? with
  | none => some .notObject
  | some _ => (partFault? schema "properties").or (partFault? schema "$linkedData")

theorem partFault?_eq_none_iff : partFault? schema key = none ↔ HasPart schema key := by
  unfold partFault? HasPart
  cases schema.get? key with
  | none => simp
  | some j => cases j <;> simp

theorem partFault?_eq_some_iff {fault : SchemaFault} :
    partFault? schema key = some fault ↔ ¬HasPart schema key ∧ fault = .partNotObject key := by
  rw [← partFault?_eq_none_iff, partFault?]
  split <;> simp [eq_comm]

theorem readFault?_eq_none_iff : readFault? schema = none ↔ Readable schema := by
  unfold readFault?
  constructor
  · intro h
    split at h
    · cases h
    · rename_i members hmembers
      rw [Option.or_eq_none_iff, partFault?_eq_none_iff, partFault?_eq_none_iff] at h
      exact ⟨⟨members, Json.members?_eq_some_iff.mp hmembers⟩, h.1, h.2⟩
  · rintro ⟨⟨members, rfl⟩, hproperties, hrelations⟩
    show Option.or _ _ = none
    rw [Option.or_eq_none_iff, partFault?_eq_none_iff, partFault?_eq_none_iff]
    exact ⟨hproperties, hrelations⟩

theorem readFault?_eq_some_iff {fault : SchemaFault} :
    readFault? schema = some fault ↔ ReadFault schema fault := by
  unfold readFault?
  constructor
  · intro h
    split at h
    · rename_i hmembers
      obtain rfl := Option.some.inj h
      exact .notObject (Json.members?_eq_none_iff.mp hmembers)
    · rename_i members hmembers
      have hobject := Json.members?_eq_some_iff.mp hmembers
      rw [Option.or_eq_some_iff, partFault?_eq_some_iff, partFault?_eq_some_iff,
        partFault?_eq_none_iff] at h
      rcases h with ⟨h, rfl⟩ | ⟨hproperties, h, rfl⟩
      · exact .properties hobject h
      · exact .relations hobject hproperties h
  · intro h
    cases h with
    | notObject h => rw [Json.members?_eq_none_iff.mpr h]
    | properties hobject h =>
      rw [Json.members?_eq_some_iff.mpr hobject, partFault?_eq_some_iff.mpr ⟨h, rfl⟩]
      rfl
    | relations hobject hproperties h =>
      rw [Json.members?_eq_some_iff.mpr hobject, partFault?_eq_none_iff.mpr hproperties,
        partFault?_eq_some_iff.mpr ⟨h, rfl⟩]
      rfl

theorem part_eq (entity : String) (schema : Json) (key : String) :
    part entity schema key =
      match partFault? schema key with
      | some fault => .error (.invalidSchema entity fault)
      | none => .ok (membersAt schema key) := by
  unfold part partFault? membersAt
  cases schema.get? key with
  | none => rfl
  | some j => cases j <;> rfl

theorem read_eq (entity : String) (schema : Json) :
    read entity schema =
      match readFault? schema with
      | some fault => .error (.invalidSchema entity fault)
      | none => .ok (parts schema) := by
  unfold read readFault?
  cases schema with
  | object members =>
    dsimp only [Json.members?]
    rw [part_eq, part_eq]
    cases partFault? (.object members) "properties" with
    | some fault => rfl
    | none =>
      cases partFault? (.object members) "$linkedData" with
      | some fault => rfl
      | none => rfl
  | null | bool | number | text | array => rfl

theorem read_eq_error {e : GenError} (h : read entity schema = .error e) :
    ∃ fault, e = .invalidSchema entity fault := by
  rw [read_eq] at h
  split at h
  · exact ⟨_, (Except.error.inj h).symm⟩
  · cases h

theorem read_eq_ok_iff {m : ModelSchema} :
    read entity schema = .ok m ↔ Readable schema ∧ m = parts schema := by
  rw [read_eq, ← readFault?_eq_none_iff]
  split <;> rename_i hfault
  · simp [hfault]
  · rw [hfault, Except.ok.injEq]
    simp [eq_comm]

theorem read_eq_ok {m : ModelSchema} (h : read entity schema = .ok m) :
    m.properties = ((schema.get? "properties").bind Json.members?).getD [] ∧
      m.relations = ((schema.get? "$linkedData").bind Json.members?).getD [] := by
  obtain ⟨-, rfl⟩ := read_eq_ok_iff.mp h
  exact ⟨rfl, rfl⟩

end ModelSchema

end ClientGen
