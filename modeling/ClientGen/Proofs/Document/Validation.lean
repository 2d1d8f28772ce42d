import ClientGen.Document.Load
import Mathlib.Data.List.Nodup

/-! What a valid document is. Nothing of it depends on the order of the schemas or of the
resources. -/

namespace ClientGen.Document

structure Valid (d : Document) : Prop where
  schemas : ∀ entry ∈ d.schemas, Naming.typeName entry.1 ≠ ""
  resources : ∀ r ∈ d.resources, Text.isBlank r.uri.toList = false ∧ Naming.typeName r.uri ≠ ""
  distinct : (d.resources.map Resource.uri).Nodup

theorem checkSchemas_eq_ok_iff {schemas : List (String × Json)} :
    checkSchemas schemas = .ok () ↔ ∀ entry ∈ schemas, Naming.typeName entry.1 ≠ "" := by
  induction schemas with
  | nil => simp [checkSchemas]
  | cons entry rest ih =>
    obtain ⟨name, schema⟩ := entry
    rw [List.forall_mem_cons, ← ih, checkSchemas]
    by_cases hname : Naming.typeName name = ""
    · simp [hname]
    · simp [hname]

theorem checkResources_eq_ok_iff {seen : List String} {resources : List Resource} :
    checkResources seen resources = .ok () ↔
      (∀ r ∈ resources, Text.isBlank r.uri.toList = false ∧ Naming.typeName r.uri ≠ "") ∧
        (∀ r ∈ resources, r.uri ∉ seen) ∧ (resources.map Resource.uri).Nodup := by
  -- on the resources to come; those that were seen vary
  induction resources generalizing seen with
  | nil => simp [checkResources]
  | cons r rest ih =>
    rw [checkResources]
    by_cases hblank : Text.isBlank r.uri.toList = true
    · simp [hblank]
    by_cases hname : Naming.typeName r.uri = ""
    · simp [hblank, hname]
    by_cases hseen : r.uri ∈ seen
    · simp [hblank, hname, hseen]
    rw [if_neg hblank, if_neg hname, if_neg hseen, ih, List.forall_mem_cons, List.forall_mem_cons,
      List.map_cons, List.nodup_cons]
    simp only [List.mem_cons, not_or, List.mem_map, not_exists, not_and]
    constructor
    · rintro ⟨hnamed, hnew, hnodup⟩
      exact ⟨⟨⟨by simpa using hblank, hname⟩, hnamed⟩, ⟨hseen, fun r' hr' => (hnew r' hr').2⟩,
        fun r' hr' => (hnew r' hr').1, hnodup⟩
    · rintro ⟨⟨-, hnamed⟩, ⟨-, hnew⟩, hhead, hnodup⟩
      exact ⟨hnamed, fun r' hr' => ⟨hhead r' hr', hnew r' hr'⟩, hnodup⟩

theorem validate_eq_ok_iff {d : Document} : d.validate = .ok () ↔ d.Valid := by
  have hboth : d.validate = .ok () ↔
      checkSchemas d.schemas = .ok () ∧ checkResources [] d.resources = .ok () := by
    unfold validate
    cases checkSchemas d.schemas <;> simp
  rw [hboth, checkSchemas_eq_ok_iff, checkResources_eq_ok_iff]
  constructor
  · rintro ⟨hschemas, hresources, -, hdistinct⟩
    exact ⟨hschemas, hresources, hdistinct⟩
  · rintro ⟨hschemas, hresources, hdistinct⟩
    exact ⟨hschemas, hresources, fun _ _ => List.not_mem_nil, hdistinct⟩

variable {d : Document} {schemas : List (String × Json)} {resources : List Resource}

theorem Valid.perm (h : d.Valid) (hschemas : schemas.Perm d.schemas)
    (hresources : resources.Perm d.resources) :
    Valid { d with schemas := schemas, resources := resources } := by
  refine ⟨fun entry hentry => ?_, fun r hr => ?_, ?_⟩
  · exact h.schemas entry (hschemas.mem_iff.mp hentry)
  · exact h.resources r (hresources.mem_iff.mp hr)
  · exact (hresources.map Resource.uri).nodup_iff.mpr h.distinct

end ClientGen.Document
