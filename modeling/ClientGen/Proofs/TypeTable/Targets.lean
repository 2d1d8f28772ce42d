import ClientGen.Document.Load

/-! Where the entries of a type table lead, and what the table of a document says of its schemas. -/

namespace ClientGen

namespace TypeTable

variable {P : String → Prop} {t : TypeTable}

def Leads (t : TypeTable) (P : String → Prop) : Prop :=
  ∀ schema target, t.lookup? schema = some target → P target

theorem leads_builtin (h : ∀ entry ∈ primitives, P entry.2) : builtin.Leads P := by
  intro schema target hlookup
  obtain ⟨_, _, heq, -⟩ := List.lookup_eq_some_iff.mp hlookup
  refine h (schema, target) ?_
  rw [show primitives = builtin.entries from rfl, heq]
  exact List.mem_append_right _ List.mem_cons_self

theorem Leads.insert (ht : t.Leads P) {schema target : String} (h : P target) :
    (t.insert schema target).Leads P := by
  intro name target' hlookup
  rw [lookup?_insert] at hlookup
  split at hlookup
  · rwa [← Option.some.inj hlookup]
  · exact ht name target' hlookup

theorem leads_withOverrides {overrides : List (String × String)}
    (hprimitives : ∀ entry ∈ primitives, P entry.2) (h : ∀ entry ∈ overrides, P entry.2) :
    (withOverrides overrides).Leads P := by
  unfold withOverrides
  refine List.foldlRecOn (motive := fun t : TypeTable => t.Leads P) overrides _
    (leads_builtin hprimitives) ?_
  intro t ht entry hentry
  exact ht.insert (h entry hentry)

theorem Leads.resolve (ht : t.Leads P) (hgeneric : P genericType) (schema : String) :
    P (t.resolve schema) := by
  unfold TypeTable.resolve
  cases hlookup : t.lookup? schema with
  | none => exact hgeneric
  | some target => exact ht schema target hlookup

def ListOrOne (P : String → Prop) (type : String) : Prop :=
  P type ∨ ∃ element, P element ∧ type = collectionOf element

theorem Leads.propertyType (ht : t.Leads P) (hgeneric : P genericType) (property : Json) :
    ListOrOne P (t.propertyType property).1 := by
  unfold TypeTable.propertyType
  split
  · refine .inr ⟨_, ?_, rfl⟩
    cases (property.get? "items").bind declaredType? with
    | none => exact hgeneric
    | some schema => exact ht.resolve hgeneric schema
  · exact .inl (ht.resolve hgeneric _)
  · exact .inl hgeneric

end TypeTable

namespace LoadedDocument

variable {P : String → Prop}

theorem lookup?_registered (package : String) (schemas : List (String × Json)) (t : TypeTable)
    (name : String) :
    (schemas.foldl (fun t (schema, _) => t.registerModel package schema) t).lookup? name =
      if name ∈ schemas.map Prod.fst then some (TypeTable.modelType package name)
      else t.lookup? name := by
  induction schemas generalizing t with
  | nil => rfl
  | cons entry rest ih =>
    obtain ⟨schema, body⟩ := entry
    rw [List.foldl_cons, ih]
    simp only [TypeTable.registerModel, TypeTable.lookup?_insert, List.map_cons, List.mem_cons]
    by_cases hrest : name ∈ rest.map Prod.fst
    · rw [if_pos hrest, if_pos (.inr hrest)]
    · by_cases hname : name = schema
      · rw [if_neg hrest, if_pos hname, if_pos (.inl hname), hname]
      · rw [if_neg hrest, if_neg hname, if_neg (not_or.mpr ⟨hname, hrest⟩)]

theorem resolve_schema (settings : Settings) (package : String) {d : Document}
    {entry : String × Json} (h : entry ∈ d.schemas) :
    (typesOf settings package d).resolve entry.1 = TypeTable.modelType package entry.1 := by
  unfold typesOf TypeTable.resolve
  rw [lookup?_registered, if_pos (List.mem_map_of_mem h), Option.getD_some]

theorem leads_typesOf (settings : Settings) (package : String) (d : Document)
    (hprimitives : ∀ entry ∈ TypeTable.primitives, P entry.2)
    (hoverrides : ∀ entry ∈ settings.typeOverrides, P entry.2)
    (hmodels : ∀ entry ∈ d.schemas, P (TypeTable.modelType package entry.1)) :
    (typesOf settings package d).Leads P := by
  intro name target hlookup
  unfold typesOf at hlookup
  rw [lookup?_registered] at hlookup
  split at hlookup
  · rename_i hname
    obtain ⟨entry, hentry, rfl⟩ := List.mem_map.mp hname
    rw [← Option.some.inj hlookup]
    exact hmodels entry hentry
  · exact TypeTable.leads_withOverrides hprimitives hoverrides name target hlookup

end LoadedDocument

end ClientGen
