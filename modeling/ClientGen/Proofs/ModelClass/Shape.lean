import ClientGen.Proofs.ModelClass.Parse

/-! A model class, seen from the schema that it was made of. -/

namespace ClientGen

namespace ModelClass

variable {package entity : String} {c : ClassDecl} {s s' : Session} {events : List Event}

structure Made (s : Session) (package entity : String) (m : ModelSchema) (c : ClassDecl) :
    Prop where
  head : c.head = start s.settings package entity m.description
  declared : ∀ f ∈ c.fields.toList,
    ∃ p ∈ m.properties, s.types.propertyField entity p.1 p.2 = .ok f
  covered : ∀ p ∈ m.properties, Naming.fieldName p.1 ∈ c.fields.toList.map Field.name
  methods : c.methods =
    accessors c ++ m.relations.flatMap (navigation s package c.fields.toList)
  paths : ∀ r ∈ m.relations, (pairAt s package c.fields.toList r).isSome

theorem made_of_parse {schema : Json}
    (h : (parse package entity schema).run s = ⟨s', events, .ok c⟩) :
    ∃ m, ModelSchema.read entity schema = .ok m ∧ Made s package entity m c := by
  obtain ⟨m, owner, first, second, hm, hproperties, hrelations, -, -⟩ := run_parse_eq_ok h
  have howner := takesFirst_of_properties rfl hproperties
  have hc := hasRelations_of_run hrelations
  have haccessors : accessors c = accessors owner := by
    rw [accessors, accessors, hc.fields, ClassDecl.className_eq_of_head hc.head]
  refine ⟨m, hm, hc.head.trans howner.head, ?_, ?_, ?_, ?_⟩
  · rw [hc.fields]
    exact fun f hf => howner.exists_of_mem hf
  · rw [hc.fields]
    exact fun p hp => FieldSet.contains_iff.mp
      ((howner.contains_iff _).mpr (List.mem_map_of_mem hp))
  · rw [hc.methods, haccessors, methods_of_properties rfl howner, hc.fields]
  · rw [hc.fields]
    exact hc.paths

theorem Made.mem_names {m : ModelSchema} (h : Made s package entity m c) {name : String} :
    name ∈ c.fields.toList.map Field.name ↔
      ∃ key ∈ m.properties.map Prod.fst, name = Naming.fieldName key := by
  constructor
  · intro hname
    obtain ⟨f, hf, rfl⟩ := List.mem_map.mp hname
    obtain ⟨p, hp, hpf⟩ := h.declared f hf
    exact ⟨p.1, List.mem_map_of_mem hp, TypeTable.name_of_propertyField hpf⟩
  · rintro ⟨key, hkey, rfl⟩
    obtain ⟨p, hp, rfl⟩ := List.mem_map.mp hkey
    exact h.covered p hp

theorem Made.isFieldName {m : ModelSchema} (h : Made s package entity m c) :
    ∀ f ∈ c.fields.toList, Naming.Chars.IsFieldName f.name.toList := by
  intro f hf
  obtain ⟨p, -, hp⟩ := h.declared f hf
  exact TypeTable.isFieldName_of_propertyField hp

variable {fields : List Field} {relation : String × Json}

theorem pairAt_eq_some {pair : NavigationPair} (h : pairAt s package fields relation = some pair) :
    ∃ path last, path? relation.2 = some path ∧ path.getLast? = some last ∧
      pair = Navigation.pair s.settings package fields relation.1 (s.typeAt path) path last := by
  simp only [pairAt, Option.bind_eq_bind, Option.bind_eq_some_iff, Option.some.injEq] at h
  obtain ⟨path, hpath, last, hlast, rfl⟩ := h
  exact ⟨path, last, hpath, hlast, rfl⟩

theorem mem_navigation {method : Method} :
    method ∈ navigation s package fields relation ↔
      ∃ pair, pairAt s package fields relation = some pair ∧
        (method = pair.derived ∨ method = pair.explicit) := by
  unfold navigation
  cases pairAt s package fields relation <;> simp

end ModelClass

end ClientGen
