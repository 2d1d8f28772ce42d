import ClientGen.Proofs.Class.Clashes
import ClientGen.Proofs.ModelClass.Shape

/-! The layout of a model class. Of the properties that come to one field name the first has the
field, and each of the others has a warning; the methods stand in the order of the fields and the
relations that they belong to. -/

namespace ClientGen

namespace ModelClass

open Build

variable {package entity : String} {c empty : ClassDecl} {s s' : Session} {events : List Event}

def isTaken (e : Event) : Bool :=
  e.level = .warn && e.target = Target.model && "Property '".toList.isPrefixOf e.message.toList

theorem isTaken_taken (c : ClassDecl) (property field : String) :
    isTaken (taken c property field) = true := by
  simp [isTaken, taken]

theorem isTaken_of_level {e : Event} (h : e.level ≠ .warn) : isTaken e = false := by
  simp [isTaken, h]

theorem isTaken_clash (c : ClassDecl) (relation method : String) :
    isTaken (clash c relation method) = false := by
  have hmessage : "Property '".toList.isPrefixOf (clash c relation method).message.toList =
      false := by
    simp only [clash, String.toList_append, List.append_assoc]
    rfl
  rw [isTaken, hmessage, Bool.and_false]

theorem isTaken_relationEvents (s : Session) (c : ClassDecl) (relation : String × Json) :
    ∀ e ∈ relationEvents s c relation, isTaken e = false := by
  intro e he
  rcases mem_relationEvents he with hdebug | rfl
  · exact isTaken_of_level (by simp [hdebug])
  · exact isTaken_clash ..

theorem Made.length_methods {m : ModelSchema} (h : Made s package entity m c) :
    c.methods.length = 3 * c.fields.size + 2 * m.relations.length := by
  have htwo : ∀ r ∈ m.relations, (navigation s package c.fields.toList r).length = 2 := by
    intro r hr
    obtain ⟨pair, hpair⟩ := Option.isSome_iff_exists.mp (h.paths r hr)
    rw [navigation, hpair]
    rfl
  rw [h.methods, List.length_append, length_accessors, List.length_flatMap,
    List.map_congr_left htwo, List.map_const', List.sum_replicate_nat, Nat.mul_comm 2]

structure FieldOf (s : Session) (entity : String) (property : String × Json) (f : Field) :
    Prop where
  made : s.types.propertyField entity property.1 property.2 = .ok f
  name : f.name = Naming.fieldName property.1
  wireName : f.wireName = property.1

structure OverloadsOf (s : Session) (package : String) (c : ClassDecl) (relation : String × Json)
    (p : NavigationPair) : Prop where
  made : pairAt s package c.fields.toList relation = some p
  derived : p.derived.signature = (Navigation.methodName relation.1, 0)
  explicit : p.explicit.signature = (Navigation.methodName relation.1, 1)

structure Layout (s : Session) (package entity : String) (m : ModelSchema) (c : ClassDecl)
    (events : List Event) : Prop where
  fields : List.Forall₂ (FieldOf s entity) (keptBy (fun p => Naming.fieldName p.1) m.properties)
    c.fields.toList
  wireNames : (c.fields.toList.map Field.wireName).Nodup
  methods : ∃ pairs, List.Forall₂ (OverloadsOf s package c) m.relations pairs ∧
    c.methods = accessors c ++ pairs.flatMap fun p => [p.derived, p.explicit]
  size : c.methods.length = 3 * c.fields.size + 2 * m.relations.length
  warned : events.filter isTaken =
    (droppedBy (fun p => Naming.fieldName p.1) m.properties).map fun p =>
      taken c p.1 (Naming.fieldName p.1)

theorem fieldOf_of_propertyField {property : String × Json} {f : Field}
    (h : s.types.propertyField entity property.1 property.2 = .ok f) :
    FieldOf s entity property f :=
  ⟨h, TypeTable.name_of_propertyField h, TypeTable.wireName_of_propertyField h⟩

theorem overloadsOf_of_pairAt {relation : String × Json} {p : NavigationPair}
    (h : pairAt s package c.fields.toList relation = some p) :
    OverloadsOf s package c relation p := by
  have hsignatures := signatures_pairAt h
  simp only [List.map_cons, List.map_nil, List.cons.injEq, and_true] at hsignatures
  exact ⟨h, hsignatures.1, hsignatures.2⟩

theorem exists_overloads {relations : List (String × Json)}
    (h : ∀ r ∈ relations, (pairAt s package c.fields.toList r).isSome) :
    ∃ pairs, List.Forall₂ (OverloadsOf s package c) relations pairs ∧
      relations.flatMap (navigation s package c.fields.toList) =
        pairs.flatMap fun p => [p.derived, p.explicit] := by
  induction relations with
  | nil => exact ⟨[], .nil, rfl⟩
  | cons r rest ih =>
    obtain ⟨hr, hrest⟩ := List.forall_mem_cons.mp h
    obtain ⟨p, hp⟩ := Option.isSome_iff_exists.mp hr
    obtain ⟨pairs, hpairs, hmethods⟩ := ih hrest
    refine ⟨p :: pairs, .cons (overloadsOf_of_pairAt hp) hpairs, ?_⟩
    rw [List.flatMap_cons, List.flatMap_cons, hmethods, navigation, hp]
    rfl

theorem nodup_wireNames (h : ∀ f ∈ c.fields.toList, f.name = Naming.fieldName f.wireName) :
    (c.fields.toList.map Field.wireName).Nodup := by
  have hnames : (c.fields.toList.map Field.wireName).map Naming.fieldName =
      c.fields.toList.map Field.name := by
    rw [List.map_map]
    exact List.map_congr_left fun f hf => (h f hf).symm
  refine List.Nodup.of_map Naming.fieldName ?_
  rw [hnames]
  exact c.fields.distinct

theorem filter_isTaken {owner : ClassDecl} {properties relations : List (String × Json)}
    {first second : List Event}
    (hfirst : (propertyFields s entity empty).TakesFirst empty properties owner first)
    (h : (relations.foldlM (addRelation package) owner).run s = ⟨s', second, .ok c⟩) :
    (first ++ second ++ [parsed c]).filter isTaken =
      (droppedBy (fun p => Naming.fieldName p.1) properties).map fun p =>
        taken c p.1 (Naming.fieldName p.1) := by
  have hhead : empty.head = c.head := hfirst.head.symm.trans (hasRelations_of_run h).head.symm
  have hall : first.filter isTaken = first := by
    rw [List.filter_eq_self, hfirst.warned]
    intro e he
    obtain ⟨p, -, rfl⟩ := List.mem_map.mp he
    exact isTaken_taken ..
  have hnone : second.filter isTaken = [] := by
    have hquiet := (Confined.foldlM (confined_addRelation (P := fun e => isTaken e = false)
      (Q := fun _ => True) isTaken_relationEvents (fun _ _ => trivial) package) relations owner s).1
    rw [h] at hquiet
    exact List.filter_eq_nil_iff.mpr (by simpa using hquiet)
  have hlast : [parsed c].filter isTaken = [] := by
    simp [isTaken_of_level, parsed]
  rw [List.filter_append, List.filter_append, hall, hnone, hlast, List.append_nil, List.append_nil,
    hfirst.warned]
  exact List.map_congr_left fun p _ => taken_eq_of_head hhead ..

/-- A class that could be made has a field for every field name, the accessors of the fields and two
methods for every relation, and there is a warning for every property that was left out. -/
theorem layout_of_result (s : Session) (package entity : String) (schema : Json) (c : ClassDecl)
    (h : ((parse package entity schema).run s).result = .ok c) :
    Layout s package entity (ModelSchema.parts schema) c
      ((parse package entity schema).run s).events := by
  match hrun : (parse package entity schema).run s, h with
  | ⟨s', events, .ok _⟩, rfl =>
  obtain ⟨m, owner, first, second, hm, hproperties, hrelations, -, rfl⟩ := run_parse_eq_ok hrun
  obtain ⟨n, hn, hmade⟩ := made_of_parse hrun
  obtain ⟨-, rfl⟩ := ModelSchema.read_eq_ok_iff.mp hm
  obtain ⟨-, rfl⟩ := ModelSchema.read_eq_ok_iff.mp hn
  have hfirst := takesFirst_of_properties rfl hproperties
  have hfields := (hasRelations_of_run hrelations).fields
  have hdeclared : List.Forall₂ (FieldOf s entity)
      (keptBy (fun p => Naming.fieldName p.1) (ModelSchema.parts schema).properties)
      c.fields.toList := by
    rw [hfields]
    exact hfirst.fields.imp fun _ _ => fieldOf_of_propertyField
  refine ⟨hdeclared, nodup_wireNames ?_, ?_, hmade.length_methods, ?_⟩
  · intro f hf
    obtain ⟨p, -, hp⟩ := hmade.declared f hf
    rw [TypeTable.wireName_of_propertyField hp, TypeTable.name_of_propertyField hp]
  · obtain ⟨pairs, hpairs, hmethods⟩ := exists_overloads hmade.paths
    exact ⟨pairs, hpairs, by rw [hmade.methods, hmethods]⟩
  · exact filter_isTaken hfirst hrelations

def crowdedOrder : Json :=
  .object
    [("properties", .object
        [("order-id", .object [("type", .text "integer")]), ("orderId", .object []),
          ("total", .object [("type", .text "number")]), ("Order Id", .object [])]),
      ("$linkedData", .object [("total", .array [.text "orders", .text "total"])])]

theorem layout_of_crowdedOrder :
    ∃ c, ((parse "api" "order" crowdedOrder).run (.new {} fun _ => none)).result = .ok c ∧
      (keptBy (fun p => Naming.fieldName p.1) (ModelSchema.parts crowdedOrder).properties).map
        Prod.fst = ["order-id", "total"] ∧
      (droppedBy (fun p => Naming.fieldName p.1) (ModelSchema.parts crowdedOrder).properties).map
        Prod.fst = ["orderId", "Order Id"] ∧
      Layout (.new {} fun _ => none) "api" "order" (ModelSchema.parts crowdedOrder) c
        ((parse "api" "order" crowdedOrder).run (.new {} fun _ => none)).events := by
  have hmade : ((parse "api" "order" crowdedOrder).run
      (.new {} fun _ => none)).result.toOption.isSome = true := by decide +kernel
  simp only [Option.isSome_iff_exists, toOption_eq_some] at hmade
  obtain ⟨c, hc⟩ := hmade
  exact ⟨c, hc, by decide +kernel, by decide +kernel,
    layout_of_result (.new {} fun _ => none) "api" "order" crowdedOrder c hc⟩

end ModelClass

end ClientGen
