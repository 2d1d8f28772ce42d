import ClientGen.Proofs.Document.Load
import ClientGen.Proofs.ModelClass.Parse
import ClientGen.Proofs.ParametersClass.Parse
import ClientGen.Proofs.TypeTable.PropertyField
import Mathlib.Data.List.Flatten

/-! Clashes between methods. Only methods without parameters are compared when a relation is read,
but a clash between any two methods shows there: the two methods of a relation have one name, and
no accessor with a parameter has the name of a relation. -/

namespace ClientGen

namespace ModelClass

open Build

variable {package entity : String} {c c' owner : ClassDecl} {s s' : Session} {events : List Event}

def isClash (e : Event) : Bool :=
  e.level = .warn && e.target = Target.model && "Relation '".toList.isPrefixOf e.message.toList

theorem isClash_clash (c : ClassDecl) (relation method : String) :
    isClash (clash c relation method) = true := by
  simp [isClash, clash]

theorem isClash_taken (c : ClassDecl) (property field : String) :
    isClash (taken c property field) = false := by
  have hmessage : "Relation '".toList.isPrefixOf (taken c property field).message.toList =
      false := by
    simp only [taken, String.toList_append, List.append_assoc]
    rfl
  rw [isClash, hmessage, Bool.and_false]

theorem isClash_of_level {e : Event} (h : e.level ≠ .warn) : isClash e = false := by
  simp [isClash, h]

theorem clashes_iff (c : ClassDecl) (name : String) :
    clashes c name = true ↔ (name, 0) ∈ c.signatures := by
  simp [clashes, ClassDecl.methodsNamed, ClassDecl.signatures, Method.signature]

theorem signatures_pairAt {fields : List Field} {relation : String × Json} {p : NavigationPair}
    (h : pairAt s package fields relation = some p) :
    [p.derived, p.explicit].map Method.signature =
      [(Navigation.methodName relation.1, 0), (Navigation.methodName relation.1, 1)] := by
  simp only [pairAt, Option.bind_eq_bind, Option.bind_eq_some_iff, Option.some.injEq] at h
  obtain ⟨path, -, last, -, rfl⟩ := h
  rfl

theorem filter_relationEvents (s : Session) (c : ClassDecl) (relation : String × Json) :
    (relationEvents s c relation).filter isClash = clashEvents c relation.1 := by
  have quiet : ∀ path, (Navigation.unanswered s path).filter isClash = [] := by
    intro path
    unfold Navigation.unanswered
    split
    · rfl
    · simp [isClash_of_level, Navigation.missingResponse]
  simp only [relationEvents, List.filter_append, quiet, List.nil_append]
  unfold clashEvents
  split <;> simp [isClash_clash, isClash_of_level, Navigation.synthesized]

def Paired (c : ClassDecl) : Prop :=
  ∀ suffix, ("get" ++ suffix, 1) ∈ c.signatures → ("get" ++ suffix, 0) ∈ c.signatures

theorem get_ne_accessor_with_parameter {f : Field} {className suffix : String} :
    ("get" ++ suffix, 1) ∉ (accessorsOf className f).map Method.signature := by
  rw [mem_signatures_accessorsOf]
  rintro (h | h | h)
  · simp at h
  · have := congrArg String.toList (Prod.mk.inj h).1
    simp [Naming.setterName] at this
  · have := congrArg String.toList (Prod.mk.inj h).1
    simp [Naming.fluentName] at this

theorem paired_of_accessors (h : c.methods = accessors c) : Paired c := by
  intro suffix hmem
  rw [ClassDecl.signatures, h, accessors, List.map_flatMap] at hmem
  obtain ⟨f, -, hf⟩ := List.mem_flatMap.mp hmem
  exact absurd hf get_ne_accessor_with_parameter

theorem paired_of_relation {name : String}
    (hs : c'.signatures = c.signatures ++ [(name, 0), (name, 1)]) (hc : Paired c) : Paired c' := by
  intro suffix hmem
  rw [hs] at hmem ⊢
  rcases List.mem_append.mp hmem with hold | hnew
  · exact List.mem_append_left _ (hc suffix hold)
  · have hname : "get" ++ suffix = name := by simpa using hnew
    exact List.mem_append_right _ (by simp [hname])

theorem nodup_of_relation {suffix : String}
    (hs : c'.signatures = c.signatures ++ [("get" ++ suffix, 0), ("get" ++ suffix, 1)])
    (hc : Paired c) (hnodup : c.signatures.Nodup) (hnew : ("get" ++ suffix, 0) ∉ c.signatures) :
    c'.signatures.Nodup := by
  rw [hs, List.nodup_append]
  refine ⟨hnodup, by simp, ?_⟩
  rintro x hx y hy rfl
  have hy : x = ("get" ++ suffix, 0) ∨ x = ("get" ++ suffix, 1) := by simpa using hy
  rcases hy with rfl | rfl
  · exact hnew hx
  · exact hnew (hc suffix hx)

def relationSignatures (relation : String × Json) : List (String × Nat) :=
  [(Navigation.methodName relation.1, 0), (Navigation.methodName relation.1, 1)]

/-- The warnings that are due to relations whose methods stand in a class from `place` on: one for
each whose method without parameters has a namesake before it. -/
def due (c : ClassDecl) (place : Nat) (relations : List (String × Json)) : List Event :=
  (relations.zipIdx.filter fun r =>
      decide ((Navigation.methodName r.1.1, 0) ∈ c.signatures.take (place + 2 * r.2))).map fun r =>
    clash c r.1.1 (Navigation.methodName r.1.1)

theorem addRelation_signatures {relation : String × Json}
    (h : (addRelation package c relation).run s = ⟨s', events, .ok c'⟩) :
    c'.head = c.head ∧ c'.signatures = c.signatures ++ relationSignatures relation ∧
      events = relationEvents s c relation := by
  obtain ⟨p, hp, rfl, rfl⟩ := addRelation_eq_ok h
  refine ⟨rfl, ?_, rfl⟩
  rw [signatures_addMethods, signatures_pairAt hp, relationSignatures]

theorem length_flatMap_relationSignatures (relations : List (String × Json)) :
    (relations.flatMap relationSignatures).length = 2 * relations.length := by
  simp [relationSignatures, List.length_flatMap, Nat.mul_comm]

theorem due_append {place : Nat} {done : List (String × Json)} {relation : String × Json}
    (hhead : c'.head = c.head)
    (hs : c'.signatures = c.signatures ++ relationSignatures relation)
    (hlength : c.signatures.length = place + 2 * done.length) :
    due c' place (done ++ [relation]) = due c place done ++ clashEvents c relation.1 := by
  have hclash : ∀ name method, clash c' name method = clash c name method := by
    intro name method
    rw [clash, clash, ClassDecl.canonicalName_eq_of_head hhead]
  have hold : ∀ r ∈ done.zipIdx, c'.signatures.take (place + 2 * r.2) =
      c.signatures.take (place + 2 * r.2) := by
    intro r hr
    have hi := List.snd_lt_of_mem_zipIdx hr
    rw [hs, List.take_append_of_le_length (by omega)]
  have hnew : c'.signatures.take (place + 2 * done.length) = c.signatures := by
    rw [hs, ← hlength, List.take_left]
  unfold due clashEvents
  rw [List.zipIdx_append, List.filter_append, List.map_append]
  congr 1
  -- the methods of the earlier relations have not moved
  · rw [List.filter_congr (fun r hr => by rw [hold r hr])]
    simp only [hclash]
  · simp only [List.zipIdx_singleton, Nat.zero_add, List.filter_singleton, hnew, hclash,
      ← clashes_iff]
    cases clashes c (Navigation.methodName relation.1) <;> rfl

structure Reported (owner : ClassDecl) (done : List (String × Json)) (c : ClassDecl)
    (events : List Event) : Prop where
  head : c.head = owner.head
  signatures : c.signatures = owner.signatures ++ done.flatMap relationSignatures
  paired : Paired c
  warned : events.filter isClash = due c owner.signatures.length done
  nodup : (∀ e ∈ events, isClash e = false) → c.signatures.Nodup

theorem Reported.step {done : List (String × Json)} {relation : String × Json}
    {more : List Event} (hc : Reported owner done c events)
    (h : (addRelation package c relation).run s = ⟨s', more, .ok c'⟩) :
    Reported owner (done ++ [relation]) c' (events ++ more) := by
  obtain ⟨hhead, hs, rfl⟩ := addRelation_signatures h
  have hlength : c.signatures.length = owner.signatures.length + 2 * done.length := by
    rw [hc.signatures, List.length_append, length_flatMap_relationSignatures]
  refine ⟨hhead.trans hc.head, ?_, paired_of_relation hs hc.paired, ?_, ?_⟩
  · rw [hs, hc.signatures, List.flatMap_append, List.append_assoc]
    simp
  · rw [List.filter_append, hc.warned, filter_relationEvents, due_append hhead hs hlength]
  · intro quiet
    have hnodup := hc.nodup (fun e he => quiet e (List.mem_append_left _ he))
    refine nodup_of_relation hs hc.paired hnodup ?_
    rw [← Navigation.methodName, ← clashes_iff]
    intro hclash
    have hmem : clash c relation.1 (Navigation.methodName relation.1) ∈
        relationEvents s c relation := by
      simp [relationEvents, clashEvents, hclash]
    have := quiet _ (List.mem_append_right _ hmem)
    rw [isClash_clash] at this
    exact Bool.noConfusion this

theorem reported_of_run {relations : List (String × Json)} {first : List Event}
    (hm : owner.methods = accessors owner) (hd : owner.signatures.Nodup)
    (quiet : ∀ e ∈ first, isClash e = false)
    (h : (relations.foldlM (addRelation package) owner).run s = ⟨s', events, .ok c⟩) :
    Reported owner relations c (first ++ events) := by
  have start : Reported owner [] owner first := by
    refine ⟨rfl, by simp, paired_of_accessors hm, ?_, fun _ => hd⟩
    rw [List.filter_eq_nil_iff.mpr (fun e he => by simp [quiet e he])]
    rfl
  exact foldlM_induction (reads_addRelation package)
    (P := fun done c events => Reported owner done c events)
    (fun _ _ _ _ _ _ hc h => hc.step h) [] first start h

theorem nodup_signatures_of_properties {empty : ClassDecl} {properties : List (String × Json)}
    (hempty : empty.methods = [])
    (h : (propertyFields s entity empty).TakesFirst empty properties c events) :
    c.signatures.Nodup := by
  rw [ClassDecl.signatures, methods_of_properties hempty h]
  refine nodup_accessor_signatures c.className c.fields.distinct (fun f hf => ?_)
  obtain ⟨p, -, hp⟩ := h.exists_of_mem hf
  exact TypeTable.isFieldName_of_propertyField hp

theorem length_accessors (c : ClassDecl) : (accessors c).length = 3 * c.fields.size := by
  simp [accessors, accessorsOf, FieldSet.size, List.length_flatMap, Nat.mul_comm]

structure ClashesReported (c : ClassDecl) (relations : List (String × Json))
    (events : List Event) : Prop where
  layout : c.signatures.drop (3 * c.fields.size) = relations.flatMap relationSignatures
  warned : events.filter isClash = due c (3 * c.fields.size) relations
  distinct : (∀ e ∈ events, isClash e = false) → c.signatures.Nodup

theorem clashesReported_of_parse {schema : Json}
    (h : (parse package entity schema).run s = ⟨s', events, .ok c⟩) :
    ∃ m, ModelSchema.read entity schema = .ok m ∧ ClashesReported c m.relations events := by
  obtain ⟨m, owner, first, second, hm, hproperties, hrelations, -, rfl⟩ := run_parse_eq_ok h
  have howner := takesFirst_of_properties rfl hproperties
  have hmethods := methods_of_properties rfl howner
  have quiet : ∀ e ∈ first, isClash e = false := by
    have quiet_step := confined_addProperty (P := fun e => isClash e = false) (Q := fun _ => True)
      isClash_taken entity (fun _ => trivial)
    have := (Confined.foldlM quiet_step m.properties
      (start s.settings package entity m.description) s).1
    rwa [hproperties] at this
  have hc := reported_of_run hmethods (nodup_signatures_of_properties rfl howner) quiet hrelations
  have hfields := (hasRelations_of_run hrelations).fields
  have hlength : owner.signatures.length = 3 * c.fields.size := by
    rw [ClassDecl.signatures, List.length_map, hmethods, length_accessors, hfields]
  refine ⟨m, hm, ?_, ?_, ?_⟩
  · rw [hc.signatures, ← hlength, List.drop_left]
  · rw [List.filter_append, hc.warned, hlength]
    simp [isClash_of_level, parsed]
  · intro hquiet
    exact hc.nodup (fun e he => hquiet e (List.mem_append_left _ he))

end ModelClass

namespace ParametersClass

variable {package entity : String} {service : Service} {c : ClassDecl} {s s' : Session}
  {events : List Event}

theorem accessors_sublist (c : ClassDecl) :
    (accessors c).Sublist (c.fields.toList.flatMap (accessorsOf c.className)) :=
  List.Sublist.flatMap_right _ (fun f _ => by simp [accessorsOf])

theorem nodup_of_parse
    (hnormal : ∀ a ∈ service.actions, ∀ p ∈ a.parameters, Naming.Chars.IsFieldName p.name.toList)
    (h : (parse package entity service).run s = ⟨s', events, .ok c⟩) : c.signatures.Nodup := by
  obtain ⟨action, owner, notes, haction, hrun, rfl, -, -⟩ := run_parse_eq_ok h
  have howner := takesFirst_of_parameters rfl hrun
  have hmem : action ∈ service.actions := List.mem_of_find?_eq_some haction
  have hfields : ∀ f ∈ owner.fields.toList, Naming.Chars.IsFieldName f.name.toList := by
    intro f hf
    obtain ⟨p, hp, rfl⟩ := howner.exists_of_mem hf
    exact hnormal action hmem p hp
  have hnodup := nodup_accessor_signatures owner.className owner.fields.distinct hfields
  rw [signatures_addMethods, ClassDecl.signatures, methods_of_parameters howner]
  exact hnodup.sublist ((accessors_sublist owner).map _)

end ParametersClass

/-- A relation is warned about exactly where its method without parameters has a namesake before
it, no clash goes without a warning, and the parameters classes of a loaded document have none. -/
theorem clash_warnings_complete :
    (∀ (s : Session) (package entity : String) (schema : Json) (c : ClassDecl),
      ((ModelClass.parse package entity schema).run s).result = .ok c →
      ∃ m, ModelSchema.read entity schema = .ok m ∧
        ModelClass.ClashesReported c m.relations
          ((ModelClass.parse package entity schema).run s).events) ∧
    ∀ (d : Document) (settings : Settings) (base : String) (l : LoadedDocument),
      (LoadedDocument.load d settings base).2 = .ok l →
      ∀ service ∈ l.services, ∀ (s : Session) (package entity : String) (c : ClassDecl),
        ((ParametersClass.parse package entity service).run s).result = .ok c →
        c.signatures.Nodup := by
  constructor
  · intro s package entity schema c h
    match hrun : (ModelClass.parse package entity schema).run s, h with
    | ⟨_, _, .ok _⟩, rfl => exact ModelClass.clashesReported_of_parse hrun
  · intro d settings base l hl service hs s package entity c h
    match hrun : (ParametersClass.parse package entity service).run s, h with
    | ⟨_, _, .ok _⟩, rfl =>
      refine ParametersClass.nodup_of_parse (fun a ha p hp => ?_) hrun
      obtain ⟨_, _, _, hp⟩ := LoadedDocument.declared_of_load hl hs ha hp
      exact TypeTable.isFieldName_of_propertyField hp

def orderSchema : Json :=
  .object
    [("properties", .object [("id", .object [])]),
      ("$linkedData", .object
        [("items", .array [.text "items/{id}"]), ("Items", .array [.text "items"]),
          ("id", .array [.text "orders"])])]

def orderService : Resource :=
  { uri := "orders/{id}"
    actions := [("GET", { queryParameters := [("from", .object []), ("max-size", .object [])] })] }

theorem clash_warnings_of_order :
    (∃ c, ∃ m : ModelSchema,
      ((ModelClass.parse "api" "order" orderSchema).run (.new {} fun _ => none)).result = .ok c ∧
      ModelClass.ClashesReported c m.relations
        ((ModelClass.parse "api" "order" orderSchema).run (.new {} fun _ => none)).events) ∧
    ∃ l service c, (LoadedDocument.load { resources := [orderService] } {} "api").2 = .ok l ∧
      service ∈ l.services ∧
      ((ParametersClass.parse "api" "order" service).run (.new {} fun _ => none)).result = .ok c ∧
      c.signatures.Nodup := by
  constructor
  · have made : ((ModelClass.parse "api" "order" orderSchema).run
        (.new {} fun _ => none)).result.toOption.isSome = true := by decide +kernel
    simp only [Option.isSome_iff_exists, toOption_eq_some] at made
    obtain ⟨c, hc⟩ := made
    obtain ⟨m, -, hm⟩ := clash_warnings_complete.1 _ _ _ _ c hc
    exact ⟨c, m, hc, hm⟩
  · have made : ((LoadedDocument.load { resources := [orderService] } {} "api").2.toOption.bind
        fun l => l.services.head?.bind fun service =>
          ((ParametersClass.parse "api" "order" service).run
            (.new {} fun _ => none)).result.toOption).isSome = true := by decide +kernel
    simp only [Option.isSome_iff_exists, Option.bind_eq_some_iff, toOption_eq_some] at made
    obtain ⟨c, l, hl, service, hservice, hc⟩ := made
    have hmem := List.mem_of_mem_head? hservice
    exact ⟨l, service, c, hl, hmem, hc,
      clash_warnings_complete.2 _ _ _ l hl service hmem _ _ _ c hc⟩

end ClientGen
