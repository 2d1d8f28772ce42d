import ClientGen.Document.Load
import ClientGen.Proofs.TypeTable.PropertyField

/-! Properties that refer to a schema. After any writes to a table, the latest for a name decides what
the name stands for, so that a reference to a registered schema leads to its class, in a property and
in the items of an array. Only where a property itself refers to `array`, the name is not looked up:
it is taken for the type of that name. -/

namespace ClientGen

namespace Json

theorem text?_eq_some_iff {j : Json} {s : String} : j.text? = some s ↔ j = .text s := by
  cases j <;> simp [Json.text?]

theorem isSome_members? {j value : Json} {key : String} (h : j.get? key = some value) :
    j.members?.isSome := by
  obtain ⟨members, hmembers, -⟩ := Option.bind_eq_some_iff.mp h
  rw [hmembers, Option.isSome_some]

end Json

namespace TypeTable

inductive Step
  | insert (schema target : String)
  | registerModel (package schema : String)

namespace Step

def schema : Step → String
  | insert schema _ | registerModel _ schema => schema

def target : Step → String
  | insert _ target => target
  | registerModel package schema => modelType package schema

def apply (t : TypeTable) : Step → TypeTable
  | insert schema target => t.insert schema target
  | registerModel package schema => t.registerModel package schema

theorem lookup?_apply (t : TypeTable) (step : Step) (name : String) :
    (step.apply t).lookup? name =
      if name = step.schema then some step.target else t.lookup? name := by
  cases step with
  | insert schema target => exact lookup?_insert t schema target name
  | registerModel package schema => exact lookup?_insert t schema (modelType package schema) name

end Step

def run (t : TypeTable) (steps : List Step) : TypeTable := steps.foldl Step.apply t

variable {t : TypeTable} {steps : List Step} {entity name n package : String} {property : Json}

theorem lookup?_run_of_untouched (h : ∀ step ∈ steps, step.schema ≠ name) :
    (run t steps).lookup? name = t.lookup? name := by
  induction steps generalizing t with
  | nil => rfl
  | cons step rest ih =>
    have hstep : name ≠ step.schema := (h step List.mem_cons_self).symm
    have hrest : ∀ later ∈ rest, later.schema ≠ name :=
      fun later hlater => h later (List.mem_cons_of_mem _ hlater)
    calc (run t (step :: rest)).lookup? name
      _ = (run (step.apply t) rest).lookup? name := rfl
      _ = (step.apply t).lookup? name := ih hrest
      _ = t.lookup? name := by rw [Step.lookup?_apply, if_neg hstep]

def IsLatest (steps : List Step) (step : Step) : Prop :=
  ∃ before after, steps = before ++ step :: after ∧ ∀ later ∈ after, later.schema ≠ step.schema

theorem lookup?_run_of_isLatest {step : Step} (h : IsLatest steps step) :
    (run t steps).lookup? step.schema = some step.target := by
  obtain ⟨before, after, rfl, hafter⟩ := h
  calc (run t (before ++ step :: after)).lookup? step.schema
    _ = (run (step.apply (run t before)) after).lookup? step.schema := by
      rw [run, List.foldl_append, List.foldl_cons]
      rfl
    _ = (step.apply (run t before)).lookup? step.schema := lookup?_run_of_untouched hafter
    _ = some step.target := by rw [Step.lookup?_apply, if_pos rfl]

theorem resolve_run_of_registered (h : IsLatest steps (.registerModel package n)) :
    (run t steps).resolve n = modelType package n := by
  rw [resolve, show (run t steps).lookup? n = _ from lookup?_run_of_isLatest h]
  rfl

/-- The table of a document comes from the built-in one, by the overrides and then the schemas. -/
theorem typesOf_eq_run (settings : Settings) (package : String) (d : Document) :
    LoadedDocument.typesOf settings package d =
      run builtin (settings.typeOverrides.map (fun entry => .insert entry.1 entry.2) ++
        d.schemas.map fun entry => .registerModel package entry.1) := by
  rw [run, List.foldl_append, List.foldl_map, List.foldl_map]
  rfl

def RefersTo (property : Json) (n : String) : Prop := property.get? "$ref" = some (.text n)

/-- Of the texts in a list of types the first that is not `null` counts. -/
inductive NamesArray : Json → Prop
  | text : NamesArray (.text "array")
  | list (before after : List Json) (h : ∀ item ∈ before, ∀ s, item = .text s → s = "null") :
    NamesArray (.array (before ++ .text "array" :: after))

/-- Without a reference the type counts. -/
structure IsArray (property : Json) : Prop where
  noReference : ∀ n, ¬ RefersTo property n
  type : ∃ type, property.get? "type" = some type ∧ NamesArray type

theorem declaredType?_of_refersTo (h : RefersTo property n) : declaredType? property = some n := by
  rw [declaredType?, show property.get? "$ref" = _ from h]
  rfl

theorem find?_texts_eq_array {before after : List Json}
    (h : ∀ item ∈ before, ∀ s, item = .text s → s = "null") :
    ((before ++ .text "array" :: after).filterMap Json.text?).find? (· ≠ "null") =
      some "array" := by
  have hnull : (before.filterMap Json.text?).find? (· ≠ "null") = none := by
    rw [List.find?_eq_none]
    intro s hs
    obtain ⟨item, hitem, htext⟩ := List.mem_filterMap.mp hs
    simp [h item hitem s (Json.text?_eq_some_iff.mp htext)]
  rw [List.filterMap_append, List.find?_append, hnull, Option.none_or]
  rfl

theorem declaredType?_of_isArray (h : IsArray property) :
    declaredType? property = some "array" := by
  have hnone : (property.get? "$ref").bind Json.text? = none := by
    rw [Option.eq_none_iff_forall_ne_some]
    intro n hn
    obtain ⟨j, hj, htext⟩ := Option.bind_eq_some_iff.mp hn
    exact h.noReference n (hj.trans (congrArg some (Json.text?_eq_some_iff.mp htext)))
  obtain ⟨type, htype, hnames⟩ := h.type
  rw [declaredType?, hnone, htype]
  cases hnames with
  | text => rfl
  | list before after hbefore => exact find?_texts_eq_array hbefore

theorem propertyType_of_reference (h : RefersTo property n) (hn : n ≠ "array") :
    t.propertyType property = (t.resolve n, false) := by
  rw [propertyType, declaredType?_of_refersTo h]
  split
  · rename_i heq
    exact absurd (Option.some.inj heq) hn
  · rename_i heq
    rw [Option.some.inj heq]
  · rename_i heq
    cases heq

theorem propertyType_of_array (h : IsArray property ∨ RefersTo property "array") :
    t.propertyType property = (collectionOf
      ((((property.get? "items").bind declaredType?).map t.resolve).getD genericType), true) := by
  rw [propertyType, h.elim declaredType?_of_isArray declaredType?_of_refersTo]
  rfl

theorem isSome_members?_of_array (h : IsArray property ∨ RefersTo property "array") :
    property.members?.isSome := by
  rcases h with harray | href
  · obtain ⟨type, htype, -⟩ := harray.type
    exact Json.isSome_members? htype
  · exact Json.isSome_members? href

def HasField (t : TypeTable) (entity name : String) (property : Json) (type : String)
    (collection : Bool) : Prop :=
  ∃ f, t.propertyField entity name property = .ok f ∧ f.type = type ∧ f.collection = collection

theorem hasField_propertyType (hobject : property.members?.isSome)
    (hname : ∃ c ∈ name.toList, c.isAlphanum = true) :
    HasField t entity name property (t.propertyType property).1 (t.propertyType property).2 := by
  obtain ⟨members, hmembers⟩ := Option.isSome_iff_exists.mp hobject
  obtain ⟨f, hf⟩ : ∃ f, t.propertyField entity name property = .ok f := by
    rw [propertyField, hmembers]
    exact ⟨_, if_neg (Naming.fieldName_ne_empty_iff.mpr hname)⟩
  obtain ⟨-, -, rfl⟩ := propertyField_eq_ok hf
  exact ⟨_, hf, rfl, rfl⟩

/-- A reference to a schema that is registered, and not registered otherwise since, makes a field of
the model class; and one in the items of an array makes a list of the class. Only under the name
`array` a reference is not to the schema: it makes the property an array, by what its items say. -/
theorem field_of_registered_reference (t : TypeTable) (steps : List Step) (package n : String)
    (h : IsLatest steps (.registerModel package n)) (entity name : String)
    (hname : ∃ c ∈ name.toList, c.isAlphanum = true) (property : Json) :
    (RefersTo property n → n ≠ "array" →
        HasField (run t steps) entity name property (modelType package n) false) ∧
      (IsArray property ∨ RefersTo property "array" →
        (∀ items, property.get? "items" = some items → RefersTo items n →
          HasField (run t steps) entity name property
            (collectionOf (modelType package n)) true) ∧
        ((property.get? "items").bind declaredType? = none →
          HasField (run t steps) entity name property (collectionOf genericType) true)) := by
  have hresolve : (run t steps).resolve n = modelType package n := resolve_run_of_registered h
  refine ⟨fun href hn => ?_, fun harray => ?_⟩
  · have hfield : HasField (run t steps) entity name property _ _ :=
      hasField_propertyType (Json.isSome_members? href) hname
    rwa [propertyType_of_reference href hn, hresolve] at hfield
  · have hfield : HasField (run t steps) entity name property _ _ :=
      hasField_propertyType (isSome_members?_of_array harray) hname
    rw [propertyType_of_array harray] at hfield
    refine ⟨fun items hitems href => ?_, fun hnone => ?_⟩
    · rwa [hitems, Option.bind_some, declaredType?_of_refersTo href, Option.map_some,
        Option.getD_some, hresolve] at hfield
    · rwa [hnone, Option.map_none, Option.getD_none] at hfield

theorem field_of_registered_date :
    IsLatest [.insert "date" "java.time.Instant", .registerModel "api" "date"]
        (.registerModel "api" "date") ∧
      HasField (run builtin [.insert "date" "java.time.Instant", .registerModel "api" "date"])
        "order" "due-date" (.object [("type", .text "array"), ("$ref", .text "date")])
        "api.model.Date" false ∧
      HasField (run builtin [.insert "date" "java.time.Instant", .registerModel "api" "date"])
        "order" "due-date"
        (.object [("type", .array [.text "null", .text "array"]),
          ("items", .object [("$ref", .text "date")])])
        "java.util.List<api.model.Date>" true := by
  have hlatest : IsLatest [.insert "date" "java.time.Instant", .registerModel "api" "date"]
      (.registerModel "api" "date") :=
    ⟨[.insert "date" "java.time.Instant"], [], rfl, by simp⟩
  have hname : ∃ c ∈ "due-date".toList, c.isAlphanum = true := ⟨'d', by simp, rfl⟩
  have harray : IsArray (.object [("type", .array [.text "null", .text "array"]),
      ("items", .object [("$ref", .text "date")])]) := by
    refine ⟨fun n hn => ?_, _, rfl, .list [.text "null"] [] (by simp)⟩
    have hmissing : none = some (Json.text n) := hn
    cases hmissing
  exact ⟨hlatest,
    (field_of_registered_reference builtin _ "api" "date" hlatest "order" "due-date"
      hname _).1 rfl (by decide),
    ((field_of_registered_reference builtin _ "api" "date" hlatest "order" "due-date"
      hname _).2 (.inl harray)).1 _ rfl rfl⟩

theorem reference_to_array_schema :
    IsLatest [.registerModel "api" "array"] (.registerModel "api" "array") ∧
      RefersTo (.object [("$ref", .text "array")]) "array" ∧
      HasField (run builtin [.registerModel "api" "array"]) "order" "x"
        (.object [("$ref", .text "array")]) "java.util.List<Object>" true ∧
      ¬ HasField (run builtin [.registerModel "api" "array"]) "order" "x"
        (.object [("$ref", .text "array")]) (modelType "api" "array") false := by
  have hlatest : IsLatest [.registerModel "api" "array"] (.registerModel "api" "array") :=
    ⟨[], [], rfl, by simp⟩
  have hfield : HasField (run builtin [.registerModel "api" "array"]) "order" "x"
      (.object [("$ref", .text "array")]) "java.util.List<Object>" true :=
    hasField_propertyType rfl ⟨'x', by simp, rfl⟩
  refine ⟨hlatest, rfl, hfield, ?_⟩
  rintro ⟨f, hf, -, hcollection⟩
  obtain ⟨f', hf', -, hcollection'⟩ := hfield
  obtain rfl := Except.ok.inj (hf.symm.trans hf')
  exact Bool.false_ne_true (hcollection.symm.trans hcollection')

end TypeTable

end ClientGen
