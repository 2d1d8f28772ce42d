import ClientGen.Output.ClassJson
import ClientGen.Proofs.Json.Same

/-! Classes read back from JSON. Every part is read by its key, so the order of members does not
matter; nothing of a class is lost, and two classes with the same JSON are one. -/

namespace ClientGen

open Json

def Visibility.ofKeyword? : String → Option Visibility
  | "public" => some pub
  | "private" => some priv
  | "protected" => some prot
  | _ => none

def Field.ofJson? (j : Json) : Option Field := do
  some
    { name := ← j.textAt? "name"
      type := ← j.textAt? "type"
      visibility := ← (j.textAt? "visibility").bind Visibility.ofKeyword?
      collection := ← j.boolAt? "collection"
      serializedName := j.textAt? "serialized_name"
      description := j.textAt? "description" }

def FieldSet.ofList? (fields : List Field) : Option FieldSet :=
  if h : (fields.map Field.name).Nodup then some ⟨fields, h⟩ else none

namespace Expr

mutual

def ofJson? : Json → Option Expr
  | .object members =>
    let text := fun key => (members.lookup key).bind Json.text?
    match text "kind" with
    | some "this" => some .this
    | some "null" => some .null
    | some "field" => (text "name").map .field
    | some "variable" => (text "name").map .param
    | some "static_call" => do
      some (.staticCall (← text "class") (← text "method") (← argumentsUnder? "args" members))
    | some "call" => do
      some (.call (← under? "receiver" members) (← text "method")
        (← argumentsUnder? "args" members))
    | _ => none
  | _ => none

def under? (key : String) : List (String × Json) → Option Expr
  | [] => none
  | (k, j) :: rest => if key = k then ofJson? j else under? key rest

def argumentsUnder? (key : String) : List (String × Json) → Option (List Expr)
  | [] => none
  | (k, j) :: rest => if key = k then argumentsOf? j else argumentsUnder? key rest

def argumentsOf? : Json → Option (List Expr)
  | .array items => allOfJson? items
  | _ => none

def allOfJson? : List Json → Option (List Expr)
  | [] => some []
  | j :: rest => do
    some ((← ofJson? j) :: (← allOfJson? rest))

end

end Expr

namespace Statement

def assignOf? (parts : Json) : Option Statement := do
  some (.assign (← parts.textAt? "field") (← (parts.get? "value").bind Expr.ofJson?))

def returnOf? (value : Json) : Option Statement := (Expr.ofJson? value).map .returns

def ofJson? (j : Json) : Option Statement :=
  (j.get? "assign").bind assignOf? <|> (j.get? "return").bind returnOf?

end Statement

def Method.ofJson? (j : Json) : Option Method := do
  some
    { name := ← j.textAt? "name"
      returnType := j.textAt? "return_type"
      visibility := ← (j.textAt? "visibility").bind Visibility.ofKeyword?
      parameters := ← j.itemsAt? Field.ofJson? "parameters"
      body := ← j.itemsAt? Statement.ofJson? "body" }

def ClassDecl.ofJson? (j : Json) : Option ClassDecl := do
  some
    { packageName := ← j.textAt? "package_name"
      className := ← j.textAt? "class_name"
      documentation := ← j.textAt? "documentation"
      fields := ← (j.itemsAt? Field.ofJson? "fields").bind FieldSet.ofList?
      methods := ← j.itemsAt? Method.ofJson? "methods"
      interfaces := ← j.itemsAt? Json.text? "interfaces" }

theorem Visibility.ofKeyword?_keyword (v : Visibility) : ofKeyword? v.keyword = some v := by
  cases v <;> rfl

theorem Field.ofJson?_toJson (f : Field) : ofJson? f.toJson = some f := by
  obtain ⟨name, type, visibility, collection, serializedName, description⟩ := f
  cases visibility <;> cases serializedName <;> cases description <;> rfl

theorem FieldSet.ofList?_toList (s : FieldSet) : ofList? s.toList = some s := dif_pos s.distinct

namespace Expr

mutual

theorem ofJson?_toJson : (e : Expr) → ofJson? e.toJson = some e
  | this | null | field _ | param _ => rfl
  | staticCall owner method args => by
    have hargs := allOfJson?_allToJson args
    simp [toJson, ofJson?, argumentsUnder?, argumentsOf?, hargs, Dict.lookup_cons, Json.text?]
  | call receiver method args => by
    have hreceiver := ofJson?_toJson receiver
    have hargs := allOfJson?_allToJson args
    simp [toJson, ofJson?, under?, argumentsUnder?, argumentsOf?, hreceiver, hargs,
      Dict.lookup_cons, Json.text?]

theorem allOfJson?_allToJson : (es : List Expr) → allOfJson? (allToJson es) = some es
  | [] => rfl
  | e :: es => by
    rw [allToJson, allOfJson?, ofJson?_toJson e, allOfJson?_allToJson es]
    rfl

end

theorem under?_eq (key : String) (members : List (String × Json)) :
    under? key members = (members.lookup key).bind ofJson? := by
  induction members with
  | nil => rfl
  | cons member rest ih =>
    obtain ⟨k, j⟩ := member
    rw [under?, ih, Dict.lookup_cons]
    split <;> rfl

theorem argumentsUnder?_eq (key : String) (members : List (String × Json)) :
    argumentsUnder? key members = (members.lookup key).bind argumentsOf? := by
  induction members with
  | nil => rfl
  | cons member rest ih =>
    obtain ⟨k, j⟩ := member
    rw [argumentsUnder?, ih, Dict.lookup_cons]
    split <;> rfl

theorem allOfJson?_eq (items : List Json) : allOfJson? items = items.mapM ofJson? := by
  induction items with
  | nil => rfl
  | cons j rest ih =>
    rw [allOfJson?, ih, List.mapM_cons]
    rfl

theorem reads_alike {j other : Json} (h : j.Same other) :
    ofJson? j = ofJson? other ∧ argumentsOf? j = argumentsOf? other := by
  induction j using containment generalizing other with
  | null | bool _ | number _ | text _ =>
    cases h
    exact ⟨rfl, rfl⟩
  | array items ih =>
    cases h with
    | array hitems =>
      refine ⟨rfl, ?_⟩
      rw [argumentsOf?, argumentsOf?, allOfJson?_eq, allOfJson?_eq]
      exact mapM_eq_of_forall₂ hitems fun j hj _ hsame => (ih j hj hsame).1
  | object members ih =>
    cases h with
    | @object _ others hmembers =>
      have htext : ∀ key,
          (members.lookup key).bind Json.text? = (others.lookup key).bind Json.text? :=
        fun key => bind_eq_of_rel (hmembers key) fun _ _ _ hvalue => hvalue.text?_eq
      have hunder : ∀ key, under? key members = under? key others := by
        intro key
        rw [under?_eq, under?_eq]
        exact bind_eq_of_rel (hmembers key) fun j _ hj hvalue =>
          (ih (key, j) (mem_of_lookup hj) hvalue).1
      have harguments : ∀ key, argumentsUnder? key members = argumentsUnder? key others := by
        intro key
        rw [argumentsUnder?_eq, argumentsUnder?_eq]
        exact bind_eq_of_rel (hmembers key) fun j _ hj hvalue =>
          (ih (key, j) (mem_of_lookup hj) hvalue).2
      refine ⟨?_, rfl⟩
      simp only [ofJson?, htext, hunder, harguments]

end Expr

theorem Statement.ofJson?_toJson (st : Statement) : ofJson? st.toJson = some st := by
  cases st with
  | assign field value =>
    have hparts : assignOf? (.object [("field", .text field), ("value", value.toJson)]) =
        some (.assign field value) := by
      have hvalue : (some value.toJson).bind Expr.ofJson? = some value :=
        Expr.ofJson?_toJson value
      show (some field).bind (fun field => ((some value.toJson).bind Expr.ofJson?).bind fun value =>
        some (assign field value)) = _
      rw [hvalue]
      rfl
    show (assignOf? _ <|> _) = _
    rw [hparts]
    rfl
  | returns value =>
    have hvalue : returnOf? value.toJson = some (.returns value) := by
      rw [returnOf?, Expr.ofJson?_toJson]
      rfl
    exact hvalue

theorem Method.ofJson?_toJson (m : Method) : ofJson? m.toJson = some m := by
  have hparameters : m.toJson.itemsAt? Field.ofJson? "parameters" = some m.parameters :=
    mapM_map_eq_some Field.ofJson?_toJson m.parameters
  have hbody : m.toJson.itemsAt? Statement.ofJson? "body" = some m.body :=
    mapM_map_eq_some Statement.ofJson?_toJson m.body
  have hvisibility :
      (m.toJson.textAt? "visibility").bind Visibility.ofKeyword? = some m.visibility :=
    m.visibility.ofKeyword?_keyword
  have hreturn : m.toJson.textAt? "return_type" = m.returnType := by
    obtain ⟨name, returnType, visibility, parameters, body⟩ := m
    cases returnType <;> rfl
  unfold ofJson?
  rw [hparameters, hbody, hvisibility, hreturn]
  rfl

theorem ClassDecl.ofJson?_toJson (c : ClassDecl) : ofJson? c.toJson = some c := by
  have hfields : c.toJson.itemsAt? Field.ofJson? "fields" = some c.fields.toList :=
    mapM_map_eq_some Field.ofJson?_toJson c.fields.toList
  have hmethods : c.toJson.itemsAt? Method.ofJson? "methods" = some c.methods :=
    mapM_map_eq_some Method.ofJson?_toJson c.methods
  have hinterfaces : c.toJson.itemsAt? Json.text? "interfaces" = some c.interfaces :=
    mapM_map_eq_some (f := Json.text) (fun _ => rfl) c.interfaces
  unfold ofJson?
  rw [hfields, hmethods, hinterfaces, Option.bind_some, FieldSet.ofList?_toList]
  rfl

section Alike

variable {j other : Json}

theorem Field.ofJson?_congr (h : j.Same other) : ofJson? j = ofJson? other := by
  simp only [ofJson?, h.textAt?_eq, h.boolAt?_eq]

theorem Statement.ofJson?_congr (h : j.Same other) : ofJson? j = ofJson? other := by
  have hassign : (j.get? "assign").bind assignOf? = (other.get? "assign").bind assignOf? := by
    refine bind_eq_of_rel (h.get? "assign") fun parts others _ hparts => ?_
    have hvalue : (parts.get? "value").bind Expr.ofJson? =
        (others.get? "value").bind Expr.ofJson? :=
      bind_eq_of_rel (hparts.get? "value") fun _ _ _ hvalue => (Expr.reads_alike hvalue).1
    rw [assignOf?, assignOf?, hparts.textAt?_eq, hvalue]
  have hreturn : (j.get? "return").bind returnOf? = (other.get? "return").bind returnOf? := by
    refine bind_eq_of_rel (h.get? "return") fun value others _ hvalue => ?_
    rw [returnOf?, returnOf?, (Expr.reads_alike hvalue).1]
  rw [ofJson?, ofJson?, hassign, hreturn]

theorem Method.ofJson?_congr (h : j.Same other) : ofJson? j = ofJson? other := by
  have hparameters := h.itemsAt?_eq (fun _ _ => Field.ofJson?_congr) "parameters"
  have hbody := h.itemsAt?_eq (fun _ _ => Statement.ofJson?_congr) "body"
  simp only [ofJson?, h.textAt?_eq, hparameters, hbody]

theorem ClassDecl.ofJson?_congr (h : j.Same other) : ofJson? j = ofJson? other := by
  have hfields := h.itemsAt?_eq (fun _ _ => Field.ofJson?_congr) "fields"
  have hmethods := h.itemsAt?_eq (fun _ _ => Method.ofJson?_congr) "methods"
  have hinterfaces := h.itemsAt?_eq (fun _ _ => Json.Same.text?_eq) "interfaces"
  simp only [ofJson?, h.textAt?_eq, hfields, hmethods, hinterfaces]

end Alike

/-- A class can be read back from its JSON, in whatever order the members of an object come, and
so two classes with the same JSON are one class. -/
theorem ClassDecl.toJson_lossless :
    (∀ (c : ClassDecl) (j : Json), j.Same c.toJson → ofJson? j = some c) ∧
      ∀ c d : ClassDecl, c.toJson.Same d.toJson ↔ c = d := by
  have reads : ∀ (c : ClassDecl) (j : Json), j.Same c.toJson → ofJson? j = some c :=
    fun c j h => (ofJson?_congr h).trans c.ofJson?_toJson
  refine ⟨reads, fun c d => ⟨fun h => ?_, ?_⟩⟩
  · have hread : some c = some d := c.ofJson?_toJson.symm.trans (reads d c.toJson h)
    exact Option.some.inj hread
  · rintro rfl
    exact .refl c.toJson

def navigatedOrder : ClassDecl :=
  { packageName := "api.model"
    className := "Order"
    fields := FieldSet.empty.insert { name := "id", type := "Integer", serializedName := some "ID" }
    methods :=
      [{ name := "getItems"
         returnType := some "api.model.Item"
         parameters := [{ name := "items", type := "api.parameters.ItemsParameters" }]
         body := [.returns (.call (.call (.staticCall "api.service.ApiMap" "instance" []) "items"
          [.call (.field "id") "toString" []]) "invoke" [.param "items"])] },
        { name := "setId", body := [.assign "id" .null] }] }

theorem ClassDecl.toJson_lossless_of_navigatedOrder :
    ∃ members, navigatedOrder.toJson = .object members ∧
      ofJson? (.object members.reverse) = some navigatedOrder := by
  refine ⟨_, rfl, ?_⟩
  apply toJson_lossless.1 navigatedOrder
  apply Json.Same.of_perm (List.reverse_perm _)
  decide

end ClientGen
