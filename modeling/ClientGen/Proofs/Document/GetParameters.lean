import ClientGen.Proofs.Document.Load
import ClientGen.Proofs.TypeTable.PropertyField

/-! The query parameters of a resource that a parameters class is made of: those under the first verb
that reads as GET, in whatever letter case. Loading makes a field of each, named after it. -/

namespace ClientGen

namespace Resource

def typeName (r : Resource) : String := Naming.typeName r.uri

def get? (r : Resource) : Option DeclaredAction :=
  (r.actions.find? fun entry => HttpMethod.parse? entry.1 = some .get).map Prod.snd

def getParameters (r : Resource) : List (String × Json) :=
  (r.get?.map DeclaredAction.queryParameters).getD []

def hasParameters (r : Resource) : Bool := r.getParameters ≠ []

def parametersClass (package : String) (r : Resource) : String :=
  package ++ "." ++ parametersPackage ++ "." ++ (r.typeName ++ "Parameters")

theorem parametersClass_inj {package : String} {r other : Resource} :
    r.parametersClass package = other.parametersClass package ↔ r.typeName = other.typeName := by
  simp [parametersClass]

theorem getParameters_of_single {r : Resource} {verb : String} {a : DeclaredAction}
    (hmem : (verb, a) ∈ r.actions) (hverb : HttpMethod.parse? verb = some .get)
    (hsingle : ∀ entry ∈ r.actions, HttpMethod.parse? entry.1 = some .get → entry = (verb, a)) :
    r.getParameters = a.queryParameters := by
  have hfind : r.actions.find? (fun entry => HttpMethod.parse? entry.1 = some .get) =
      some (verb, a) := by
    cases hfound : r.actions.find? (fun entry => HttpMethod.parse? entry.1 = some .get) with
    | none =>
      have hnone := List.find?_eq_none.mp hfound (verb, a) hmem
      exact absurd (decide_eq_true hverb) hnone
    | some entry =>
      have hentry := List.find?_some hfound
      rw [hsingle entry (List.mem_of_find?_eq_some hfound) (of_decide_eq_true hentry)]
  rw [getParameters, get?, hfind]
  rfl

end Resource

namespace LoadedDocument

variable {types : TypeTable} {r : Resource} {service : Service}

theorem find?_actionsOf (method : HttpMethod) {uri : String}
    {declared : List (String × DeclaredAction)} {actions : List Action}
    (h : (actionsOf types uri declared).2 = .ok actions) :
    Option.Rel
      (fun entry a => List.Forall₂ (fun q f => types.propertyField uri q.1 q.2 = .ok f)
        entry.2.queryParameters a.parameters)
      (declared.find? fun entry => HttpMethod.parse? entry.1 = some method)
      (actions.find? (·.method = method)) := by
  have hfind : declared.find? (fun entry => HttpMethod.parse? entry.1 = some method) =
      (declared.filter known).find? fun entry => HttpMethod.parse? entry.1 = some method := by
    rw [List.find?_filter]
    refine congrArg (declared.find? ·) (funext fun entry => ?_)
    cases hverb : HttpMethod.parse? entry.1 <;> simp [known, hverb]
  rw [actionsOf_eq_ok_iff] at h
  rw [hfind]
  generalize declared.filter known = made at h ⊢
  induction h with
  | nil => exact .none
  | @cons entry a _ _ haction _ ih =>
    by_cases hmethod : a.method = method
    · rw [List.find?_cons_of_pos (by simp [haction.method, hmethod]),
        List.find?_cons_of_pos (by simp [hmethod])]
      exact .some haction.parameters
    · rw [List.find?_cons_of_neg (by simp [haction.method, hmethod]),
        List.find?_cons_of_neg (by simp [hmethod])]
      exact ih

theorem IsServiceOf.typeName (h : IsServiceOf types r service) : service.typeName = r.typeName := by
  rw [Service.typeName, h.uri]
  rfl

theorem forall₂_names {uri : String} {queries : List (String × Json)} {fields : List Field}
    (h : List.Forall₂ (fun q f => types.propertyField uri q.1 q.2 = .ok f) queries fields) :
    fields.map Field.name = queries.map fun q => Naming.fieldName q.1 :=
  h.map_eq fun _ _ hf => TypeTable.name_of_propertyField hf

theorem IsServiceOf.names_get (h : IsServiceOf types r service) :
    (((service.action? .get).map Action.parameters).getD []).map Field.name =
      r.getParameters.map fun q => Naming.fieldName q.1 := by
  have hget := find?_actionsOf .get h.actions
  unfold Service.action? Resource.getParameters Resource.get?
  generalize r.actions.find? _ = declared at hget ⊢
  generalize service.actions.find? _ = action at hget ⊢
  cases hget with
  | none => rfl
  | some hparameters => exact forall₂_names hparameters

theorem IsServiceOf.hasParameters (h : IsServiceOf types r service) :
    service.hasParameters = r.hasParameters := by
  have hnames := congrArg List.length h.names_get
  rw [List.length_map, List.length_map] at hnames
  have hservice : service.hasParameters = true ↔
      ((service.action? .get).map Action.parameters).getD [] ≠ [] := by
    unfold Service.hasParameters
    cases service.action? .get <;> simp
  rw [Bool.eq_iff_iff, hservice, Resource.hasParameters, decide_eq_true_eq,
    ← List.length_pos_iff, ← List.length_pos_iff, hnames]

end LoadedDocument

end ClientGen
