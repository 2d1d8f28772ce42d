import ClientGen.Proofs.ModelClass.Parse
import ClientGen.Proofs.Navigation.LongestSuffix
import ClientGen.Proofs.ParametersClass.Parse
import Mathlib.Data.List.Induction

/-! Names in the bodies of methods. A method reads and assigns fields of its class only, and refers
to its own parameters only. The deep part is the chain of a relation, which takes the arguments of
its calls from fields of the class that the relation belongs to. -/

namespace ClientGen

inductive Expr.Within (e : Expr) : Expr → Prop
  | here : Within e e
  | receiver {r : Expr} {method : String} {args : List Expr} (h : Within e r) :
      Within e (.call r method args)
  | argument {r a : Expr} {method : String} {args : List Expr} (ha : a ∈ args) (h : Within e a) :
      Within e (.call r method args)
  | staticArgument {a : Expr} {owner method : String} {args : List Expr} (ha : a ∈ args)
      (h : Within e a) : Within e (.staticCall owner method args)

structure Expr.Scoped (fields params : List String) (e : Expr) : Prop where
  field : ∀ name, (Expr.field name).Within e → name ∈ fields
  param : ∀ name, (Expr.param name).Within e → name ∈ params

namespace Statement

def value : Statement → Expr
  | assign _ value | returns value => value

def isReturn : Statement → Bool
  | assign .. => false
  | returns _ => true

end Statement

/-- A body is a number of assignments and, where the method returns something, one return. -/
structure Method.Scoped (fields : List String) (m : Method) : Prop where
  assigned : ∀ target value, .assign target value ∈ m.body → target ∈ fields
  values : ∀ st ∈ m.body, st.value.Scoped fields (m.parameters.map Field.name)
  returning : m.returnType.isSome → ∃ start value, m.body = start ++ [.returns value] ∧
    ∀ st ∈ start, st.isReturn = false
  silent : m.returnType = none → ∀ st ∈ m.body, st.isReturn = false

def ClassDecl.Scoped (c : ClassDecl) : Prop :=
  ∀ m ∈ c.methods, m.Scoped (c.fields.toList.map Field.name)

variable {fields params : List String}

namespace Expr

theorem scoped_this : this.Scoped fields params := by
  constructor <;> rintro _ ⟨⟩

theorem scoped_null : null.Scoped fields params := by
  constructor <;> rintro _ ⟨⟩

theorem scoped_field {name : String} (h : name ∈ fields) : (field name).Scoped fields params := by
  constructor
  · rintro _ ⟨⟩
    exact h
  · rintro _ ⟨⟩

theorem scoped_param {name : String} (h : name ∈ params) : (param name).Scoped fields params := by
  constructor
  · rintro _ ⟨⟩
  · rintro _ ⟨⟩
    exact h

theorem scoped_staticCall {owner method : String} {args : List Expr}
    (h : ∀ a ∈ args, a.Scoped fields params) :
    (staticCall owner method args).Scoped fields params := by
  constructor
  · intro name hin
    cases hin with
    | staticArgument ha hin => exact (h _ ha).field name hin
  · intro name hin
    cases hin with
    | staticArgument ha hin => exact (h _ ha).param name hin

theorem scoped_call {receiver : Expr} {method : String} {args : List Expr}
    (hr : receiver.Scoped fields params) (h : ∀ a ∈ args, a.Scoped fields params) :
    (call receiver method args).Scoped fields params := by
  constructor
  · intro name hin
    cases hin with
    | receiver hin => exact hr.field name hin
    | argument ha hin => exact (h _ ha).field name hin
  · intro name hin
    cases hin with
    | receiver hin => exact hr.param name hin
    | argument ha hin => exact (h _ ha).param name hin

theorem Scoped.of_nil {e : Expr} (h : e.Scoped fields []) : e.Scoped fields params :=
  ⟨h.field, fun name hin => absurd (h.param name hin) List.not_mem_nil⟩

end Expr

namespace Method

theorem scoped_of_return {m : Method} {e : Expr} (hbody : m.body = [.returns e])
    (htype : m.returnType.isSome) (he : e.Scoped fields (m.parameters.map Field.name)) :
    m.Scoped fields := by
  constructor
  · intro target value hmem
    simp [hbody] at hmem
  · intro st hst
    rw [hbody] at hst
    obtain rfl := List.mem_singleton.mp hst
    exact he
  · intro _
    exact ⟨[], e, hbody, by simp⟩
  · intro hnone
    simp [hnone] at htype

theorem scoped_getter {f : Field} (h : f.name ∈ fields) : (getter f).Scoped fields :=
  scoped_of_return rfl rfl (Expr.scoped_field h)

theorem scoped_valueParameter (f : Field) :
    (Expr.param f.name).Scoped fields ([f.valueParameter].map Field.name) :=
  Expr.scoped_param (by simp [Field.valueParameter])

theorem scoped_setter {f : Field} (h : f.name ∈ fields) : (setter f).Scoped fields := by
  constructor
  · intro target value hmem
    obtain ⟨rfl, -⟩ : target = f.name ∧ value = .param f.name := by simpa [setter] using hmem
    exact h
  · intro st hst
    obtain rfl := List.mem_singleton.mp hst
    exact scoped_valueParameter f
  · intro hsome
    simp [setter] at hsome
  · intro _ st hst
    obtain rfl := List.mem_singleton.mp hst
    rfl

theorem scoped_fluent {className : String} {f : Field} (h : f.name ∈ fields) :
    (fluent className f).Scoped fields := by
  constructor
  · intro target value hmem
    obtain ⟨rfl, -⟩ : target = f.name ∧ value = .param f.name := by simpa [fluent] using hmem
    exact h
  · intro st hst
    have hst : st = .assign f.name (.param f.name) ∨ st = .returns .this := by
      simpa [fluent] using hst
    rcases hst with rfl | rfl
    · exact scoped_valueParameter f
    · exact Expr.scoped_this
  · intro _
    exact ⟨[.assign f.name (.param f.name)], .this, rfl, by simp [Statement.isReturn]⟩
  · intro hnone
    simp [fluent] at hnone

theorem scoped_of_accessor {className : String} {f : Field} {m : Method} (h : f.name ∈ fields)
    (hm : m ∈ accessorsOf className f) : m.Scoped fields := by
  have hm : m = getter f ∨ m = setter f ∨ m = fluent className f := by
    simpa [accessorsOf] using hm
  rcases hm with rfl | rfl | rfl
  · exact scoped_getter h
  · exact scoped_setter h
  · exact scoped_fluent h

end Method

namespace Navigation

variable {settings : Settings} {package : String} {owned : List Field}

theorem scoped_segmentArgument? {segment : String} {e : Expr}
    (h : segmentArgument? owned segment = some e) : e.Scoped (owned.map Field.name) [] := by
  unfold segmentArgument? at h
  split at h
  · split at h
    · rename_i f hf
      obtain rfl := Option.some.inj h
      refine Expr.scoped_call (Expr.scoped_field ?_) (by simp)
      exact List.mem_map_of_mem (isFirstLongest_of_some hf).mem
    · obtain rfl := Option.some.inj h
      exact Expr.scoped_null
  · simp at h

theorem scoped_chain (settings : Settings) (package : String) (owned : List Field)
    (path : List String) :
    (chain settings package owned path).Scoped (owned.map Field.name) [] := by
  -- the chain grows at its receiver, so the induction is on the path from its end
  induction path using List.reverseRecOn with
  | nil => exact Expr.scoped_staticCall (by simp)
  | append_singleton path segment ih =>
    rw [chain, List.foldl_append]
    refine Expr.scoped_call ih ?_
    intro a ha
    exact scoped_segmentArgument? (Option.mem_toList.mp ha)

theorem scoped_pair (settings : Settings) (package : String) (owned : List Field)
    (relation type : String) (path : List String) (last : String) :
    (pair settings package owned relation type path last).derived.Scoped (owned.map Field.name) ∧
      (pair settings package owned relation type path last).explicit.Scoped
        (owned.map Field.name) := by
  have hchain := scoped_chain settings package owned path
  constructor
  · exact Method.scoped_of_return rfl rfl (Expr.scoped_call hchain.of_nil (by simp))
  · refine Method.scoped_of_return rfl rfl (Expr.scoped_call (Expr.scoped_call hchain.of_nil ?_)
      (by simp))
    intro a ha
    obtain rfl := List.mem_singleton.mp ha
    exact Expr.scoped_param (by simp [pair])

theorem scoped_navigation {s : Session} {relation : String × Json} {m : Method}
    (hm : m ∈ ModelClass.navigation s package owned relation) :
    m.Scoped (owned.map Field.name) := by
  unfold ModelClass.navigation at hm
  cases hp : ModelClass.pairAt s package owned relation with
  | none => simp [hp] at hm
  | some p =>
    have hm : m = p.derived ∨ m = p.explicit := by simpa [hp] using hm
    simp only [ModelClass.pairAt, Option.bind_eq_bind, Option.bind_eq_some_iff,
      Option.some.injEq] at hp
    obtain ⟨path, -, last, -, rfl⟩ := hp
    have hpair := scoped_pair s.settings package owned relation.1 (s.typeAt path) path last
    rcases hm with rfl | rfl
    · exact hpair.1
    · exact hpair.2

end Navigation

theorem ModelClass.scoped_of_parse {package entity : String} {schema : Json} {s s' : Session}
    {events : List Event} {c : ClassDecl}
    (h : (ModelClass.parse package entity schema).run s = ⟨s', events, .ok c⟩) : c.Scoped := by
  obtain ⟨m, owner, first, second, -, hproperties, hrelations, -, -⟩ := run_parse_eq_ok h
  have howner := takesFirst_of_properties rfl hproperties
  have hc := hasRelations_of_run hrelations
  intro method hm
  rw [hc.fields]
  rw [hc.methods, methods_of_properties rfl howner] at hm
  rcases List.mem_append.mp hm with haccessor | hnavigation
  · obtain ⟨f, hf, hm⟩ := List.mem_flatMap.mp haccessor
    exact Method.scoped_of_accessor (List.mem_map_of_mem hf) hm
  · obtain ⟨r, -, hm⟩ := List.mem_flatMap.mp hnavigation
    exact Navigation.scoped_navigation hm

theorem ParametersClass.scoped_of_parse {package entity : String} {service : Service}
    {s s' : Session} {events : List Event} {c : ClassDecl}
    (h : (ParametersClass.parse package entity service).run s = ⟨s', events, .ok c⟩) :
    c.Scoped := by
  obtain ⟨action, owner, notes, -, hrun, rfl, -, -⟩ := run_parse_eq_ok h
  have hmethods := methods_of_parameters (takesFirst_of_parameters rfl hrun)
  intro method hm
  have hm : method ∈ accessors owner := by
    rwa [ClassDecl.addMethods, hmethods] at hm
  obtain ⟨f, hf, hm⟩ := List.mem_flatMap.mp hm
  have hname := List.mem_map_of_mem (f := Field.name) hf
  have hm : method = .getter f ∨ method = .fluent owner.className f := by simpa using hm
  rcases hm with rfl | rfl
  · exact Method.scoped_getter hname
  · exact Method.scoped_fluent hname

/-- Whatever class is made, from a schema or a service, its methods are well scoped. -/
theorem methods_scoped :
    (∀ (s : Session) (package entity : String) (schema : Json) (c : ClassDecl),
      ((ModelClass.parse package entity schema).run s).result = .ok c → c.Scoped) ∧
    ∀ (s : Session) (package entity : String) (service : Service) (c : ClassDecl),
      ((ParametersClass.parse package entity service).run s).result = .ok c → c.Scoped := by
  constructor
  · intro s package entity schema c h
    match hrun : (ModelClass.parse package entity schema).run s, h with
    | ⟨_, _, .ok _⟩, rfl => exact ModelClass.scoped_of_parse hrun
  · intro s package entity service c h
    match hrun : (ParametersClass.parse package entity service).run s, h with
    | ⟨_, _, .ok _⟩, rfl => exact ParametersClass.scoped_of_parse hrun

def lineSchema : Json :=
  .object
    [("properties", .object [("orderId", .object [])]),
      ("$linkedData", .object [("order", .array [.text "{orderId}", .text "lines"])])]

def lineService : Service :=
  { uri := "lines"
    actions := [{ method := .get, parameters := [{ name := "from", type := "String" }] }] }

theorem methods_scoped_of_line :
    (∃ c, ((ModelClass.parse "api" "line" lineSchema).run (.new {} fun _ => none)).result = .ok c ∧
      c.Scoped) ∧
    ∃ c, ((ParametersClass.parse "api" "line" lineService).run (.new {} fun _ => none)).result =
      .ok c ∧ c.Scoped := by
  constructor
  · have made : ((ModelClass.parse "api" "line" lineSchema).run
        (.new {} fun _ => none)).result.toOption.isSome = true := by decide +kernel
    simp only [Option.isSome_iff_exists, toOption_eq_some] at made
    obtain ⟨c, hc⟩ := made
    exact ⟨c, hc, methods_scoped.1 _ _ _ _ c hc⟩
  · have made : ((ParametersClass.parse "api" "line" lineService).run
        (.new {} fun _ => none)).result.toOption.isSome = true := by decide +kernel
    simp only [Option.isSome_iff_exists, toOption_eq_some] at made
    obtain ⟨c, hc⟩ := made
    exact ⟨c, hc, methods_scoped.2 _ _ _ _ c hc⟩

end ClientGen
