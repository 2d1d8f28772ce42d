import ClientGen.Proofs.Document.GetParameters
import ClientGen.Proofs.Document.Validation
import ClientGen.Proofs.Generation.Handing
import ClientGen.Proofs.ParametersClass.Result

/-! What a run makes of each resource, told from the document. Of the resources that share a type
name, the first with GET parameters takes the name of the parameters class; to the resources after
it the name is taken, whether they have GET parameters or not. -/

namespace ClientGen

namespace Resource

variable {all done rest : List Resource} {r : Resource}

def serves (typeName : String) (r : Resource) : Bool := r.hasParameters && r.typeName == typeName

/-- A resource before it has a parameters class of the same name. -/
def shadowed (all : List Resource) (r : Resource) : Bool :=
  (all.takeWhile (·.uri ≠ r.uri)).any (serves r.typeName)

/-- The first of the resources that have a parameters class of this name. -/
def owner? (all : List Resource) (typeName : String) : Option Resource :=
  all.find? (serves typeName)

theorem shadowed_append (hnodup : ((done ++ r :: rest).map Resource.uri).Nodup) :
    r.shadowed (done ++ r :: rest) = done.any (serves r.typeName) := by
  rw [List.map_append, List.map_cons, List.nodup_append] at hnodup
  have hbefore : ∀ e ∈ done, decide (e.uri ≠ r.uri) = true := fun e he =>
    decide_eq_true (hnodup.2.2 e.uri (List.mem_map_of_mem he) r.uri List.mem_cons_self)
  rw [shadowed, List.takeWhile_append_of_pos hbefore, List.takeWhile_cons_of_neg (by simp),
    List.append_nil]

theorem owner?_of_not_shadowed (hr : r ∈ all) (hnodup : (all.map Resource.uri).Nodup)
    (hserved : r.hasParameters = true) (hfree : r.shadowed all = false) :
    owner? all r.typeName = some r := by
  obtain ⟨done, rest, rfl⟩ := List.append_of_mem hr
  rw [shadowed_append hnodup] at hfree
  have hnone : done.find? (serves r.typeName) = none := by
    rw [List.find?_eq_none]
    exact List.any_eq_false.mp hfree
  have hself : r.serves r.typeName = true := by
    rw [serves, hserved, beq_self_eq_true]
    rfl
  rw [owner?, List.find?_append, hnone, Option.none_or, List.find?_cons_of_pos hself]

theorem parametersClass_ne_modelType (package : String) (r : Resource) (name : String) :
    r.parametersClass package ≠ TypeTable.modelType package name :=
  ParametersClass.canonicalName_ne_modelType package { uri := r.uri } name

end Resource

namespace Generation

variable {package : String} {types : TypeTable} {s : Session} {all done rest : List Resource}
  {services : List Service} {r : Resource} {service : Service}

inductive Becomes (package : String) (all : List Resource) (r : Resource) :
    Except GenError ClassDecl → Prop
  | clash (taken : r.shadowed all = true) :
    Becomes package all r (.error (.duplicateClass (r.parametersClass package)))
  | unserved (e : GenError) (free : r.shadowed all = false) (none : r.hasParameters = false)
    (about : e.unserved? = some r.uri) : Becomes package all r (.error e)
  | made (c : ClassDecl) (free : r.shadowed all = false) (served : r.hasParameters = true)
    (name : c.canonicalName = r.parametersClass package)
    (fields : ∀ n, c.fields.contains n = true ↔
      ∃ q ∈ r.getParameters, n = Naming.fieldName q.1) : Becomes package all r (.ok c)

theorem canonicalName_of_isServiceOf (h : LoadedDocument.IsServiceOf types r service) :
    ParametersClass.canonicalName package service = r.parametersClass package := by
  rw [ParametersClass.canonicalName, h.typeName]
  rfl

theorem contains_of_result (h : LoadedDocument.IsServiceOf types r service) {c : ClassDecl}
    (hc : (Task.parameters service).result package s = .ok c) :
    ∀ n, c.fields.contains n = true ↔ ∃ q ∈ r.getParameters, n = Naming.fieldName q.1 := by
  match hrun : (ParametersClass.parse package service.uri service).run s with
  | ⟨s', events, result⟩ =>
    have hresult : result = .ok c := by
      rw [Task.result, Task.parse, hrun] at hc
      exact hc
    rw [hresult] at hrun
    intro n
    rw [ParametersClass.contains_of_parse hrun, h.names_get, List.mem_map]
    simp only [eq_comm]

theorem becomes_of_result (h : LoadedDocument.IsServiceOf types r service)
    (hknown : s.registry.contains (r.parametersClass package) = r.shadowed all) :
    Becomes package all r ((Task.parameters service).result package s) := by
  have hname : ParametersClass.canonicalName package service = r.parametersClass package :=
    canonicalName_of_isServiceOf h
  rw [← hname] at hknown
  have hresult : (Task.parameters service).result package s =
    ((ParametersClass.parse package service.uri service).run s).result := rfl
  cases htaken : r.shadowed all with
  | true =>
    rw [htaken] at hknown
    rw [hresult, ParametersClass.result_of_registered _ hknown, hname]
    exact .clash htaken
  | false =>
    rw [htaken] at hknown
    cases hserved : r.hasParameters with
    | false =>
      obtain ⟨e, he, habout⟩ := ParametersClass.result_of_unserved service.uri hknown
        (h.hasParameters.trans hserved)
      rw [hresult, he]
      exact .unserved e htaken hserved (h.uri ▸ habout)
    | true =>
      obtain ⟨c, hc⟩ := ParametersClass.result_of_served service.uri hknown
        (h.hasParameters.trans hserved)
      have hmakes : (Task.parameters service).Makes package s c :=
        Task.makes_of_result (hresult.trans hc)
      rw [hresult, hc]
      exact .made c htaken hserved (hmakes.canonicalName.trans hname)
        (contains_of_result h (hresult.trans hc))

theorem Becomes.isSome {result : Except GenError ClassDecl} (h : Becomes package all r result)
    (hfree : r.shadowed all = false) : result.toOption.isSome = r.hasParameters := by
  cases h with
  | clash taken =>
    rw [hfree] at taken
    cases taken
  | unserved e free none about =>
    rw [none]
    rfl
  | made c free served name fields =>
    rw [served]
    rfl

def Registers (package : String) (s : Session) (done : List Resource) : Prop :=
  ∀ r : Resource,
    s.registry.contains (r.parametersClass package) = done.any (Resource.serves r.typeName)

theorem registers_after (hs : Registers package s done)
    (h : LoadedDocument.IsServiceOf types r service)
    (hall : r.shadowed all = done.any (Resource.serves r.typeName)) :
    Registers package ((Task.parameters service).after package s) (done ++ [r]) := by
  have hbecomes := becomes_of_result h ((hs r).trans hall.symm)
  intro other
  have hname : (Task.parameters service).canonicalName package = r.parametersClass package :=
    canonicalName_of_isServiceOf h
  rw [Task.contains_after, hs other, hname, List.any_append, List.any_cons, List.any_nil,
    Bool.or_false]
  by_cases hsame : other.typeName = r.typeName
  · have heq : other.parametersClass package = r.parametersClass package :=
      Resource.parametersClass_inj.mpr hsame
    rw [hsame, ← hall, heq, Resource.serves, beq_self_eq_true, beq_self_eq_true, Bool.and_true,
      Bool.and_true]
    cases htaken : r.shadowed all with
    | true => rfl
    | false => rw [hbecomes.isSome htaken]
  · have hne : other.parametersClass package ≠ r.parametersClass package :=
      fun heq => hsame (Resource.parametersClass_inj.mp heq)
    rw [Resource.serves, beq_false_of_ne hne, beq_false_of_ne (Ne.symm hsame), Bool.and_false,
      Bool.and_false]

theorem becomes_results (h : List.Forall₂ (LoadedDocument.IsServiceOf types) rest services)
    (hnodup : ((done ++ rest).map Resource.uri).Nodup) (hs : Registers package s done) :
    List.Forall₂ (Becomes package (done ++ rest)) rest
      (results package s (services.map .parameters)) := by
  induction h generalizing done s with
  | nil => exact .nil
  | @cons r service rest services hr _ ih =>
    have hall := Resource.shadowed_append hnodup
    have hlater : done ++ r :: rest = done ++ [r] ++ rest := by
      rw [List.append_assoc, List.singleton_append]
    rw [List.map_cons, results]
    refine .cons (becomes_of_result hr ((hs r).trans hall.symm)) ?_
    rw [hlater] at hnodup ⊢
    exact ih hnodup (registers_after hs hr hall)

variable {rs : List (Except GenError ClassDecl)} {resources : List Resource}

theorem unserved_of_becomes (h : List.Forall₂ (Becomes package all) resources rs) :
    unserved rs =
      (resources.filter fun r => !r.hasParameters && !r.shadowed all).map Resource.uri := by
  refine List.Forall₂.filterMap_eq (h.imp fun r result hr => ?_)
  cases hr with
  | clash taken =>
    rw [taken, Bool.not_true, Bool.and_false]
    rfl
  | unserved e free none about =>
    rw [Verdict.of_unserved about, none, free]
    rfl
  | made c free served name fields =>
    rw [served]
    rfl

theorem unmade_of_becomes (h : List.Forall₂ (Becomes package all) resources rs) :
    unmade rs = (resources.filter fun r => r.shadowed all).map fun r =>
      .duplicateClass (r.parametersClass package) := by
  refine List.Forall₂.filterMap_eq (h.imp fun r result hr => ?_)
  cases hr with
  | clash taken =>
    rw [taken]
    rfl
  | unserved e free none about =>
    rw [Verdict.of_unserved about, free]
    rfl
  | made c free served name fields =>
    rw [free]
    rfl

theorem names_of_becomes (h : List.Forall₂ (Becomes package all) resources rs) :
    (made rs).map ClassDecl.canonicalName =
      (resources.filter fun r => r.hasParameters && !r.shadowed all).map
        (Resource.parametersClass package) := by
  rw [made, List.map_filterMap]
  refine List.Forall₂.filterMap_eq (h.imp fun r result hr => ?_)
  cases hr with
  | clash taken =>
    rw [taken, Bool.not_true, Bool.and_false]
    rfl
  | unserved e free none about =>
    rw [none]
    rfl
  | made c free served name fields =>
    rw [served, free, ← name]
    rfl

variable {d : Document} {loadSettings settings : Settings} {base : String} {l : LoadedDocument}

theorem resultsOf_load (hl : (LoadedDocument.load d loadSettings base).2 = .ok l)
    (settings : Settings) (package : String) :
    ∃ rs ms, resultsOf l settings package = rs ++ ms ∧
      List.Forall₂ (Becomes package d.resources) d.resources rs ∧
      List.Forall₂ (fun entry r =>
        (Task.model entry.1 entry.2).ComesTo package (start l settings).session r) d.schemas ms := by
  obtain ⟨hvalid, hdocument, -, hservices⟩ := LoadedDocument.load_eq_ok hl
  have hdistinct := (Document.validate_eq_ok_iff.mp hvalid).distinct
  obtain ⟨ms, hresults, hmodels⟩ := resultsOf_eq l settings package
  rw [hdocument] at hmodels
  refine ⟨_, ms, hresults, ?_, hmodels⟩
  have hempty : Registers package (start l settings).session [] := fun r => rfl
  have hall : (([] ++ d.resources).map Resource.uri).Nodup := hdistinct
  exact becomes_results hservices hall hempty

end Generation

end ClientGen
