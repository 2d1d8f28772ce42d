import ClientGen.Proofs.Service.Lookup
import ClientGen.Proofs.Session.Agreement
import ClientGen.Proofs.Session.Foretold

/-! Why a service has no parameters class. The registry is asked first, then whether there is a GET
action, and then whether that has parameters; a parameter is never in the way. -/

namespace ClientGen

open Build

theorem Service.action?_eq_some_iff {service : Service} {method : HttpMethod} {action : Action} :
    service.action? method = some action ↔
      IsFirst (fun a => a.method = method) service.actions action :=
  find?_eq_some_iff_isFirst

theorem Service.action?_eq_none_iff {service : Service} {method : HttpMethod} :
    service.action? method = none ↔ ∀ a ∈ service.actions, a.method ≠ method :=
  find?_eq_none_iff_forall

namespace ParametersClass

variable {package entity : String} {service : Service} {s : Session} {registry : Registry}
  {e : GenError}

def actionError? (package : String) (service : Service) : Option GenError :=
  match service.action? .get with
  | none => some (.missingGetAction (canonicalName package service) service.uri)
  | some action =>
    if action.parameters = [] then
      some (.emptyParameters (canonicalName package service) service.uri)
    else none

def cause? (registry : Registry) (package : String) (service : Service) : Option GenError :=
  (duplicate? registry (canonicalName package service)).or (actionError? package service)

theorem foretold_addParameter (c : ClassDecl) (parameter : Field) :
    ((addParameter service c parameter).run s).Foretold none
      fun d => d.canonicalName = c.canonicalName := by
  rw [run_addParameter]
  split
  · exact ⟨c, rfl, rfl⟩
  · exact ⟨_, rfl, rfl⟩

theorem foretold_parameters (s : Session) (service : Service) (parameters : List Field)
    {canonical : String} {empty : ClassDecl} (h : empty.canonicalName = canonical) :
    ((parameters.foldlM (addParameter service) empty).run s).Foretold none
      fun c => c.canonicalName = canonical := by
  have hnone : parameters.findSome? (fun _ => (none : Option GenError)) = none :=
    List.findSome?_eq_none_iff.mpr fun _ _ => rfl
  rw [← hnone]
  refine foretold_foldlM (reads_addParameter service) (fun c hc parameter => ?_) parameters h
  exact (foretold_addParameter c parameter).imp fun d hd => hd.trans hc

theorem foretold_assemble (s : Session) (package : String) (service : Service) :
    ((assemble package service).run s).Foretold (cause? s.registry package service)
      fun c => c.canonicalName = canonicalName package service ∧
        s.registry.contains c.canonicalName = false := by
  have hcanonical : (start s.settings package service).canonicalName =
      canonicalName package service := rfl
  unfold assemble cause?
  rw [run_session_bind]
  refine foretold_bind (reads_ensureNew _) (foretold_ensureNew _) fun _ hnew => ?_
  rw [actionError?]
  cases service.action? .get with
  | none => exact rfl
  | some action =>
    dsimp only
    by_cases hempty : action.parameters = []
    · rw [if_pos hempty, if_pos hempty, run_fail_bind]
      exact rfl
    · rw [if_neg hempty, if_neg hempty, ← Option.or_none (o := (none : Option GenError))]
      refine foretold_bind (Reads.foldlM (reads_addParameter service) _ _)
        (foretold_parameters s service action.parameters hcanonical) fun owner howner => ?_
      have hname : (owner.addMethods (accessors owner)).canonicalName =
          canonicalName package service := howner
      exact ⟨owner.addMethods (accessors owner), rfl, hname, hname ▸ hnew⟩

theorem foretold_parse (s : Session) (package entity : String) (service : Service) :
    ((parse package entity service).run s).Foretold (cause? s.registry package service)
      fun c => c.canonicalName = canonicalName package service := by
  have hnone := Option.or_none (o := cause? s.registry package service)
  rw [parse_eq, ← hnone]
  refine foretold_bind (reads_assemble package service) (foretold_assemble s package service)
    fun c hc => ?_
  refine (foretold_enroll (parsed c entity) hc.2).imp fun d hd => ?_
  rw [hd, hc.1]

structure Makeable (registry : Registry) (package : String) (service : Service)
    (action : Action) : Prop where
  fresh : registry.contains (canonicalName package service) = false
  get : IsFirst (fun a => a.method = .get) service.actions action
  parameters : action.parameters ≠ []

inductive FirstCause (registry : Registry) (package : String) (service : Service) :
    GenError → Prop
  | registered (h : registry.contains (canonicalName package service) = true) :
    FirstCause registry package service (.duplicateClass (canonicalName package service))
  | missing (fresh : registry.contains (canonicalName package service) = false)
    (h : ∀ a ∈ service.actions, a.method ≠ .get) :
    FirstCause registry package service
      (.missingGetAction (canonicalName package service) service.uri)
  | empty {action : Action}
    (fresh : registry.contains (canonicalName package service) = false)
    (get : IsFirst (fun a => a.method = .get) service.actions action)
    (h : action.parameters = []) :
    FirstCause registry package service
      (.emptyParameters (canonicalName package service) service.uri)

section Deciding

theorem actionError?_eq_none_iff : actionError? package service = none ↔
    ∃ action, IsFirst (fun a => a.method = .get) service.actions action ∧
      action.parameters ≠ [] := by
  simp only [← Service.action?_eq_some_iff]
  unfold actionError?
  cases service.action? .get with
  | none => simp
  | some action => by_cases h : action.parameters = [] <;> simp [h]

theorem actionError?_eq_some_iff : actionError? package service = some e ↔
    (∀ a ∈ service.actions, a.method ≠ .get) ∧
        e = .missingGetAction (canonicalName package service) service.uri ∨
      ∃ action, IsFirst (fun a => a.method = .get) service.actions action ∧
        action.parameters = [] ∧
        e = .emptyParameters (canonicalName package service) service.uri := by
  simp only [← Service.action?_eq_some_iff, ← Service.action?_eq_none_iff]
  unfold actionError?
  cases service.action? .get with
  | none => simp [eq_comm]
  | some action => by_cases h : action.parameters = [] <;> simp [h, eq_comm]

theorem cause?_eq_none_iff : cause? registry package service = none ↔
    ∃ action, Makeable registry package service action := by
  rw [cause?, Option.or_eq_none_iff, duplicate?_eq_none_iff, actionError?_eq_none_iff]
  constructor
  · rintro ⟨hfresh, action, hget, hparameters⟩
    exact ⟨action, hfresh, hget, hparameters⟩
  · rintro ⟨action, hfresh, hget, hparameters⟩
    exact ⟨hfresh, action, hget, hparameters⟩

theorem cause?_eq_some_iff :
    cause? registry package service = some e ↔ FirstCause registry package service e := by
  rw [cause?, Option.or_eq_some_iff, duplicate?_eq_some_iff, duplicate?_eq_none_iff,
    actionError?_eq_some_iff]
  constructor
  · rintro (⟨h, rfl⟩ | ⟨hfresh, ⟨h, rfl⟩ | ⟨action, hget, h, rfl⟩⟩)
    · exact .registered h
    · exact .missing hfresh h
    · exact .empty hfresh hget h
  · intro h
    cases h with
    | registered h => exact .inl ⟨h, rfl⟩
    | missing hfresh h => exact .inr ⟨hfresh, .inl ⟨h, rfl⟩⟩
    | empty hfresh hget h => exact .inr ⟨hfresh, .inr ⟨_, hget, h, rfl⟩⟩

end Deciding

end ParametersClass

end ClientGen
