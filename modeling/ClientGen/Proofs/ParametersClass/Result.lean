import ClientGen.Proofs.Generation.Verdict
import ClientGen.Proofs.ParametersClass.Causes

/-! What comes of a service, told before its class is made. The registry is asked first; only where
the name is new does it matter whether the GET action has parameters. -/

namespace ClientGen.ParametersClass

open Build

variable {package entity : String} {service : Service} {c : ClassDecl} {s s' : Session}
  {events : List Event}

section Fields

theorem contains_of_parse (h : (parse package entity service).run s = ⟨s', events, .ok c⟩) :
    ∀ name, c.fields.contains name = true ↔
      name ∈ (((service.action? .get).map Action.parameters).getD []).map Field.name := by
  obtain ⟨action, owner, notes, haction, hrun, rfl, -, -⟩ := run_parse_eq_ok h
  have hfields : ∀ name, owner.fields.contains name = true ↔
      name ∈ action.parameters.map Field.name := (takesFirst_of_parameters rfl hrun).contains_iff
  rw [haction]
  exact hfields

end Fields

section Outcomes

theorem hasParameters_eq_false_iff (package : String) (service : Service) :
    service.hasParameters = false ↔ actionError? package service ≠ none := by
  unfold Service.hasParameters actionError?
  cases service.action? .get with
  | none => simp
  | some action => by_cases h : action.parameters = [] <;> simp [h]

theorem cause?_of_new (h : s.registry.contains (canonicalName package service) = false) :
    cause? s.registry package service = actionError? package service := by
  rw [cause?, duplicate?_eq_none_iff.mpr h, Option.none_or]

theorem result_of_registered (entity : String)
    (h : s.registry.contains (canonicalName package service) = true) :
    ((parse package entity service).run s).result =
      .error (.duplicateClass (canonicalName package service)) :=
  ((foretold_parse s package entity service).result_eq_error_iff _).mpr
    (cause?_eq_some_iff.mpr (.registered h))

theorem result_of_unserved (entity : String)
    (h : s.registry.contains (canonicalName package service) = false)
    (hnone : service.hasParameters = false) :
    ∃ e, ((parse package entity service).run s).result = .error e ∧
      e.unserved? = some service.uri := by
  obtain ⟨e, he⟩ :=
    Option.ne_none_iff_exists'.mp ((hasParameters_eq_false_iff package service).mp hnone)
  have hresult := (foretold_parse s package entity service).result_eq_error_iff e
  refine ⟨e, hresult.mpr ((cause?_of_new h).trans he), ?_⟩
  obtain ⟨-, rfl⟩ | ⟨action, -, -, rfl⟩ := actionError?_eq_some_iff.mp he
  · rfl
  · rfl

theorem result_of_served (entity : String)
    (h : s.registry.contains (canonicalName package service) = false)
    (hsome : service.hasParameters = true) :
    ∃ c, ((parse package entity service).run s).result = .ok c := by
  rw [(foretold_parse s package entity service).exists_ok_iff, cause?_of_new h]
  by_contra herror
  rw [(hasParameters_eq_false_iff package service).mpr herror] at hsome
  cases hsome

end Outcomes

end ClientGen.ParametersClass
