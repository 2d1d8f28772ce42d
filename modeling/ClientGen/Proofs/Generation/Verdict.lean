import ClientGen.Generation
import ClientGen.Proofs.ModelClass.Parse
import ClientGen.Proofs.ParametersClass.Parse

/-! What can come of one resource or one schema, and how the summary keeps it. A builder never
logs at the level of errors, so that every such event stands for a failure of the run. -/

namespace ClientGen

open Build

def GenError.unserved? : GenError → Option String
  | .missingGetAction _ service | .emptyParameters _ service => some service
  | _ => none

def Event.isError (e : Event) : Bool := e.level = .error

inductive Verdict
  | generated (c : ClassDecl)
  | skipped (service : String)
  | failed (e : GenError)

namespace Verdict

def of : Except GenError ClassDecl → Verdict
  | .ok c => generated c
  | .error e => (e.unserved?.map skipped).getD (failed e)

theorem of_unserved {e : GenError} {uri : String} (h : e.unserved? = some uri) :
    of (.error e) = skipped uri := by
  simp [of, h]

theorem of_failure {e : GenError} (h : e.unserved? = none) : of (.error e) = failed e := by
  simp [of, h]

def class? : Verdict → Option ClassDecl
  | generated c => some c
  | _ => none

def skipped? : Verdict → Option String
  | skipped service => some service
  | _ => none

def error? : Verdict → Option GenError
  | failed e => some e
  | _ => none

def Concerns (package : String) : Verdict → Task → Prop
  | generated c, .parameters service =>
    c.packageName = package ++ "." ++ parametersPackage ∧
      c.className = service.typeName ++ "Parameters"
  | generated c, .model name _ =>
    c.packageName = package ++ "." ++ modelPackage ∧ c.className = Naming.capitalize name
  | skipped uri, .parameters service => uri = service.uri ∧ service.hasParameters = false
  | skipped _, .model .. => False
  | failed e, _ => e.unserved? = none

end Verdict

namespace Summary

def add (s : Summary) (v : Verdict) : Summary :=
  { generated := s.generated ++ (v.class?.map ClassDecl.canonicalName).toList
    skipped := s.skipped ++ v.skipped?.toList
    failed := s.failed ++ v.error?.toList }

theorem record_eq (s : Summary) (entity : String) (r : Except GenError ClassDecl) :
    (s.record entity r).1 = s.add (.of r) := by
  cases r with
  | ok c => simp [record, add, Verdict.of, Verdict.class?, Verdict.skipped?, Verdict.error?]
  | error e =>
    cases e <;> simp [record, add, Verdict.of, GenError.unserved?, Verdict.class?,
      Verdict.skipped?, Verdict.error?]

theorem errors_record (s : Summary) (entity : String) (r : Except GenError ClassDecl) :
    (s.record entity r).2.filter Event.isError =
      ((Verdict.of r).error?.map (failing entity)).toList := by
  cases r with
  | ok c => rfl
  | error e => cases e <;> rfl

end Summary

theorem ModelClass.confined_parse (package entity : String) (schema : Json) :
    Confined (fun e => e.isError = false) (fun e => e.stage = .parse ∧ e.unserved? = none)
      (ModelClass.parse package entity schema) := by
  have quiet : ∀ s c relation, ∀ e ∈ relationEvents s c relation, e.isError = false := by
    intro s c relation e he
    rcases mem_relationEvents he with hdebug | rfl
    · simp [Event.isError, hdebug]
    · rfl
  rw [parse_eq]
  refine Confined.bind ?_ (fun c => confined_enroll rfl ⟨rfl, rfl⟩)
  refine Confined.bind (confined_ofExcept (fun e he => ?_)) (fun m => ?_)
  · obtain ⟨fault, rfl⟩ := ModelSchema.read_eq_error he
    exact ⟨rfl, rfl⟩
  refine confined_session.bind (fun t => ?_)
  refine (confined_ensureNew ⟨rfl, rfl⟩).bind (fun _ => ?_)
  refine Confined.bind (Confined.foldlM (confined_addProperty ?_ entity ?_) _ _) (fun owner => ?_)
  · exact fun _ _ _ => rfl
  · exact fun _ => ⟨rfl, rfl⟩
  · exact Confined.foldlM (confined_addRelation quiet (fun _ _ => ⟨rfl, rfl⟩) package) _ owner

theorem ParametersClass.confined_parse (package entity : String) (service : Service) :
    Confined (fun e => e.isError = false)
      (fun e => e.stage = .parse ∧
        ∀ uri, e.unserved? = some uri → uri = service.uri ∧ service.hasParameters = false)
      (ParametersClass.parse package entity service) := by
  rw [parse_eq]
  refine Confined.bind ?_ (fun c => confined_enroll rfl ⟨rfl, by simp [GenError.unserved?]⟩)
  refine confined_session.bind (fun t => ?_)
  refine (confined_ensureNew ⟨rfl, by simp [GenError.unserved?]⟩).bind (fun _ => ?_)
  have hread := Confined.foldlM (confined_addParameter (P := fun e => e.isError = false)
    (Q := fun e => e.stage = .parse ∧ ∀ uri, e.unserved? = some uri →
      uri = service.uri ∧ service.hasParameters = false) service (fun _ => rfl))
  split
  · rename_i hnone
    refine confined_fail ⟨rfl, fun uri huri => ⟨(Option.some.inj huri).symm, ?_⟩⟩
    simp [Service.hasParameters, hnone]
  · rename_i action haction
    split
    · rename_i hempty
      refine Confined.bind (confined_fail ⟨rfl, fun uri huri => ⟨(Option.some.inj huri).symm, ?_⟩⟩)
        (fun _ => (hread _ _).bind (fun _ => confined_pure _))
      simp [Service.hasParameters, haction, hempty]
    · exact (hread _ _).bind (fun _ => confined_pure _)

namespace Task

variable {package : String} {t : Task}

theorem admits_parse (package : String) (t : Task) : Admits (t.parse package) := by
  cases t with
  | parameters service => exact ParametersClass.admits_parse package service.uri service
  | model name schema => exact ModelClass.admits_parse package name schema

theorem isError_of_parse {s s' : Session} {events : List Event} {r : Except GenError ClassDecl}
    (h : (t.parse package).run s = ⟨s', events, r⟩) : ∀ e ∈ events, e.isError = false := by
  cases t with
  | parameters service =>
    have := (ParametersClass.confined_parse package service.uri service s).1
    rwa [show (ParametersClass.parse package service.uri service).run s = _ from h] at this
  | model name schema =>
    have := (ModelClass.confined_parse package name schema s).1
    rwa [show (ModelClass.parse package name schema).run s = _ from h] at this

theorem stage_of_parse {s s' : Session} {events : List Event} {e : GenError}
    (h : (t.parse package).run s = ⟨s', events, .error e⟩) : e.stage = .parse := by
  cases t with
  | parameters service =>
    have := (ParametersClass.confined_parse package service.uri service s).2 e
    rw [show (ParametersClass.parse package service.uri service).run s = _ from h] at this
    exact (this rfl).1
  | model name schema =>
    have := (ModelClass.confined_parse package name schema s).2 e
    rw [show (ModelClass.parse package name schema).run s = _ from h] at this
    exact (this rfl).1

theorem concerns_of_parse {s s' : Session} {events : List Event} {r : Except GenError ClassDecl}
    (h : (t.parse package).run s = ⟨s', events, r⟩) : (Verdict.of r).Concerns package t := by
  cases r with
  | error e =>
    cases t with
    | parameters service =>
      have := (ParametersClass.confined_parse package service.uri service s).2 e
      rw [show (ParametersClass.parse package service.uri service).run s = _ from h] at this
      cases hu : e.unserved? with
      | none =>
        rw [Verdict.of_failure hu]
        exact hu
      | some uri =>
        rw [Verdict.of_unserved hu]
        exact (this rfl).2 uri hu
    | model name schema =>
      have := (ModelClass.confined_parse package name schema s).2 e
      rw [show (ModelClass.parse package name schema).run s = _ from h] at this
      rw [Verdict.of_failure (this rfl).2]
      exact (this rfl).2
  | ok c =>
    cases t with
    | parameters service =>
      obtain ⟨action, owner, notes, -, hrun, rfl, -, -⟩ := ParametersClass.run_parse_eq_ok h
      have hhead := (ParametersClass.takesFirst_of_parameters rfl hrun).head
      exact ⟨ClassDecl.packageName_eq_of_head hhead, ClassDecl.className_eq_of_head hhead⟩
    | model name schema =>
      obtain ⟨m, owner, first, second, -, hproperties, hrelations, -, -⟩ :=
        ModelClass.run_parse_eq_ok h
      have hhead := (ModelClass.hasRelations_of_run hrelations).head.trans
        (ModelClass.takesFirst_of_properties rfl hproperties).head
      exact ⟨ClassDecl.packageName_eq_of_head hhead, ClassDecl.className_eq_of_head hhead⟩

end Task

end ClientGen
