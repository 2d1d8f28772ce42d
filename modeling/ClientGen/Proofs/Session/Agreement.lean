import ClientGen.Proofs.ModelClass.Parse
import ClientGen.Proofs.ParametersClass.Parse

/-! What a builder sees of the session: the settings, what types resolve to, the declared responses,
and whether the name of its class is registered. Where two sessions agree in these, a class comes
out the same, with the same events. -/

namespace ClientGen

structure Session.Alike (s t : Session) : Prop where
  settings : s.settings = t.settings
  resolve : s.types.resolve = t.types.resolve
  responseAt : s.responseAt = t.responseAt

namespace Session

variable {s t : Session}

theorem Alike.refl (s : Session) : s.Alike s := ⟨rfl, rfl, rfl⟩

theorem Alike.typeAt (h : s.Alike t) (path : List String) : s.typeAt path = t.typeAt path := by
  unfold Session.typeAt
  rw [h.resolve, h.responseAt]

end Session

theorem TypeTable.propertyField_congr {t u : TypeTable} (h : t.resolve = u.resolve)
    (entity name : String) (property : Json) :
    t.propertyField entity name property = u.propertyField entity name property := by
  unfold propertyField propertyType
  rw [h]

/-- All of an outcome but the session. -/
def Outcome.output {α : Type} (o : Outcome α) : List Event × Except GenError α :=
  (o.events, o.result)

namespace Build

variable {α β : Type} {b c : Build α} {f g : α → Build β} {s t : Session}

theorem Reads.output_bind_congr (hb : Reads b) (hc : Reads c)
    (h : (b.run s).output = (c.run t).output)
    (hf : ∀ a, (b.run s).result = .ok a → ((f a).run s).output = ((g a).run t).output) :
    ((b >>= f).run s).output = ((c >>= g).run t).output := by
  match hs : b.run s, ht : c.run t with
  | ⟨s', first, result⟩, ⟨t', first', result'⟩ =>
    obtain rfl := hb.session_eq hs
    obtain rfl := hc.session_eq ht
    rw [hs] at hf
    rw [hs, ht] at h
    obtain ⟨rfl, rfl⟩ := Prod.mk.inj h
    cases result with
    | error e =>
      rw [run_bind_of_error hs, run_bind_of_error ht]
      rfl
    | ok a =>
      rw [run_bind_of_ok hs, run_bind_of_ok ht]
      obtain ⟨hevents, hresult⟩ := Prod.mk.inj (hf a rfl)
      exact Prod.ext (congrArg (first ++ ·) hevents) hresult

theorem output_foldlM_congr {f : β → α → Build β} (hf : ∀ b a, Reads (f b a))
    (h : ∀ b a, ((f b a).run s).output = ((f b a).run t).output) (xs : List α) (b : β) :
    ((xs.foldlM f b).run s).output = ((xs.foldlM f b).run t).output := by
  induction xs generalizing b with
  | nil => rfl
  | cons x xs ih =>
    rw [List.foldlM_cons]
    exact (hf b x).output_bind_congr (hf b x) (h b x) (fun c _ => ih c)

theorem output_ensureNew_congr {canonical : String}
    (h : s.registry.contains canonical = t.registry.contains canonical) :
    ((ensureNew canonical).run s).output = ((ensureNew canonical).run t).output := by
  rw [run_ensureNew, run_ensureNew, h]
  split <;> rfl

theorem output_enroll_congr {c : ClassDecl} (e : Event)
    (h : s.registry.contains c.canonicalName = t.registry.contains c.canonicalName) :
    ((enroll c e).run s).output = ((enroll c e).run t).output := by
  rw [run_enroll, run_enroll, h]
  split <;> rfl

end Build

open Build

variable {package entity : String} {s t : Session}

namespace ModelClass

theorem output_addProperty_congr (h : s.Alike t) (entity : String) (c : ClassDecl)
    (property : String × Json) :
    ((addProperty entity c property).run s).output =
      ((addProperty entity c property).run t).output := by
  rw [run_addProperty, run_addProperty, TypeTable.propertyField_congr h.resolve]
  split
  · rfl
  · split <;> rfl

theorem pairAt_congr (h : s.Alike t) (package : String) (fields : List Field)
    (relation : String × Json) :
    pairAt s package fields relation = pairAt t package fields relation := by
  unfold pairAt
  rw [h.settings]
  simp only [h.typeAt]

theorem relationEvents_congr (h : s.Alike t) (c : ClassDecl) (relation : String × Json) :
    relationEvents s c relation = relationEvents t c relation := by
  unfold relationEvents Navigation.unanswered
  rw [h.responseAt]

theorem output_addRelation_congr (h : s.Alike t) (package : String) (c : ClassDecl)
    (relation : String × Json) :
    ((addRelation package c relation).run s).output =
      ((addRelation package c relation).run t).output := by
  rw [run_addRelation, run_addRelation, pairAt_congr h, relationEvents_congr h]
  split <;> rfl

theorem canonicalName_of_assemble {schema : Json} {c : ClassDecl}
    (h : ((assemble package entity schema).run s).result = .ok c) :
    c.canonicalName = TypeTable.modelType package entity := by
  match hrun : (assemble package entity schema).run s with
  | ⟨s', events, result⟩ =>
    rw [hrun] at h
    obtain rfl : result = .ok c := h
    obtain ⟨m, owner, first, second, -, hproperties, hrelations, -⟩ := run_assemble_eq_ok hrun
    have hhead := (hasRelations_of_run hrelations).head.trans
      (takesFirst_of_properties rfl hproperties).head
    exact ClassDecl.canonicalName_eq_of_head hhead

theorem output_parse_congr (h : s.Alike t) (schema : Json)
    (hname : s.registry.contains (TypeTable.modelType package entity) =
      t.registry.contains (TypeTable.modelType package entity)) :
    ((parse package entity schema).run s).output =
      ((parse package entity schema).run t).output := by
  have hassemble : ((assemble package entity schema).run s).output =
      ((assemble package entity schema).run t).output := by
    unfold assemble
    refine (reads_ofExcept _).output_bind_congr (reads_ofExcept _) ?_ (fun m _ => ?_)
    · rw [run_ofExcept, run_ofExcept]
      rfl
    rw [run_session_bind, run_session_bind, h.settings]
    refine (reads_ensureNew _).output_bind_congr (reads_ensureNew _)
      (output_ensureNew_congr hname) (fun _ _ => ?_)
    refine (Reads.foldlM (reads_addProperty entity) _ _).output_bind_congr
      (Reads.foldlM (reads_addProperty entity) _ _) ?_ (fun owner _ => ?_)
    · exact output_foldlM_congr (reads_addProperty entity) (output_addProperty_congr h entity) _ _
    · exact output_foldlM_congr (reads_addRelation package) (output_addRelation_congr h package) _ _
  rw [parse_eq]
  refine (reads_assemble _ _ _).output_bind_congr (reads_assemble _ _ _) hassemble (fun c hc => ?_)
  refine output_enroll_congr _ ?_
  rw [canonicalName_of_assemble hc]
  exact hname

end ModelClass

namespace ParametersClass

variable {service : Service}

def canonicalName (package : String) (service : Service) : String :=
  package ++ "." ++ parametersPackage ++ "." ++ (service.typeName ++ "Parameters")

theorem output_addParameter_congr (service : Service) (c : ClassDecl) (parameter : Field) :
    ((addParameter service c parameter).run s).output =
      ((addParameter service c parameter).run t).output := by
  rw [run_addParameter, run_addParameter]
  split <;> rfl

theorem canonicalName_of_assemble {c : ClassDecl}
    (h : ((assemble package service).run s).result = .ok c) :
    c.canonicalName = canonicalName package service := by
  match hrun : (assemble package service).run s with
  | ⟨s', events, result⟩ =>
    rw [hrun] at h
    obtain rfl : result = .ok c := h
    obtain ⟨action, owner, -, howner, rfl⟩ := run_assemble_eq_ok hrun
    exact ClassDecl.canonicalName_eq_of_head (takesFirst_of_parameters rfl howner).head

theorem output_parse_congr (h : s.Alike t)
    (hname : s.registry.contains (canonicalName package service) =
      t.registry.contains (canonicalName package service)) :
    ((parse package entity service).run s).output =
      ((parse package entity service).run t).output := by
  have hread : ∀ parameters : List Field, ∀ c : ClassDecl,
      ((parameters.foldlM (addParameter service) c).run s).output =
        ((parameters.foldlM (addParameter service) c).run t).output :=
    output_foldlM_congr (reads_addParameter service) (output_addParameter_congr service)
  have hassemble : ((assemble package service).run s).output =
      ((assemble package service).run t).output := by
    unfold assemble
    rw [run_session_bind, run_session_bind, h.settings]
    refine (reads_ensureNew _).output_bind_congr (reads_ensureNew _)
      (output_ensureNew_congr hname) (fun _ _ => ?_)
    split
    · rfl
    · split
      · rfl
      · exact (Reads.foldlM (reads_addParameter service) _ _).output_bind_congr
          (Reads.foldlM (reads_addParameter service) _ _) (hread _ _) (fun _ _ => rfl)
  rw [parse_eq]
  refine (reads_assemble _ _).output_bind_congr (reads_assemble _ _) hassemble (fun c hc => ?_)
  refine output_enroll_congr _ ?_
  rw [canonicalName_of_assemble hc]
  exact hname

end ParametersClass

end ClientGen
