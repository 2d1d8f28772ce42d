import ClientGen.Proofs.Document.Load
import ClientGen.Proofs.Document.Validation
import ClientGen.Proofs.Session.Agreement
import ClientGen.Proofs.TypeTable.Targets
import Mathlib.Data.List.Find
import Mathlib.Data.List.Perm.Basic

/-! Documents with their schemas and resources in another order. They are loaded all the same: types
resolve to the same targets, and every resource becomes the same service. -/

namespace ClientGen

namespace LoadedDocument

variable {t u : TypeTable} {d : Document} {settings : Settings} {package : String}
  {l : LoadedDocument} {schemas : List (String × Json)} {resources : List Resource}

theorem parametersOf_congr (h : t.resolve = u.resolve) (uri verb : String)
    (entries : List (String × Json)) :
    parametersOf t uri verb entries = parametersOf u uri verb entries := by
  induction entries with
  | nil => rfl
  | cons entry rest ih =>
    obtain ⟨name, property⟩ := entry
    rw [parametersOf, parametersOf, TypeTable.propertyField_congr h, ih]

theorem actionsOf_congr (h : t.resolve = u.resolve) (uri : String)
    (declared : List (String × DeclaredAction)) :
    actionsOf t uri declared = actionsOf u uri declared := by
  induction declared with
  | nil => rfl
  | cons entry rest ih =>
    obtain ⟨verb, a⟩ := entry
    rw [actionsOf, actionsOf, ih, parametersOf_congr h]

theorem isServiceOf_congr (h : t.resolve = u.resolve) :
    IsServiceOf t = IsServiceOf u := by
  funext r service
  refine propext ⟨fun hr => ⟨hr.uri, hr.description, ?_⟩, fun hr => ⟨hr.uri, hr.description, ?_⟩⟩
  · rw [← actionsOf_congr h]
    exact hr.actions
  · rw [actionsOf_congr h]
    exact hr.actions

theorem resolve_typesOf_congr {d' : Document}
    (h : ∀ name, name ∈ d.schemas.map Prod.fst ↔ name ∈ d'.schemas.map Prod.fst) :
    (typesOf settings package d).resolve = (typesOf settings package d').resolve := by
  funext name
  unfold TypeTable.resolve typesOf
  rw [lookup?_registered, lookup?_registered, if_congr (h name) rfl rfl]

structure Reordered (d : Document) (l l' : LoadedDocument) : Prop where
  document : l'.document = d
  services : l'.services.Perm l.services
  resolve : l'.types.resolve = l.types.resolve

theorem load_of_perm (hl : (load d settings package).2 = .ok l)
    (hschemas : schemas.Perm d.schemas) (hresources : resources.Perm d.resources) :
    ∃ l', (load { d with schemas := schemas, resources := resources } settings package).2 = .ok l' ∧
      Reordered { d with schemas := schemas, resources := resources } l l' := by
  obtain ⟨hvalid, -, htypes, hservices⟩ := load_eq_ok hl
  let d' : Document := { d with schemas := schemas, resources := resources }
  have hresolve : (typesOf settings package d').resolve = l.types.resolve := by
    rw [htypes]
    exact resolve_typesOf_congr (fun _ => (hschemas.map Prod.fst).mem_iff)
  obtain ⟨services, hforall, hperm⟩ := List.perm_comp_forall₂ hresources hservices
  rw [← isServiceOf_congr hresolve] at hforall
  refine ⟨⟨d', services, typesOf settings package d'⟩, ?_, rfl, hperm, hresolve⟩
  refine load_eq_ok_iff.mpr ⟨?_, rfl, rfl, hforall⟩
  rw [Document.validate_eq_ok_iff] at hvalid ⊢
  exact hvalid.perm hschemas hresources

end LoadedDocument

namespace Service

variable {services services' : List Service}

theorem find?_typeName_perm (h : services'.Perm services)
    (hdistinct : (services.map typeName).Nodup) (name : String) :
    services'.find? (·.typeName = name) = services.find? (·.typeName = name) := by
  refine (List.find?_eq_find?_of_perm h.symm ?_).symm
  rintro r ⟨hr, hname⟩ r' ⟨hr', hname'⟩
  exact List.inj_on_of_nodup_map hdistinct hr hr'
    ((of_decide_eq_true hname).trans (of_decide_eq_true hname').symm)

theorem responseAt_perm (h : services'.Perm services) (hdistinct : (services.map typeName).Nodup) :
    responseAt services' = responseAt services := by
  funext path
  unfold responseAt select?
  simp only [find?_typeName_perm h hdistinct]

end Service

end ClientGen
