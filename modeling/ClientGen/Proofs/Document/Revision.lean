import ClientGen.Proofs.Document.Load

/-! Documents with the same resources and the same names of schemas. To loading the schemas are
names only, so such documents are loaded alike, or refused for the same reason. -/

namespace ClientGen

namespace Document

theorem checkSchemas_congr {schemas schemas' : List (String × Json)}
    (h : schemas.map Prod.fst = schemas'.map Prod.fst) :
    checkSchemas schemas = checkSchemas schemas' := by
  induction schemas generalizing schemas' with
  | nil =>
    obtain rfl := List.map_eq_nil_iff.mp h.symm
    rfl
  | cons entry rest ih =>
    obtain ⟨⟨name, schema⟩, rest', rfl, hname, hrest⟩ := List.map_eq_cons_iff.mp h.symm
    obtain rfl : name = entry.1 := hname
    rw [checkSchemas, checkSchemas, ih hrest.symm]

variable {d d' : Document}

/-- The documents agree in all that loading reads. -/
structure SameOutline (d d' : Document) : Prop where
  schemas : d.schemas.map Prod.fst = d'.schemas.map Prod.fst
  resources : d.resources = d'.resources

theorem SameOutline.validate (h : d.SameOutline d') : d.validate = d'.validate := by
  unfold Document.validate
  rw [checkSchemas_congr h.schemas, h.resources]

end Document

namespace LoadedDocument

variable {d d' : Document}

theorem typesOf_congr (h : d.schemas.map Prod.fst = d'.schemas.map Prod.fst) (settings : Settings)
    (package : String) : typesOf settings package d = typesOf settings package d' := by
  have names : ∀ document : Document, typesOf settings package document =
      (document.schemas.map Prod.fst).foldl (fun t name => t.registerModel package name)
        (TypeTable.withOverrides settings.typeOverrides) := by
    intro document
    rw [List.foldl_map]
    rfl
  rw [names, names, h]

def withDocument (l : LoadedDocument) (d : Document) : LoadedDocument := { l with document := d }

theorem load_congr {settings : Settings} {package : String} (hvalidate : d.validate = d'.validate)
    (htypes : typesOf settings package d = typesOf settings package d')
    (hservices : servicesOf (typesOf settings package d) d.resources =
      servicesOf (typesOf settings package d) d'.resources) :
    load d' settings package =
      ((load d settings package).1, (load d settings package).2.map (·.withDocument d')) := by
  unfold load
  rw [← hvalidate, ← htypes]
  cases d.validate with
  | error e => rfl
  | ok _ =>
    simp only [hservices]
    cases servicesOf (typesOf settings package d) d'.resources with
    | mk events services => cases services <;> rfl

theorem load_of_sameOutline (h : d.SameOutline d') (settings : Settings) (package : String) :
    load d' settings package =
      ((load d settings package).1, (load d settings package).2.map (·.withDocument d')) :=
  load_congr h.validate (typesOf_congr h.schemas settings package) (by rw [h.resources])

end LoadedDocument

end ClientGen
