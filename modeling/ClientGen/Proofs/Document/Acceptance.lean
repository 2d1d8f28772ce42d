import ClientGen.Json.Printer
import ClientGen.Proofs.Document.Reading
import ClientGen.Proofs.Document.Revision
import ClientGen.Proofs.Document.Validation
import ClientGen.Proofs.ModelClass.Causes
import ClientGen.Proofs.Naming.Segment

/-! Which documents are accepted. Every schema and every resource has a name and no URI occurs
twice, and every query parameter under a known verb is an object with a name. What is declared under
any other key is never looked at. -/

namespace ClientGen

theorem HttpMethod.parse?_eq_some_iff {verb : String} {method : HttpMethod} :
    parse? verb = some method ↔ verb.toList.map Char.toLower = method.verb.toList := by
  have hverb : ∀ s : String, ofVerb? s = some method ↔ s = method.verb := by
    intro s
    constructor
    · intro h
      unfold ofVerb? at h
      split at h <;> cases h <;> rfl
    · rintro rfl
      cases method <;> rfl
  rw [parse?, hverb, ← String.toList_inj, String.toList_ofList]

theorem Text.isBlank_of_isAlphanum {s : List Char} {c : Char} (hmem : c ∈ s)
    (h : c.isAlphanum = true) : Text.isBlank s = false := by
  have hblank : Text.isBlankChar c = false :=
    Naming.Chars.ascii_forall
      (P := fun c => c.isAlphanum = true → Text.isBlankChar c = false) (by decide)
      (Naming.Chars.toNat_lt_of_isAlphanum h) h
  exact List.all_eq_false.mpr ⟨c, hmem, by simp [hblank]⟩

namespace LoadedDocument

variable {types : TypeTable} {uri : String}

theorem exists_propertyField_iff (types : TypeTable) (uri : String) {q : String × Json} :
    (∃ f, types.propertyField uri q.1 q.2 = .ok f) ↔ ModelClass.IsProperty q := by
  rw [← ModelClass.propertyFault?_eq_none_iff]
  constructor
  · rintro ⟨f, hf⟩
    cases hfault : ModelClass.propertyFault? q with
    | none => rfl
    | some fault =>
      rw [ModelClass.propertyField_of_fault types hfault] at hf
      cases hf
  · exact ModelClass.exists_propertyField types uri

theorem exists_isActionOf_iff {entry : String × DeclaredAction} (h : known entry = true) :
    (∃ a, IsActionOf types uri entry a) ↔
      ∀ q ∈ entry.2.queryParameters, ModelClass.IsProperty q := by
  obtain ⟨method, hmethod⟩ := Option.isSome_iff_exists.mp h
  simp only [← exists_propertyField_iff types uri]
  rw [← List.exists_forall₂_iff]
  constructor
  · rintro ⟨a, ha⟩
    exact ⟨a.parameters, ha.parameters⟩
  · rintro ⟨parameters, hparameters⟩
    exact ⟨⟨method, parameters, responseOf entry.2⟩, hmethod, hparameters, rfl⟩

theorem exists_isServiceOf_iff {r : Resource} :
    (∃ service, IsServiceOf types r service) ↔
      ∀ entry ∈ r.actions, known entry = true →
        ∀ q ∈ entry.2.queryParameters, ModelClass.IsProperty q := by
  have hactions : (∃ service, IsServiceOf types r service) ↔
      ∃ actions, List.Forall₂ (IsActionOf types r.uri) (r.actions.filter known) actions := by
    simp only [isServiceOf_iff, actionsOf_eq_ok_iff]
    exact ⟨fun ⟨_, actions, h, _⟩ => ⟨actions, h⟩, fun ⟨actions, h⟩ => ⟨_, actions, h, rfl⟩⟩
  rw [hactions, List.exists_forall₂_iff]
  simp only [List.mem_filter, and_imp]
  refine forall_congr' fun entry => forall_congr' fun _ => forall_congr' fun h => ?_
  exact exists_isActionOf_iff h

end LoadedDocument

namespace Document

open LoadedDocument (known)

structure Acceptable (d : Document) : Prop where
  schemas : ∀ entry ∈ d.schemas, ∃ c ∈ entry.1.toList, c.isAlphanum = true
  uris : ∀ r ∈ d.resources, ∃ c ∈ r.uri.toList, c.isAlphanum = true
  distinct : (d.resources.map Resource.uri).Nodup
  parameters : ∀ r ∈ d.resources, ∀ entry ∈ r.actions, known entry = true →
    ∀ q ∈ entry.2.queryParameters, ModelClass.IsProperty q

theorem valid_iff {d : Document} : d.Valid ↔
    (∀ entry ∈ d.schemas, ∃ c ∈ entry.1.toList, c.isAlphanum = true) ∧
      (∀ r ∈ d.resources, ∃ c ∈ r.uri.toList, c.isAlphanum = true) ∧
        (d.resources.map Resource.uri).Nodup := by
  constructor
  · rintro ⟨hschemas, hresources, hdistinct⟩
    exact ⟨fun entry hentry => Naming.typeName_ne_empty_iff.mp (hschemas entry hentry),
      fun r hr => Naming.typeName_ne_empty_iff.mp (hresources r hr).2, hdistinct⟩
  · rintro ⟨hschemas, hresources, hdistinct⟩
    refine ⟨fun entry hentry => Naming.typeName_ne_empty_iff.mpr (hschemas entry hentry),
      fun r hr => ?_, hdistinct⟩
    obtain ⟨c, hmem, hc⟩ := hresources r hr
    exact ⟨Text.isBlank_of_isAlphanum hmem hc, Naming.typeName_ne_empty_iff.mpr ⟨c, hmem, hc⟩⟩

theorem exists_load_iff {d : Document} {settings : Settings} {package : String} :
    (∃ l, (LoadedDocument.load d settings package).2 = .ok l) ↔ d.Acceptable := by
  have hload : (∃ l, (LoadedDocument.load d settings package).2 = .ok l) ↔
      d.Valid ∧ ∀ r ∈ d.resources,
        ∃ service, LoadedDocument.IsServiceOf (LoadedDocument.typesOf settings package d) r
          service := by
    rw [← List.exists_forall₂_iff]
    simp only [LoadedDocument.load_eq_ok_iff, validate_eq_ok_iff]
    constructor
    · rintro ⟨l, hvalid, -, htypes, hservices⟩
      exact ⟨hvalid, l.services, htypes ▸ hservices⟩
    · rintro ⟨hvalid, services, hservices⟩
      exact ⟨⟨d, services, _⟩, hvalid, rfl, rfl, hservices⟩
  simp only [hload, LoadedDocument.exists_isServiceOf_iff, valid_iff]
  constructor
  · rintro ⟨⟨hschemas, huris, hdistinct⟩, hparameters⟩
    exact ⟨hschemas, huris, hdistinct, hparameters⟩
  · rintro ⟨hschemas, huris, hdistinct, hparameters⟩
    exact ⟨⟨hschemas, huris, hdistinct⟩, hparameters⟩

end Document

def Resource.withUnknown (f : String → DeclaredAction) (r : Resource) : Resource :=
  { r with
    actions := r.actions.map fun entry =>
      if LoadedDocument.known entry then entry else (entry.1, f entry.1) }

def Document.withUnknown (f : String → DeclaredAction) (d : Document) : Document :=
  { d with resources := d.resources.map (Resource.withUnknown f) }

theorem Document.checkResources_congr {resources resources' : List Resource}
    (h : resources.map Resource.uri = resources'.map Resource.uri) (seen : List String) :
    checkResources seen resources = checkResources seen resources' := by
  induction resources generalizing resources' seen with
  | nil =>
    obtain rfl := List.map_eq_nil_iff.mp h.symm
    rfl
  | cons r rest ih =>
    obtain ⟨r', rest', rfl, huri, hrest⟩ := List.map_eq_cons_iff.mp h.symm
    rw [checkResources, checkResources, huri, ih hrest.symm]

namespace LoadedDocument

theorem actionsOf_withUnknown (types : TypeTable) (uri : String) (f : String → DeclaredAction)
    (declared : List (String × DeclaredAction)) :
    actionsOf types uri
        (declared.map fun entry => if known entry then entry else (entry.1, f entry.1)) =
      actionsOf types uri declared := by
  induction declared with
  | nil => rfl
  | cons entry rest ih =>
    obtain ⟨verb, a⟩ := entry
    rw [List.map_cons]
    cases hverb : HttpMethod.parse? verb with
    | none =>
      rw [if_neg (by simp [known, hverb]), actionsOf, actionsOf]
      simp only [hverb, ih]
    | some method =>
      rw [if_pos (by simp [known, hverb]), actionsOf, actionsOf, ih]

theorem servicesOf_withUnknown (types : TypeTable) (f : String → DeclaredAction)
    (resources : List Resource) :
    servicesOf types (resources.map (Resource.withUnknown f)) = servicesOf types resources := by
  induction resources with
  | nil => rfl
  | cons r rest ih =>
    have hactions := actionsOf_withUnknown types r.uri f r.actions
    rw [List.map_cons, servicesOf, servicesOf, ih]
    simp only [Resource.withUnknown, hactions]

theorem load_withUnknown (f : String → DeclaredAction) (d : Document) (settings : Settings)
    (package : String) :
    load (d.withUnknown f) settings package =
      ((load d settings package).1,
        (load d settings package).2.map (·.withDocument (d.withUnknown f))) := by
  have huris : (d.withUnknown f).resources.map Resource.uri = d.resources.map Resource.uri :=
    List.map_map
  refine load_congr ?_ rfl (servicesOf_withUnknown _ f d.resources).symm
  unfold Document.validate
  rw [Document.checkResources_congr huris]
  rfl

structure Converts (types : TypeTable) (r : Resource) (service : Service) : Prop where
  uri : service.uri = r.uri
  description : service.description = r.description
  actions : List.Forall₂ (IsActionOf types r.uri) (r.actions.filter known) service.actions
  parameters : service.actions.map (fun a => a.parameters.map Field.wireName) =
    (r.actions.filter known).map fun entry => entry.2.queryParameters.map Prod.fst

theorem IsServiceOf.converts {types : TypeTable} {r : Resource} {service : Service}
    (h : IsServiceOf types r service) :
    Converts types r service := by
  have hactions := actionsOf_eq_ok_iff.mp h.actions
  refine ⟨h.uri, h.description, hactions, hactions.map_eq fun entry a ha => ?_⟩
  exact ha.parameters.map_eq fun q f hf => TypeTable.wireName_of_propertyField hf

/-- A document is accepted just where it is acceptable. Then each resource becomes a service, in
order, and there is one warning for every key that is no verb; what stands under such a key makes
no difference. The keys of a document that was read are in the order of their bytes. -/
theorem load_accepts (d : Document) (settings : Settings) (package : String) :
    ((∃ l, (load d settings package).2 = .ok l) ↔ d.Acceptable) ∧
      (∀ verb method, HttpMethod.parse? verb = some method ↔
        verb.toList.map Char.toLower = method.verb.toList) ∧
      (∀ f, load (d.withUnknown f) settings package =
        ((load d settings package).1,
          (load d settings package).2.map (·.withDocument (d.withUnknown f)))) ∧
      (∀ l, (load d settings package).2 = .ok l →
        l.document = d ∧
          List.Forall₂ (Converts (typesOf settings package d)) d.resources l.services ∧
          (load d settings package).1 = d.resources.flatMap fun r =>
            (r.actions.filter (!known ·)).map fun entry => unknownVerb entry.1 r.uri) ∧
      ∀ bytes, Document.read? bytes = some d →
        ∀ r ∈ d.resources, Dict.ByteOrdered (r.actions.map Prod.fst) := by
  refine ⟨Document.exists_load_iff, fun verb method => HttpMethod.parse?_eq_some_iff,
    fun f => load_withUnknown f d settings package, fun l h => ?_,
    fun bytes h => Document.byteOrdered_of_read? h⟩
  obtain ⟨-, hdocument, htypes, hservices⟩ := load_eq_ok h
  rw [htypes] at hservices
  exact ⟨hdocument, hservices.imp fun _ _ hr => hr.converts, events_load h⟩

def oddPortal : Json :=
  .object [("resources", .array [.object
    [("uri", .text "orders"),
      ("actions", .object
        [("trace", .object [("queryParameters", .object [("--", .null)])]),
          ("GeT", .object [("queryParameters", .object [("page-size", .object [])])])])]])]

theorem accepts_oddPortal :
    let bytes := (oddPortal.pretty "").toUTF8.data.toList
    ∃ d l, Document.read? bytes = some d ∧ (load d {} "api").2 = .ok l ∧ d.Acceptable ∧
      HttpMethod.parse? "GeT" = some .get ∧
      List.Forall₂ (Converts (typesOf {} "api" d)) d.resources l.services ∧
      (load d {} "api").1 = [unknownVerb "trace" "orders"] ∧
      ∀ r ∈ d.resources, Dict.ByteOrdered (r.actions.map Prod.fst) := by
  intro bytes
  have loaded : (Document.read? bytes).any (fun d =>
      (load d {} "api").2.toOption.isSome &&
        (load d {} "api").1 = [unknownVerb "trace" "orders"]) = true := by
    decide +kernel
  simp only [Option.any_eq_true, Bool.and_eq_true, Option.isSome_iff_exists, toOption_eq_some,
    decide_eq_true_eq] at loaded
  obtain ⟨d, hd, ⟨l, hl⟩, hevents⟩ := loaded
  obtain ⟨haccepts, hverbs, -, hconverts, hordered⟩ := load_accepts d {} "api"
  obtain ⟨-, hservices, -⟩ := hconverts l hl
  exact ⟨d, l, hd, hl, haccepts.mp ⟨l, hl⟩, (hverbs "GeT" .get).mpr (by decide), hservices,
    hevents, hordered bytes hd⟩

end LoadedDocument

end ClientGen
