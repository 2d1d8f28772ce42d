import ClientGen.Proofs.Navigation.Calls
import ClientGen.Proofs.Service.Selection

/-! The response at the end of a path, from what the path is made of: the type names of its segments,
joined, and that of the last one. However a path is cut into segments, these decide. -/

namespace ClientGen

structure IsFirst {α : Type} (P : α → Prop) (as : List α) (a : α) : Prop where
  holds : P a
  first : ∃ before after, as = before ++ a :: after ∧ ∀ b ∈ before, ¬ P b

theorem find?_eq_some_iff_isFirst {α : Type} {P : α → Prop} [DecidablePred P] {as : List α}
    {a : α} : as.find? (fun a => decide (P a)) = some a ↔ IsFirst P as a := by
  rw [List.find?_eq_some_iff_append, decide_eq_true_eq]
  simp only [Bool.not_eq_true', decide_eq_false_iff_not]
  exact ⟨fun ⟨holds, first⟩ => ⟨holds, first⟩, fun h => ⟨h.holds, h.first⟩⟩

theorem find?_eq_none_iff_forall {α : Type} {P : α → Prop} [DecidablePred P] {as : List α} :
    as.find? (fun a => decide (P a)) = none ↔ ∀ a ∈ as, ¬ P a := by
  simp only [List.find?_eq_none, decide_eq_true_eq]

namespace Service

variable {services : List Service} {path : List String} {last : String} {r : Service}
  {response : Option Response}

def joinedName (path : List String) : String := String.join (path.map Naming.typeName)

inductive Chosen (services : List Service) (path : List String) : Option Service → Prop
  | whole {r : Service} (h : IsFirst (fun r => r.typeName = joinedName path) services r) :
    Chosen services path (some r)
  | last {last : String} {r : Service} (hwhole : ∀ r ∈ services, r.typeName ≠ joinedName path)
    (hlast : path.getLast? = some last)
    (h : IsFirst (fun r => r.typeName = Naming.typeName last) services r) :
    Chosen services path (some r)
  | none {last : String} (hwhole : ∀ r ∈ services, r.typeName ≠ joinedName path)
    (hlast : path.getLast? = some last) (h : ∀ r ∈ services, r.typeName ≠ Naming.typeName last) :
    Chosen services path none

inductive Answers (r : Service) : Option Response → Prop
  | action {a : Action} (h : IsFirst (fun a => a.method = .get) r.actions a) : Answers r a.response
  | none (h : ∀ a ∈ r.actions, a.method ≠ .get) : Answers r none

inductive Finds (services : List Service) (path : List String) : Option Response → Prop
  | service {r : Service} {response : Option Response} (hr : Chosen services path (some r))
    (h : r.Answers response) : Finds services path response
  | none (h : Chosen services path none) : Finds services path none

theorem select?_eq_none (hlast : path.getLast? = none) : select? services path = none := by
  rw [select?, hlast]
  rfl

theorem select?_eq (hlast : path.getLast? = some last) :
    select? services path = ((services.find? (·.typeName = joinedName path)).or
      (services.find? (·.typeName = Naming.typeName last))) := by
  rw [select?, hlast, joinedName, ← Naming.typeName_intercalate]
  exact Option.orElse_eq_or

theorem chosen_iff (h : path ≠ []) {chosen : Option Service} :
    Chosen services path chosen ↔ select? services path = chosen := by
  have hlast := List.getLast?_eq_some_getLast h
  rw [select?_eq hlast]
  constructor
  · intro hchosen
    cases hchosen with
    | whole h => rw [find?_eq_some_iff_isFirst.mpr h, Option.some_or]
    | last hwhole hlast' h =>
      obtain rfl := Option.some.inj (hlast.symm.trans hlast')
      rw [find?_eq_none_iff_forall.mpr hwhole, Option.none_or, find?_eq_some_iff_isFirst.mpr h]
    | none hwhole hlast' h =>
      obtain rfl := Option.some.inj (hlast.symm.trans hlast')
      rw [find?_eq_none_iff_forall.mpr hwhole, Option.none_or, find?_eq_none_iff_forall.mpr h]
  · rintro rfl
    cases hwhole : services.find? (·.typeName = joinedName path) with
    | some r => exact .whole (find?_eq_some_iff_isFirst.mp hwhole)
    | none =>
      rw [Option.none_or]
      have hwhole := find?_eq_none_iff_forall.mp hwhole
      cases h : services.find? (·.typeName = Naming.typeName (path.getLast _)) with
      | some r => exact .last hwhole hlast (find?_eq_some_iff_isFirst.mp h)
      | none => exact .none hwhole hlast (find?_eq_none_iff_forall.mp h)

theorem answers_iff :
    r.Answers response ↔ (r.action? .get).bind Action.response = response := by
  unfold action?
  constructor
  · intro h
    cases h with
    | action h => rw [find?_eq_some_iff_isFirst.mpr h, Option.bind_some]
    | none h => rw [find?_eq_none_iff_forall.mpr h, Option.bind_none]
  · rintro rfl
    cases h : r.actions.find? (·.method = .get) with
    | some a => exact .action (find?_eq_some_iff_isFirst.mp h)
    | none => exact .none (find?_eq_none_iff_forall.mp h)

theorem responseAt_eq (services : List Service) (path : List String) :
    responseAt services path =
      (select? services path).bind fun r => (r.action? .get).bind Action.response := rfl

theorem finds_iff (h : path ≠ []) :
    Finds services path response ↔ responseAt services path = response := by
  rw [responseAt_eq]
  constructor
  · intro hfinds
    cases hfinds with
    | service hr h' => rw [(chosen_iff h).mp hr, Option.bind_some, answers_iff.mp h']
    | none hnone => rw [(chosen_iff h).mp hnone, Option.bind_none]
  · rintro rfl
    cases hselect : select? services path with
    | some r => exact .service ((chosen_iff h).mpr hselect) (answers_iff.mpr rfl)
    | none => exact .none ((chosen_iff h).mpr hselect)

theorem responseAt_congr {path' : List String} (hjoined : joinedName path = joinedName path')
    (hlast : path.getLast?.map Naming.typeName = path'.getLast?.map Naming.typeName) :
    responseAt services path = responseAt services path' := by
  rw [responseAt_eq, responseAt_eq]
  cases h : path.getLast? with
  | none =>
    rw [h, Option.map_none, eq_comm, Option.map_eq_none_iff] at hlast
    rw [select?_eq_none h, select?_eq_none hlast]
  | some last =>
    rw [h, Option.map_some, eq_comm, Option.map_eq_some_iff] at hlast
    obtain ⟨last', h', hname⟩ := hlast
    rw [select?_eq h, select?_eq h', hjoined, hname]

theorem join_capitalize_chainCalls (settings : Settings) (package : String) (fields : List Field)
    (path : List String) :
    String.join ((JavaSource.chainCalls (Navigation.chain settings package fields path)).map
      fun call => Naming.capitalize call.1) = joinedName path := by
  have hname : ∀ segment,
      Naming.capitalize (Navigation.segmentMethod segment) = Naming.typeName segment :=
    fun segment => Naming.capitalize_decapitalize_typeName segment
  rw [Navigation.chainCalls_chain, List.map_map, joinedName]
  exact congrArg String.join (List.map_congr_left fun segment _ => hname segment)

/-- The response at the end of a path is that of the first service with the joined name of its
segments, and only if there is none, of the first with the name of the last segment. So paths that
agree in both names have the same response; and the joined name is that of the methods called. -/
theorem responseAt_of_path (services : List Service) (path : List String) (h : path ≠ []) :
    (∀ response, responseAt services path = response ↔ Finds services path response) ∧
      (∀ path', joinedName path = joinedName path' →
        path.getLast?.map Naming.typeName = path'.getLast?.map Naming.typeName →
        responseAt services path = responseAt services path') ∧
      ∀ (settings : Settings) (package : String) (fields : List Field),
        String.join ((JavaSource.chainCalls
          (Navigation.chain settings package fields path)).map
            fun call => Naming.capitalize call.1) = joinedName path :=
  ⟨fun _ => (finds_iff h).symm, fun _ => responseAt_congr,
    fun settings package fields => join_capitalize_chainCalls settings package fields path⟩

def customerOrders : List Service :=
  [{ uri := "/orders", actions := [{ method := .get, response := some (.scalar "order") }] },
    { uri := "/customers/{customerId}/orders", actions := [{ method := .post }] }]

theorem responseAt_of_customerOrders :
    ["Customers/{customerId}", "Orders"] ≠ [] ∧
      Finds customerOrders ["Customers/{customerId}", "Orders"] none ∧
      ∀ path', joinedName ["Customers/{customerId}", "Orders"] = joinedName path' →
        some "Orders" = path'.getLast?.map Naming.typeName →
        responseAt customerOrders path' = none := by
  have hnone : responseAt customerOrders ["Customers/{customerId}", "Orders"] = none := by
    decide +kernel
  have hlast : ["Customers/{customerId}", "Orders"].getLast?.map Naming.typeName =
      some "Orders" := by decide +kernel
  obtain ⟨hfinds, hcut, -⟩ :=
    responseAt_of_path customerOrders ["Customers/{customerId}", "Orders"] (by decide)
  refine ⟨by decide, (hfinds none).mp hnone, fun path' hjoined hpath' => ?_⟩
  rw [← hcut path' hjoined (hlast.trans hpath'), hnone]

end Service

end ClientGen
