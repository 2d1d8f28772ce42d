import ClientGen.Proofs.Generation.Resources
import ClientGen.Proofs.ModelClass.Causes

/-! The duplicates of a run. A class is reported as a duplicate exactly where one of its name was
made before it, whether that one could be put out or not; a class that could not be made leaves its
name to others. -/

namespace ClientGen

theorem ModelClass.result_eq_duplicate_iff {package name canonical : String} {schema : Json}
    {s : Session} :
    ((parse package name schema).run s).result = .error (.duplicateClass canonical) ↔
      canonical = TypeTable.modelType package name ∧ ModelSchema.Readable schema ∧
        s.registry.contains (TypeTable.modelType package name) = true := by
  rw [(foretold_parse s package name schema).result_eq_error_iff, cause?_eq_some_iff]
  constructor
  · intro h
    cases h with
    | registered readable h => exact ⟨rfl, readable, h⟩
  · rintro ⟨rfl, readable, h⟩
    exact .registered readable h

theorem ParametersClass.result_eq_duplicate_iff {package entity canonical : String}
    {service : Service} {s : Session} :
    ((parse package entity service).run s).result = .error (.duplicateClass canonical) ↔
      canonical = canonicalName package service ∧
        s.registry.contains (canonicalName package service) = true := by
  cases hknown : s.registry.contains (canonicalName package service) with
  | true =>
    rw [result_of_registered entity hknown]
    simp [eq_comm]
  | false =>
    have hother : ((parse package entity service).run s).result ≠
        .error (.duplicateClass canonical) := by
      intro h
      cases hserved : service.hasParameters with
      | true =>
        obtain ⟨c, hc⟩ := result_of_served entity hknown hserved
        rw [hc] at h
        cases h
      | false =>
        obtain ⟨e, he, habout⟩ := result_of_unserved entity hknown hserved
        rw [he] at h
        obtain rfl := Except.error.inj h
        cases habout
    simp [hother]

namespace Task

def Readable : Task → Prop
  | parameters _ => True
  | model _ schema => ModelSchema.Readable schema

theorem result_eq_duplicate_iff {package canonical : String} {s : Session} {t : Task} :
    t.result package s = .error (.duplicateClass canonical) ↔
      canonical = t.canonicalName package ∧ t.Readable ∧
        s.registry.contains (t.canonicalName package) = true := by
  cases t with
  | parameters service =>
    show ((ParametersClass.parse package service.uri service).run s).result = _ ↔ _
    rw [ParametersClass.result_eq_duplicate_iff, Readable, true_and]
    rfl
  | model name schema => exact ModelClass.result_eq_duplicate_iff

end Task

namespace Generation

variable {σ : Type}

section Stages

variable (l : LoadedDocument) (settings : Settings) (package : String) (emit : Emitter (StateM σ))
  (w : σ)

/-- How far the run has come after so many tasks, and what the emitter has come to. -/
def stage (i : Nat) : Progress × σ :=
  ((l.tasks.take i).foldlM (step emit package) (start l settings)).run w

def Reports (i : Nat) (e : GenError) : Prop :=
  (stage l settings package emit w (i + 1)).1.summary.failed =
    (stage l settings package emit w i).1.summary.failed ++ [e]

def Parsed (i : Nat) : Prop :=
  ∃ t c, l.tasks[i]? = some t ∧
    t.result package (stage l settings package emit w i).1.session = .ok c

end Stages

variable {l : LoadedDocument} {settings : Settings} {package : String} {emit : Emitter (StateM σ)}
  {w : σ} {p : Progress} {t : Task} {i : Nat}

theorem failed_step (emit : Emitter (StateM σ)) (package : String) (p : Progress) (t : Task)
    (w : σ) :
    ∃ error? : Option GenError,
      ((step emit package p t).run w).1.summary.failed = p.summary.failed ++ error?.toList ∧
        ∀ canonical, error? = some (.duplicateClass canonical) ↔
          t.result package p.session = .error (.duplicateClass canonical) := by
  unfold Task.result
  match hparse : (t.parse package).run p.session with
  | ⟨s, events, .error e⟩ =>
    refine ⟨(Verdict.of (.error e)).error?, ?_, fun canonical => ?_⟩
    · rw [run_step_of_error hparse, summary_conclude]
      rfl
    · rw [Except.error.injEq]
      cases hu : e.unserved? with
      | none =>
        rw [Verdict.of_failure hu, Verdict.error?, Option.some.injEq]
      | some uri =>
        rw [Verdict.of_unserved hu]
        constructor
        · intro h
          cases h
        · rintro rfl
          cases hu
  | ⟨s, events, .ok c⟩ =>
    refine ⟨(Verdict.of (c.emitted ((emit c).run w).1).2).error?, ?_, fun canonical => ?_⟩
    · rw [run_step_of_ok hparse, summary_conclude]
      rfl
    · constructor
      · intro h
        cases hanswer : ((emit c).run w).1 <;> rw [hanswer] at h <;> cases h
      · intro h
        cases h

theorem stage_succ (ht : l.tasks[i]? = some t) :
    stage l settings package emit w (i + 1) =
      (step emit package (stage l settings package emit w i).1 t).run
        (stage l settings package emit w i).2 := by
  unfold stage
  rw [List.take_add_one, ht, Option.toList_some, List.foldlM_append, StateT.run_bind]
  simp only [List.foldlM_cons, List.foldlM_nil, bind_pure]
  rfl

theorem stage_succ_of_none (ht : l.tasks[i]? = none) :
    stage l settings package emit w (i + 1) = stage l settings package emit w i := by
  unfold stage
  rw [List.take_add_one, ht, Option.toList_none, List.append_nil]

theorem stage_of_length_le (h : l.tasks.length ≤ i) :
    stage l settings package emit w i = (generateAll l settings package emit).run w := by
  rw [stage, List.take_of_length_le h]
  rfl

theorem failed_prefix {i j : Nat} (h : i ≤ j) :
    (stage l settings package emit w i).1.summary.failed <+:
      (stage l settings package emit w j).1.summary.failed := by
  induction h with
  | refl => exact List.prefix_rfl
  | @step j _ ih =>
    refine ih.trans ?_
    cases ht : l.tasks[j]? with
    | none => exact ⟨[], by rw [stage_succ_of_none ht, List.append_nil]⟩
    | some t =>
      rw [stage_succ ht]
      obtain ⟨error?, hfailed, -⟩ := failed_step emit package
        (stage l settings package emit w j).1 t (stage l settings package emit w j).2
      exact ⟨_, hfailed.symm⟩

theorem contains_stage (name : String) (i : Nat) :
    (stage l settings package emit w i).1.session.registry.contains name = true ↔
      ∃ j < i, Parsed l settings package emit w j ∧
        ∃ t, l.tasks[j]? = some t ∧ t.canonicalName package = name := by
  induction i with
  | zero =>
    constructor
    · intro h
      cases h
    · rintro ⟨j, hj, -⟩
      cases hj
  | succ i ih =>
    cases ht : l.tasks[i]? with
    | none =>
      rw [stage_succ_of_none ht, ih]
      constructor
      · rintro ⟨j, hj, h⟩
        exact ⟨j, Nat.lt_succ_of_lt hj, h⟩
      · rintro ⟨j, hj, hparsed, t, htask, hname⟩
        refine ⟨j, ?_, hparsed, t, htask, hname⟩
        refine Nat.lt_of_le_of_ne (Nat.le_of_lt_succ hj) ?_
        rintro rfl
        rw [ht] at htask
        cases htask
    | some t =>
      rw [stage_succ ht, session_step, Task.contains_after, Bool.or_eq_true, ih, Bool.and_eq_true,
        beq_iff_eq, Option.isSome_iff_exists]
      constructor
      · rintro (⟨j, hj, h⟩ | ⟨⟨c, hc⟩, hname⟩)
        · exact ⟨j, Nat.lt_succ_of_lt hj, h⟩
        · exact ⟨i, Nat.lt_succ_self i, ⟨t, c, ht, toOption_eq_some.mp hc⟩, t, ht, hname.symm⟩
      · rintro ⟨j, hj, ⟨u, c, hu, hc⟩, u', hu', hname⟩
        obtain rfl := Option.some.inj (hu.symm.trans hu')
        rcases Nat.lt_succ_iff_lt_or_eq.mp hj with hj | rfl
        · exact .inl ⟨j, hj, ⟨u, c, hu, hc⟩, u, hu, hname⟩
        · obtain rfl := Option.some.inj (hu.symm.trans ht)
          exact .inr ⟨⟨c, toOption_eq_some.mpr hc⟩, hname.symm⟩

theorem reports_duplicate_iff (ht : l.tasks[i]? = some t) (canonical : String) :
    Reports l settings package emit w i (.duplicateClass canonical) ↔
      canonical = t.canonicalName package ∧ t.Readable ∧
        ∃ j < i, Parsed l settings package emit w j ∧
          ∃ u, l.tasks[j]? = some u ∧ u.canonicalName package = t.canonicalName package := by
  obtain ⟨error?, hfailed, hduplicate⟩ := failed_step emit package
    (stage l settings package emit w i).1 t (stage l settings package emit w i).2
  rw [Reports, stage_succ ht, hfailed, List.append_cancel_left_eq, ← contains_stage,
    ← Task.result_eq_duplicate_iff, ← hduplicate]
  cases error? <;> simp

theorem failed_prefix_generateAll (i : Nat) :
    (stage l settings package emit w i).1.summary.failed <+:
      ((generateAll l settings package emit).run w).1.summary.failed := by
  rcases le_total i l.tasks.length with h | h
  · rw [← stage_of_length_le (le_refl _)]
    exact failed_prefix h
  · exact ⟨[], by rw [stage_of_length_le h, List.append_nil]⟩

section Places

variable {d : Document} {loadSettings : Settings} {base : String}

theorem task_of_resource (package : String)
    (hl : (LoadedDocument.load d loadSettings base).2 = .ok l) {r : Resource}
    (hr : d.resources[i]? = some r) :
    ∃ service, l.tasks[i]? = some (.parameters service) ∧
      (Task.parameters service).canonicalName package = r.parametersClass package := by
  obtain ⟨-, -, -, hservices⟩ := LoadedDocument.load_eq_ok hl
  obtain ⟨service, hservice, his⟩ := hservices.exists_of_getElem? hr
  refine ⟨service, ?_, canonicalName_of_isServiceOf his⟩
  have hmap : (l.services.map Task.parameters)[i]? = some (.parameters service) := by
    rw [List.getElem?_map, hservice]
    rfl
  rw [LoadedDocument.tasks, List.getElem?_append_left (List.getElem?_eq_some_iff.mp hmap).1, hmap]

theorem task_of_schema (hl : (LoadedDocument.load d loadSettings base).2 = .ok l)
    {entry : String × Json} (hentry : d.schemas[i]? = some entry) :
    l.tasks[d.resources.length + i]? = some (.model entry.1 entry.2) := by
  obtain ⟨-, rfl, -, hservices⟩ := LoadedDocument.load_eq_ok hl
  have hlength : (l.services.map Task.parameters).length = l.document.resources.length := by
    rw [List.length_map, hservices.length_eq]
  rw [LoadedDocument.tasks, ← hlength, List.getElem?_append_right (Nat.le_add_right _ _),
    Nat.add_sub_cancel_left, List.getElem?_map, hentry]
  rfl

theorem reports_resource_iff (hl : (LoadedDocument.load d loadSettings base).2 = .ok l)
    {r : Resource} (hr : d.resources[i]? = some r) (canonical : String) :
    Reports l settings package emit w i (.duplicateClass canonical) ↔
      canonical = r.parametersClass package ∧
        ∃ j < i, Parsed l settings package emit w j ∧
          ∃ other, d.resources[j]? = some other ∧ other.typeName = r.typeName := by
  obtain ⟨service, ht, hname⟩ := task_of_resource package hl hr
  rw [reports_duplicate_iff ht, hname, Task.Readable, true_and]
  refine and_congr_right fun _ => exists_congr fun j => and_congr_right fun hj =>
    and_congr_right fun _ => ?_
  constructor
  · rintro ⟨u, hu, hsame⟩
    -- whatever comes before a resource is a resource
    have hlength : j < d.resources.length := hj.trans (List.getElem?_eq_some_iff.mp hr).1
    have hother : d.resources[j]? = some d.resources[j] := List.getElem?_eq_getElem hlength
    obtain ⟨service', ht', hname'⟩ := task_of_resource package hl hother
    obtain rfl := Option.some.inj (hu.symm.trans ht')
    exact ⟨_, hother, Resource.parametersClass_inj.mp (hname'.symm.trans hsame)⟩
  · rintro ⟨other, hother, htype⟩
    obtain ⟨service', ht', hname'⟩ := task_of_resource package hl hother
    exact ⟨_, ht', hname'.trans (Resource.parametersClass_inj.mpr htype)⟩

theorem reports_schema_iff (hl : (LoadedDocument.load d loadSettings base).2 = .ok l)
    {entry : String × Json} (hentry : d.schemas[i]? = some entry) (canonical : String) :
    Reports l settings package emit w (d.resources.length + i) (.duplicateClass canonical) ↔
      canonical = TypeTable.modelType package entry.1 ∧ ModelSchema.Readable entry.2 ∧
        ∃ j < i, Parsed l settings package emit w (d.resources.length + j) ∧
          ∃ other, d.schemas[j]? = some other ∧
            Naming.capitalize other.1 = Naming.capitalize entry.1 := by
  rw [reports_duplicate_iff (task_of_schema hl hentry)]
  refine and_congr_right fun _ => and_congr_right fun _ => ?_
  constructor
  · rintro ⟨k, hk, hparsed, u, hu, hsame⟩
    rcases Nat.lt_or_ge k d.resources.length with hlength | hlength
    · -- no resource has a class of this name
      have hr : d.resources[k]? = some d.resources[k] := List.getElem?_eq_getElem hlength
      obtain ⟨service, ht, -⟩ := task_of_resource package hl hr
      obtain rfl := Option.some.inj (hu.symm.trans ht)
      exact absurd hsame (ParametersClass.canonicalName_ne_modelType package service entry.1)
    · obtain ⟨j, rfl⟩ := Nat.exists_eq_add_of_le hlength
      have hj : j < i := Nat.lt_of_add_lt_add_left hk
      have hlt : j < d.schemas.length := hj.trans (List.getElem?_eq_some_iff.mp hentry).1
      have hother : d.schemas[j]? = some d.schemas[j] := List.getElem?_eq_getElem hlt
      obtain rfl := Option.some.inj (hu.symm.trans (task_of_schema hl hother))
      exact ⟨j, hj, hparsed, _, hother, TypeTable.modelType_inj.mp hsame⟩
  · rintro ⟨j, hj, hparsed, other, hother, hsame⟩
    exact ⟨_, Nat.add_lt_add_left hj _, hparsed, _, task_of_schema hl hother,
      TypeTable.modelType_inj.mpr hsame⟩

/-- A resource is reported as a duplicate where an earlier one of its type name has its class, and a
schema where it can be read and an earlier one of its capitalized name has its class. What the
emitter answered does not matter, and no class of the one kind has the name of one of the other. -/
theorem duplicates_of_generateAll (hl : (LoadedDocument.load d loadSettings base).2 = .ok l)
    (settings : Settings) (package : String) (emit : Emitter (StateM σ)) (w : σ) :
    (∀ i r, d.resources[i]? = some r → ∀ canonical,
      Reports l settings package emit w i (.duplicateClass canonical) ↔
        canonical = r.parametersClass package ∧
          ∃ j < i, Parsed l settings package emit w j ∧
            ∃ other, d.resources[j]? = some other ∧ other.typeName = r.typeName) ∧
      (∀ i entry, d.schemas[i]? = some entry → ∀ canonical,
        Reports l settings package emit w (d.resources.length + i) (.duplicateClass canonical) ↔
          canonical = TypeTable.modelType package entry.1 ∧ ModelSchema.Readable entry.2 ∧
            ∃ j < i, Parsed l settings package emit w (d.resources.length + j) ∧
              ∃ other, d.schemas[j]? = some other ∧
                Naming.capitalize other.1 = Naming.capitalize entry.1) ∧
      (∀ i, (stage l settings package emit w i).1.summary.failed <+:
        ((generateAll l settings package emit).run w).1.summary.failed) ∧
      ∀ (r : Resource) (name : String),
        r.parametersClass package ≠ TypeTable.modelType package name := by
  refine ⟨fun i r hr canonical => ?_, fun i entry hentry canonical => ?_, failed_prefix_generateAll,
    Resource.parametersClass_ne_modelType package⟩
  · exact reports_resource_iff hl hr canonical
  · exact reports_schema_iff hl hentry canonical

end Places

def doubledOrders : Document :=
  { schemas :=
      [("order", .object []), ("Order", .object []), ("item", .object []), ("Item", .null)]
    resources :=
      [{ uri := "orders", actions := [("get", { queryParameters := [("from", .object [])] })] },
        { uri := "/orders/" }] }

theorem duplicates_of_refused_orders :
    ∃ l, (LoadedDocument.load doubledOrders {} "api").2 = .ok l ∧
      ((generateAll l {} "api" (limited 0)).run 0).1.summary.generated = [] ∧
      Reports l {} "api" (limited 0) 0 1 (.duplicateClass "api.parameters.OrdersParameters") ∧
      Reports l {} "api" (limited 0) 0 3 (.duplicateClass "api.model.Order") ∧
      ∀ canonical, ¬Reports l {} "api" (limited 0) 0 5 (.duplicateClass canonical) := by
  have run : ((LoadedDocument.load doubledOrders {} "api").2.toOption.any fun l =>
      decide (((generateAll l {} "api" (limited 0)).run 0).1.summary.generated = []) &&
        [0, 2].all fun i => l.tasks[i]?.any fun t =>
          (t.result "api" (stage l {} "api" (limited 0) 0 i).1.session).toOption.isSome) = true := by
    decide +kernel
  obtain ⟨l, hl, run⟩ := exists_of_any_toOption run
  simp only [Bool.and_eq_true, decide_eq_true_eq, List.all_eq_true, Option.any_eq_true,
    Option.isSome_iff_exists, toOption_eq_some] at run
  obtain ⟨hrefused, hmade⟩ := run
  have hparsed : ∀ i ∈ [0, 2], Parsed l {} "api" (limited 0) 0 i := by
    intro i hi
    obtain ⟨t, ht, c, hc⟩ := hmade i hi
    exact ⟨t, c, ht, hc⟩
  obtain ⟨hresources, hschemas, -, -⟩ := duplicates_of_generateAll hl {} "api" (limited 0) 0
  refine ⟨l, hl, hrefused, ?_, ?_, ?_⟩
  · refine (hresources 1 _ rfl _).mpr ⟨?_, 0, Nat.zero_lt_one, hparsed 0 (by simp), _, rfl, ?_⟩ <;>
      decide +kernel
  · refine (hschemas 1 ("Order", .object []) rfl _).mpr
      ⟨?_, ?_, 0, Nat.zero_lt_one, hparsed 2 (by simp), ("order", .object []), rfl, ?_⟩
    · decide +kernel
    · exact ModelSchema.readFault?_eq_none_iff.mp rfl
    · decide +kernel
  · intro canonical hreported
    obtain ⟨-, hreadable, -⟩ := (hschemas 3 ("Item", .null) rfl canonical).mp hreported
    obtain ⟨members, hobject⟩ := hreadable.object
    cases hobject

end Generation

end ClientGen
