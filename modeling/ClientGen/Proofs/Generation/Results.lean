import ClientGen.Proofs.Generation.Trace
import ClientGen.Proofs.Session.Agreement

/-! What the builders make of a list of tasks, one after another. A task leaves nothing to the later
ones but the name of its class, and the later ones see that name only where it is theirs, too. -/

namespace ClientGen

theorem ParametersClass.canonicalName_ne_modelType (package : String) (service : Service)
    (name : String) : canonicalName package service ≠ TypeTable.modelType package name := by
  intro h
  have hchars := congrArg String.toList h
  simp [canonicalName, TypeTable.modelType, parametersPackage, modelPackage] at hchars

theorem TypeTable.modelType_inj {package name other : String} :
    modelType package name = modelType package other ↔
      Naming.capitalize name = Naming.capitalize other := by
  simp [modelType]

theorem ParametersClass.canonicalName_inj {package : String} {service other : Service} :
    canonicalName package service = canonicalName package other ↔
      service.typeName = other.typeName := by
  simp [canonicalName]

namespace Task

variable {package name : String} {s u : Session} {t : Task} {c : ClassDecl}

def canonicalName (package : String) : Task → String
  | parameters service => ParametersClass.canonicalName package service
  | model name _ => TypeTable.modelType package name

def result (package : String) (s : Session) (t : Task) : Except GenError ClassDecl :=
  ((t.parse package).run s).result

/-- The session that the task leaves to the next one. -/
def after (package : String) (s : Session) (t : Task) : Session :=
  ((t.parse package).run s).session

theorem Makes.canonicalName (h : t.Makes package s c) :
    c.canonicalName = t.canonicalName package := by
  cases t with
  | parameters service =>
    obtain ⟨hpackage, hclass⟩ := h.concerns
    rw [ClassDecl.canonicalName, hpackage, hclass]
    rfl
  | model name schema =>
    obtain ⟨hpackage, hclass⟩ := h.concerns
    rw [ClassDecl.canonicalName, hpackage, hclass]
    rfl

theorem concerns_result (package : String) (s : Session) (t : Task) :
    (Verdict.of (t.result package s)).Concerns package t := by
  match hrun : (t.parse package).run s with
  | ⟨s', events, r⟩ =>
    rw [result, hrun]
    exact concerns_of_parse hrun

theorem makes_of_result {registry : Registry}
    (h : t.result package { s with registry := registry } = .ok c) : t.Makes package s c := by
  match hrun : (t.parse package).run { s with registry := registry } with
  | ⟨s', events, r⟩ =>
    rw [result, hrun] at h
    obtain rfl : r = .ok c := h
    exact ⟨registry, s', events, hrun⟩

/-- What the builder makes of the task, whatever was registered before. -/
def ComesTo (package : String) (s : Session) (t : Task) (r : Except GenError ClassDecl) : Prop :=
  ∃ registry, t.result package { s with registry := registry } = r

theorem ComesTo.makes (h : t.ComesTo package s (.ok c)) : t.Makes package s c := by
  obtain ⟨registry, hresult⟩ := h
  exact makes_of_result hresult

theorem ComesTo.concerns {r : Except GenError ClassDecl} (h : t.ComesTo package s r) :
    (Verdict.of r).Concerns package t := by
  obtain ⟨registry, rfl⟩ := h
  exact concerns_result package { s with registry := registry } t

theorem result_congr (h : s.Alike u)
    (hname : s.registry.contains (t.canonicalName package) =
      u.registry.contains (t.canonicalName package)) :
    t.result package s = t.result package u := by
  cases t with
  | parameters service => exact (Prod.mk.inj (ParametersClass.output_parse_congr h hname)).2
  | model name schema => exact (Prod.mk.inj (ModelClass.output_parse_congr h schema hname)).2

theorem after_of_error {e : GenError} (h : t.result package s = .error e) :
    t.after package s = s := by
  match hrun : (t.parse package).run s with
  | ⟨s', events, r⟩ =>
    rw [result, hrun] at h
    obtain rfl : r = .error e := h
    rw [after, hrun]
    exact (t.admits_parse package).failed s s' events e hrun

theorem after_of_ok (h : t.result package s = .ok c) :
    t.after package s = s.admitting (t.canonicalName package) := by
  match hrun : (t.parse package).run s with
  | ⟨s', events, r⟩ =>
    rw [result, hrun] at h
    obtain rfl : r = .ok c := h
    have hmakes : t.Makes package s c := ⟨s.registry, s', events, hrun⟩
    rw [after, hrun, ← hmakes.canonicalName]
    exact ((t.admits_parse package).admitted s s' events c hrun).2

theorem after_eq (package : String) (s : Session) (t : Task) :
    ∃ registry, t.after package s = { s with registry := registry } := by
  cases h : t.result package s with
  | error e => exact ⟨s.registry, after_of_error h⟩
  | ok c => exact ⟨_, after_of_ok h⟩

theorem alike_after (h : s.Alike u) (package : String) (t t' : Task) :
    (t.after package s).Alike (t'.after package u) := by
  obtain ⟨r, hr⟩ := t.after_eq package s
  obtain ⟨r', hr'⟩ := t'.after_eq package u
  rw [hr, hr']
  exact ⟨h.settings, h.resolve, h.responseAt⟩

theorem contains_after (package : String) (s : Session) (t : Task) (name : String) :
    (t.after package s).registry.contains name =
      (s.registry.contains name ||
        (t.result package s).toOption.isSome && name == t.canonicalName package) := by
  cases h : t.result package s with
  | error e =>
    rw [after_of_error h]
    simp [Except.toOption]
  | ok c =>
    rw [after_of_ok h]
    simp [Except.toOption, Registry.contains, Session.admitting, Bool.beq_eq_decide_eq]

end Task

namespace Generation

variable {package name : String} {s u : Session} {t : Task} {ts : List Task}

def results (package : String) : Session → List Task → List (Except GenError ClassDecl)
  | _, [] => []
  | s, t :: ts => t.result package s :: results package (t.after package s) ts

def sessionAfter (package : String) (s : Session) (ts : List Task) : Session :=
  ts.foldl (Task.after package) s

theorem length_results (package : String) (s : Session) (ts : List Task) :
    (results package s ts).length = ts.length := by
  induction ts generalizing s with
  | nil => rfl
  | cons t ts ih => rw [results, List.length_cons, List.length_cons, ih]

theorem results_append (package : String) (s : Session) (ts us : List Task) :
    results package s (ts ++ us) =
      results package s ts ++ results package (sessionAfter package s ts) us := by
  induction ts generalizing s with
  | nil => rfl
  | cons t ts ih => rw [List.cons_append, results, results, ih, List.cons_append]; rfl

theorem sessionAfter_eq (package : String) (s : Session) (ts : List Task) :
    ∃ registry, sessionAfter package s ts = { s with registry := registry } := by
  induction ts generalizing s with
  | nil => exact ⟨s.registry, rfl⟩
  | cons t ts ih =>
    obtain ⟨first, hfirst⟩ := t.after_eq package s
    obtain ⟨last, hlast⟩ := ih (t.after package s)
    refine ⟨last, hlast.trans ?_⟩
    rw [hfirst]

theorem comesTo_results (package : String) (s : Session) (ts : List Task) :
    List.Forall₂ (Task.ComesTo package s) ts (results package s ts) := by
  have run : ∀ registry, List.Forall₂ (Task.ComesTo package s) ts
      (results package { s with registry := registry } ts) := by
    induction ts with
    | nil => exact fun _ => .nil
    | cons t ts ih =>
      intro registry
      obtain ⟨later, hlater⟩ := t.after_eq package { s with registry := registry }
      rw [results, hlater]
      exact .cons ⟨registry, rfl⟩ (ih later)
  exact run s.registry

theorem results_of_distinct (hdistinct : (ts.map (Task.canonicalName package)).Nodup)
    (hnew : ∀ t ∈ ts, s.registry.contains (t.canonicalName package) = false) :
    results package s ts = ts.map (Task.result package s) := by
  induction ts generalizing s with
  | nil => rfl
  | cons t ts ih =>
    obtain ⟨hhead, htail⟩ := List.nodup_cons.mp hdistinct
    have hlater : ∀ t' ∈ ts,
        (t.after package s).registry.contains (t'.canonicalName package) = false := by
      intro t' ht'
      have hne : t'.canonicalName package ≠ t.canonicalName package :=
        fun heq => hhead (heq ▸ List.mem_map_of_mem ht')
      rw [Task.contains_after, hnew t' (List.mem_cons_of_mem _ ht'), beq_false_of_ne hne,
        Bool.and_false, Bool.or_false]
    have hsame : ∀ t' ∈ ts, t'.result package (t.after package s) = t'.result package s := by
      intro t' ht'
      obtain ⟨registry, hregistry⟩ := t.after_eq package s
      refine Task.result_congr ?_ ?_
      · rw [hregistry]
        exact ⟨rfl, rfl, rfl⟩
      · rw [hlater t' ht', hnew t' (List.mem_cons_of_mem _ ht')]
    rw [results, ih htail hlater, List.map_cons, List.map_congr_left hsame]

theorem getElem?_results_congr (h : s.Alike u)
    (hregistry : ∀ other, other ≠ name → s.registry.contains other = u.registry.contains other)
    {i : Nat} (ht : ts[i]? = some t) (hname : t.canonicalName package ≠ name) :
    (results package s ts)[i]? = (results package u ts)[i]? := by
  induction ts generalizing s u i with
  | nil => rfl
  | cons first rest ih =>
    cases i with
    | zero =>
      obtain rfl : first = t := Option.some.inj ht
      rw [results, results, Task.result_congr h (hregistry _ hname)]
      rfl
    | succ i =>
      refine ih (Task.alike_after h package first first) ?_ ht
      intro other hother
      rw [Task.contains_after, Task.contains_after, hregistry other hother]
      by_cases hfirst : other = first.canonicalName package
      · rw [Task.result_congr h (hregistry _ (hfirst ▸ hother))]
      · rw [beq_false_of_ne hfirst, Bool.and_false, Bool.and_false]

theorem session_step {σ : Type} (emit : Emitter (StateM σ)) (package : String) (p : Progress)
    (t : Task) (w : σ) : ((step emit package p t).run w).1.session = t.after package p.session := by
  unfold Task.after
  match hparse : (t.parse package).run p.session with
  | ⟨s, events, .error e⟩ =>
    rw [run_step_of_error hparse]
    rfl
  | ⟨s, events, .ok c⟩ =>
    rw [run_step_of_ok hparse]
    rfl

end Generation

end ClientGen
