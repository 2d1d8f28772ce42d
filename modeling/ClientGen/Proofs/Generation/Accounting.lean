import ClientGen.Proofs.Document.Load
import ClientGen.Proofs.Generation.Run
import ClientGen.Proofs.Generation.Verdict

/-! The accounts of a generation run. Every task is settled once, by one verdict; the summary, the
events and the calls of the emitter all follow from the list of settlements. That no class is
generated twice is due to the registry, which has the name of every generated class and has no name
twice. -/

namespace ClientGen

open Build

structure Call where
  argument : ClassDecl
  answer : Except EmitError Unit

def Call.accepted? (call : Call) : Option ClassDecl :=
  match call.answer with
  | .ok () => some call.argument
  | .error _ => none

variable {σ : Type}

def Emitter.recording (emit : Emitter (StateM σ)) : Emitter (StateM (σ × List Call)) := fun c => do
  let (w, calls) ← get
  let (answer, w') := (emit c).run w
  set (w', calls ++ [⟨c, answer⟩])
  pure answer

structure Settlement where
  task : Task
  verdict : Verdict

namespace Generation

variable {package : String} {p p' : Progress} {t : Task} {v : Verdict} {done : List Task}
  {ledger : List Settlement} {calls more : List Call}

def failures (ledger : List Settlement) : List (String × GenError) :=
  ledger.filterMap fun x => x.verdict.error?.map fun e => (x.task.entity, e)

/-- A task has been settled by a verdict. The registry has grown by the class that the builder
made, whether or not the emitter took it. -/
structure Settles (package : String) (p : Progress) (t : Task) (v : Verdict) (more : List Call)
    (p' : Progress) : Prop where
  concerns : v.Concerns package t
  summary : p'.summary = p.summary.add v
  errors : p'.events.filter Event.isError = p.events.filter Event.isError ++
    (v.error?.map (Summary.failing t.entity)).toList
  emitted : more.filterMap Call.accepted? = v.class?.toList
  registry : p'.session = p.session ∧ v.class? = none ∨
    ∃ c, p.session.registry.contains c.canonicalName = false ∧
      p'.session = p.session.admitting c.canonicalName ∧ ∀ g ∈ v.class?, g = c

theorem summary_conclude (p : Progress) (entity : String) (s : Session) (events : List Event)
    (r : Except GenError ClassDecl) :
    (p.conclude entity s events r).summary = p.summary.add (.of r) :=
  p.summary.record_eq entity r

theorem errors_conclude (p : Progress) (entity : String) (s : Session) {events : List Event}
    (r : Except GenError ClassDecl) (quiet : ∀ e ∈ events, e.isError = false) :
    (p.conclude entity s events r).events.filter Event.isError =
      p.events.filter Event.isError ++
        ((Verdict.of r).error?.map (Summary.failing entity)).toList := by
  have hquiet : events.filter Event.isError = [] :=
    List.filter_eq_nil_iff.mpr (fun e he => by simp [quiet e he])
  rw [← p.summary.errors_record entity r]
  simp only [Progress.conclude, List.filter_append, hquiet, List.append_nil]

theorem isError_of_emitted (c : ClassDecl) (answer : Except EmitError Unit) :
    ∀ e ∈ (c.emitted answer).1, e.isError = false := by
  cases answer with
  | ok _ => simp [ClassDecl.emitted, ClassDecl.emission, Event.isError]
  | error e => simp [ClassDecl.emitted]

theorem concerns_of_emitted {c : ClassDecl} (h : (Verdict.generated c).Concerns package t)
    (answer : Except EmitError Unit) : (Verdict.of (c.emitted answer).2).Concerns package t := by
  cases answer with
  | ok _ => exact h
  | error e => cases t <;> rfl

theorem accepted_of_emitted (c : ClassDecl) (answer : Except EmitError Unit) :
    [Call.mk c answer].filterMap Call.accepted? =
      (Verdict.of (c.emitted answer).2).class?.toList := by
  cases answer <;> rfl

theorem class_of_emitted (c : ClassDecl) (answer : Except EmitError Unit) :
    ∀ g ∈ (Verdict.of (c.emitted answer).2).class?, g = c := by
  cases answer with
  | ok _ => intro g hg; exact (Option.some.inj hg).symm
  | error e => simp [ClassDecl.emitted, Verdict.of, GenError.unserved?, Verdict.class?]

theorem class_of_error (e : GenError) : (Verdict.of (.error e)).class? = none := by
  cases h : e.unserved? with
  | none =>
    rw [Verdict.of_failure h]
    rfl
  | some uri =>
    rw [Verdict.of_unserved h]
    rfl

theorem settles_step (emit : Emitter (StateM σ)) (package : String) (p : Progress) (t : Task)
    (w : σ) :
    ∃ p' w' v more, (step emit package p t).run w = (p', w') ∧
      (∀ calls, (step emit.recording package p t).run (w, calls) = (p', w', calls ++ more)) ∧
      Settles package p t v more p' := by
  match hparse : (t.parse package).run p.session with
  | ⟨s, events, .error e⟩ =>
    obtain rfl : s = p.session := (t.admits_parse package).failed _ _ _ _ hparse
    refine ⟨_, w, .of (.error e), [], run_step_of_error hparse w, fun calls => ?_, ?_⟩
    · rw [run_step_of_error hparse, List.append_nil]
    · refine ⟨Task.concerns_of_parse hparse, summary_conclude .., ?_, ?_, ?_⟩
      · exact errors_conclude _ _ _ _ (Task.isError_of_parse hparse)
      · rw [class_of_error]
        rfl
      · exact Or.inl ⟨rfl, class_of_error e⟩
  | ⟨s, events, .ok c⟩ =>
    -- the class is registered even if the emitter refuses it
    obtain ⟨hnew, rfl⟩ := (t.admits_parse package).admitted _ _ _ _ hparse
    refine ⟨_, _, .of (c.emitted ((emit c).run w).1).2, [⟨c, ((emit c).run w).1⟩],
      run_step_of_ok hparse w, fun calls => ?_, ?_⟩
    · rw [run_step_of_ok hparse]
      rfl
    · refine ⟨concerns_of_emitted (Task.concerns_of_parse hparse) _, summary_conclude .., ?_,
        accepted_of_emitted _ _, Or.inr ⟨c, hnew, rfl, class_of_emitted _ _⟩⟩
      apply errors_conclude
      intro e he
      rcases List.mem_append.mp he with he | he
      · exact Task.isError_of_parse hparse e he
      · exact isError_of_emitted _ _ e he

structure Accounted (package : String) (done : List Task) (ledger : List Settlement)
    (calls : List Call) (p : Progress) : Prop where
  tasks : ledger.map Settlement.task = done
  concerned : ∀ x ∈ ledger, x.verdict.Concerns package x.task
  generated : p.summary.generated =
    (ledger.filterMap fun x => x.verdict.class?).map ClassDecl.canonicalName
  skipped : p.summary.skipped = ledger.filterMap fun x => x.verdict.skipped?
  failed : p.summary.failed = (failures ledger).map Prod.snd
  errors : p.events.filter Event.isError =
    (failures ledger).map fun failure => Summary.failing failure.1 failure.2
  emitted : calls.filterMap Call.accepted? = ledger.filterMap fun x => x.verdict.class?

structure Registered (p : Progress) : Prop where
  generated : p.summary.generated.Sublist p.session.registry.names
  nodup : p.session.registry.names.Nodup

theorem Accounted.step (hp : Accounted package done ledger calls p)
    (h : Settles package p t v more p') :
    Accounted package (done ++ [t]) (ledger ++ [⟨t, v⟩]) (calls ++ more) p' := by
  constructor
  · rw [List.map_append, hp.tasks]
    rfl
  · intro x hx
    rcases List.mem_append.mp hx with hx | hx
    · exact hp.concerned x hx
    · obtain rfl := List.mem_singleton.mp hx
      exact h.concerns
  · rw [h.summary, List.filterMap_append, List.map_append, ← hp.generated]
    cases v <;> rfl
  · rw [h.summary, List.filterMap_append, ← hp.skipped]
    cases v <;> rfl
  · rw [h.summary, failures, List.filterMap_append, List.map_append, ← failures, ← hp.failed]
    cases v <;> rfl
  · rw [h.errors, failures, List.filterMap_append, List.map_append, ← failures, ← hp.errors]
    cases v <;> rfl
  · rw [List.filterMap_append, List.filterMap_append, hp.emitted, h.emitted]
    cases v <;> rfl

theorem Registered.step (hp : Registered p) (h : Settles package p t v more p') :
    Registered p' := by
  rcases h.registry with ⟨hsession, hclass⟩ | ⟨c, hnew, hsession, hclass⟩
  · have hgenerated : p'.summary.generated = p.summary.generated := by
      simp [h.summary, Summary.add, hclass]
    refine ⟨?_, ?_⟩
    · rw [hgenerated, hsession]
      exact hp.generated
    · rw [hsession]
      exact hp.nodup
  · have hnames : p'.session.registry.names = p.session.registry.names ++ [c.canonicalName] := by
      rw [hsession]
      rfl
    refine ⟨?_, ?_⟩
    · rw [hnames, h.summary]
      refine hp.generated.append ?_
      cases hv : v.class? with
      | none => simp
      | some g =>
        obtain rfl := hclass g hv
        simp
    · rw [hnames, List.nodup_append]
      refine ⟨hp.nodup, by simp, ?_⟩
      rintro name hname _ hc rfl
      obtain rfl := List.mem_singleton.mp hc
      simp [Registry.contains, hname] at hnew

theorem accounted_run (emit : Emitter (StateM σ)) (package : String) (ts : List Task) (w : σ)
    (hp : Accounted package done ledger calls p) (hr : Registered p) :
    ∃ ledger' calls' p' w', (ts.foldlM (step emit package) p).run w = (p', w') ∧
      (ts.foldlM (step emit.recording package) p).run (w, calls) = (p', w', calls') ∧
      Accounted package (done ++ ts) ledger' calls' p' ∧ Registered p' := by
  -- on the tasks to come; what is done, with its accounts, varies
  induction ts generalizing done ledger calls p w with
  | nil =>
    refine ⟨ledger, calls, p, w, rfl, rfl, ?_, hr⟩
    rwa [List.append_nil]
  | cons t ts ih =>
    obtain ⟨q, u, v, more, hplain, hrecorded, hsettles⟩ := settles_step emit package p t w
    obtain ⟨ledger', calls', p', w', hrest, hrest', hp', hr'⟩ :=
      ih u (hp.step hsettles) (hr.step hsettles)
    refine ⟨ledger', calls', p', w', ?_, ?_, ?_, hr'⟩
    · rw [List.foldlM_cons, StateT.run_bind, hplain]
      exact hrest
    · rw [List.foldlM_cons, StateT.run_bind, hrecorded]
      exact hrest'
    · rwa [List.append_assoc] at hp'

theorem Accounted.total (hp : Accounted package done ledger calls p) :
    p.summary.generated.length + p.summary.skipped.length + p.summary.failed.length =
      done.length := by
  have count : ∀ xs : List Settlement,
      (xs.filterMap fun x => x.verdict.class?).length +
        (xs.filterMap fun x => x.verdict.skipped?).length + (failures xs).length = xs.length := by
    intro xs
    induction xs with
    | nil => rfl
    | cons x xs ih =>
      obtain ⟨t, v⟩ := x
      cases v <;> simp [failures, Verdict.class?, Verdict.skipped?, Verdict.error?] at ih ⊢ <;>
        omega
  rw [hp.generated, hp.skipped, hp.failed, List.length_map, List.length_map, count, ← hp.tasks,
    List.length_map]

theorem Accounted.ordered {services : List Service} {schemas : List (String × Json)}
    (hp : Accounted package
      (services.map .parameters ++ schemas.map fun (name, schema) => .model name schema)
      ledger calls p) :
    ∃ ps ms, calls.filterMap Call.accepted? = ps ++ ms ∧
      (∀ c ∈ ps, c.packageName = package ++ "." ++ parametersPackage) ∧
      ∀ c ∈ ms, c.packageName = package ++ "." ++ modelPackage := by
  obtain ⟨first, second, rfl, hfirst, hsecond⟩ := List.map_eq_append_iff.mp hp.tasks
  refine ⟨first.filterMap fun x => x.verdict.class?, second.filterMap fun x => x.verdict.class?,
    ?_, ?_, ?_⟩
  · rw [hp.emitted, List.filterMap_append]
  · intro c hc
    obtain ⟨⟨t, v⟩, hx, hv⟩ := List.mem_filterMap.mp hc
    have hconcerned := hp.concerned _ (List.mem_append_left _ hx)
    have ht : t ∈ services.map Task.parameters := hfirst ▸ List.mem_map_of_mem hx
    obtain ⟨service, -, rfl⟩ := List.mem_map.mp ht
    cases v with
    | generated g =>
      obtain rfl : g = c := Option.some.inj hv
      exact hconcerned.1
    | skipped _ | failed _ => simp [Verdict.class?] at hv
  · intro c hc
    obtain ⟨⟨t, v⟩, hx, hv⟩ := List.mem_filterMap.mp hc
    have hconcerned := hp.concerned _ (List.mem_append_right _ hx)
    have ht := hsecond ▸ List.mem_map_of_mem (f := Settlement.task) hx
    obtain ⟨schema, -, rfl⟩ := List.mem_map.mp ht
    cases v with
    | generated g =>
      obtain rfl : g = c := Option.some.inj hv
      exact hconcerned.1
    | skipped _ | failed _ => simp [Verdict.class?] at hv

theorem entities_of_load {d : Document} {settings : Settings} {base : String}
    {l : LoadedDocument} (hl : (LoadedDocument.load d settings base).2 = .ok l) :
    l.tasks.map Task.entity = d.resources.map Resource.uri ++ d.schemas.map Prod.fst := by
  have huris := LoadedDocument.uris_of_load hl
  obtain ⟨-, rfl, -, -⟩ := LoadedDocument.load_eq_ok hl
  rw [LoadedDocument.tasks, List.map_append, List.map_map, List.map_map, ← huris]
  rfl

/-- Every resource and every schema of a document is accounted for once, whatever the emitter
does. -/
theorem generateAll_accounted {d : Document} {loadSettings : Settings} {base : String}
    {l : LoadedDocument} (hl : (LoadedDocument.load d loadSettings base).2 = .ok l)
    (settings : Settings) (package : String) (emit : Emitter (StateM σ)) (w : σ) :
    ∃ ledger calls p w', (generateAll l settings package emit).run w = (p, w') ∧
      (generateAll l settings package emit.recording).run (w, []) = (p, w', calls) ∧
      Accounted package l.tasks ledger calls p ∧
      l.tasks.map Task.entity = d.resources.map Resource.uri ++ d.schemas.map Prod.fst ∧
      p.summary.generated.length + p.summary.skipped.length + p.summary.failed.length =
        d.resources.length + d.schemas.length ∧
      p.summary.generated.Nodup ∧
      p.summary.generated = (calls.filterMap Call.accepted?).map ClassDecl.canonicalName ∧
      ∃ ps ms, calls.filterMap Call.accepted? = ps ++ ms ∧
        (∀ c ∈ ps, c.packageName = package ++ "." ++ parametersPackage) ∧
        ∀ c ∈ ms, c.packageName = package ++ "." ++ modelPackage := by
  have hstart : Accounted package [] [] [] (start l settings) := by
    constructor <;> simp [start, failures]
  have hregistered : Registered (start l settings) :=
    ⟨List.nil_sublist _, List.nodup_nil⟩
  obtain ⟨ledger, calls, p, w', hplain, hrecorded, hp, hr⟩ :=
    accounted_run emit package l.tasks w hstart hregistered
  rw [List.nil_append] at hp
  have hentities := entities_of_load hl
  have hcount : l.tasks.length = d.resources.length + d.schemas.length := by
    simpa using congrArg List.length hentities
  refine ⟨ledger, calls, p, w', hplain, hrecorded, hp, hentities, hp.total.trans hcount,
    hr.nodup.sublist hr.generated, ?_, hp.ordered⟩
  rw [hp.emitted, hp.generated]

def orderDocument : Document :=
  { schemas := [("order", .object []), ("Order", .object [])]
    resources :=
      [{ uri := "orders", actions := [("get", { queryParameters := [("from", .object [])] })] },
        { uri := "items" }] }

def limited (room : Nat) : Emitter (StateM Nat) := fun _ => do
  let taken ← get
  set (taken + 1)
  pure (if taken < room then .ok () else .error (.render "no room"))

theorem generateAll_accounted_orders :
    ∃ l ledger calls p w', (LoadedDocument.load orderDocument {} "api").2 = .ok l ∧
      (generateAll l {} "api" (limited 1)).run 0 = (p, w') ∧
      Accounted "api" l.tasks ledger calls p ∧ p.summary.generated.Nodup ∧
      p.summary.generated.length + p.summary.skipped.length + p.summary.failed.length = 4 := by
  have loaded : (LoadedDocument.load orderDocument {} "api").2.toOption.isSome = true := by
    decide +kernel
  simp only [Option.isSome_iff_exists, toOption_eq_some] at loaded
  obtain ⟨l, hl⟩ := loaded
  obtain ⟨ledger, calls, p, w', hrun, -, hp, -, htotal, hnodup, -⟩ :=
    generateAll_accounted hl {} "api" (limited 1) 0
  exact ⟨l, ledger, calls, p, w', hl, hrun, hp, hnodup, htotal⟩

end Generation

end ClientGen
