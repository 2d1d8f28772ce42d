import ClientGen.Proofs.Generation.Accounting

/-! What a run hands to its emitter. Each class comes out of the builder of its task, in a session
that differs from the first one by its registry alone, and no name is handed over twice. So what the
emitter's world keeps from call to call, it keeps over the run. -/

namespace ClientGen

open Build

variable {σ : Type}

namespace Call

def name (call : Call) : String := call.argument.canonicalName

theorem argument_of_accepted {call : Call} {c : ClassDecl} (h : call.accepted? = some c) :
    call.argument = c := by
  unfold accepted? at h
  split at h
  · exact Option.some.inj h
  · simp at h

end Call

namespace LoadedDocument

variable {l : LoadedDocument}

theorem parameters_mem_tasks {service : Service} :
    Task.parameters service ∈ l.tasks ↔ service ∈ l.services := by
  simp [tasks]

theorem model_mem_tasks {name : String} {schema : Json} :
    Task.model name schema ∈ l.tasks ↔ (name, schema) ∈ l.document.schemas := by
  simp [tasks]

end LoadedDocument

/-- The task makes the class, whatever was registered before. -/
def Task.Makes (package : String) (s : Session) (t : Task) (c : ClassDecl) : Prop :=
  ∃ registry s' events,
    (t.parse package).run { s with registry := registry } = ⟨s', events, .ok c⟩

theorem Task.Makes.concerns {package : String} {s : Session} {t : Task} {c : ClassDecl}
    (h : t.Makes package s c) : (Verdict.generated c).Concerns package t := by
  obtain ⟨registry, s', events, hrun⟩ := h
  exact Task.concerns_of_parse hrun

namespace Generation

variable {package : String} {s : Session} {p p' : Progress} {t : Task} {v : Verdict}
  {done : List Task} {ledger : List Settlement} {calls more : List Call}
  {emit : Emitter (StateM σ)} {w w' : σ}

inductive Hands (package : String) (s : Session) (emit : Emitter (StateM σ)) (t : Task)
    (calls : List Call) (w : σ) : List Call → σ → Prop
  | nothing : Hands package s emit t calls w [] w
  | one (c : ClassDecl) (made : t.Makes package s c)
    (new : c.canonicalName ∉ calls.map Call.name) :
    Hands package s emit t calls w [⟨c, ((emit c).run w).1⟩] ((emit c).run w).2

theorem hands_of_step (hs : p.session = { s with registry := ⟨calls.map Call.name⟩ })
    (h : (step emit.recording package p t).run (w, calls) = (p', w', calls ++ more)) :
    Hands package s emit t calls w more w' ∧
      p'.session = { s with registry := ⟨(calls ++ more).map Call.name⟩ } := by
  match hparse : (t.parse package).run p.session with
  | ⟨s', events, .error e⟩ =>
    obtain rfl := (t.admits_parse package).failed _ _ _ _ hparse
    rw [run_step_of_error hparse] at h
    obtain ⟨rfl, hworld⟩ := Prod.mk.inj h
    obtain ⟨rfl, hcalls⟩ := Prod.mk.inj hworld
    obtain rfl := List.self_eq_append_right.mp hcalls
    rw [List.append_nil]
    exact ⟨.nothing, hs⟩
  | ⟨s', events, .ok c⟩ =>
    obtain ⟨hnew, rfl⟩ := (t.admits_parse package).admitted _ _ _ _ hparse
    rw [run_step_of_ok hparse] at h
    obtain ⟨rfl, hworld⟩ := Prod.mk.inj h
    obtain ⟨rfl, hcalls⟩ := Prod.mk.inj hworld
    obtain rfl := List.append_cancel_left hcalls
    rw [hs] at hparse hnew
    refine ⟨.one c ⟨_, _, _, hparse⟩ (by simpa [Registry.contains] using hnew), ?_⟩
    simp only [Progress.conclude, hs, Session.admitting, List.map_append, List.map_cons,
      List.map_nil, Call.name]

structure Traced (package : String) (s : Session) (ledger : List Settlement) (calls : List Call)
    (p : Progress) : Prop where
  session : p.session = { s with registry := ⟨calls.map Call.name⟩ }
  nodup : (calls.map Call.name).Nodup
  made : ∀ x ∈ ledger, ∀ c ∈ x.verdict.class?, x.task.Makes package s c
  handed : ∀ call ∈ calls, ∃ x ∈ ledger, x.task.Makes package s call.argument

theorem Traced.step (hp : Traced package s ledger calls p) (h : Settles package p t v more p')
    (hh : Hands package s emit t calls w more w')
    (hs : p'.session = { s with registry := ⟨(calls ++ more).map Call.name⟩ }) :
    Traced package s (ledger ++ [⟨t, v⟩]) (calls ++ more) p' := by
  have hmakes : ∀ call ∈ more, t.Makes package s call.argument := by
    cases hh with
    | nothing => simp
    | one c made new => simpa using made
  refine ⟨hs, ?_, ?_, ?_⟩
  · cases hh with
    | nothing => simpa using hp.nodup
    | one c made new =>
      rw [List.map_append, List.nodup_append]
      refine ⟨hp.nodup, by simp, ?_⟩
      rintro name hname _ hc rfl
      obtain rfl := List.mem_singleton.mp hc
      exact new hname
  · intro x hx c hc
    rcases List.mem_append.mp hx with hx | hx
    · exact hp.made x hx c hc
    · obtain rfl := List.mem_singleton.mp hx
      have hmem : c ∈ more.filterMap Call.accepted? := by
        rw [h.emitted]
        exact Option.mem_toList.mpr hc
      obtain ⟨call, hcall, haccepted⟩ := List.mem_filterMap.mp hmem
      rw [← Call.argument_of_accepted haccepted]
      exact hmakes call hcall
  · intro call hcall
    rcases List.mem_append.mp hcall with hcall | hcall
    · obtain ⟨x, hx, hmade⟩ := hp.handed call hcall
      exact ⟨x, List.mem_append_left _ hx, hmade⟩
    · exact ⟨⟨t, v⟩, List.mem_append_right _ (List.mem_singleton.mpr rfl), hmakes call hcall⟩

theorem traced_run {P : List Call → σ → Prop} (emit : Emitter (StateM σ)) (package : String)
    (s : Session) (ts : List Task) (w : σ)
    (keeps : ∀ t ∈ ts, ∀ c calls w, t.Makes package s c → c.canonicalName ∉ calls.map Call.name →
      P calls w → P (calls ++ [⟨c, ((emit c).run w).1⟩]) ((emit c).run w).2)
    (hp : Accounted package done ledger calls p) (ht : Traced package s ledger calls p)
    (hw : P calls w) :
    ∃ ledger' calls' p' w', (ts.foldlM (step emit package) p).run w = (p', w') ∧
      (ts.foldlM (step emit.recording package) p).run (w, calls) = (p', w', calls') ∧
      Accounted package (done ++ ts) ledger' calls' p' ∧ Traced package s ledger' calls' p' ∧
      P calls' w' := by
  induction ts generalizing done ledger calls p w with
  | nil =>
    refine ⟨ledger, calls, p, w, rfl, rfl, ?_, ht, hw⟩
    rwa [List.append_nil]
  | cons t ts ih =>
    obtain ⟨q, u, v, more, hplain, hrecorded, hsettles⟩ := settles_step emit package p t w
    obtain ⟨hhands, hsession⟩ := hands_of_step ht.session (hrecorded calls)
    have hu : P (calls ++ more) u := by
      cases hhands with
      | nothing => simpa using hw
      | one c made new => exact keeps t List.mem_cons_self c calls w made new hw
    obtain ⟨ledger', calls', p', w', hrest, hrest', hp', ht', hw'⟩ :=
      ih u (fun t ht => keeps t (List.mem_cons_of_mem _ ht)) (hp.step hsettles)
        (ht.step hsettles hhands hsession) hu
    refine ⟨ledger', calls', p', w', ?_, ?_, ?_, ht', hw'⟩
    · rw [List.foldlM_cons, StateT.run_bind, hplain]
      exact hrest
    · rw [List.foldlM_cons, StateT.run_bind, hrecorded]
      exact hrest'
    · rwa [List.append_assoc] at hp'

theorem traced_generateAll {P : List Call → σ → Prop} (l : LoadedDocument) (settings : Settings)
    (package : String) (emit : Emitter (StateM σ)) (w : σ)
    (keeps : ∀ t ∈ l.tasks, ∀ c calls w, t.Makes package (start l settings).session c →
      c.canonicalName ∉ calls.map Call.name → P calls w →
      P (calls ++ [⟨c, ((emit c).run w).1⟩]) ((emit c).run w).2)
    (hw : P [] w) :
    ∃ ledger calls p w', (generateAll l settings package emit).run w = (p, w') ∧
      Accounted package l.tasks ledger calls p ∧
      Traced package (start l settings).session ledger calls p ∧ P calls w' := by
  have hp : Accounted package [] [] [] (start l settings) := by
    constructor <;> simp [start, failures]
  have ht : Traced package (start l settings).session [] [] (start l settings) :=
    ⟨rfl, List.nodup_nil, by simp, by simp⟩
  obtain ⟨ledger, calls, p, w', hrun, -, hp, ht, hw⟩ :=
    traced_run emit package (start l settings).session l.tasks w keeps hp ht hw
  exact ⟨ledger, calls, p, w', hrun, hp, ht, hw⟩

theorem Accounted.generated_of_clean (hp : Accounted package done ledger calls p)
    (clean : p.summary.isClean = true) (ht : t ∈ done) :
    (∃ c, ⟨t, .generated c⟩ ∈ ledger) ∨
      ∃ service, t = .parameters service ∧ service.hasParameters = false := by
  rw [← hp.tasks] at ht
  obtain ⟨⟨t, v⟩, hx, rfl⟩ := List.mem_map.mp ht
  have hconcerned := hp.concerned _ hx
  cases v with
  | generated c => exact .inl ⟨c, hx⟩
  | skipped uri =>
    cases t with
    | parameters service => exact .inr ⟨service, rfl, hconcerned.2⟩
    | model name schema => exact hconcerned.elim
  | failed e =>
    have hfailed : e ∈ p.summary.failed := by
      rw [hp.failed, List.mem_map]
      exact ⟨(t.entity, e), List.mem_filterMap.mpr ⟨_, hx, rfl⟩, rfl⟩
    rw [List.isEmpty_iff.mp clean] at hfailed
    simp at hfailed

structure Collected (package : String) (s : Session) (tasks : List Task) (p : Progress)
    (classes : List ClassDecl) : Prop where
  names : p.summary.generated = classes.map ClassDecl.canonicalName
  made : ∀ c ∈ classes, ∃ t ∈ tasks, t.Makes package s c
  served : p.summary.isClean = true → ∀ t ∈ tasks, (∃ c ∈ classes, t.Makes package s c) ∨
    ∃ service, t = .parameters service ∧ service.hasParameters = false

theorem collected_of_run {l : LoadedDocument} {settings : Settings} {classes : List ClassDecl}
    (h : (generateAll l settings package Emitter.collecting).run [] = (p, classes)) :
    Collected package (start l settings).session l.tasks p classes := by
  obtain ⟨ledger, calls, p', classes', hrun, hp, ht, hall⟩ :=
    traced_generateAll (P := fun calls classes => calls.filterMap Call.accepted? = classes) l
      settings package Emitter.collecting [] (by
        rintro t - c calls _ - - rfl
        rw [List.filterMap_append]
        rfl) rfl
  obtain ⟨rfl, rfl⟩ := Prod.mk.inj (hrun.symm.trans h)
  rw [hp.emitted] at hall
  have hclasses : ∀ x ∈ ledger, ∀ c ∈ x.verdict.class?, c ∈ classes' := by
    intro x hx c hc
    rw [← hall]
    exact List.mem_filterMap.mpr ⟨x, hx, hc⟩
  refine ⟨?_, ?_, ?_⟩
  · rw [hp.generated, hall]
  · intro c hc
    rw [← hall] at hc
    obtain ⟨x, hx, hxc⟩ := List.mem_filterMap.mp hc
    exact ⟨x.task, hp.tasks ▸ List.mem_map_of_mem hx, ht.made x hx c hxc⟩
  · intro clean t htask
    rcases hp.generated_of_clean clean htask with ⟨c, hx⟩ | hunserved
    · exact .inl ⟨c, hclasses _ hx c rfl, ht.made _ hx c rfl⟩
    · exact .inr hunserved

section Clean

variable {l : LoadedDocument} {classes : List ClassDecl}

theorem Collected.modelClass (h : Collected package s l.tasks p classes)
    (clean : p.summary.isClean = true) {entry : String × Json}
    (hentry : entry ∈ l.document.schemas) :
    ∃ c ∈ classes, (Task.model entry.1 entry.2).Makes package s c := by
  rcases h.served clean _ (LoadedDocument.model_mem_tasks.mpr hentry) with hmade | ⟨service, hservice, -⟩
  · exact hmade
  · cases hservice

theorem Collected.parametersClass (h : Collected package s l.tasks p classes)
    (clean : p.summary.isClean = true) {service : Service} (hservice : service ∈ l.services)
    (hparameters : service.hasParameters = true) :
    ∃ c ∈ classes, (Task.parameters service).Makes package s c := by
  rcases h.served clean _ (LoadedDocument.parameters_mem_tasks.mpr hservice) with hmade | ⟨other, hother, hnone⟩
  · exact hmade
  · obtain rfl := Task.parameters.inj hother
    rw [hparameters] at hnone
    cases hnone

end Clean

end Generation

end ClientGen
