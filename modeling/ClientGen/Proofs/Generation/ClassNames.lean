import ClientGen.Proofs.Document.GetParameters
import ClientGen.Proofs.Generation.DryRun
import ClientGen.Proofs.Naming.Identifier

/-! The simple names of the classes of a run. No name is empty, but not every name is an identifier:
a document is valid as soon as its names have a letter or a digit somewhere. -/

namespace ClientGen

open Text (asciiCapitals)

variable {d : Document} {loadSettings settings : Settings} {base package : String}
  {l : LoadedDocument} {s : Session} {t : Task} {c : ClassDecl}

inductive Document.Names (d : Document) (c : ClassDecl) : Prop
  | resource (r : Resource) (declared : r ∈ d.resources)
    (name : c.className = r.typeName ++ "Parameters")
    (first : Char) (found : r.uri.toList.find? Char.isAlphanum = some first)
    (valid : isIdentifier c.className = true ↔ first.isAlpha = true)
  | schema (entry : String × Json) (declared : entry ∈ d.schemas)
    (name : c.className = Naming.capitalize entry.1)
    (first : Char) (rest : List Char) (chars : entry.1.toList = first :: rest)
    (valid : isIdentifier c.className = true ↔
      (isIdentifierStart first = true ∨ first ∈ asciiCapitals) ∧
        ∀ x ∈ rest, isIdentifierPart x = true)

theorem Task.Makes.names (hl : (LoadedDocument.load d loadSettings base).2 = .ok l)
    (ht : t ∈ l.tasks) (h : t.Makes package s c) : d.Names c := by
  obtain ⟨hvalid, hdocument, -, hservices⟩ := LoadedDocument.load_eq_ok hl
  have hvalid := Document.validate_eq_ok_iff.mp hvalid
  cases t with
  | parameters service =>
    have hservice := LoadedDocument.parameters_mem_tasks.mp ht
    obtain ⟨r, hr, hof⟩ := hservices.exists_of_mem_right hservice
    have hname : c.className = r.typeName ++ "Parameters" := by
      rw [h.concerns.2, hof.typeName]
    have hsuffix : "Parameters".toList.all Char.isAlphanum = true := by decide
    obtain ⟨first, hfirst, hiff⟩ :=
      Naming.isIdentifier_typeName_iff (hvalid.resources r hr).2 hsuffix
    refine .resource r hr hname first hfirst ?_
    rw [hname]
    exact hiff
  | model name schema =>
    have hentry : (name, schema) ∈ d.schemas := by
      rw [← hdocument]
      exact LoadedDocument.model_mem_tasks.mp ht
    have hname : c.className = Naming.capitalize name := h.concerns.2
    have hsome : Naming.typeName name ≠ "" := hvalid.schemas (name, schema) hentry
    cases hchars : name.toList with
    | nil =>
      have hnone : Naming.typeName name = "" := by
        rw [Naming.typeName, hchars]
        rfl
      exact absurd hnone hsome
    | cons first rest =>
      refine .schema (name, schema) hentry hname first rest hchars ?_
      rw [hname]
      exact Naming.isIdentifier_capitalize_iff hchars

namespace Generation

/-- Every class that a run hands to its emitter has a name, after a resource or a schema of the
document. It is an identifier where the first letter or digit of the URI is a letter, or where the
schema has a name that would be an identifier but for the case of its first letter. -/
theorem classNames_of_generateAll {σ : Type}
    (hl : (LoadedDocument.load d loadSettings base).2 = .ok l)
    (settings : Settings) (package : String) (emit : Emitter (StateM σ)) (w : σ) :
    ∃ p w' calls, Runs l settings package emit w p w' calls ∧
      p.summary.generated = (calls.filterMap Call.accepted?).map ClassDecl.canonicalName ∧
      ∀ call ∈ calls, call.argument.className ≠ "" ∧ d.Names call.argument := by
  obtain ⟨p, w', calls, hplain, hrecorded, hfollows, -, hmade⟩ :=
    follows_generateAll
      (Q := fun calls _ => ∀ call ∈ calls, ∃ t ∈ l.tasks,
        t.Makes package (start l settings).session call.argument)
      l settings package emit w (by
        intro t ht c calls u hmakes hcalls
        exact List.forall_mem_append.mpr
          ⟨hcalls, List.forall_mem_singleton.mpr ⟨t, ht, hmakes⟩⟩)
      (fun _ h => absurd h List.not_mem_nil)
  refine ⟨p, w', calls, ⟨hplain, hrecorded⟩, hfollows.generated, fun call hcall => ?_⟩
  obtain ⟨t, ht, hmakes⟩ := hmade call hcall
  exact ⟨hmakes.className_ne_empty hl ht, hmakes.names hl ht⟩

def oddNames : Document :=
  { schemas := [("line-item", .object [])]
    resources := [{ uri := "/2fa"
                    actions := [("get",
                      { queryParameters := [("code", .object [("type", .text "string")])] })] }] }

theorem classNames_of_odd_names :
    ∃ l p w' calls, (LoadedDocument.load oddNames {} "api").2 = .ok l ∧
      Runs l {} "api" Emitter.collecting [] p w' calls ∧
      ∀ call ∈ calls, call.argument.className ≠ "" ∧ oddNames.Names call.argument := by
  have loads : (LoadedDocument.load oddNames {} "api").2.toOption.isSome = true := by
    decide +kernel
  obtain ⟨l, hl⟩ := Option.isSome_iff_exists.mp loads
  have hload := toOption_eq_some.mp hl
  obtain ⟨p, w', calls, hruns, -, hnames⟩ :=
    classNames_of_generateAll hload {} "api" Emitter.collecting []
  exact ⟨l, p, w', calls, hload, hruns, hnames⟩

theorem className_not_identifier :
    isPackage "api" = true ∧
      ∃ l p classes, (LoadedDocument.load oddNames {} "api").2 = .ok l ∧
        (generateAll l {} "api" Emitter.collecting).run [] = (p, classes) ∧
        p.summary.isClean = true ∧
        classes.map ClassDecl.className = ["2faParameters", "Line-item"] ∧
        ∀ c ∈ classes, isIdentifier c.className = false := by
  have run : ((LoadedDocument.load oddNames {} "api").2.toOption.any fun l =>
      let (p, classes) := (generateAll l {} "api" Emitter.collecting).run []
      p.summary.isClean &&
        classes.map ClassDecl.className == ["2faParameters", "Line-item"] &&
        classes.all fun c => isIdentifier c.className == false) = true := by
    decide +kernel
  obtain ⟨l, hload, run⟩ := exists_of_any_toOption run
  have hpackage : isPackage "api" = true := by decide +kernel
  match hrun : (generateAll l {} "api" Emitter.collecting).run [] with
  | (p, classes) =>
    rw [hrun] at run
    simp only [Bool.and_eq_true, List.all_eq_true, beq_iff_eq] at run
    obtain ⟨⟨clean, hnames⟩, hinvalid⟩ := run
    exact ⟨hpackage, l, p, classes, hload, hrun, clean, hnames, hinvalid⟩

end Generation

end ClientGen
