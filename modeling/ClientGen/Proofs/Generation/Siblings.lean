import ClientGen.Proofs.Document.Revision
import ClientGen.Proofs.Generation.Handing

/-! One schema is given another value. The only thing that the tasks after it could see is whether
the name of its class is registered, and they look at that only where the name is theirs. -/

namespace ClientGen

def Task.Apart (schema : String) : Task → Prop
  | .parameters _ => True
  | .model name _ => Naming.capitalize name ≠ Naming.capitalize schema

theorem Task.Apart.canonicalName_ne {schema : String} {t : Task} (h : t.Apart schema)
    (package : String) : t.canonicalName package ≠ TypeTable.modelType package schema := by
  cases t with
  | parameters service => exact ParametersClass.canonicalName_ne_modelType package service schema
  | model name _ => exact fun heq => h (TypeTable.modelType_inj.mp heq)

theorem LoadedDocument.tasks_of_schemas {l : LoadedDocument} {first last : List (String × Json)}
    {schema : String} {x : Json} (h : l.document.schemas = first ++ (schema, x) :: last) :
    l.tasks = (l.services.map Task.parameters ++ first.map fun entry => .model entry.1 entry.2) ++
      .model schema x :: last.map fun entry => .model entry.1 entry.2 := by
  rw [tasks, h, List.map_append, List.append_assoc]
  rfl

namespace Generation

variable {package name : String} {s : Session} {before after : List Task} {t u other : Task}

theorem getElem?_results_of_revised (ht : t.canonicalName package = name)
    (hu : u.canonicalName package = name) {i : Nat}
    (hother : (before ++ t :: after)[i]? = some other)
    (hname : other.canonicalName package ≠ name) :
    (before ++ u :: after)[i]? = some other ∧
      (results package s (before ++ u :: after))[i]? =
        (results package s (before ++ t :: after))[i]? := by
  rw [results_append, results_append]
  rcases Nat.lt_trichotomy i before.length with hlt | rfl | hgt
  · have hlt' : i < (results package s before).length := by rwa [length_results]
    rw [List.getElem?_append_left hlt] at hother ⊢
    rw [List.getElem?_append_left hlt', List.getElem?_append_left hlt']
    exact ⟨hother, rfl⟩
  · rw [List.getElem?_append_right (Nat.le_refl _), Nat.sub_self] at hother
    obtain rfl : t = other := Option.some.inj hother
    exact absurd ht hname
  · obtain ⟨k, rfl⟩ := Nat.exists_eq_add_of_lt hgt
    have hle : (results package s before).length ≤ before.length + k + 1 := by
      rw [length_results]
      omega
    have hindex : before.length + k + 1 - before.length = k + 1 := by omega
    rw [List.getElem?_append_right (by omega), hindex, List.getElem?_cons_succ] at hother ⊢
    rw [List.getElem?_append_right hle, List.getElem?_append_right hle, length_results, hindex,
      results, results, List.getElem?_cons_succ, List.getElem?_cons_succ]
    refine ⟨hother, getElem?_results_congr (Task.alike_after (.refl _) package u t) ?_ hother hname⟩
    intro n hn
    rw [Task.contains_after, Task.contains_after, ht, hu, beq_false_of_ne hn, Bool.and_false,
      Bool.and_false]

variable {l : LoadedDocument} {d : Document} {settings : Settings} {base : String}

/-- Of two documents that differ in the value of one schema, both are accepted or neither. Every
resource, and every schema whose class has another name, comes to the same in the runs over them. -/
theorem results_of_revised_schema {first last : List (String × Json)} {schema : String} {x y : Json}
    (hd : d.schemas = first ++ (schema, x) :: last) (loadSettings : Settings) :
    let d' : Document := { d with schemas := first ++ (schema, y) :: last }
    LoadedDocument.load d' loadSettings base =
        ((LoadedDocument.load d loadSettings base).1,
          (LoadedDocument.load d loadSettings base).2.map (·.withDocument d')) ∧
      ∀ l, (LoadedDocument.load d loadSettings base).2 = .ok l →
        ∀ settings package, ∃ p classes p' classes',
          (generateAll l settings package Emitter.collecting).run [] = (p, classes) ∧
          (generateAll (l.withDocument d') settings package Emitter.collecting).run [] =
            (p', classes') ∧
          Collects (resultsOf l settings package) classes p.summary ∧
          Collects (resultsOf (l.withDocument d') settings package) classes' p'.summary ∧
          ∀ (i : Nat) (t : Task), l.tasks[i]? = some t → t.Apart schema →
            (l.withDocument d').tasks[i]? = some t ∧
              ∃ r, (resultsOf l settings package)[i]? = some r ∧
                (resultsOf (l.withDocument d') settings package)[i]? = some r := by
  intro d'
  have houtline : d.SameOutline d' := ⟨by rw [hd, List.map_append, List.map_append]; rfl, rfl⟩
  refine ⟨LoadedDocument.load_of_sameOutline houtline loadSettings base, fun l hl => ?_⟩
  obtain ⟨-, hdocument, -, -⟩ := LoadedDocument.load_eq_ok hl
  intro settings package
  match hrun : (generateAll l settings package Emitter.collecting).run [],
    hrun' : (generateAll (l.withDocument d') settings package Emitter.collecting).run [] with
  | (p, classes), (p', classes') =>
    refine ⟨p, classes, p', classes', rfl, rfl, collects_of_run hrun, collects_of_run hrun', ?_⟩
    intro i t ht hapart
    have htasks := LoadedDocument.tasks_of_schemas (l := l) (hdocument ▸ hd)
    have htasks' := LoadedDocument.tasks_of_schemas (l := l.withDocument d')
      (show d'.schemas = first ++ (schema, y) :: last from rfl)
    have hlength : i < (resultsOf l settings package).length := by
      rw [resultsOf, length_results]
      exact (List.getElem?_eq_some_iff.mp ht).1
    rw [htasks] at ht
    obtain ⟨ht', hresult⟩ := getElem?_results_of_revised (s := (start l settings).session)
      (t := .model schema x) (u := .model schema y) rfl rfl ht (hapart.canonicalName_ne package)
    rw [htasks']
    refine ⟨ht', (resultsOf l settings package)[i], List.getElem?_eq_getElem hlength, ?_⟩
    rw [← htasks] at hresult
    have hrevised : resultsOf (l.withDocument d') settings package = results package
        (start l settings).session (l.withDocument d').tasks := rfl
    rw [hrevised, htasks']
    exact hresult.trans (List.getElem?_eq_getElem hlength)

def partsAround (part : Json) : Document :=
  { schemas :=
      [("order", .object [("properties", .object [("part", .object [("$ref", .text "part")])])]),
        ("part", part), ("Part", .object []), ("customer", .object [])]
    resources :=
      [{ uri := "/parts"
         actions := [("get", { queryParameters := [("kind", .object [])] })] }] }

theorem results_of_broken_part :
    ∃ l, (LoadedDocument.load (partsAround (.object [])) {} "api").2 = .ok l ∧
      ∀ (i : Nat) (t : Task), l.tasks[i]? = some t → t.Apart "part" →
        (l.withDocument (partsAround .null)).tasks[i]? = some t ∧
          ∃ r, (resultsOf l {} "api")[i]? = some r ∧
            (resultsOf (l.withDocument (partsAround .null)) {} "api")[i]? = some r := by
  have loaded :
      (LoadedDocument.load (partsAround (.object [])) {} "api").2.toOption.isSome = true := by
    decide +kernel
  simp only [Option.isSome_iff_exists, toOption_eq_some] at loaded
  obtain ⟨l, hl⟩ := loaded
  have hschemas : (partsAround (.object [])).schemas =
      (partsAround (.object [])).schemas.take 1 ++ ("part", .object []) ::
        (partsAround (.object [])).schemas.drop 2 := rfl
  obtain ⟨p, classes, p', classes', -, -, -, -, hsame⟩ :=
    (results_of_revised_schema (y := .null) hschemas {}).2 l hl {} "api"
  exact ⟨l, hl, hsame⟩

end Generation

end ClientGen
