import ClientGen.Proofs.ModelClass.Layout
import ClientGen.Proofs.Navigation.Calls
import ClientGen.Proofs.Navigation.Inference
import ClientGen.Proofs.Project.Settings

/-! The names that navigation methods write. Those that come from the settings are checked before
anything is made, and the name of a method starts with a word of its own. A call is named by a
segment alone, and is an identifier just where the segment starts with a letter. -/

namespace ClientGen

def Statement.callNames : Statement → List String
  | .assign _ value => value.callNames
  | .returns value => value.callNames

def Method.names (m : Method) : List String :=
  m.name :: (m.parameters.map Field.name ++ m.body.flatMap Statement.callNames)

namespace Navigation

def StartsWithLetter (segment : String) : Prop :=
  ∃ c, segment.toList.find? Char.isAlphanum = some c ∧ c.isAlpha = true

theorem isIdentifier_segmentMethod_iff (segment : String) :
    isIdentifier (segmentMethod segment) = true ↔ StartsWithLetter segment :=
  Naming.isIdentifier_decapitalize_typeName_iff segment

theorem isIdentifier_methodName (relation : String) :
    isIdentifier (methodName relation) = true := by
  have hparts : (Naming.Chars.capitalize (Naming.Chars.fieldName relation.toList)).all
      isIdentifierPart = true := by
    rcases Naming.Chars.fieldName_eq_nil_or_isFieldName relation.toList with hnil | hname
    · rw [hnil]
      rfl
    · exact List.all_eq_true.mpr (identifier_chars hname.isIdentifier_capitalize).2
  rw [isIdentifier, methodName, Naming.capitalize, Naming.fieldName, String.toList_append,
    String.toList_ofList, String.toList_ofList, String.toList_ofList,
    isIdentifierChars_append (by decide), hparts, Bool.and_true]
  decide

section Names

variable (settings : Settings) (package relation type last : String) (fields : List Field)
  (path : List String)

theorem names_derived :
    (pair settings package fields relation type path last).derived.names =
      methodName relation :: settings.apiMapAccessor ::
        (path.map segmentMethod ++ [settings.invokeMethod]) := by
  have hcalls := callNames_chain settings package fields path
  simp [pair, Method.names, Statement.callNames, Expr.callNames, hcalls]

theorem names_explicit :
    (pair settings package fields relation type path last).explicit.names =
      methodName relation :: segmentMethod last :: settings.apiMapAccessor ::
        (path.map segmentMethod ++ [settings.parametersMethod, settings.invokeMethod]) := by
  have hcalls := callNames_chain settings package fields path
  simp [pair, Method.names, Statement.callNames, Expr.callNames, parametersArgument, hcalls]

end Names

structure Named (path : List String) (p : NavigationPair) : Prop where
  name : isIdentifier p.derived.name = true
  sameName : p.explicit.name = p.derived.name
  derived : (∀ name ∈ p.derived.names, isIdentifier name = true) ↔
    ∀ segment ∈ path, StartsWithLetter segment
  explicit : (∀ name ∈ p.explicit.names, isIdentifier name = true) ↔
    ∀ segment ∈ path, StartsWithLetter segment

theorem named_pair {settings : Settings}
    (h : ∀ e ∈ ProjectConfig.identifiers settings, isIdentifier e.2 = true)
    (package relation type : String) (fields : List Field) {path : List String} {last : String}
    (hlast : path.getLast? = some last) :
    Named path (pair settings package fields relation type path last) := by
  obtain ⟨-, haccessor, hparameters, hinvoke⟩ :
      isIdentifier settings.apiMapClass = true ∧ isIdentifier settings.apiMapAccessor = true ∧
        isIdentifier settings.parametersMethod = true ∧
          isIdentifier settings.invokeMethod = true := by
    simpa [ProjectConfig.identifiers] using h
  have hname := isIdentifier_methodName relation
  have hmem : last ∈ path := List.mem_of_getLast? hlast
  refine ⟨hname, rfl, ?_, ?_⟩
  · rw [names_derived]
    simp [hname, haccessor, hinvoke, isIdentifier_segmentMethod_iff, or_imp, forall_and]
  · rw [names_explicit]
    simp [hname, haccessor, hparameters, hinvoke, isIdentifier_segmentMethod_iff, or_imp,
      forall_and]
    exact fun h => h last hmem

end Navigation

namespace ModelClass

open Navigation

/-- In a class made of a schema under settings that pass the checks, the methods after the accessors
are two for each relation, and nothing but a segment that starts with no letter brings in a name
that is no identifier. -/
theorem names_of_validated (config : ProjectConfig) (s : Session) (package entity : String)
    (schema : Json) (c : ClassDecl) (hvalid : config.validate = .ok ())
    (hsettings : s.settings = config.generator)
    (h : ((parse package entity schema).run s).result = .ok c) :
    ∃ pairs, List.Forall₂ (fun relation p => ∃ path, path? relation.2 = some path ∧ Named path p)
        (ModelSchema.parts schema).relations pairs ∧
      c.methods = accessors c ++ pairs.flatMap fun p => [p.derived, p.explicit] := by
  obtain ⟨m, hm, hmade⟩ := made_of_result h
  obtain ⟨-, rfl⟩ := ModelSchema.read_eq_ok_iff.mp hm
  obtain ⟨pairs, hpairs, hmethods⟩ := exists_overloads hmade.paths
  have hidentifiers := (ProjectConfig.validate_eq_ok_iff.mp hvalid).identifiers
  rw [← hsettings] at hidentifiers
  refine ⟨pairs, hpairs.imp fun relation p hp => ?_, by rw [hmade.methods, hmethods]⟩
  obtain ⟨path, last, hpath, hlast, rfl⟩ := pairAt_eq_some hp.made
  exact ⟨path, hpath, named_pair hidentifiers _ _ _ _ hlast⟩

def oddRelations : Json :=
  .object
    [("$linkedData", .object
      [("line-items", .array [.text "/customers/\x7bid\x7d", .text "line-items"]),
        ("codes", .array [.text "2fa"]), ("all", .array [.text "Orders", .text "\x7b\x7d"])])]

def acmeConfig : ProjectConfig := { project := { basePackage := some "com.acme" } }

theorem names_of_oddRelations :
    acmeConfig.validate = .ok () ∧
      ∃ c, ((parse "com.acme" "user" oddRelations).run
          (.new acmeConfig.generator fun _ => none)).result = .ok c ∧
        ∃ pairs, List.Forall₂
            (fun relation p => ∃ path, path? relation.2 = some path ∧ Named path p)
            (ModelSchema.parts oddRelations).relations pairs ∧
          c.methods = accessors c ++ pairs.flatMap fun p => [p.derived, p.explicit] := by
  have hvalid : acmeConfig.validate = .ok () := by rfl
  have made : ((parse "com.acme" "user" oddRelations).run
      (.new acmeConfig.generator fun _ => none)).result.toOption.isSome = true := by decide +kernel
  simp only [Option.isSome_iff_exists, toOption_eq_some] at made
  obtain ⟨c, hc⟩ := made
  exact ⟨hvalid, c, hc, names_of_validated acmeConfig (.new acmeConfig.generator fun _ => none)
    "com.acme" "user" oddRelations c hvalid rfl hc⟩

theorem names_not_identifiers :
    acmeConfig.validate = .ok () ∧
      ∃ c, ((parse "com.acme" "user" oddRelations).run
          (.new acmeConfig.generator fun _ => none)).result = .ok c ∧
        (∃ method ∈ c.methods, method.parameters.map Field.name = ["2fa"] ∧
          method.body.flatMap Statement.callNames =
            ["instance", "2fa", "withParameters", "httpGet"]) ∧
        (∃ method ∈ c.methods, method.parameters = [] ∧
          method.body.flatMap Statement.callNames = ["instance", "orders", "", "httpGet"]) ∧
        isIdentifier "2fa" = false ∧ isIdentifier "" = false := by
  have run : (((parse "com.acme" "user" oddRelations).run
      (.new acmeConfig.generator fun _ => none)).result.toOption.any fun c =>
        (c.methods.any fun method => method.parameters.map Field.name = ["2fa"] &&
          method.body.flatMap Statement.callNames =
            ["instance", "2fa", "withParameters", "httpGet"]) &&
        c.methods.any fun method => method.parameters = [] &&
          method.body.flatMap Statement.callNames = ["instance", "orders", "", "httpGet"]) =
      true := by
    decide +kernel
  obtain ⟨c, hc, run⟩ := exists_of_any_toOption run
  simp only [Bool.and_eq_true, List.any_eq_true, decide_eq_true_eq] at run
  exact ⟨by rfl, c, hc, run.1, run.2, by decide, by decide⟩

end ModelClass

end ClientGen
