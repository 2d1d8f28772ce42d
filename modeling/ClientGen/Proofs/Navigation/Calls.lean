import ClientGen.Proofs.JavaSource.Chain
import ClientGen.Proofs.ModelClass.Parse
import ClientGen.Proofs.Naming.Segment

/-! The calls of a navigation method. A chain grows by one call for every segment of its path, and
the two methods of a relation go on from the same chain. -/

namespace ClientGen

open JavaSource (chainRoot chainCalls applied IsSpine isSpine_iff)

theorem Expr.callNames_eq (e : Expr) :
    e.callNames = (chainRoot e).callNames ++ (chainCalls e).map Prod.fst := by
  induction e using Expr.callNames.induct with
  | case1 receiver method args ih =>
    simp only [Expr.callNames, chainRoot, chainCalls, ih, List.map_append, List.map_cons,
      List.map_nil, List.append_assoc]
  | case2 owner method args => simp only [chainRoot, chainCalls, List.map_nil, List.append_nil]
  | case3 e hcall hstatic =>
    cases e with
    | call receiver method args => exact absurd rfl (hcall receiver method args)
    | _ => simp only [chainRoot, chainCalls, List.map_nil, List.append_nil]

namespace Navigation

open Naming

variable {settings : Settings} {package : String} {fields : List Field}

theorem isSpine_chain (settings : Settings) (package : String) (fields : List Field)
    (path : List String) :
    IsSpine (chain settings package fields path) (root settings package)
      (path.map fun segment => (segmentMethod segment, (segmentArgument? fields segment).toList)) :=
  ⟨by rw [applied, List.foldl_map]; rfl, fun _ _ _ h => by cases h⟩

theorem chainRoot_chain (settings : Settings) (package : String) (fields : List Field)
    (path : List String) :
    chainRoot (chain settings package fields path) = root settings package :=
  (isSpine_iff.mp (isSpine_chain settings package fields path)).1.symm

theorem chainCalls_chain (settings : Settings) (package : String) (fields : List Field)
    (path : List String) :
    chainCalls (chain settings package fields path) =
      path.map fun segment => (segmentMethod segment, (segmentArgument? fields segment).toList) :=
  (isSpine_iff.mp (isSpine_chain settings package fields path)).2.symm

theorem callNames_chain (settings : Settings) (package : String) (fields : List Field)
    (path : List String) :
    (chain settings package fields path).callNames =
      settings.apiMapAccessor :: path.map segmentMethod := by
  rw [Expr.callNames_eq, chainRoot_chain, chainCalls_chain, List.map_map]
  rfl

theorem isSome_segmentArgument? (fields : List Field) (segment : String) :
    (segmentArgument? fields segment).isSome = hasPlaceholder segment := by
  unfold segmentArgument?
  cases hasPlaceholder segment with
  | false => rfl
  | true => cases longestSuffixField? fields (typeName segment) <;> rfl

structure IsCallOf (segment : String) (call : String × List Expr) : Prop where
  method : call.1 = decapitalize (typeName segment)
  argument : Braced segment → ∃ argument, call.2 = [argument]
  bare : ¬ Braced segment → call.2 = []

theorem isCallOf_segment (fields : List Field) (segment : String) :
    IsCallOf segment (segmentMethod segment, (segmentArgument? fields segment).toList) := by
  have hsome := isSome_segmentArgument? fields segment
  refine ⟨rfl, fun hbraced => ?_, fun hbare => ?_⟩
  · rw [hasPlaceholder_iff.mpr hbraced] at hsome
    obtain ⟨argument, hargument⟩ := Option.isSome_iff_exists.mp hsome
    exact ⟨argument, by rw [hargument, Option.toList_some]⟩
  · rw [Bool.eq_false_iff.mpr (mt hasPlaceholder_iff.mp hbare)] at hsome
    have hnone := Option.isNone_iff_eq_none.mp (Option.isSome_eq_false_iff.mp hsome)
    rw [hnone, Option.toList_none]

/-- The methods lead over the path: from the chain `start` on the one calls nothing but the end, and
the other passes its parameter along first. -/
structure Paired (settings : Settings) (path : List String) (start : Expr) (parameter : Field)
    (p : NavigationPair) : Prop where
  name : p.explicit.name = p.derived.name
  returnType : p.explicit.returnType = p.derived.returnType
  derivedParameters : p.derived.parameters = []
  explicitParameters : p.explicit.parameters = [parameter]
  derivedBody : p.derived.body = [.returns (.call start settings.invokeMethod [])]
  explicitBody : p.explicit.body =
    [.returns (.call (.call start settings.parametersMethod [.param parameter.name])
      settings.invokeMethod [])]
  callNames : (Expr.call start settings.invokeMethod []).callNames =
    settings.apiMapAccessor :: path.map (fun segment => decapitalize (typeName segment)) ++
      [settings.invokeMethod]
  calls : List.Forall₂ IsCallOf path (chainCalls start)

theorem paired_pair (settings : Settings) (package : String) (fields : List Field)
    (relation type : String) (path : List String) (last : String) :
    Paired settings path (chain settings package fields path) (parametersArgument package last)
      (pair settings package fields relation type path last) := by
  refine ⟨rfl, rfl, rfl, rfl, rfl, rfl, ?_, ?_⟩
  · rw [Expr.callNames, callNames_chain]
    rfl
  · rw [chainCalls_chain, List.forall₂_map_right_iff, List.forall₂_same]
    exact fun segment _ => isCallOf_segment fields segment

/-- A path of one segment or more always yields two methods, and they lead over it. -/
theorem synthesize_paired (s : Session) (owner : ClassDecl) (package relation : String)
    (path : List String) (h : path ≠ []) :
    ∃ p start parameter, ((synthesize owner package relation path).run s).result = .ok p ∧
      Paired s.settings path start parameter p := by
  have hlast := List.getLast?_eq_some_getLast h
  refine ⟨_, _, _, ?_, paired_pair s.settings package owner.fields.toList relation (s.typeAt path)
    path (path.getLast h)⟩
  rw [run_synthesize hlast]

theorem synthesize_paired_of_items :
    ["Customers", "Orders/{orderId}", "Items"] ≠ [] ∧
      ∃ p start parameter, ((synthesize
          (({ packageName := "api.model", className := "Customer" } : ClassDecl).addField
            { name := "orderId", type := "Integer" })
          "api" "orders" ["Customers", "Orders/{orderId}", "Items"]).run
            (.new {} fun _ => none)).result = .ok p ∧
        Paired {} ["Customers", "Orders/{orderId}", "Items"] start parameter p :=
  ⟨by decide, synthesize_paired (.new {} fun _ => none) _ "api" "orders" _ (by decide)⟩

end Navigation

end ClientGen
