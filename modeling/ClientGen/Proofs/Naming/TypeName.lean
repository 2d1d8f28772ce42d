import ClientGen.Naming
import Mathlib.Data.List.Basic

/-! Type names of texts that are put together from segments. -/

namespace ClientGen.Naming

theorem typeName_append_singleton {c : Char} (h : c.isAlphanum = false) (a b : String) :
    typeName (a ++ String.singleton c ++ b) = typeName a ++ typeName b := by
  apply String.toList_inj.mp
  simp only [typeName, String.toList_append, String.toList_singleton, String.toList_ofList,
    List.append_assoc, List.singleton_append]
  exact Chars.typeName_append_cons h a.toList b.toList

theorem typeName_intercalate (path : List String) :
    typeName (String.intercalate "/" path) = String.join (path.map typeName) := by
  induction path with
  | nil => rfl
  | cons segment rest ih =>
    cases rest with
    | nil => simp
    | cons next rest =>
      rw [String.intercalate_cons_cons, show "/" = String.singleton '/' from rfl,
        typeName_append_singleton (by decide), List.map_cons, String.join_cons]
      exact congrArg _ ih

theorem join_eq_empty_iff (parts : List String) :
    String.join parts = "" ↔ ∀ part ∈ parts, part = "" := by
  induction parts with
  | nil => simp
  | cons part rest ih => simp [String.append_eq_empty_iff, ih]

theorem typeName_intercalate_eq_last_iff {path : List String} {last : String}
    (h : path.getLast? = some last) :
    typeName (String.intercalate "/" path) = typeName last ↔
      ∀ segment ∈ path.dropLast, typeName segment = "" := by
  have hpath : path.map typeName = path.dropLast.map typeName ++ [typeName last] := by
    rw [← List.map_singleton, ← List.map_append, List.dropLast_append_getLast? last h]
  rw [typeName_intercalate, hpath, String.join_append, String.join_cons, String.join_nil,
    String.append_empty, String.append_eq_right_iff, join_eq_empty_iff, List.forall_mem_map]

end ClientGen.Naming
