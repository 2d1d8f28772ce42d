import ClientGen.Proofs.Naming.TypeName
import ClientGen.Service

/-! The resource at the end of a path: what it is named like, and whether that is more than the last
segment. -/

namespace ClientGen

namespace Service

variable {services : List Service} {path : List String} {last : String} {r : Service}

def pathName (path : List String) : String := Naming.typeName (String.intercalate "/" path)

theorem select?_eq_some (hlast : path.getLast? = some last)
    (h : select? services path = some r) :
    r ∈ services ∧ (r.typeName = pathName path ∨
      r.typeName = Naming.typeName last ∧ ∀ other ∈ services, other.typeName ≠ pathName path) := by
  have hselect : (services.find? (·.typeName = pathName path) <|>
      services.find? (·.typeName = Naming.typeName last)) = some r := by
    rw [select?, hlast] at h
    exact h
  cases hwhole : services.find? (·.typeName = pathName path) with
  | some found =>
    rw [hwhole] at hselect
    obtain rfl := Option.some.inj hselect
    refine ⟨List.mem_of_find?_eq_some hwhole, .inl ?_⟩
    simpa using List.find?_some hwhole
  | none =>
    rw [hwhole] at hselect
    refine ⟨List.mem_of_find?_eq_some hselect, .inr ⟨by simpa using List.find?_some hselect, ?_⟩⟩
    simpa using List.find?_eq_none.mp hwhole

/-- The resource is named like the whole path, and not only for its last segment. -/
def Nested (r : Service) (path : List String) : Prop :=
  r.typeName = pathName path ∧ ∃ segment ∈ path.dropLast, Naming.typeName segment ≠ ""

theorem typeName_last_eq_iff (hlast : path.getLast? = some last)
    (h : select? services path = some r) :
    Naming.typeName last = r.typeName ↔ ¬ r.Nested path := by
  obtain ⟨hmem, hwhole | ⟨hname, hnone⟩⟩ := select?_eq_some hlast h
  · rw [Nested, and_iff_right hwhole, hwhole, eq_comm, pathName,
      Naming.typeName_intercalate_eq_last_iff hlast]
    simp
  · refine iff_of_true hname.symm ?_
    rintro ⟨hwhole, -⟩
    exact hnone r hmem hwhole

end Service

end ClientGen
