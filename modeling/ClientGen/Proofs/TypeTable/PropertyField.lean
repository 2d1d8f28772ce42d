import ClientGen.Proofs.Naming.FieldName
import ClientGen.TypeTable

/-! The field of a property, where there is one: its name is a field name. -/

namespace ClientGen

theorem Field.wireName_withSerializedName (f : Field) (name : String) :
    (f.withSerializedName name).wireName = name := by
  show (if name = f.name then none else some name : Option String).getD f.name = name
  split <;> rename_i hname
  · exact hname.symm
  · rfl

namespace TypeTable

variable {t : TypeTable} {entity name : String} {property : Json} {f : Field}

theorem propertyField_eq_ok (h : t.propertyField entity name property = .ok f) :
    property.members?.isSome ∧ Naming.fieldName name ≠ "" ∧
      f = Field.withSerializedName
        { name := Naming.fieldName name
          type := (t.propertyType property).1
          collection := (t.propertyType property).2
          description := (property.get? "description").bind Json.text? } name := by
  unfold propertyField at h
  split at h
  · simp at h
  · rename_i members hm
    dsimp only at h
    split at h
    · simp at h
    · rename_i hne
      exact ⟨by simp [hm], hne, (Except.ok.inj h).symm⟩

theorem propertyField_eq_error {e : GenError}
    (h : t.propertyField entity name property = .error e) :
    ∃ fault, e = .invalidSchema entity fault := by
  unfold propertyField at h
  split at h
  · exact ⟨_, (Except.error.inj h).symm⟩
  · dsimp only at h
    split at h
    · exact ⟨_, (Except.error.inj h).symm⟩
    · simp at h

theorem name_of_propertyField (h : t.propertyField entity name property = .ok f) :
    f.name = Naming.fieldName name := by
  obtain ⟨-, -, rfl⟩ := propertyField_eq_ok h
  rfl

theorem wireName_of_propertyField (h : t.propertyField entity name property = .ok f) :
    f.wireName = name := by
  obtain ⟨-, -, rfl⟩ := propertyField_eq_ok h
  exact Field.wireName_withSerializedName _ name

theorem isFieldName_of_propertyField (h : t.propertyField entity name property = .ok f) :
    Naming.Chars.IsFieldName f.name.toList := by
  obtain ⟨-, hne, -⟩ := propertyField_eq_ok h
  rw [name_of_propertyField h]
  unfold Naming.fieldName at hne ⊢
  rw [String.toList_ofList]
  rcases Naming.Chars.fieldName_eq_nil_or_isFieldName name.toList with hnil | hname
  · simp [hnil] at hne
  · exact hname

end TypeTable

end ClientGen
