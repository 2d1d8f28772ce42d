import ClientGen.Proofs.Naming.Segment

/-! Type names as a projection. The type name of a text that other characters divide is put together
from those of its parts, and a type name is its own type name. -/

namespace ClientGen.Naming

namespace Chars

variable {s : List Char}

structure IsTypeName (s : List Char) : Prop where
  alphanum : ∀ c ∈ s, c.isAlphanum = true
  head : ∀ c ∈ s.head?, c.isLower = false

theorem isLower_toUpper {c : Char} (h : c.isAlphanum = true) : c.toUpper.isLower = false :=
  ascii_forall (P := fun c => c.toUpper.isLower = false) (by decide) (toNat_lt_of_isAlphanum h)

theorem toUpper_eq_self {c : Char} (h : c.isAlphanum = true) (hc : c.isLower = false) :
    c.toUpper = c :=
  ascii_forall (P := fun c => c.isLower = false → c.toUpper = c) (by decide)
    (toNat_lt_of_isAlphanum h) hc

theorem isTypeName_typeName (s : List Char) : IsTypeName (typeName s) := by
  refine ⟨isAlphanum_of_mem_typeName, ?_⟩
  cases h : s.find? Char.isAlphanum with
  | none =>
    rw [typeName_of_none h]
    simp
  | some c =>
    obtain ⟨rest, hname, -⟩ := names_of_first h
    rw [hname]
    rintro _ ⟨⟩
    exact isLower_toUpper (List.find?_some h)

theorem typeName_of_alphanum (h : ∀ c ∈ s, c.isAlphanum = true) : typeName s = capitalize s := by
  by_cases hs : s = []
  · rw [hs]
    rfl
  · rw [typeName, words_of_isWord ⟨hs, h⟩, List.flatMap_singleton]

theorem IsTypeName.capitalize_eq (h : IsTypeName s) : capitalize s = s := by
  cases s with
  | nil => rfl
  | cons c rest =>
    have hc : c.isAlphanum = true := h.alphanum c List.mem_cons_self
    rw [capitalize_cons (toNat_lt_of_isAlphanum hc), toUpper_eq_self hc (h.head c rfl)]

theorem typeName_eq_self_iff : typeName s = s ↔ IsTypeName s := by
  constructor
  · intro h
    rw [← h]
    exact isTypeName_typeName s
  · intro h
    rw [typeName_of_alphanum h.alphanum, h.capitalize_eq]

end Chars

theorem typeName_eq_self_iff {s : String} : typeName s = s ↔ Chars.IsTypeName s.toList := by
  rw [← Chars.typeName_eq_self_iff, typeName, ← String.toList_inj, String.toList_ofList]

/-- What a type name is made of, and what it is: the names of the parts of a text joined, a single
word capitalized, and in the end one of the texts that stay as they are. -/
theorem typeName_projection (s : String) :
    (∀ (a b : String) (c : Char), c.isAlphanum = false →
        typeName (a ++ String.singleton c ++ b) = typeName a ++ typeName b) ∧
      (∀ path : List String,
        typeName (String.intercalate "/" path) = String.join (path.map typeName)) ∧
      ((∀ c ∈ s.toList, c.isAlphanum = true) → typeName s = capitalize s) ∧
      (∀ c ∈ (typeName s).toList, c.isAlphanum = true) ∧
      (∀ c ∈ (typeName s).toList.head?, c.isLower = false) ∧
      (typeName s = s ↔ Chars.IsTypeName s.toList) ∧
      typeName (typeName s) = typeName s ∧
      capitalize (decapitalize (typeName s)) = typeName s := by
  have hname : Chars.IsTypeName (typeName s).toList := by
    rw [typeName, String.toList_ofList]
    exact Chars.isTypeName_typeName s.toList
  refine ⟨fun a b c hc => typeName_append_singleton hc a b, typeName_intercalate, fun hword => ?_,
    hname.alphanum, hname.head, typeName_eq_self_iff, typeName_eq_self_iff.mpr hname,
    capitalize_decapitalize_typeName s⟩
  rw [typeName, Chars.typeName_of_alphanum hword, capitalize]

theorem typeName_projection_of_lineItems :
    Char.isAlphanum 'é' = false ∧
      typeName ("/line" ++ String.singleton 'é' ++ "-items/") =
        typeName "/line" ++ typeName "-items/" ∧
      (∀ c ∈ "items".toList, c.isAlphanum = true) ∧ typeName "items" = capitalize "items" ∧
      'L' ∈ (typeName "/line").toList ∧ Char.isAlphanum 'L' = true ∧
      'L' ∈ (typeName "/line").toList.head? ∧ Char.isLower 'L' = false := by
  have hdivides : Char.isAlphanum 'é' = false := by decide
  have hword : ∀ c ∈ "items".toList, c.isAlphanum = true := List.all_eq_true.mp rfl
  have hmem : 'L' ∈ (typeName "/line").toList := by decide
  have hhead : 'L' ∈ (typeName "/line").toList.head? := by decide
  obtain ⟨happend, -, hcapital, -, -, -, -, -⟩ := typeName_projection "items"
  obtain ⟨-, -, -, halphanum, hfirst, -, -, -⟩ := typeName_projection "/line"
  exact ⟨hdivides, happend "/line" "-items/" 'é' hdivides, hword, hcapital hword, hmem,
    halphanum 'L' hmem, hhead, hfirst 'L' hhead⟩

end ClientGen.Naming
