import ClientGen.Proofs.Naming.Segment

/-! Field names as a normal form of names. Made once more into a field name, a field name stays as
it is, although the underscore before a digit is itself no letter or digit; and no other text does. -/

namespace ClientGen.Naming

namespace Chars

variable {s : List Char}

theorem IsFieldName.fieldName_eq (h : IsFieldName s) : fieldName s = s := by
  cases h with
  | @letter c rest hc hr =>
    have halphanum := isAlphanum_of_isLower hc
    obtain ⟨-, hdigit, hlower⟩ := case_of_isLower hc
    rw [fieldName_of_words (words_of_isWord (isWord_cons halphanum hr)) halphanum, hdigit, hlower]
    simp
  | @digit c rest hc hr =>
    have halphanum := isAlphanum_of_isDigit hc
    -- the underscore is skipped, and comes back for the digit that it leaves in front
    have hwords : words ('_' :: c :: rest) = [c :: rest] :=
      (words_append_cons (by decide) [] (c :: rest)).trans
        (words_of_isWord (isWord_cons halphanum hr))
    rw [fieldName_of_words hwords halphanum, hc]
    simp

theorem IsFieldName.ascii_capitalize (h : IsFieldName s) : ∀ c ∈ capitalize s, c.toNat < 0x80 := by
  obtain ⟨c, rest, rfl, hc, -⟩ := h.head
  rw [capitalize_cons hc]
  refine List.forall_mem_cons.mpr ⟨?_, fun d hd => h.ascii d (List.mem_cons_of_mem _ hd)⟩
  exact ascii_forall (P := fun c => c.toUpper.toNat < 0x80) (by decide) hc

end Chars

def IsNormal (s : String) : Prop := s = "" ∨ Chars.IsFieldName s.toList

theorem isNormal_fieldName (s : String) : IsNormal (fieldName s) := by
  rw [IsNormal, fieldName, String.toList_ofList]
  refine (Chars.fieldName_eq_nil_or_isFieldName s.toList).imp (fun h => ?_) id
  rw [h]

theorem fieldName_eq_self_iff {s : String} : fieldName s = s ↔ IsNormal s := by
  constructor
  · intro h
    rw [← h]
    exact isNormal_fieldName s
  · rintro (rfl | h)
    · rfl
    · rw [fieldName, h.fieldName_eq, String.ofList_toList]

namespace IsNormal

variable {a b s : String}

theorem size_capitalize (h : IsNormal s) :
    (capitalize s).length = s.length ∧ (capitalize s).utf8ByteSize = s.utf8ByteSize := by
  obtain rfl | h := h
  · exact ⟨rfl, rfl⟩
  · have hchars : (capitalize s).toList = Chars.capitalize s.toList := String.toList_ofList
    have hlength : (capitalize s).toList.length = s.toList.length := by
      rw [hchars, h.length_capitalize]
    have hascii : ∀ c ∈ (capitalize s).toList, c.toNat < 0x80 := by
      rw [hchars]
      exact h.ascii_capitalize
    refine ⟨hlength, ?_⟩
    rw [utf8ByteSize_of_ascii hascii, utf8ByteSize_of_ascii h.ascii, hlength]

theorem eq_of_capitalize (ha : IsNormal a) (hb : IsNormal b) (h : capitalize a = capitalize b) :
    a = b := by
  have hlength : a.length = b.length := by
    rw [← ha.size_capitalize.1, h, hb.size_capitalize.1]
  obtain rfl | ha := ha
  · exact (String.length_eq_zero_iff.mp hlength.symm).symm
  · obtain rfl | hb := hb
    · exact String.length_eq_zero_iff.mp hlength
    · exact capitalize_inj ha hb h

end IsNormal

/-- What a name is made into as a field, and what becomes of field names: they are the texts that
stay as they are, and none of them is lost or grows when it is capitalized. -/
theorem fieldName_normal (s : String) :
    (fieldName s = "" ↔ ∀ c ∈ s.toList, c.isAlphanum = false) ∧
      (fieldName s ≠ "" → Chars.IsFieldName (fieldName s).toList) ∧
      fieldName (fieldName s) = fieldName s ∧
      (fieldName s = s ↔ IsNormal s) ∧
      (IsNormal s →
        (capitalize s).length = s.length ∧ (capitalize s).utf8ByteSize = s.utf8ByteSize) ∧
      (∀ t, IsNormal s → IsNormal t → capitalize s = capitalize t → s = t) ∧
      ∀ c, s.toList.find? Char.isAlphanum = some c → c.isAlpha = true →
        capitalize (fieldName s) = typeName s := by
  have hnormal := isNormal_fieldName s
  refine ⟨fieldName_eq_empty_iff, hnormal.resolve_left, fieldName_eq_self_iff.mpr hnormal,
    fieldName_eq_self_iff, fun h => h.size_capitalize, ?_, ?_⟩
  · exact fun t hs ht h => hs.eq_of_capitalize ht h
  · exact fun c hfirst hletter => capitalize_fieldName hfirst hletter

theorem fieldName_normal_of_pageSize :
    fieldName "-Page size" ≠ "" ∧ Chars.IsFieldName (fieldName "-Page size").toList ∧
      IsNormal "_2fa" ∧ (capitalize "_2fa").length = "_2fa".length ∧
      "-Page size".toList.find? Char.isAlphanum = some 'P' ∧ Char.isAlpha 'P' = true ∧
      capitalize (fieldName "-Page size") = typeName "-Page size" := by
  have hname : fieldName "-Page size" ≠ "" := fieldName_ne_empty_iff.mpr ⟨'P', by decide, rfl⟩
  have hshaped : Chars.IsFieldName ['_', '2', 'f', 'a'] :=
    .digit rfl (List.all_eq_true.mp rfl)
  have hcode : IsNormal "_2fa" := .inr hshaped
  have hfirst : "-Page size".toList.find? Char.isAlphanum = some 'P' := by decide
  obtain ⟨-, hshape, -, -, -, -, htype⟩ := fieldName_normal "-Page size"
  obtain ⟨-, -, -, -, hsize, -, -⟩ := fieldName_normal "_2fa"
  exact ⟨hname, hshape hname, hcode, (hsize hcode).1, hfirst, rfl, htype 'P' hfirst rfl⟩

end ClientGen.Naming
