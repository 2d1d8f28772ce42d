import ClientGen.Proofs.Naming.Identifier
import ClientGen.Proofs.Naming.TypeName

/-! The names of path segments and keys. From the first letter or digit on, the type name and the
field name of a text are spelled alike: they differ in its case, and the field name has an
underscore before a digit. So a placeholder ends in the capitalized field name of the key in it,
unless the key starts with a digit. -/

namespace ClientGen.Naming

namespace Chars

variable {s : List Char} {c : Char}

theorem words_of_first (h : s.find? Char.isAlphanum = some c) :
    ∃ w ws, words s = (c :: w) :: ws := by
  have hwords : words s ≠ [] := by
    intro hnone
    have hc := words_eq_nil_iff.mp hnone c (List.mem_of_find?_eq_some h)
    exact Bool.false_ne_true (hc.symm.trans (List.find?_some h))
  obtain ⟨d, w, ws, hs, hfind⟩ := words_head s hwords
  obtain rfl := Option.some.inj (hfind.symm.trans h)
  exact ⟨w, ws, hs⟩

theorem typeName_of_none (h : s.find? Char.isAlphanum = none) : typeName s = [] := by
  have hs : ∀ c ∈ s, c.isAlphanum = false := by simpa using h
  rw [typeName, words_eq_nil_iff.mpr hs, List.flatMap_nil]

theorem isDigit_of_isAlpha (h : c.isAlphanum = true) (hc : c.isAlpha = true) :
    c.isDigit = false :=
  ascii_forall (P := fun c => c.isAlpha = true → c.isDigit = false) (by decide)
    (toNat_lt_of_isAlphanum h) hc

theorem isAlphanum_toLower (h : c.isAlphanum = true) : c.toLower.isAlphanum = true :=
  (isLower_or_isDigit_toLower h).elim isAlphanum_of_isLower isAlphanum_of_isDigit

theorem names_of_first (h : s.find? Char.isAlphanum = some c) :
    ∃ rest, typeName s = c.toUpper :: rest ∧
      fieldName s = if c.isDigit then '_' :: c :: rest else c.toLower :: rest := by
  have hc : c.isAlphanum = true := List.find?_some h
  obtain ⟨w, ws, hs⟩ := words_of_first h
  refine ⟨w ++ ws.flatMap capitalize, ?_, fieldName_of_words hs hc⟩
  rw [typeName, hs, List.flatMap_cons, capitalize_cons (toNat_lt_of_isAlphanum hc),
    List.cons_append]

theorem capitalize_decapitalize_typeName (s : List Char) :
    capitalize (decapitalize (typeName s)) = typeName s := by
  cases h : s.find? Char.isAlphanum with
  | none => rw [typeName_of_none h, decapitalize, capitalize]
  | some c =>
    obtain ⟨-, -, hupper, -⟩ := case_of_isAlphanum (List.find?_some h)
    have hc : c.toUpper.isAlphanum = true := isAlphanum_toUpper (List.find?_some h)
    obtain ⟨-, hlower, -, -⟩ := case_of_isAlphanum hc
    obtain ⟨rest, hname, -⟩ := names_of_first h
    rw [hname, decapitalize_cons (toNat_lt_of_isAlphanum hc),
      capitalize_cons (toNat_lt_of_isAlphanum (isAlphanum_toLower hc)), hlower, hupper]

theorem capitalize_fieldName (h : s.find? Char.isAlphanum = some c) (hc : c.isAlpha = true) :
    capitalize (fieldName s) = typeName s := by
  have halphanum : c.isAlphanum = true := List.find?_some h
  obtain ⟨-, hlower, -, -⟩ := case_of_isAlphanum halphanum
  obtain ⟨rest, hname, hfield⟩ := names_of_first h
  rw [hfield, isDigit_of_isAlpha halphanum hc, if_neg Bool.false_ne_true,
    capitalize_cons (toNat_lt_of_isAlphanum (isAlphanum_toLower halphanum)),
    hlower, hname]

theorem fieldName_of_digit (h : s.find? Char.isAlphanum = some c) (hc : c.isDigit = true) :
    fieldName s = '_' :: typeName s := by
  obtain ⟨-, -, -, hdigit⟩ := case_of_isAlphanum (List.find?_some h)
  obtain ⟨rest, hname, hfield⟩ := names_of_first h
  rw [hfield, if_pos hc, hname, (hdigit hc).2]

theorem isAlphanum_of_mem_typeName : ∀ d ∈ typeName s, d.isAlphanum = true := by
  intro d hd
  obtain ⟨w, hw, hd⟩ := List.mem_flatMap.mp hd
  exact (isWord_of_mem_words hw).alphanum_capitalize d hd

def Braced (s : List Char) : Prop :=
  ∃ before inside after, s = before ++ '\x7b' :: (inside ++ '\x7d' :: after)

theorem mem_dropWhile_of_braced (h : Braced s) : '\x7d' ∈ s.dropWhile (· ≠ '\x7b') := by
  obtain ⟨before, inside, after, rfl⟩ := h
  -- on what stands before the brace, where another brace may open
  induction before with
  | nil => simp
  | cons a before ih =>
    rw [List.cons_append, List.dropWhile_cons]
    split
    · exact ih
    · simp

theorem hasPlaceholder_iff : hasPlaceholder s = true ↔ Braced s := by
  rw [hasPlaceholder, List.contains_iff_mem]
  refine ⟨fun hclose => ?_, mem_dropWhile_of_braced⟩
  obtain ⟨a, rest, hs⟩ := List.exists_cons_of_ne_nil (List.ne_nil_of_mem hclose)
  have hopen : a = '\x7b' := by
    have hhead := List.head?_dropWhile_not (fun a => decide (a ≠ '\x7b')) s
    rw [hs] at hhead
    simpa using hhead
  subst hopen
  obtain ⟨inside, after, rfl⟩ : ∃ inside after, rest = inside ++ '\x7d' :: after := by
    rw [hs, List.mem_cons] at hclose
    exact List.append_of_mem (hclose.resolve_left (by decide))
  refine ⟨s.takeWhile (· ≠ '\x7b'), inside, after, ?_⟩
  rw [← hs, List.takeWhile_append_dropWhile]

end Chars

def Braced (segment : String) : Prop :=
  ∃ before inside after, segment = before ++ "\x7b" ++ inside ++ "\x7d" ++ after

theorem hasPlaceholder_iff {segment : String} : hasPlaceholder segment = true ↔ Braced segment := by
  rw [hasPlaceholder, Chars.hasPlaceholder_iff]
  constructor
  · rintro ⟨before, inside, after, h⟩
    refine ⟨.ofList before, .ofList inside, .ofList after, String.toList_inj.mp ?_⟩
    simp [h]
  · rintro ⟨before, inside, after, rfl⟩
    exact ⟨before.toList, inside.toList, after.toList, by simp⟩

theorem typeName_ne_empty_iff {s : String} :
    typeName s ≠ "" ↔ ∃ c ∈ s.toList, c.isAlphanum = true := by
  rw [← List.find?_isSome, typeName]
  cases h : s.toList.find? Char.isAlphanum with
  | none => simp [Chars.typeName_of_none h]
  | some c =>
    obtain ⟨rest, hname, -⟩ := Chars.names_of_first h
    simp [hname]

theorem capitalize_decapitalize_typeName (s : String) :
    capitalize (decapitalize (typeName s)) = typeName s := by
  simp only [capitalize, decapitalize, typeName, String.toList_ofList,
    Chars.capitalize_decapitalize_typeName]

theorem isIdentifier_decapitalize_typeName_iff (s : String) :
    isIdentifier (decapitalize (typeName s)) = true ↔
      ∃ c, s.toList.find? Char.isAlphanum = some c ∧ c.isAlpha = true := by
  rw [isIdentifier, decapitalize, typeName, String.toList_ofList, String.toList_ofList]
  cases h : s.toList.find? Char.isAlphanum with
  | none =>
    rw [Chars.typeName_of_none h]
    simp [Chars.decapitalize, isIdentifierChars]
  | some c =>
    have hc : c.isAlphanum = true := List.find?_some h
    obtain ⟨rest, hname, -⟩ := Chars.names_of_first h
    have hrest : rest.all isIdentifierPart = true := by
      refine List.all_eq_true.mpr fun d hd => isIdentifierPart_of_isAlphanum ?_
      exact Chars.isAlphanum_of_mem_typeName d (hname ▸ List.mem_cons_of_mem _ hd)
    have hstart : isIdentifierStart c.toUpper.toLower = c.isAlpha :=
      Chars.ascii_forall
        (P := fun c => c.isAlphanum = true → isIdentifierStart c.toUpper.toLower = c.isAlpha)
        (by decide) (Chars.toNat_lt_of_isAlphanum hc) hc
    have hupper := Chars.toNat_lt_of_isAlphanum (Chars.isAlphanum_toUpper hc)
    rw [hname, Chars.decapitalize_cons hupper, isIdentifierChars, hstart, hrest, Bool.and_true]
    simp

theorem exists_first_of_fieldName {s : String} (h : fieldName s ≠ "") :
    ∃ c, s.toList.find? Char.isAlphanum = some c := by
  rw [← Option.isSome_iff_exists, List.find?_isSome]
  exact fieldName_ne_empty_iff.mp h

theorem capitalize_fieldName {s : String} {c : Char} (h : s.toList.find? Char.isAlphanum = some c)
    (hc : c.isAlpha = true) : capitalize (fieldName s) = typeName s := by
  simp only [capitalize, fieldName, typeName, String.toList_ofList,
    Chars.capitalize_fieldName h hc]

theorem not_suffix_of_digit {key s : String} {c : Char}
    (h : key.toList.find? Char.isAlphanum = some c) (hc : c.isDigit = true) :
    ¬ (capitalize (fieldName key)).toList <:+ (typeName s).toList := by
  have hname : (capitalize (fieldName key)).toList = '_' :: (typeName key).toList := by
    simp only [capitalize, fieldName, typeName, String.toList_ofList,
      Chars.fieldName_of_digit h hc, Chars.capitalize_cons (c := '_') (by decide)]
    rfl
  intro hsuffix
  have hmem : '_' ∈ Chars.typeName s.toList := by
    have := hsuffix.subset (hname ▸ List.mem_cons_self)
    rwa [typeName, String.toList_ofList] at this
  exact absurd (Chars.isAlphanum_of_mem_typeName '_' hmem) (by decide)

theorem typeName_placeholder (text key : String) :
    typeName (text ++ "\x7b" ++ key ++ "\x7d") = typeName text ++ typeName key := by
  have hclose : typeName (text ++ "\x7b" ++ key ++ "\x7d") = typeName (text ++ "\x7b" ++ key) := by
    have := typeName_append_singleton (c := '\x7d') (by decide) (text ++ "\x7b" ++ key) ""
    rwa [String.append_empty, show typeName "" = "" from rfl, String.append_empty] at this
  rw [hclose, show "\x7b" = String.singleton '\x7b' from rfl,
    typeName_append_singleton (by decide)]

end ClientGen.Naming
