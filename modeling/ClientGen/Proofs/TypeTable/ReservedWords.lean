import ClientGen.Accessors
import ClientGen.Output.JavaSource
import ClientGen.Proofs.Naming.Identifier
import ClientGen.Proofs.TypeTable.PropertyField
import Mathlib.Data.List.TakeWhile

/-! Field names have the shape of identifiers, but nothing keeps a reserved word from being one. It
comes out only of a name with no other word in it, since every further word would start with a
capital letter or a digit. -/

namespace ClientGen

namespace Naming

/-- The reserved keywords of Java, and its three literals that look like names. -/
def reservedWords : List String :=
  ["abstract", "assert", "boolean", "break", "byte", "case", "catch", "char", "class", "const",
    "continue", "default", "do", "double", "else", "enum", "extends", "final", "finally", "float",
    "for", "goto", "if", "implements", "import", "instanceof", "int", "interface", "long",
    "native", "new", "package", "private", "protected", "public", "return", "short", "static",
    "strictfp", "super", "switch", "synchronized", "this", "throw", "throws", "transient", "try",
    "void", "volatile", "while", "_", "true", "false", "null"]

def Spells (name word : String) : Prop :=
  ∃ before written after, name = before ++ written ++ after ∧
    (written = word ∨ written = capitalize word) ∧
      ∀ c ∈ before.toList ++ after.toList, c.isAlphanum = false

namespace Chars

theorem words_append_of_notAlphanum {before : List Char} (h : ∀ c ∈ before, c.isAlphanum = false)
    (s : List Char) : words (before ++ s) = words s := by
  induction before with
  | nil => rfl
  | cons c before ih =>
    obtain ⟨hc, hrest⟩ := List.forall_mem_cons.mp h
    exact (words_append_cons hc [] (before ++ s)).trans (ih hrest)

theorem exists_word {s : List Char} (h : words s ≠ []) :
    ∃ before v after, s = before ++ (v ++ after) ∧ (∀ c ∈ before, c.isAlphanum = false) ∧
      IsWord v ∧ words s = v :: words after := by
  induction s with
  | nil => exact absurd rfl h
  | cons c s ih =>
    cases hc : c.isAlphanum with
    | false =>
      have hskip : words (c :: s) = words s := words_append_cons hc [] s
      rw [hskip] at h ⊢
      obtain ⟨before, v, after, hs, hbefore, hv, hwords⟩ := ih h
      refine ⟨c :: before, v, after, by rw [hs, List.cons_append], ?_, hv, hwords⟩
      exact List.forall_mem_cons.mpr ⟨hc, hbefore⟩
    | true =>
      have hsplit := (List.takeWhile_append_dropWhile (p := Char.isAlphanum) (l := c :: s)).symm
      have hv : IsWord ((c :: s).takeWhile Char.isAlphanum) :=
        ⟨by simp [hc], fun d hd => List.mem_takeWhile_imp hd⟩
      refine ⟨[], _, _, hsplit, by simp, hv, ?_⟩
      nth_rewrite 1 [hsplit]
      refine words_append_of_isWord hv fun d hd => ?_
      have hstop := List.head?_dropWhile_not Char.isAlphanum (c :: s)
      rw [Option.mem_def.mp hd] at hstop
      simpa using hstop

variable {s w : List Char}

theorem decapitalize_eq_of_small (hw : ∀ c ∈ w, c.isLower = true) {v : List Char}
    (hv : v = w ∨ v = capitalize w) : decapitalize v = w := by
  cases w with
  | nil =>
    obtain rfl : v = [] := by simpa [capitalize] using hv
    rfl
  | cons c rest =>
    have hc := hw c List.mem_cons_self
    have hascii := toNat_lt_of_isAlphanum (isAlphanum_of_isLower hc)
    obtain ⟨hupper, -, hlower⟩ := case_of_isLower hc
    rcases hv with rfl | rfl
    · rw [decapitalize_cons hascii, hlower]
    · have hcapital := toNat_lt_of_isAlphanum (isAlphanum_toUpper (isAlphanum_of_isLower hc))
      rw [capitalize_cons hascii, decapitalize_cons hcapital, toLower_toUpper hascii hupper]

theorem isWord_of_small (hne : w ≠ []) (hw : ∀ c ∈ w, c.isLower = true) {v : List Char}
    (hv : v = w ∨ v = capitalize w) : IsWord v := by
  have hword : IsWord w := ⟨hne, fun c hc => isAlphanum_of_isLower (hw c hc)⟩
  rcases hv with rfl | rfl
  · exact hword
  · refine ⟨?_, hword.alphanum_capitalize⟩
    obtain ⟨c, rest, rfl⟩ := List.exists_cons_of_ne_nil hne
    rw [capitalize_cons (toNat_lt_of_isAlphanum (hword.alphanum c List.mem_cons_self))]
    exact List.cons_ne_nil _ _

theorem words_tail_eq_nil {v : List Char} {ws : List (List Char)} (h : words s = v :: ws)
    (hsmall : ∀ c ∈ fieldName s, c.isLower = true) : ws = [] := by
  cases ws with
  | nil => rfl
  | cons v' ws =>
    have hv' : IsWord v' := isWord_of_mem_words (s := s) (by simp [h])
    obtain ⟨a, rest, rfl⟩ := List.exists_cons_of_ne_nil hv'.ne_nil
    have ha := toNat_lt_of_isAlphanum (hv'.alphanum a List.mem_cons_self)
    have hmem : a.toUpper ∈ fieldName s := by
      unfold fieldName
      rw [h]
      simp only [List.flatMap_cons, capitalize_cons ha]
      split <;> simp
    have hcapital : a.toUpper.isLower = false :=
      ascii_forall (P := fun a => a.toUpper.isLower = false) (by decide) ha
    exact absurd (hsmall _ hmem) (Bool.eq_false_iff.mp hcapital)

theorem fieldName_of_word {v : List Char} (h : words s = [v]) :
    fieldName s =
      if (decapitalize v).head?.any Char.isDigit then '_' :: decapitalize v
      else decapitalize v := by
  unfold fieldName
  rw [h]
  simp only [List.flatMap_nil, List.append_nil]

theorem eq_or_eq_capitalize_of_decapitalize {v : List Char} (hv : IsWord v)
    (hsmall : ∀ c ∈ decapitalize v, c.isLower = true) :
    v = decapitalize v ∨ v = capitalize (decapitalize v) := by
  obtain ⟨c, rest, rfl⟩ := List.exists_cons_of_ne_nil hv.ne_nil
  have hc := hv.alphanum c List.mem_cons_self
  have hascii := toNat_lt_of_isAlphanum hc
  rw [decapitalize_cons hascii] at hsmall ⊢
  have hlower : c.toLower.isLower = true := hsmall _ List.mem_cons_self
  have hcase : c = c.toLower ∨ c = c.toLower.toUpper :=
    ascii_forall
      (P := fun c => c.toLower.isLower = true → c = c.toLower ∨ c = c.toLower.toUpper)
      (by decide) hascii hlower
  rw [capitalize_cons (toNat_lt_of_isAlphanum (isAlphanum_of_isLower hlower))]
  exact hcase.imp (congrArg (· :: rest)) (congrArg (· :: rest))

theorem fieldName_eq_small_iff (hne : w ≠ []) (hw : ∀ c ∈ w, c.isLower = true) :
    fieldName s = w ↔ ∃ before v after, s = before ++ (v ++ after) ∧
      (v = w ∨ v = capitalize w) ∧ ∀ c ∈ before ++ after, c.isAlphanum = false := by
  constructor
  · intro h
    have hwords : words s ≠ [] := by
      intro hnone
      rw [fieldName, hnone] at h
      exact hne h.symm
    obtain ⟨before, v, after, hs, hbefore, hv, hwords⟩ := exists_word hwords
    have hafter := words_tail_eq_nil hwords (h ▸ hw)
    rw [hafter] at hwords
    have hname : decapitalize v = w := by
      rw [fieldName_of_word hwords] at h
      split at h
      · cases hw '_' (h ▸ List.mem_cons_self)
      · exact h
    refine ⟨before, v, after, hs, ?_, List.forall_mem_append.mpr
      ⟨hbefore, words_eq_nil_iff.mp hafter⟩⟩
    rw [← hname] at hw ⊢
    exact eq_or_eq_capitalize_of_decapitalize hv hw
  · rintro ⟨before, v, after, rfl, hv, hout⟩
    obtain ⟨hbefore, hafter⟩ := List.forall_mem_append.mp hout
    have hv' := isWord_of_small hne hw hv
    have hwords : words (before ++ (v ++ after)) = [v] := by
      rw [words_append_of_notAlphanum hbefore, words_append_of_isWord hv' ?_,
        words_eq_nil_iff.mpr hafter]
      exact fun c hc => hafter c (List.mem_of_mem_head? hc)
    have hdigit : w.head?.any Char.isDigit = false := by
      obtain ⟨c, rest, rfl⟩ := List.exists_cons_of_ne_nil hne
      exact (case_of_isLower (hw c List.mem_cons_self)).2.1
    rw [fieldName_of_word hwords, decapitalize_eq_of_small hw hv, hdigit,
      if_neg Bool.false_ne_true]

end Chars

theorem fieldName_eq_iff_spells {name word : String} (hne : word ≠ "")
    (h : ∀ c ∈ word.toList, c.isLower = true) : fieldName name = word ↔ Spells name word := by
  have hchars : fieldName name = word ↔ Chars.fieldName name.toList = word.toList := by
    rw [← String.toList_inj, fieldName, String.toList_ofList]
  rw [hchars, Chars.fieldName_eq_small_iff (by simpa using hne) h]
  constructor
  · rintro ⟨before, v, after, hname, hv, hout⟩
    refine ⟨.ofList before, .ofList v, .ofList after, ?_, ?_, ?_⟩
    · rw [← String.toList_inj, hname]
      simp
    · rw [← String.toList_inj, ← String.toList_inj, capitalize]
      simpa using hv
    · simpa using hout
  · rintro ⟨before, written, after, rfl, hwritten, hout⟩
    refine ⟨before.toList, written.toList, after.toList, by simp, ?_, hout⟩
    rwa [← String.toList_inj, ← String.toList_inj, capitalize, String.toList_ofList] at hwritten

theorem reservedWords_small {word : String} (h : word ∈ reservedWords) :
    word = "_" ∨ word ≠ "" ∧ ∀ c ∈ word.toList, c.isLower = true := by
  have hall : ∀ word ∈ reservedWords,
      word = "_" ∨ word ≠ "" ∧ word.toList.all Char.isLower = true := by
    decide +kernel
  exact (hall word h).imp_right (And.imp_right List.all_eq_true.mp)

theorem fieldName_eq_empty_of_spells {name : String} (h : Spells name "_") :
    fieldName name = "" := by
  obtain ⟨before, written, after, rfl, hwritten, hout⟩ := h
  obtain ⟨hbefore, hafter⟩ := List.forall_mem_append.mp hout
  have hcapital : capitalize "_" = "_" := by decide
  rw [hcapital, or_self] at hwritten
  rw [fieldName_eq_empty_iff, hwritten, String.toList_append, String.toList_append]
  simp only [List.forall_mem_append]
  exact ⟨⟨hbefore, by simp⟩, hafter⟩

theorem fieldName_ne_underscore (name : String) : fieldName name ≠ "_" := by
  intro h
  have hchars : Chars.fieldName name.toList = ['_'] := by
    simpa [fieldName] using congrArg String.toList h
  rcases Chars.fieldName_eq_nil_or_isFieldName name.toList with hnil | hname
  · rw [hnil] at hchars
    cases hchars
  · rw [hchars] at hname
    cases hname with
    | letter hc => cases hc

theorem fieldName_mem_reservedWords_iff {name : String} (h : fieldName name ≠ "") :
    fieldName name ∈ reservedWords ↔ ∃ word ∈ reservedWords, Spells name word := by
  constructor
  · intro hmem
    obtain ⟨hne, hsmall⟩ :=
      (reservedWords_small hmem).resolve_left (fieldName_ne_underscore name)
    exact ⟨_, hmem, (fieldName_eq_iff_spells hne hsmall).mp rfl⟩
  · rintro ⟨word, hmem, hspells⟩
    rcases reservedWords_small hmem with rfl | ⟨hne, hsmall⟩
    · exact absurd (fieldName_eq_empty_of_spells hspells) h
    · rwa [(fieldName_eq_iff_spells hne hsmall).mpr hspells]

end Naming

namespace TypeTable

open Naming

/-- The field of a property is named by an identifier, which is a reserved word just where the
property is named by this word. -/
theorem fieldName_of_accepted (t : TypeTable) (entity name : String) (property : Json) (f : Field)
    (h : t.propertyField entity name property = .ok f) :
    isIdentifier f.name = true ∧
      (f.name ∈ reservedWords ↔ ∃ word ∈ reservedWords, Spells name word) := by
  obtain ⟨-, hne, -⟩ := propertyField_eq_ok h
  refine ⟨(isFieldName_of_propertyField h).isIdentifier, ?_⟩
  rw [name_of_propertyField h]
  exact fieldName_mem_reservedWords_iff hne

theorem fieldName_of_packages :
    ∃ f, builtin.propertyField "order" "-Package*" (.object []) = .ok f ∧
      isIdentifier f.name = true ∧
        (f.name ∈ reservedWords ↔ ∃ word ∈ reservedWords, Spells "-Package*" word) :=
  ⟨_, rfl, fieldName_of_accepted builtin "order" "-Package*" (.object []) _ rfl⟩

theorem reserved_field_declared :
    ∃ f, builtin.propertyField "order" "class" (.object []) = .ok f ∧ f.name ∈ reservedWords ∧
      JavaSource.fieldSource f = "    private Object class;\n" ∧
      JavaSource.methodSource (.setter f) =
        "    public void setClass(Object class) \x7b\n        this.class = class;\n    \x7d\n" ∧
      (Method.fluent "Order" f).parameters.map Field.name = ["class"] := by
  exact ⟨_, rfl, by decide, by decide +kernel, by decide +kernel, by decide⟩

end TypeTable

end ClientGen
