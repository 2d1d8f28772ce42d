import ClientGen.Proofs.Naming.Package
import ClientGen.Proofs.Text.CaseMap

/-! When a name that is put together from words is an identifier. Only the first character can be
in the way: a word may start with a digit, and the capital of a letter may lie outside ASCII. -/

namespace ClientGen

theorem isIdentifierChars_append {a : List Char} (ha : a ≠ []) (b : List Char) :
    isIdentifierChars (a ++ b) = (isIdentifierChars a && b.all isIdentifierPart) := by
  cases a with
  | nil => exact absurd rfl ha
  | cons c rest => rw [List.cons_append, isIdentifierChars, isIdentifierChars, List.all_append,
      Bool.and_assoc]

theorem isIdentifierPart_of_isAlphanum {c : Char} (h : c.isAlphanum = true) :
    isIdentifierPart c = true := by
  rw [isIdentifierPart, h, Bool.true_or, Bool.true_or]

theorem toNat_lt_of_isIdentifierStart {c : Char} (h : isIdentifierStart c = true) :
    c.toNat < 0x80 := by
  rw [isIdentifierStart, Bool.or_eq_true, Bool.or_eq_true, beq_iff_eq, beq_iff_eq] at h
  rcases h with (letter | rfl) | rfl
  · have halphanum : c.isAlphanum = true := by
      rw [Char.isAlphanum, letter, Bool.true_or]
    exact Naming.Chars.toNat_lt_of_isAlphanum halphanum
  · decide
  · decide

theorem toNat_le_of_isIdentifierStart {c : Char} (h : isIdentifierStart c = true) :
    c.toNat ≤ 'z'.toNat :=
  Naming.Chars.ascii_forall (P := fun c => isIdentifierStart c = true → c.toNat ≤ 'z'.toNat)
    (by decide) (toNat_lt_of_isIdentifierStart h) h

namespace Text

/-- The letters outside ASCII whose capitals are ASCII letters. -/
def asciiCapitals : List Char := ['ß', 'ı', 'ſ', 'ﬀ', 'ﬁ', 'ﬂ', 'ﬃ', 'ﬄ', 'ﬅ', 'ﬆ']

theorem special_identifiers : ∀ entry ∈ upperSpecial,
    isIdentifierChars (entry.2.map Char.ofNat) = true → Char.ofNat entry.1 ∈ asciiCapitals := by
  decide +kernel

theorem run_identifiers : ∀ r ∈ upperRuns, 'z'.toNat < r.first + r.shift ∨
    r.first = r.last ∧ Char.ofNat r.first ∈ asciiCapitals := by
  decide +kernel

theorem mem_asciiCapitals_of_run {r : CaseRun} (hr : r ∈ upperRuns) {c : Char} {n : Nat}
    (himage : r.image? c.toNat = some n) (hstart : isIdentifierStart (Char.ofNat n) = true) :
    c ∈ asciiCapitals := by
  have hnull : Char.ofNat n ≠ '\x00' := by
    intro hzero
    rw [hzero] at hstart
    cases hstart
  have hle : n ≤ 'z'.toNat := by
    rw [← toNat_ofNat_eq rfl hnull]
    exact toNat_le_of_isIdentifierStart hstart
  unfold CaseRun.image? at himage
  split at himage
  · rename_i hrange
    obtain rfl := Option.some.inj himage
    rcases run_identifiers r hr with hbig | ⟨hone, hmem⟩
    · omega
    · have hc : c.toNat = r.first := by omega
      rw [← hc, Char.ofNat_toNat] at hmem
      exact hmem
  · cases himage

theorem isIdentifier_upper_iff (c : Char) :
    isIdentifierChars (upper c) = true ↔ isIdentifierStart c = true ∨ c ∈ asciiCapitals := by
  have capitals : asciiCapitals.all (fun c => isIdentifierChars (upper c)) = true := by
    decide +kernel
  by_cases hascii : c.toNat < 0x80
  · have hsame : isIdentifierChars [c.toUpper] = isIdentifierStart c :=
      Naming.Chars.ascii_forall
        (P := fun c => isIdentifierChars [c.toUpper] = isIdentifierStart c)
        (by decide) hascii
    have hout : c ∉ asciiCapitals :=
      Naming.Chars.ascii_forall (P := fun c => c ∉ asciiCapitals) (by decide) hascii
    rw [upper_of_ascii hascii, hsame]
    simp [hout]
  · have hstart : isIdentifierStart c = false :=
      Bool.eq_false_iff.mpr fun h => hascii (toNat_lt_of_isIdentifierStart h)
    rw [hstart]
    constructor
    · intro h
      right
      rw [upper, if_neg hascii] at h
      unfold mapCase at h
      split at h
      · rename_i ns hspecial
        have hmem := special_identifiers _ (mem_of_lookup hspecial) h
        rwa [Char.ofNat_toNat] at hmem
      · split at h
        · rename_i n hrun
          obtain ⟨r, hr, himage⟩ := List.exists_of_findSome?_eq_some hrun
          rw [isIdentifierChars, List.all_nil, Bool.and_true] at h
          exact mem_asciiCapitals_of_run hr himage h
        · rw [isIdentifierChars, hstart, Bool.false_and] at h
          cases h
    · rintro (h | h)
      · cases h
      · exact List.all_eq_true.mp capitals c h

end Text

namespace Naming

open Text (asciiCapitals)

theorem isIdentifier_capitalize_iff {name : String} {c : Char} {rest : List Char}
    (h : name.toList = c :: rest) :
    isIdentifier (capitalize name) = true ↔
      (isIdentifierStart c = true ∨ c ∈ asciiCapitals) ∧
        ∀ d ∈ rest, isIdentifierPart d = true := by
  rw [isIdentifier, capitalize, String.toList_ofList, h, Chars.capitalize,
    isIdentifierChars_append (Text.upper_ne_nil c), Bool.and_eq_true, Text.isIdentifier_upper_iff,
    List.all_eq_true]

namespace Chars

theorem words_head (s : List Char) (h : words s ≠ []) :
    ∃ c w ws, words s = (c :: w) :: ws ∧ s.find? Char.isAlphanum = some c := by
  induction s with
  | nil => exact absurd rfl h
  | cons a s ih =>
    cases ha : a.isAlphanum with
    | false =>
      have hskip : words (a :: s) = words s := words_append_cons ha [] s
      rw [hskip] at h ⊢
      rw [List.find?_cons_of_neg (by rw [ha]; exact Bool.false_ne_true)]
      exact ih h
    | true =>
      obtain ⟨w, ws, hs⟩ := words_cons ha s
      exact ⟨a, w, ws, hs, List.find?_cons_of_pos ha⟩

end Chars

theorem Chars.IsFieldName.isIdentifier {s : List Char} (h : Chars.IsFieldName s) :
    isIdentifierChars s = true := by
  have hparts : ∀ rest : List Char, (∀ d ∈ rest, d.isAlphanum = true) →
      rest.all isIdentifierPart = true := fun rest hrest =>
    List.all_eq_true.mpr fun d hd => isIdentifierPart_of_isAlphanum (hrest d hd)
  cases h with
  | @letter c rest hc hrest =>
    have hstart : isIdentifierStart c = true :=
      Chars.ascii_forall (P := fun c => c.isLower = true → isIdentifierStart c = true) (by decide)
        (Chars.toNat_lt_of_isAlphanum (Chars.isAlphanum_of_isLower hc)) hc
    rw [isIdentifierChars, hstart, hparts rest hrest, Bool.and_true]
  | @digit c rest hc hrest =>
    exact hparts (c :: rest)
      (List.forall_mem_cons.mpr ⟨Chars.isAlphanum_of_isDigit hc, hrest⟩)

theorem Chars.IsFieldName.isIdentifier_capitalize {s : List Char} (h : Chars.IsFieldName s) :
    isIdentifierChars (Chars.capitalize s) = true := by
  obtain ⟨c, rest, rfl, -, -⟩ := h.head
  obtain ⟨hc, hrest⟩ := Bool.and_eq_true_iff.mp h.isIdentifier
  rw [Chars.capitalize, isIdentifierChars_append (Text.upper_ne_nil c),
    (Text.isIdentifier_upper_iff c).mpr (.inl hc), hrest, Bool.and_true]

theorem isIdentifier_typeName_iff {s suffix : String} (h : typeName s ≠ "")
    (hsuffix : suffix.toList.all Char.isAlphanum = true) :
    ∃ c, s.toList.find? Char.isAlphanum = some c ∧
      (isIdentifier (typeName s ++ suffix) = true ↔ c.isAlpha = true) := by
  have hwords : Chars.words s.toList ≠ [] := by
    intro hnone
    apply h
    rw [typeName, Chars.typeName, hnone]
    rfl
  obtain ⟨c, w, ws, hs, hfind⟩ := Chars.words_head s.toList hwords
  have hword : ∀ v ∈ (c :: w) :: ws, Chars.IsWord v :=
    fun v hv => Chars.isWord_of_mem_words (hs ▸ hv)
  have hfirst := (hword _ List.mem_cons_self).alphanum
  have hascii := Chars.toNat_lt_of_isAlphanum (hfirst c List.mem_cons_self)
  have hchars : (typeName s ++ suffix).toList =
      c.toUpper :: (w ++ ws.flatMap Chars.capitalize ++ suffix.toList) := by
    rw [String.toList_append, typeName, String.toList_ofList, Chars.typeName, hs,
      List.flatMap_cons, Chars.capitalize_cons hascii, List.cons_append, List.cons_append]
  have hrest : ∀ d ∈ w ++ ws.flatMap Chars.capitalize ++ suffix.toList,
      isIdentifierPart d = true := by
    intro d hd
    apply isIdentifierPart_of_isAlphanum
    rcases List.mem_append.mp hd with hd | hd
    · rcases List.mem_append.mp hd with hd | hd
      · exact hfirst d (List.mem_cons_of_mem _ hd)
      · obtain ⟨v, hv, hdv⟩ := List.mem_flatMap.mp hd
        exact (hword v (List.mem_cons_of_mem _ hv)).alphanum_capitalize d hdv
    · exact List.all_eq_true.mp hsuffix d hd
  have hstart : isIdentifierStart c.toUpper = c.isAlpha :=
    Chars.ascii_forall
      (P := fun c => c.isAlphanum = true → isIdentifierStart c.toUpper = c.isAlpha)
      (by decide) hascii (hfirst c List.mem_cons_self)
  refine ⟨c, hfind, ?_⟩
  rw [isIdentifier, hchars, isIdentifierChars, List.all_eq_true.mpr hrest, Bool.and_true, hstart]

end Naming

end ClientGen
