import ClientGen.Naming
import Mathlib.Data.List.Basic

/-! The shape of field names. A field name is made of ASCII letters and digits and never
starts with a capital letter, so capitalizing it loses nothing. -/

namespace ClientGen.Naming.Chars

/-- The characters are gone through in rows, so that `decide` does not go deep. -/
theorem ascii_forall {P : Char → Prop}
    (h : ∀ high < 0x8, ∀ low < 0x10, P (Char.ofNat (0x10 * high + low))) {c : Char}
    (hc : c.toNat < 0x80) : P c := by
  have hrow := h (c.toNat / 0x10) (by omega) (c.toNat % 0x10) (by omega)
  rwa [Nat.div_add_mod, Char.ofNat_toNat] at hrow

theorem toNat_lt_of_isAlphanum {c : Char} (h : c.isAlphanum = true) : c.toNat < 0x80 := by
  have below : ∀ last : Char, last.toNat < 0x80 → c.val ≤ last.val → c.toNat < 0x80 :=
    fun last hlast hle => Nat.lt_of_le_of_lt (UInt32.le_iff_toNat_le.mp hle) hlast
  have h : (c.isUpper || c.isLower || c.isDigit) = true := h
  rw [Bool.or_eq_true, Bool.or_eq_true] at h
  rcases h with (upper | lower) | digit
  · exact below 'Z' (by decide) (of_decide_eq_true upper).2
  · exact below 'z' (by decide) (of_decide_eq_true (Bool.and_eq_true_iff.mp lower).2)
  · exact below '9' (by decide) (of_decide_eq_true (Bool.and_eq_true_iff.mp digit).2)

theorem isAlphanum_of_isLower {c : Char} (h : c.isLower = true) : c.isAlphanum = true := by
  show (c.isUpper || c.isLower || c.isDigit) = true
  rw [h, Bool.or_true, Bool.true_or]

theorem isAlphanum_of_isDigit {c : Char} (h : c.isDigit = true) : c.isAlphanum = true := by
  show (c.isUpper || c.isLower || c.isDigit) = true
  rw [h, Bool.or_true]

theorem case_of_isLower {c : Char} (h : c.isLower = true) :
    c.isUpper = false ∧ c.isDigit = false ∧ c.toLower = c :=
  ascii_forall
    (P := fun c => c.isLower = true → c.isUpper = false ∧ c.isDigit = false ∧ c.toLower = c)
    (by decide) (toNat_lt_of_isAlphanum (isAlphanum_of_isLower h)) h

theorem isAlphanum_toUpper {c : Char} (h : c.isAlphanum = true) : c.toUpper.isAlphanum = true :=
  ascii_forall (P := fun c => c.isAlphanum = true → c.toUpper.isAlphanum = true)
    (by decide) (toNat_lt_of_isAlphanum h) h

theorem isLower_or_isDigit_toLower {c : Char} (h : c.isAlphanum = true) :
    c.toLower.isLower = true ∨ c.toLower.isDigit = true :=
  ascii_forall
    (P := fun c => c.isAlphanum = true → c.toLower.isLower = true ∨ c.toLower.isDigit = true)
    (by decide) (toNat_lt_of_isAlphanum h) h

theorem case_of_isAlphanum {c : Char} (h : c.isAlphanum = true) :
    c.toLower.isDigit = c.isDigit ∧ c.toLower.toUpper = c.toUpper ∧
      c.toUpper.toUpper = c.toUpper ∧ (c.isDigit = true → c.toLower = c ∧ c.toUpper = c) :=
  ascii_forall
    (P := fun c => c.toLower.isDigit = c.isDigit ∧ c.toLower.toUpper = c.toUpper ∧
      c.toUpper.toUpper = c.toUpper ∧ (c.isDigit = true → c.toLower = c ∧ c.toUpper = c))
    (by decide) (toNat_lt_of_isAlphanum h)

theorem toLower_toUpper {c : Char} (hc : c.toNat < 0x80) (hu : c.isUpper = false) :
    c.toUpper.toLower = c :=
  ascii_forall (P := fun c => c.isUpper = false → c.toUpper.toLower = c) (by decide) hc hu

theorem toUpper_inj {c d : Char} (hc : c.toNat < 0x80) (hd : d.toNat < 0x80)
    (hcu : c.isUpper = false) (hdu : d.isUpper = false) (h : c.toUpper = d.toUpper) : c = d := by
  rw [← toLower_toUpper hc hcu, h, toLower_toUpper hd hdu]

theorem capitalize_cons {c : Char} (h : c.toNat < 0x80) (rest : List Char) :
    capitalize (c :: rest) = c.toUpper :: rest := by
  simp [capitalize, Text.upper_of_ascii h]

theorem decapitalize_cons {c : Char} (h : c.toNat < 0x80) (rest : List Char) :
    decapitalize (c :: rest) = c.toLower :: rest := by
  simp [decapitalize, Text.lower_of_ascii h]

theorem eq_false_of_mem_splitOnP {p : Char → Bool} {s w : List Char} (h : w ∈ s.splitOnP p) :
    ∀ c ∈ w, p c = false := by
  induction s generalizing w with
  | nil =>
    obtain rfl : w = [] := by simpa using h
    simp
  | cons a s ih =>
    rw [List.splitOnP_cons_eq_if_modifyHead] at h
    split at h
    · rcases List.mem_cons.mp h with rfl | h
      · simp
      · exact ih h
    · rename_i ha
      obtain ⟨first, rest, hs⟩ := List.exists_cons_of_ne_nil (List.splitOnP_ne_nil p s)
      rw [hs, List.modifyHead_cons] at h
      rcases List.mem_cons.mp h with rfl | h
      · intro c hc
        rcases List.mem_cons.mp hc with rfl | hc
        · simpa using ha
        · exact ih (hs ▸ List.mem_cons_self) c hc
      · exact ih (hs ▸ List.mem_cons_of_mem _ h)

theorem words_cons {c : Char} (hc : c.isAlphanum = true) (s : List Char) :
    ∃ w ws, words (c :: s) = (c :: w) :: ws := by
  obtain ⟨first, rest, hs⟩ :=
    List.exists_cons_of_ne_nil (List.splitOnP_ne_nil (fun c => !c.isAlphanum) s)
  have hsplit : (c :: s).splitOnP (fun c => !c.isAlphanum) = (c :: first) :: rest := by
    rw [List.splitOnP_cons_eq_if_modifyHead, if_neg (by simp [hc]), hs, List.modifyHead_cons]
  refine ⟨first, rest.filter (· ≠ []), ?_⟩
  rw [words, hsplit, List.filter_cons_of_pos (by simp)]

theorem words_eq_nil_iff {s : List Char} : words s = [] ↔ ∀ c ∈ s, c.isAlphanum = false := by
  induction s with
  | nil => simp [words]
  | cons c s ih =>
    cases hc : c.isAlphanum with
    | false =>
      have hskip : words (c :: s) = words s := words_append_cons hc [] s
      rw [hskip, ih, List.forall_mem_cons, and_iff_right hc]
    | true =>
      obtain ⟨w, ws, hs⟩ := words_cons hc s
      simp [hs, hc]

structure IsWord (w : List Char) : Prop where
  ne_nil : w ≠ []
  alphanum : ∀ c ∈ w, c.isAlphanum = true

theorem isWord_cons {c : Char} {rest : List Char} (hc : c.isAlphanum = true)
    (hr : ∀ d ∈ rest, d.isAlphanum = true) : IsWord (c :: rest) :=
  ⟨List.cons_ne_nil c rest, List.forall_mem_cons.mpr ⟨hc, hr⟩⟩

theorem isWord_of_mem_words {s w : List Char} (h : w ∈ words s) : IsWord w := by
  obtain ⟨hw, hne⟩ := List.mem_filter.mp h
  refine ⟨by simpa using hne, fun c hc => ?_⟩
  simpa using eq_false_of_mem_splitOnP hw c hc

theorem IsWord.alphanum_capitalize {w : List Char} (h : IsWord w) :
    ∀ c ∈ capitalize w, c.isAlphanum = true := by
  obtain ⟨a, rest, rfl⟩ := List.exists_cons_of_ne_nil h.ne_nil
  have ha := h.alphanum a List.mem_cons_self
  rw [capitalize_cons (toNat_lt_of_isAlphanum ha)]
  intro c hc
  rcases List.mem_cons.mp hc with rfl | hc
  · exact isAlphanum_toUpper ha
  · exact h.alphanum c (List.mem_cons_of_mem _ hc)

theorem words_of_isWord {w : List Char} (h : IsWord w) : words w = [w] := by
  have hsplit : w.splitOnP (fun c => !c.isAlphanum) = [w] :=
    List.splitOnP_eq_singleton fun c hc => by simp [h.alphanum c hc]
  rw [words, hsplit, List.filter_singleton]
  simp [h.ne_nil]

theorem words_append_of_isWord {v after : List Char} (hv : IsWord v)
    (hafter : ∀ c ∈ after.head?, c.isAlphanum = false) : words (v ++ after) = v :: words after := by
  cases after with
  | nil =>
    rw [List.append_nil, words_of_isWord hv]
    rfl
  | cons c after =>
    have hc := hafter c rfl
    have hskip : words (c :: after) = words after := words_append_cons hc [] after
    rw [words_append_cons hc, words_of_isWord hv, hskip, List.singleton_append]

theorem fieldName_of_words {s w : List Char} {c : Char} {ws : List (List Char)}
    (h : words s = (c :: w) :: ws) (hc : c.isAlphanum = true) :
    fieldName s = if c.isDigit then '_' :: c :: (w ++ ws.flatMap capitalize)
      else c.toLower :: (w ++ ws.flatMap capitalize) := by
  obtain ⟨hlower, -, -, hdigit⟩ := case_of_isAlphanum hc
  unfold fieldName
  rw [h]
  simp only [decapitalize_cons (toNat_lt_of_isAlphanum hc), List.cons_append, List.head?_cons,
    Option.any_some, hlower]
  split
  · rename_i h
    rw [(hdigit h).1]
  · rfl

/-- Letters and digits after a small letter, or after an underscore and a digit. -/
inductive IsFieldName : List Char → Prop
  | letter {c : Char} {rest : List Char} (hc : c.isLower = true)
    (hr : ∀ d ∈ rest, d.isAlphanum = true) : IsFieldName (c :: rest)
  | digit {c : Char} {rest : List Char} (hc : c.isDigit = true)
    (hr : ∀ d ∈ rest, d.isAlphanum = true) : IsFieldName ('_' :: c :: rest)

theorem fieldName_eq_nil_or_isFieldName (s : List Char) :
    fieldName s = [] ∨ IsFieldName (fieldName s) := by
  have hwords := fun w => isWord_of_mem_words (s := s) (w := w)
  cases hs : words s with
  | nil =>
    left
    rw [fieldName, hs]
  | cons w ws =>
    right
    rw [hs] at hwords
    have hw := hwords w List.mem_cons_self
    obtain ⟨a, rest, rfl⟩ := List.exists_cons_of_ne_nil hw.ne_nil
    have ha := hw.alphanum a List.mem_cons_self
    have tail : ∀ d ∈ rest ++ ws.flatMap capitalize, d.isAlphanum = true := by
      intro d hd
      rcases List.mem_append.mp hd with hd | hd
      · exact hw.alphanum d (List.mem_cons_of_mem _ hd)
      · obtain ⟨v, hv, hd⟩ := List.mem_flatMap.mp hd
        exact (hwords v (List.mem_cons_of_mem _ hv)).alphanum_capitalize d hd
    rw [fieldName_of_words hs ha]
    split
    · rename_i hdigit
      exact .digit hdigit tail
    · rename_i hdigit
      obtain ⟨hlower, -, -, -⟩ := case_of_isAlphanum ha
      rw [← hlower] at hdigit
      exact .letter ((isLower_or_isDigit_toLower ha).resolve_right hdigit) tail

theorem fieldName_eq_nil_iff {s : List Char} :
    fieldName s = [] ↔ ∀ c ∈ s, c.isAlphanum = false := by
  rw [← words_eq_nil_iff]
  cases hs : words s with
  | nil => simp [fieldName, hs]
  | cons w ws =>
    have hw : IsWord w := isWord_of_mem_words (hs ▸ List.mem_cons_self)
    obtain ⟨a, rest, rfl⟩ := List.exists_cons_of_ne_nil hw.ne_nil
    rw [fieldName_of_words hs (hw.alphanum a List.mem_cons_self)]
    split <;> simp

theorem IsFieldName.head {s : List Char} (h : IsFieldName s) :
    ∃ c rest, s = c :: rest ∧ c.toNat < 0x80 ∧ c.isUpper = false := by
  cases h with
  | @letter c rest hc hr =>
    obtain ⟨hupper, -, -⟩ := case_of_isLower hc
    exact ⟨c, rest, rfl, toNat_lt_of_isAlphanum (isAlphanum_of_isLower hc), hupper⟩
  | @digit c rest hc hr => exact ⟨'_', c :: rest, rfl, by decide, by decide⟩

theorem IsFieldName.ascii {s : List Char} (h : IsFieldName s) : ∀ c ∈ s, c.toNat < 0x80 := by
  cases h with
  | letter hc hr =>
    have hhead := toNat_lt_of_isAlphanum (isAlphanum_of_isLower hc)
    exact List.forall_mem_cons.mpr ⟨hhead, fun d hd => toNat_lt_of_isAlphanum (hr d hd)⟩
  | digit hc hr =>
    have hhead := toNat_lt_of_isAlphanum (isAlphanum_of_isDigit hc)
    exact List.forall_mem_cons.mpr ⟨by decide,
      List.forall_mem_cons.mpr ⟨hhead, fun d hd => toNat_lt_of_isAlphanum (hr d hd)⟩⟩

theorem IsFieldName.length_capitalize {s : List Char} (h : IsFieldName s) :
    (capitalize s).length = s.length := by
  obtain ⟨c, rest, rfl, hc, -⟩ := h.head
  rw [capitalize_cons hc, List.length_cons, List.length_cons]

theorem IsFieldName.capitalize_inj {a b : List Char} (ha : IsFieldName a) (hb : IsFieldName b)
    (h : capitalize a = capitalize b) : a = b := by
  obtain ⟨c, as, rfl, hc, hcu⟩ := ha.head
  obtain ⟨d, bs, rfl, hd, hdu⟩ := hb.head
  rw [capitalize_cons hc, capitalize_cons hd] at h
  obtain ⟨hhead, rfl⟩ := List.cons_eq_cons.mp h
  rw [toUpper_inj hc hd hcu hdu hhead]

end ClientGen.Naming.Chars

namespace ClientGen.Naming

theorem fieldName_eq_empty_iff {s : String} :
    fieldName s = "" ↔ ∀ c ∈ s.toList, c.isAlphanum = false := by
  rw [← Chars.fieldName_eq_nil_iff, fieldName]
  simp

theorem fieldName_ne_empty_iff {s : String} :
    fieldName s ≠ "" ↔ ∃ c ∈ s.toList, c.isAlphanum = true := by
  rw [Ne, fieldName_eq_empty_iff]
  simp only [not_forall, exists_prop, Bool.not_eq_false]

theorem capitalize_inj {a b : String} (ha : Chars.IsFieldName a.toList)
    (hb : Chars.IsFieldName b.toList) (h : capitalize a = capitalize b) : a = b := by
  have hchars : Chars.capitalize a.toList = Chars.capitalize b.toList := by
    simpa only [capitalize, String.toList_ofList] using congrArg String.toList h
  exact String.toList_inj.mp (ha.capitalize_inj hb hchars)

theorem utf8ByteSize_of_ascii {s : String} (h : ∀ c ∈ s.toList, c.toNat < 0x80) :
    s.utf8ByteSize = s.toList.length := by
  have bytes : ∀ cs : List Char, (∀ c ∈ cs, c.toNat < 0x80) →
      (String.ofList cs).utf8ByteSize = cs.length := by
    intro cs hcs
    induction cs with
    | nil => rfl
    | cons c rest ih =>
      obtain ⟨hc, hrest⟩ := List.forall_mem_cons.mp hcs
      have hsize : c.utf8Size = 1 :=
        Char.utf8Size_eq_one_iff.mpr (UInt32.le_iff_toNat_le.mpr (Nat.le_of_lt_succ hc))
      rw [String.ofList_cons, String.utf8ByteSize_append, String.utf8ByteSize_singleton, hsize,
        ih hrest, List.length_cons, Nat.add_comm]
  rw [← bytes s.toList h, String.ofList_toList]

end ClientGen.Naming
