import ClientGen.Proofs.JavaSource.Translation

/-! String literals of Java sources, and what the escaped texts are read back as. A character is
escaped into characters that mean the same whatever follows, so the texts are put together from such
pieces. No piece ends in the middle of an escape, and none starts in one. -/

namespace ClientGen.JavaSource

def simpleEscapes : List (UInt16 × UInt16) :=
  [(unit 'b', 0x08), (unit 's', 0x20), (unit 't', 0x09), (unit 'n', 0x0a), (unit 'f', 0x0c),
    (unit 'r', 0x0d), (unit '"', unit '"'), (unit '\'', unit '\''), (unit '\\', unit '\\')]

def isOctalDigit (u : UInt16) : Bool := unit '0' ≤ u && u ≤ unit '7'

def octalDigits (s : List UInt16) : List UInt16 :=
  (s.take (if s.head?.any (· ≤ unit '3') then 3 else 2)).takeWhile isOctalDigit

/-- What a backslash before `s` stands for, and how many units of `s` it takes. -/
def escapeSequence? (s : List UInt16) : Option (UInt16 × Nat) :=
  match s.head?.bind fun u => simpleEscapes.lookup u with
  | some value => some (value, 1)
  | none =>
    let digits := octalDigits s
    if digits = [] then none
    else some (digits.foldl (fun n d => 8 * n + (d - unit '0')) 0, digits.length)

/-- The value of a literal after its opening quote. The closing quote is the last unit, and no line
ends before it. -/
def literalFrom? : List UInt16 → Option (List UInt16)
  | [] => none
  | u :: rest =>
    if u = unit '"' then if rest = [] then some [] else none
    else if u = unit '\n' ∨ u = unit '\r' then none
    else if u = unit '\\' then
      (escapeSequence? rest).bind fun (value, n) => (literalFrom? (rest.drop n)).map (value :: ·)
    else (literalFrom? rest).map (u :: ·)
termination_by s => s.length

def literal? (source : String) : Option (List UInt16) :=
  (translate source.toList).bind fun units =>
    match units.map CodeUnit.value with
    | [] => none
    | u :: rest => if u = unit '"' then literalFrom? rest else none

theorem literalFrom?_escape {u value : UInt16} (h : simpleEscapes.lookup u = some value)
    (rest : List UInt16) :
    literalFrom? (unit '\\' :: u :: rest) = (literalFrom? rest).map (value :: ·) := by
  have hescape : escapeSequence? (u :: rest) = some (value, 1) := by
    rw [escapeSequence?, List.head?_cons, Option.bind_some, h]
  rw [literalFrom?, hescape]
  rfl

def special : List UInt16 := [unit '"', unit '\n', unit '\r', unit '\\']

theorem literalFrom?_append {us : List UInt16} (h : ∀ u ∈ us, u ∉ special) (rest : List UInt16) :
    literalFrom? (us ++ rest) = (literalFrom? rest).map (us ++ ·) := by
  induction us with
  | nil => simp only [List.nil_append, Option.map_id_fun', id]
  | cons u us ih =>
    obtain ⟨hu, hus⟩ := List.forall_mem_cons.mp h
    simp only [special, List.mem_cons, List.not_mem_nil, or_false, not_or] at hu
    obtain ⟨hquote, hfeed, hreturn, hslash⟩ := hu
    rw [List.cons_append, literalFrom?, if_neg hquote, if_neg (not_or.mpr ⟨hfeed, hreturn⟩),
      if_neg hslash, ih hus, Option.map_map]
    rfl

/-- In a literal the characters stand for the units, whatever follows. -/
def Spells (written : List Char) (value : List UInt16) : Prop :=
  ∃ units, (∀ rest, translate (written ++ rest) = (translate rest).map (units ++ ·)) ∧
    ∀ rest, literalFrom? (units.map CodeUnit.value ++ rest) = (literalFrom? rest).map (value ++ ·)

theorem spells_nil : Spells [] [] := ⟨[], by simp, by simp⟩

theorem Spells.append {s t : List Char} {us vs : List UInt16} (hs : Spells s us)
    (ht : Spells t vs) : Spells (s ++ t) (us ++ vs) := by
  obtain ⟨xs, hsource, hvalue⟩ := hs
  obtain ⟨ys, hsource', hvalue'⟩ := ht
  refine ⟨xs ++ ys, fun rest => ?_, fun rest => ?_⟩
  · rw [List.append_assoc, hsource, hsource', Option.map_map]
    simp only [Function.comp_def, List.append_assoc]
  · rw [List.map_append, List.append_assoc, hvalue, hvalue', Option.map_map]
    simp only [Function.comp_def, List.append_assoc]

theorem spells_escape {c mark : Char} (hc : c.toNat < 0x10000) (hmark : mark.toNat < 0x10000)
    (hu : mark ≠ 'u') (h : simpleEscapes.lookup (unit mark) = some (unit c)) :
    Spells ['\\', mark] (utf16 c) := by
  refine ⟨plain '\\' ++ plain mark, translate_backslash_cons hu, fun rest => ?_⟩
  rw [plain_of_lt (by decide), plain_of_lt hmark, utf16_of_lt hc]
  exact literalFrom?_escape h rest

theorem lt_of_isControl {c : Char} (h : Text.isControl c = true) : c.toNat < 0xa0 := by
  simp only [Text.isControl, Bool.or_eq_true, Bool.and_eq_true, decide_eq_true_eq] at h
  omega

theorem hexUnit?_hexByte : ∀ n < 0xa0, (Json.hexByte n).length = 2 ∧
    hexUnit? ('0' :: '0' :: Json.hexByte n) = some (UInt16.ofNat n) := by
  decide +kernel

theorem translate_control {c : Char} (h : Text.isControl c = true) (rest : List Char) :
    translate (['\\', 'u', '0', '0'] ++ Json.hexByte c.toNat ++ rest) =
      (translate rest).map ({ value := unit c, escaped := true } :: ·) := by
  obtain ⟨hlength, hunit⟩ := hexUnit?_hexByte c.toNat (lt_of_isControl h)
  obtain ⟨x, y, hbyte⟩ := List.length_eq_two.mp hlength
  rw [hbyte] at hunit ⊢
  show translateEscape ('0' :: '0' :: x :: y :: rest) = _
  rw [translateEscape.eq_2 _ _ _ _ _ (by decide), hunit, Option.bind_some]
  rfl

theorem spells_escapedChar (c : Char) : Spells (escapedChar c) (utf16 c) := by
  unfold escapedChar
  split
  case h_6 hquote hslash hfeed hreturn _ =>
    have hspecial : ∀ u ∈ utf16 c, u ∉ special := by
      intro u hu hmem
      simp only [special, List.mem_cons, List.not_mem_nil, or_false] at hmem
      rcases hmem with rfl | rfl | rfl | rfl
      · exact hquote (eq_of_unit_mem_utf16 (by decide) hu)
      · exact hfeed (eq_of_unit_mem_utf16 (by decide) hu)
      · exact hreturn (eq_of_unit_mem_utf16 (by decide) hu)
      · exact hslash (eq_of_unit_mem_utf16 (by decide) hu)
    have hvalue := literalFrom?_append hspecial
    split
    · rename_i hcontrol
      have hsmall := lt_of_isControl hcontrol
      refine ⟨[{ value := unit c, escaped := true }], translate_control hcontrol, fun rest => ?_⟩
      rw [utf16_of_lt (by omega)] at hvalue ⊢
      exact hvalue rest
    · refine ⟨plain c, translate_cons hslash, fun rest => ?_⟩
      rw [plain, List.map_map]
      exact (List.map_id (utf16 c)).symm ▸ hvalue rest
  all_goals exact spells_escape (by decide) (by decide) (by decide) (by decide)

theorem spells_escaped (s : List Char) : Spells (s.flatMap escapedChar) (s.flatMap utf16) := by
  induction s with
  | nil => exact spells_nil
  | cons c s ih =>
    rw [List.flatMap_cons, List.flatMap_cons]
    exact (spells_escapedChar c).append ih

def backslashes (s : List Char) : Nat := (s.reverse.takeWhile (· = '\\')).length

theorem backslashes_append (s t : List Char) :
    backslashes (s ++ t) =
      if backslashes t = t.length then t.length + backslashes s else backslashes t := by
  unfold backslashes
  rw [List.reverse_append, List.takeWhile_append, List.length_reverse]
  split <;> simp

def isPrintable (c : Char) : Bool := c ≠ '\n' && c ≠ '\r' && !Text.isControl c

/-- The characters can stand between the quotes of a literal: each quote among them has an odd
number of backslashes before it, and the closing one has an even number. -/
structure IsLiteralText (s : List Char) : Prop where
  quotes : ∀ before after, s = before ++ '"' :: after → backslashes before % 2 = 1
  ends : backslashes s % 2 = 0
  characters : s.all isPrintable = true

theorem IsLiteralText.append {s t : List Char} (hs : IsLiteralText s) (ht : IsLiteralText t) :
    IsLiteralText (s ++ t) := by
  have parity : ∀ u, backslashes (s ++ u) % 2 = backslashes u % 2 := by
    intro u
    have := hs.ends
    rw [backslashes_append]
    split <;> omega
  refine ⟨fun before after h => ?_, (parity t).trans ht.ends, ?_⟩
  · rcases List.append_eq_append_iff.mp h with ⟨more, rfl, hmore⟩ | ⟨more, rfl, hmore⟩
    · rw [parity, ht.quotes more after hmore]
    · cases more with
      | nil =>
        have hbefore := parity []
        rw [List.append_nil, List.append_nil] at hbefore
        rw [hbefore]
        exact ht.quotes [] after hmore.symm
      | cons c more =>
        obtain ⟨rfl, -⟩ := List.cons.inj hmore
        exact hs.quotes before more rfl
  · rw [List.all_append, hs.characters, ht.characters, Bool.and_true]

theorem IsLiteralText.of_notMem {s : List Char} (hquote : '"' ∉ s) (hends : backslashes s % 2 = 0)
    (hchars : s.all isPrintable = true) : IsLiteralText s := by
  refine ⟨fun before after h => absurd ?_ hquote, hends, hchars⟩
  rw [h]
  exact List.mem_append_right _ List.mem_cons_self

theorem unicodeEscape_characters : ∀ n < 0xa0, ∀ s, s = ['\\', 'u', '0', '0'] ++ Json.hexByte n →
    '"' ∉ s ∧ backslashes s % 2 = 0 ∧ s.all isPrintable = true := by
  simp only [forall_eq]
  decide +kernel

theorem isLiteralText_escapedChar (c : Char) : IsLiteralText (escapedChar c) := by
  unfold escapedChar
  split
  case h_1 =>
    refine ⟨fun before after h => ?_, by decide, by decide⟩
    obtain rfl : before = ['\\'] := by
      rcases before with _ | ⟨b, _ | ⟨b', more⟩⟩ <;> simp_all [eq_comm]
    decide
  case h_6 hquote hslash hfeed hreturn _ =>
    split
    · rename_i hcontrol
      obtain ⟨hquote, hends, hchars⟩ :=
        unicodeEscape_characters c.toNat (lt_of_isControl hcontrol) _ rfl
      exact .of_notMem hquote hends hchars
    · rename_i hcontrol
      refine .of_notMem (by simpa using Ne.symm hquote) ?_ ?_
      · have hc : ¬ c = '\\' := hslash
        simp [backslashes, hc]
      · have hfeed : ¬ c = '\n' := hfeed
        have hreturn : ¬ c = '\r' := hreturn
        simp [isPrintable, hfeed, hreturn, hcontrol]
  all_goals exact .of_notMem (by decide) (by decide) (by decide)

theorem isLiteralText_escaped (s : List Char) : IsLiteralText (s.flatMap escapedChar) := by
  induction s with
  | nil => exact .of_notMem (by decide) (by decide) (by decide)
  | cons c s ih =>
    rw [List.flatMap_cons]
    exact (isLiteralText_escapedChar c).append ih

/-- Every text between quotes, once escaped, is one literal, and the text is its value. -/
theorem literal_of_escaped (text : String) :
    literal? ("\"" ++ escaped text ++ "\"") = some (text.toList.flatMap utf16) ∧
      IsLiteralText (escaped text).toList := by
  have hchars : (escaped text).toList = text.toList.flatMap escapedChar := String.toList_ofList
  refine ⟨?_, hchars ▸ isLiteralText_escaped text.toList⟩
  obtain ⟨units, hsource, hvalue⟩ := spells_escaped text.toList
  have hquoted : ("\"" ++ escaped text ++ "\"").toList =
      '"' :: (text.toList.flatMap escapedChar ++ ['"']) := by
    rw [String.toList_append, String.toList_append, hchars]
    rfl
  have hread : translate ("\"" ++ escaped text ++ "\"").toList =
      some (plain '"' ++ (units ++ plain '"')) := by
    rw [hquoted, translate_cons (by decide), hsource]
    rfl
  have hclose : literalFrom? [unit '"'] = some [] := by
    rw [literalFrom?, if_pos rfl, if_pos rfl]
  rw [literal?, hread, Option.bind_some]
  show (if unit '"' = unit '"' then literalFrom? ((units ++ plain '"').map CodeUnit.value)
    else none) = _
  rw [if_pos rfl, List.map_append, plain_of_lt (by decide), List.map_singleton, hvalue, hclose,
    Option.map_some, List.append_nil]

end ClientGen.JavaSource
