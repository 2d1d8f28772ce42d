import ClientGen.Proofs.JavaSource.Translation
import Mathlib.Data.List.Chain

/-! Documentation comments of Java sources. No `*/` of the text gets into the comment, but a Unicode
escape does: it may stand for one of the two characters, or be no escape that can be read. The
comment is in order just where no escape of the text does so. -/

namespace ClientGen.JavaSource

def afterComment? : List UInt16 → Option (List UInt16)
  | u :: v :: rest => if u = unit '*' ∧ v = unit '/' then some rest else afterComment? (v :: rest)
  | _ => none

/-- The units are one documentation comment after a margin: what ends it is the first `*/`, and only
the line break follows. -/
structure IsDocComment (units : List UInt16) : Prop where
  opens : [unit '/', unit '*', unit '*'] <+: units.dropWhile (· = unit ' ')
  closes : afterComment? ((units.dropWhile (· = unit ' ')).drop 2) = some [unit '\n']

instance (units : List UInt16) : Decidable (IsDocComment units) :=
  decidable_of_iff (_ ∧ _) ⟨fun h => ⟨h.1, h.2⟩, fun h => ⟨h.opens, h.closes⟩⟩

def ReadsAsDocComment (source : String) : Prop :=
  ∃ units, translate source.toList = some units ∧ IsDocComment (units.map CodeUnit.value)

instance (source : String) : Decidable (ReadsAsDocComment source) :=
  inferInstanceAs (Decidable (∃ units, units ∈ translate source.toList ∧ _))

def Ends (u v : CodeUnit) : Prop := u.value = unit '*' ∧ v.value = unit '/'

def EndsUnescaped (u v : CodeUnit) : Prop := Ends u v → u.escaped = false ∧ v.escaped = false

instance (u v : CodeUnit) : Decidable (Ends u v) := inferInstanceAs (Decidable (_ ∧ _))

instance (u v : CodeUnit) : Decidable (EndsUnescaped u v) :=
  inferInstanceAs (Decidable (_ → _))

/-- The source can be read, and the relation holds of the units that stand side by side. -/
def Chained (R : CodeUnit → CodeUnit → Prop) (s : List Char) : Prop :=
  ∃ units, translate s = some units ∧ units.IsChain R

/-- The escapes of the text can be read, and none of them is part of a `*/`. -/
def Harmless (text : String) : Prop := Chained EndsUnescaped text.toList

instance (text : String) : Decidable (Harmless text) :=
  inferInstanceAs (Decidable (∃ units, units ∈ translate text.toList ∧ _))

variable {R : CodeUnit → CodeUnit → Prop} {c : Char}

structure Cuts (c : Char) : Prop extends Inert c where
  small : c.toNat < 0x10000
  ne_star : c ≠ '*'
  ne_slash : c ≠ '/'

theorem ne_unit {d : Char} (hc : c.toNat < 0x10000) (hd : d.toNat < 0x80) (h : c ≠ d) :
    unit c ≠ unit d := by
  intro hunit
  refine h (eq_of_unit_mem_utf16 hd ?_)
  rw [utf16_of_lt hc, hunit]
  exact List.mem_singleton_self _

theorem chained_nil : Chained R [] := ⟨[], rfl, .nil⟩

theorem chained_append_cons (hc : Inert c) (hsmall : c.toNat < 0x10000) (a b : List Char) :
    Chained R (a ++ c :: b) ↔
      ∃ xs, translate a = some xs ∧
        ∃ ys, translate b = some ys ∧ (xs ++ { value := unit c } :: ys).IsChain R := by
  unfold Chained
  rw [translate_append_cons hc, plain_of_lt hsmall]
  simp only [Option.bind_eq_some_iff, Option.map_eq_some_iff, List.append_assoc,
    List.singleton_append]
  constructor
  · rintro ⟨_, ⟨xs, hxs, ys, hys, rfl⟩, hchain⟩
    exact ⟨xs, hxs, ys, hys, hchain⟩
  · rintro ⟨xs, hxs, ys, hys, hchain⟩
    exact ⟨_, ⟨xs, hxs, ys, hys, rfl⟩, hchain⟩

theorem chained_append_singleton (hc : Inert c) (hsmall : c.toNat < 0x10000) (a : List Char) :
    Chained R (a ++ [c]) ↔
      ∃ xs, translate a = some xs ∧ (xs ++ [CodeUnit.mk (unit c) false]).IsChain R := by
  simp [chained_append_cons hc hsmall, translate]

theorem chained_cons (hc : Inert c) (hsmall : c.toNat < 0x10000) (b : List Char) :
    Chained R (c :: b) ↔
      ∃ ys, translate b = some ys ∧ (CodeUnit.mk (unit c) false :: ys).IsChain R := by
  simpa [translate] using chained_append_cons (R := R) hc hsmall [] b

theorem chained_split (hc : Inert c) (hsmall : c.toNat < 0x10000) (a b : List Char) :
    Chained R (a ++ c :: b) ↔ Chained R (a ++ [c]) ∧ Chained R (c :: b) := by
  rw [chained_append_cons hc hsmall, chained_append_singleton hc hsmall, chained_cons hc hsmall]
  constructor
  · rintro ⟨xs, hxs, ys, hys, hchain⟩
    obtain ⟨hx, hy⟩ := List.isChain_split.mp hchain
    exact ⟨⟨xs, hxs, hx⟩, ⟨ys, hys, hy⟩⟩
  · rintro ⟨⟨xs, hxs, hx⟩, ⟨ys, hys, hy⟩⟩
    exact ⟨xs, hxs, ys, hys, List.isChain_split.mpr ⟨hx, hy⟩⟩

theorem chained_concat_of_forall (hc : Inert c) (hsmall : c.toNat < 0x10000)
    (hbefore : ∀ u, R u { value := unit c }) (a : List Char) :
    Chained R (a ++ [c]) ↔ Chained R a := by
  rw [chained_append_singleton hc hsmall]
  simp [Chained, List.isChain_append, hbefore]

theorem chained_cons_of_forall (hc : Inert c) (hsmall : c.toNat < 0x10000)
    (hafter : ∀ v, R { value := unit c } v) (b : List Char) :
    Chained R (c :: b) ↔ Chained R b := by
  rw [chained_cons hc hsmall]
  simp [Chained, List.isChain_cons, hafter]

theorem chained_cut (hR : ∀ u v, ¬ Ends u v → R u v) (hc : Cuts c) (a b : List Char) :
    Chained R (a ++ c :: b) ↔ Chained R a ∧ Chained R b := by
  have hbefore : ∀ u, R u { value := unit c } := fun u =>
    hR _ _ fun h => ne_unit hc.small (by decide) hc.ne_slash h.2
  have hafter : ∀ v, R { value := unit c } v := fun v =>
    hR _ _ fun h => ne_unit hc.small (by decide) hc.ne_star h.1
  rw [chained_split hc.toInert hc.small, chained_concat_of_forall hc.toInert hc.small hbefore,
    chained_cons_of_forall hc.toInert hc.small hafter]

theorem cuts_of_isBlankChar (h : Text.isBlankChar c = true) : Cuts c := by
  have hsmall : c.toNat < 0x10000 := by
    simp only [Text.isBlankChar, Bool.or_eq_true, Bool.and_eq_true, decide_eq_true_eq,
      beq_iff_eq] at h
    omega
  have habove : ∀ d : Char, d.toNat < 0x80 → Text.isBlankChar d = false → c ≠ d := by
    rintro d - hd rfl
    rw [h] at hd
    cases hd
  refine ⟨⟨habove _ (by decide) (by decide), Bool.eq_false_iff.mpr fun halphanum => ?_⟩, hsmall,
    habove _ (by decide) (by decide), habove _ (by decide) (by decide)⟩
  exact Naming.Chars.ascii_forall
    (P := fun c => Text.isBlankChar c = true → c.isAlphanum = true → False) (by decide)
    (Naming.Chars.toNat_lt_of_isAlphanum halphanum) h halphanum

section Lines

variable (hR : ∀ u v, ¬ Ends u v → R u v)
include hR

theorem chained_concat (hc : Cuts c) (s : List Char) : Chained R (s ++ [c]) ↔ Chained R s :=
  (chained_cut hR hc s []).trans (and_iff_left chained_nil)

theorem chained_trimRight (s : List Char) : Chained R (Text.trimRight s) ↔ Chained R s := by
  rw [Text.trimRight, ← List.reverse_reverse s, List.reverse_reverse s.reverse]
  -- the blanks are dropped one by one from the front of the reversed line
  induction s.reverse with
  | nil => rfl
  | cons c s ih =>
    unfold Text.trimLeft at ih ⊢
    rw [List.dropWhile_cons]
    split
    · rename_i hblank
      rw [ih, List.reverse_cons, chained_concat hR (cuts_of_isBlankChar hblank)]
    · rfl

theorem chained_dropReturn (s : List Char) : Chained R (Text.dropReturn s) ↔ Chained R s := by
  unfold Text.dropReturn
  split
  · rename_i hlast
    rw [← chained_concat hR (cuts_of_isBlankChar (c := '\r') (by decide)),
      List.dropLast_append_getLast? '\r' hlast]
  · rfl

theorem chained_linesFrom (line s : List Char) :
    (∀ l ∈ Text.linesFrom line s, Chained R l) ↔ Chained R (line.reverse ++ s) := by
  induction s generalizing line with
  | nil =>
    rw [Text.linesFrom, List.append_nil]
    split
    · rename_i h
      simp [h, chained_nil]
    · rw [List.forall_mem_singleton]
  | cons c s ih =>
    rw [Text.linesFrom]
    split
    · rename_i h
      rw [List.forall_mem_cons, ih, chained_dropReturn hR, h,
        chained_cut hR (cuts_of_isBlankChar (by decide))]
      rfl
    · rw [ih, List.reverse_cons, List.append_assoc, List.singleton_append]

end Lines

theorem escaped_of_translateEscape {s : List Char} {u : CodeUnit} {us : List CodeUnit}
    (h : translateEscape s = some (u :: us)) : u.escaped = true := by
  induction s with
  | nil => cases h
  | cons c s ih =>
    rw [translateEscape.eq_def] at h
    split at h
    · rename_i rest hs
      obtain ⟨rfl, rfl⟩ := List.cons.inj hs
      exact ih h
    · obtain ⟨value, -, h⟩ := Option.bind_eq_some_iff.mp h
      obtain ⟨us', -, h⟩ := Option.map_eq_some_iff.mp h
      rw [← (List.cons.inj h).1]
    · cases h

theorem head?_of_translate {s : List Char} {us : List CodeUnit} (hc : c.toNat < 0x80)
    (hslash : c ≠ '\\') (h : translate s = some ({ value := unit c } :: us)) :
    s.head? = some c := by
  have hhead : ∀ (d : Char) (xs : List CodeUnit),
      plain d ++ xs = { value := unit c } :: us → d = c := by
    intro d xs hd
    obtain ⟨u, more, hplain⟩ := List.exists_cons_of_ne_nil (plain_ne_nil d)
    rw [hplain, List.cons_append] at hd
    apply eq_of_mem_plain hc
    rw [hplain, (List.cons.inj hd).1]
    exact List.mem_cons_self
  rw [translate.eq_def] at h
  split at h
  · cases h
  · obtain ⟨xs, -, h⟩ := Option.map_eq_some_iff.mp h
    rw [List.append_assoc] at h
    exact absurd (hhead _ _ h).symm hslash
  · cases escaped_of_translateEscape h
  · obtain ⟨xs, -, h⟩ := Option.map_eq_some_iff.mp h
    rw [List.head?_cons, hhead _ _ h]

theorem isChain_append_of_forall {xs ys : List CodeUnit} (hxs : ∀ u ∈ xs, ∀ v, R u v)
    (hys : ys.IsChain R) : (xs ++ ys).IsChain R := by
  induction xs with
  | nil => exact hys
  | cons u xs ih =>
    obtain ⟨hu, hxs⟩ := List.forall_mem_cons.mp hxs
    exact List.isChain_cons.mpr ⟨fun v _ => hu v, ih hxs⟩

def EndsPlainly (u v : CodeUnit) : Prop := u = { value := unit '*' } ∧ v = { value := unit '/' }

theorem Ends.endsPlainly {u v : CodeUnit} (h : Ends u v) (hu : u.escaped = false)
    (hv : v.escaped = false) : EndsPlainly u v := by
  cases u
  cases v
  obtain ⟨rfl, rfl⟩ := h
  obtain rfl := hu
  obtain rfl := hv
  exact ⟨rfl, rfl⟩

theorem not_endsPlainly_of_plain (hc : c ≠ '*') : ∀ u ∈ plain c, ∀ v, ¬ EndsPlainly u v := by
  rintro u hu v ⟨rfl, -⟩
  exact hc (eq_of_mem_plain (by decide) hu)

theorem isChain_of_translate_both :
    (∀ s units, translate s = some units → ¬ ['*', '/'] <:+: s →
      units.IsChain fun u v => ¬ EndsPlainly u v) ∧
    ∀ s units, translateEscape s = some units → ¬ ['*', '/'] <:+: s →
      units.IsChain fun u v => ¬ EndsPlainly u v := by
  have hrest : ∀ {c : Char} {s : List Char}, ¬ ['*', '/'] <:+: c :: s → ¬ ['*', '/'] <:+: s :=
    fun h hs => h (List.infix_cons hs)
  apply translate.mutual_induct
  case case1 =>
    rintro units h -
    obtain rfl := Option.some.inj h
    exact .nil
  case case2 =>
    intro rest ih units h hraw
    rw [translate] at h
    obtain ⟨xs, hxs, rfl⟩ := Option.map_eq_some_iff.mp h
    have hslash := not_endsPlainly_of_plain (c := '\\') (by decide)
    rw [List.append_assoc]
    exact isChain_append_of_forall hslash
      (isChain_append_of_forall hslash (ih xs hxs (hrest (hrest hraw))))
  case case3 =>
    intro rest ih units h hraw
    exact ih units h (hrest (hrest hraw))
  case case4 =>
    intro c rest hslash hmark ih units h hraw
    rw [translate.eq_4 c rest hslash hmark] at h
    obtain ⟨xs, hxs, rfl⟩ := Option.map_eq_some_iff.mp h
    have hchain := ih xs hxs (hrest hraw)
    by_cases hc : c = '*'
    · -- the rest would have to start with the slash
      subst hc
      rw [plain_of_lt (by decide), List.singleton_append, List.isChain_cons]
      refine ⟨?_, hchain⟩
      rintro v hv ⟨-, rfl⟩
      cases xs with
      | nil => cases hv
      | cons v' xs =>
        obtain rfl := Option.some.inj hv
        obtain ⟨more, rfl⟩ := List.head?_eq_some_iff.mp
          (head?_of_translate (by decide) (by decide) hxs)
        exact hraw ⟨[], more, rfl⟩
    · exact isChain_append_of_forall (not_endsPlainly_of_plain hc) hchain
  case case5 =>
    intro rest ih units h hraw
    exact ih units h (hrest hraw)
  case case6 =>
    intro p q r s rest hu ih units h hraw
    rw [translateEscape.eq_2 _ _ _ _ _ hu] at h
    obtain ⟨value, -, h⟩ := Option.bind_eq_some_iff.mp h
    obtain ⟨xs, hxs, rfl⟩ := Option.map_eq_some_iff.mp h
    have hchain := ih xs hxs (hrest (hrest (hrest (hrest hraw))))
    refine List.isChain_cons.mpr ⟨?_, hchain⟩
    rintro v - ⟨hescaped, -⟩
    cases hescaped
  case case7 =>
    intro t ht hshort units h
    rw [translateEscape.eq_3 t ht hshort] at h
    cases h

theorem neutralized_eq_self {s : List Char} (h : ¬ ['*', '/'] <:+: s) : neutralized s = s := by
  fun_induction neutralized s with
  | case1 rest => exact absurd ⟨[], rest, rfl⟩ h
  | case2 c rest hc ih => rw [ih fun hs => h (List.infix_cons hs)]
  | case3 => rfl

theorem neutralized_append (a b : List Char) :
    neutralized (a ++ '*' :: '/' :: b) =
      neutralized a ++ '*' :: '&' :: ('#' :: '4' :: '7' :: ';' :: neutralized b) := by
  fun_induction neutralized a with
  | case1 rest ih => simp only [List.cons_append, neutralized, ih]
  | case2 c rest hc ih =>
    rw [List.cons_append, neutralized, ih, List.cons_append]
    rintro more rfl hmore
    cases rest with
    | nil => cases hmore
    | cons d rest =>
      obtain ⟨rfl, -⟩ := List.cons.inj hmore
      exact hc rest rfl rfl
  | case3 => rfl

theorem chained_append_end (a b : List Char) :
    Chained EndsUnescaped (a ++ '*' :: '/' :: b) ↔
      Chained EndsUnescaped a ∧ Chained EndsUnescaped b := by
  have hstar : Inert '*' := ⟨by decide, by decide⟩
  have hslash : Inert '/' := ⟨by decide, by decide⟩
  have hbefore : ∀ u, EndsUnescaped u { value := unit '*' } := fun u h => absurd h.2 (by decide)
  have hafter : ∀ v, EndsUnescaped { value := unit '/' } v := fun v h => absurd h.1 (by decide)
  have hend : Chained EndsUnescaped ['*', '/'] := ⟨_, rfl, by decide⟩
  have hrest : Chained EndsUnescaped ('*' :: '/' :: b) ↔ Chained EndsUnescaped b := by
    rw [← List.singleton_append, chained_split hslash (by decide),
      chained_cons_of_forall hslash (by decide) hafter]
    exact and_iff_right hend
  rw [chained_split hstar (by decide), chained_concat_of_forall hstar (by decide) hbefore, hrest]

theorem chained_append_reference (a b : List Char) :
    Chained (fun u v => ¬ Ends u v) (a ++ '*' :: '&' :: '#' :: '4' :: '7' :: ';' :: b) ↔
      Chained (fun u v => ¬ Ends u v) a ∧ Chained (fun u v => ¬ Ends u v) b := by
  have hstar : Inert '*' := ⟨by decide, by decide⟩
  have hbefore : ∀ u, ¬ Ends u { value := unit '*' } := fun u h => absurd h.2 (by decide)
  have hopen : Cuts '&' := ⟨⟨by decide, by decide⟩, by decide, by decide, by decide⟩
  have hclose : Cuts ';' := ⟨⟨by decide, by decide⟩, by decide, by decide, by decide⟩
  have hcode : Chained (fun u v => ¬ Ends u v) ['#', '4', '7'] := ⟨_, rfl, by decide⟩
  have hrest : Chained (fun u v => ¬ Ends u v) ('#' :: '4' :: '7' :: ';' :: b) ↔
      Chained (fun u v => ¬ Ends u v) b :=
    (chained_cut (fun _ _ => id) hclose ['#', '4', '7'] b).trans (and_iff_right hcode)
  rw [← List.singleton_append, ← List.append_assoc, chained_cut (fun _ _ => id) hopen,
    chained_concat_of_forall hstar (by decide) hbefore, hrest]

theorem chained_of_no_end {s : List Char} (h : ¬ ['*', '/'] <:+: s) :
    Chained (fun u v => ¬ Ends u v) s ↔ Chained EndsUnescaped s := by
  refine exists_congr fun units => and_congr_right fun hunits => ?_
  have hplain := isChain_of_translate_both.1 s units hunits h
  constructor
  · exact List.IsChain.imp fun _ _ hno hends => absurd hends hno
  · intro hescaped
    rw [List.isChain_iff_getElem] at hplain hescaped ⊢
    intro i hi hends
    obtain ⟨hu, hv⟩ := hescaped i hi hends
    exact hplain i hi (hends.endsPlainly hu hv)

theorem chained_neutralized (s : List Char) :
    Chained (fun u v => ¬ Ends u v) (neutralized s) ↔ Chained EndsUnescaped s := by
  -- a `*/` of the text leaves two shorter ones, and without any nothing is replaced
  induction hn : s.length using Nat.strong_induction_on generalizing s with
  | _ n ih =>
    by_cases hraw : ['*', '/'] <:+: s
    · obtain ⟨a, b, rfl⟩ := hraw
      rw [List.append_assoc, List.cons_append, List.singleton_append] at hn ⊢
      rw [List.length_append, List.length_cons, List.length_cons] at hn
      rw [neutralized_append, chained_append_reference, chained_append_end,
        ih a.length (by omega) a rfl, ih b.length (by omega) b rfl]
    · rw [neutralized_eq_self hraw, chained_of_no_end hraw]

theorem chained_spaces (hR : ∀ u v, ¬ Ends u v → R u v) {margin : List Char}
    (h : ∀ c ∈ margin, c = ' ') (s : List Char) : Chained R (margin ++ s) ↔ Chained R s := by
  induction margin with
  | nil => rfl
  | cons c margin ih =>
    obtain ⟨rfl, hmargin⟩ := List.forall_mem_cons.mp h
    exact (chained_cut hR (cuts_of_isBlankChar (by decide)) [] _).trans
      ((and_iff_right chained_nil).trans (ih hmargin))

theorem toList_docLine (margin : String) (line : List Char) :
    (docLine margin line).toList =
      margin.toList ++ ' ' :: '*' ::
        (if Text.trimRight (neutralized line) = [] then []
          else ' ' :: Text.trimRight (neutralized line)) ++ ['\n'] := by
  simp only [docLine]
  split <;> simp

theorem chained_docLine {margin : String} (h : ∀ c ∈ margin.toList, c = ' ') (line s : List Char) :
    Chained (fun u v => ¬ Ends u v) ((docLine margin line).toList ++ s) ↔
      Chained EndsUnescaped line ∧ Chained (fun u v => ¬ Ends u v) s := by
  have hcut : ∀ c, c = ' ' ∨ c = '\n' → ∀ a b : List Char,
      Chained (fun u v => ¬ Ends u v) (a ++ c :: b) ↔
        Chained (fun u v => ¬ Ends u v) a ∧ Chained (fun u v => ¬ Ends u v) b := by
    rintro c (rfl | rfl) <;> exact chained_cut (fun _ _ => id) (cuts_of_isBlankChar (by decide))
  have hstar : Chained (fun u v => ¬ Ends u v) ['*'] := ⟨_, rfl, by decide⟩
  rw [toList_docLine, List.append_assoc, List.singleton_append, hcut '\n' (.inr rfl),
    chained_spaces (fun _ _ => id) h, ← List.nil_append (' ' :: _), hcut ' ' (.inl rfl),
    and_iff_right chained_nil, ← chained_neutralized,
    ← chained_trimRight (fun _ _ => id) (neutralized line)]
  refine and_congr_left' ?_
  split
  · rename_i hempty
    rw [hempty]
    exact iff_of_true hstar chained_nil
  · exact (hcut ' ' (.inl rfl) ['*'] _).trans (and_iff_right hstar)

theorem chained_docLines {margin : String} (h : ∀ c ∈ margin.toList, c = ' ')
    (lines : List (List Char)) (s : List Char) :
    Chained (fun u v => ¬ Ends u v)
        ((String.join (lines.map (docLine margin))).toList ++ s) ↔
      (∀ line ∈ lines, Chained EndsUnescaped line) ∧ Chained (fun u v => ¬ Ends u v) s := by
  induction lines with
  | nil => simp [String.join_nil]
  | cons line lines ih =>
    rw [List.map_cons, String.join_cons, String.toList_append, List.append_assoc,
      chained_docLine h, ih, List.forall_mem_cons, and_assoc]

/-- The end of the comment is where it is meant to be just where no other comes before it. -/
theorem afterComment?_append (units : List UInt16) :
    afterComment? (units ++ [unit ' ', unit '*', unit '/', unit '\n']) = some [unit '\n'] ↔
      units.IsChain fun u v => ¬ (u = unit '*' ∧ v = unit '/') := by
  induction units with
  | nil => exact iff_of_true (by decide) .nil
  | cons u units ih =>
    cases units with
    | nil =>
      have hrest : afterComment? [unit ' ', unit '*', unit '/', unit '\n'] = some [unit '\n'] := by
        decide
      have hspace : unit ' ' ≠ unit '/' := by decide
      refine iff_of_true ?_ (.singleton u)
      rw [List.singleton_append, afterComment?, if_neg fun h => hspace h.2, hrest]
    | cons v units =>
      rw [List.isChain_cons_cons, ← ih, List.cons_append, List.cons_append, afterComment?]
      split
      · rename_i hends
        refine iff_of_false (fun hrest => ?_) fun h => h.1 hends
        have hlength := congrArg List.length (Option.some.inj hrest)
        rw [List.length_append] at hlength
        simp at hlength
      · rename_i hends
        rw [and_iff_right hends]

theorem isDocComment_iff {margin : List UInt16} (h : ∀ u ∈ margin, u = unit ' ')
    (units : List CodeUnit) :
    IsDocComment (margin ++ ([unit '/', unit '*', unit '*', unit '\n'] ++
        (units.map CodeUnit.value ++ [unit ' ', unit '*', unit '/', unit '\n']))) ↔
      units.IsChain fun u v => ¬ Ends u v := by
  have hslash : unit '/' ≠ unit ' ' := by decide
  have hstar : unit '*' ≠ unit '/' := by decide
  have hbreak : unit '\n' ≠ unit '*' := by decide
  have hline : unit '\n' ≠ unit '/' := by decide
  set body := units.map CodeUnit.value ++ [unit ' ', unit '*', unit '/', unit '\n'] with hbody
  have hdrop : (margin ++ ([unit '/', unit '*', unit '*', unit '\n'] ++ body)).dropWhile
      (· = unit ' ') = [unit '/', unit '*', unit '*', unit '\n'] ++ body := by
    rw [List.dropWhile_append_of_pos fun u hu => decide_eq_true (h u hu), List.cons_append,
      List.dropWhile_cons_of_neg (by simpa using hslash)]
  have hopen : afterComment? ([unit '*', unit '\n'] ++ body) = afterComment? body := by
    obtain ⟨u, more, hu⟩ : ∃ u more, body = u :: more :=
      List.exists_cons_of_ne_nil (by simp [hbody])
    rw [List.cons_append, List.singleton_append, afterComment?, if_neg fun hends => hline hends.2,
      hu, afterComment?, if_neg fun hends => hbreak hends.1]
  have hends : IsDocComment (margin ++ ([unit '/', unit '*', unit '*', unit '\n'] ++ body)) ↔
      afterComment? body = some [unit '\n'] := by
    constructor
    · intro hdoc
      rw [← hopen, ← hdoc.closes, hdrop]
      rfl
    · intro hclose
      constructor
      · rw [hdrop]
        exact ⟨unit '\n' :: body, rfl⟩
      · rw [hdrop, ← hclose, ← hopen]
        rfl
  rw [hends, hbody, afterComment?_append, List.isChain_map]
  rfl

theorem toList_docComment (margin : String) {text : String}
    (h : Text.isBlank text.toList = false) :
    (docComment margin text).toList =
      (margin.toList ++ ['/', '*', '*']) ++ '\n' ::
        ((String.join ((Text.lines text.toList).map (docLine margin))).toList ++ margin.toList ++
          ' ' :: ['*', '/', '\n']) := by
  simp [docComment, h]

theorem translate_docComment {margin text : String} (hmargin : ∀ c ∈ margin.toList, c = ' ')
    (h : Text.isBlank text.toList = false) :
    translate (docComment margin text).toList =
      (translate ((String.join ((Text.lines text.toList).map (docLine margin))).toList ++
        margin.toList)).map fun units =>
          (margin.toList ++ ['/', '*', '*', '\n']).flatMap plain ++
            (units ++ [' ', '*', '/', '\n'].flatMap plain) := by
  have hopen : translate (margin.toList ++ ['/', '*', '*']) =
      some ((margin.toList ++ ['/', '*', '*']).flatMap plain) := by
    refine translate_of_notMem fun hmem => ?_
    rcases List.mem_append.mp hmem with hmem | hmem
    · cases hmargin _ hmem
    · exact absurd hmem (by decide)
  have hclose : translate ['*', '/', '\n'] = some (['*', '/', '\n'].flatMap plain) :=
    translate_of_notMem (by decide)
  rw [toList_docComment margin h, translate_append_cons ⟨by decide, by decide⟩, hopen,
    Option.bind_some, translate_append_cons ⟨by decide, by decide⟩, hclose]
  cases translate ((String.join ((Text.lines text.toList).map (docLine margin))).toList ++
    margin.toList) <;> simp

theorem readsAsDocComment_iff {margin text : String} (hmargin : ∀ c ∈ margin.toList, c = ' ')
    (h : Text.isBlank text.toList = false) :
    ReadsAsDocComment (docComment margin text) ↔ Harmless text := by
  have hspaces : ∀ u ∈ (margin.toList.flatMap plain).map CodeUnit.value, u = unit ' ' := by
    intro u hu
    obtain ⟨_, hmem, rfl⟩ := List.mem_map.mp hu
    obtain ⟨c, hc, hmem⟩ := List.mem_flatMap.mp hmem
    rw [hmargin c hc, plain_of_lt (by decide), List.mem_singleton] at hmem
    rw [hmem]
  have hEnds : ∀ u v, ¬ Ends u v → EndsUnescaped u v := fun _ _ h hends => absurd hends h
  have hlines : Harmless text ↔ Chained (fun u v => ¬ Ends u v)
      ((String.join ((Text.lines text.toList).map (docLine margin))).toList ++ margin.toList) := by
    rw [chained_docLines hmargin, ← List.append_nil margin.toList,
      chained_spaces (fun _ _ => id) hmargin, and_iff_left chained_nil, Text.lines,
      chained_linesFrom hEnds]
    rfl
  rw [hlines]
  unfold ReadsAsDocComment
  rw [translate_docComment hmargin h]
  simp only [Option.map_eq_some_iff, exists_exists_and_eq_and]
  refine exists_congr fun units => and_congr_right fun _ => ?_
  rw [← isDocComment_iff hspaces]
  simp only [List.map_append, List.flatMap_append, List.append_assoc]
  rfl

theorem harmless_of_notMem {text : String} (h : '\\' ∉ text.toList) : Harmless text := by
  have hplain : ∀ u ∈ text.toList.flatMap plain, u.escaped = false := by
    intro u hu
    obtain ⟨c, -, hmem⟩ := List.mem_flatMap.mp hu
    obtain ⟨_, -, rfl⟩ := List.mem_map.mp hmem
    rfl
  refine ⟨_, translate_of_notMem h, List.isChain_iff_getElem.mpr fun i hi _ => ?_⟩
  exact ⟨hplain _ (List.getElem_mem _), hplain _ (List.getElem_mem _)⟩

/-- A blank text has no comment. Any other text has one that reads as a single comment just where
its escapes are harmless, which they are where it has no backslash. -/
theorem docComment_of_spaces (margin text : String) (hmargin : ∀ c ∈ margin.toList, c = ' ') :
    (Text.isBlank text.toList = true → docComment margin text = "") ∧
      (Text.isBlank text.toList = false →
        (ReadsAsDocComment (docComment margin text) ↔ Harmless text)) ∧
      ('\\' ∉ text.toList → Harmless text) :=
  ⟨fun h => if_pos h, readsAsDocComment_iff hmargin, harmless_of_notMem⟩

def oddText : String := "**/ \\u00e9 *\r\n/ \\\\u002a/ */ \n"

theorem docComment_of_oddText :
    (∀ c ∈ "    ".toList, c = ' ') ∧ docComment "    " " \t\n" = "" ∧ Harmless oddText ∧
      ReadsAsDocComment (docComment "    " oddText) ∧ Harmless "ends */ early" := by
  have hmargin : ∀ c ∈ "    ".toList, c = ' ' := by simp
  have hharmless : Harmless oddText := by decide
  obtain ⟨hnone, -, -⟩ := docComment_of_spaces "    " " \t\n" hmargin
  obtain ⟨-, hreads, -⟩ := docComment_of_spaces "    " oddText hmargin
  obtain ⟨-, -, hplain⟩ := docComment_of_spaces "    " "ends */ early" hmargin
  exact ⟨hmargin, hnone (by decide), hharmless, (hreads (by decide)).mpr hharmless,
    hplain (by decide)⟩

theorem docComment_broken_by_escape :
    ¬ ReadsAsDocComment (docComment "" "ends \\u002a/ early") ∧
      ¬ ReadsAsDocComment (docComment "    " "below C:\\users") := by
  decide +kernel

end ClientGen.JavaSource
