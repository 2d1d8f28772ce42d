import ClientGen.Output.JavaSource
import ClientGen.Proofs.Naming.FieldName

/-! How a Java source is read before anything else: as UTF-16 code units, with a unit in place of
every Unicode escape. An escape is complete or the source cannot be read. A character that is no
part of an escape cuts the source in two that are read on their own. -/

namespace ClientGen.JavaSource

def unit (c : Char) : UInt16 := UInt16.ofNat c.toNat

def utf16 (c : Char) : List UInt16 :=
  if c.toNat < 0x10000 then [unit c]
  else
    let n := c.toNat - 0x10000
    [UInt16.ofNat (0xd800 + n / 0x400), UInt16.ofNat (0xdc00 + n % 0x400)]

/-- A code unit of a source, and whether a Unicode escape stands for it. -/
structure CodeUnit where
  value : UInt16
  escaped : Bool := false
deriving DecidableEq

def plain (c : Char) : List CodeUnit := (utf16 c).map fun u => { value := u }

def hexDigits : List Char := "0123456789abcdef".toList

def hexUnit? (s : List Char) : Option UInt16 :=
  let digits := s.map Char.toLower
  if digits.all hexDigits.contains then
    some (UInt16.ofNat (digits.foldl (fun n d => 16 * n + hexDigits.idxOf d) 0))
  else none

mutual

/-- Of several backslashes in a row every second one is taken by the one before it, so that only a
backslash after an even number of them begins an escape. -/
def translate : List Char → Option (List CodeUnit)
  | [] => some []
  | '\\' :: '\\' :: rest => (translate rest).map (plain '\\' ++ plain '\\' ++ ·)
  | '\\' :: 'u' :: rest => translateEscape rest
  | c :: rest => (translate rest).map (plain c ++ ·)

/-- One `u` of the escape has been read; more may follow, and then four digits. -/
def translateEscape : List Char → Option (List CodeUnit)
  | 'u' :: rest => translateEscape rest
  | a :: b :: c :: d :: rest =>
    (hexUnit? [a, b, c, d]).bind fun u =>
      (translate rest).map ({ value := u, escaped := true } :: ·)
  | _ => none

end

example : translate "\\\\u002a\\\\\\uu002A".toList =
    some ("\\\\u002a\\\\".toList.flatMap plain ++ [{ value := unit '*', escaped := true }]) := by
  decide

open Naming.Chars (ascii_forall)

theorem utf16_of_lt {c : Char} (h : c.toNat < 0x10000) : utf16 c = [unit c] := if_pos h

theorem plain_of_lt {c : Char} (h : c.toNat < 0x10000) : plain c = [{ value := unit c }] := by
  rw [plain, utf16_of_lt h, List.map_singleton]

theorem eq_of_unit_mem_utf16 {c d : Char} (hd : d.toNat < 0x80) (h : unit d ∈ utf16 c) : c = d := by
  have toNat_ofNat : ∀ n < 0x10000, (UInt16.ofNat n).toNat = n :=
    fun n => UInt16.toNat_ofNat_of_lt'
  have hc : c.toNat < 0x110000 := by
    rcases c.valid with hvalid | ⟨-, hvalid⟩
    · exact Nat.lt_trans hvalid (by decide)
    · exact hvalid
  unfold utf16 at h
  split at h
  · rename_i hsmall
    rw [List.mem_singleton, ← UInt16.toNat_inj, unit, unit, toNat_ofNat _ hsmall,
      toNat_ofNat _ (by omega)] at h
    exact (Char.toNat_inj.mp h).symm
  · simp only [List.mem_cons, List.not_mem_nil, or_false, ← UInt16.toNat_inj, unit] at h
    rw [toNat_ofNat _ (by omega), toNat_ofNat _ (by omega), toNat_ofNat _ (by omega)] at h
    omega

theorem eq_of_mem_plain {c d : Char} (hd : d.toNat < 0x80) (h : { value := unit d } ∈ plain c) :
    c = d := by
  obtain ⟨u, hu, hunit⟩ := List.mem_map.mp h
  rw [CodeUnit.mk.injEq] at hunit
  exact eq_of_unit_mem_utf16 hd (hunit.1 ▸ hu)

theorem plain_ne_nil (c : Char) : plain c ≠ [] := by
  rw [plain, Ne, List.map_eq_nil_iff]
  unfold utf16
  split <;> exact List.cons_ne_nil _ _

theorem isAlphanum_of_mem_hexDigits {c : Char} (h : c.toLower ∈ hexDigits) :
    c.isAlphanum = true := by
  have hdigits : hexDigits.all (fun d => d.toNat < 0x80) = true := by decide
  by_cases hupper : c.isUpper
  · show (c.isUpper || c.isLower || c.isDigit) = true
    rw [hupper, Bool.true_or, Bool.true_or]
  · have hlower : c.toLower = c := dif_neg fun h => hupper (decide_eq_true h)
    rw [hlower] at h
    exact ascii_forall (P := fun c => c ∈ hexDigits → c.isAlphanum = true) (by decide)
      (of_decide_eq_true (List.all_eq_true.mp hdigits c h)) h

theorem hexUnit?_of_mem {s : List Char} {c : Char} (hc : c.isAlphanum = false) (h : c ∈ s) :
    hexUnit? s = none := by
  refine if_neg fun hall => ?_
  rw [List.all_map, List.all_eq_true] at hall
  have hdigit : c.toLower ∈ hexDigits := List.contains_iff_mem.mp (hall c h)
  exact Bool.false_ne_true (hc.symm.trans (isAlphanum_of_mem_hexDigits hdigit))

theorem translate_cons {c : Char} (h : c ≠ '\\') (rest : List Char) :
    translate (c :: rest) = (translate rest).map (plain c ++ ·) := by
  rw [translate]
  · rintro _ rfl
    exact absurd rfl h
  · rintro _ rfl
    exact absurd rfl h

/-- A backslash that begins no escape takes the next character with it. -/
theorem translate_backslash_cons {c : Char} (h : c ≠ 'u') (rest : List Char) :
    translate ('\\' :: c :: rest) = (translate rest).map (plain '\\' ++ plain c ++ ·) := by
  by_cases hc : c = '\\'
  · rw [hc, translate]
  · have hnext : ∀ d more, c :: rest = d :: more → d = c :=
      fun d more hcons => (List.cons.inj hcons).1.symm
    rw [translate.eq_4 _ _ (fun more _ hcons => hc (hnext _ more hcons).symm)
      (fun more _ hcons => h (hnext _ more hcons).symm), translate_cons hc, Option.map_map]
    simp only [Function.comp_def, List.append_assoc]

theorem translate_of_notMem {s : List Char} (h : '\\' ∉ s) :
    translate s = some (s.flatMap plain) := by
  induction s with
  | nil => rw [translate, List.flatMap_nil]
  | cons c s ih =>
    obtain ⟨hc, hs⟩ := not_or.mp (mt List.mem_cons.mpr h)
    rw [translate_cons (Ne.symm hc), ih hs, Option.map_some, List.flatMap_cons]

structure Inert (c : Char) : Prop where
  ne_backslash : c ≠ '\\'
  not_alphanum : c.isAlphanum = false

theorem Inert.ne_u {c : Char} (h : Inert c) : c ≠ 'u' := by
  rintro rfl
  cases h.not_alphanum

theorem translateEscape_of_mem {s : List Char} {c : Char} (hc : Inert c) (h : c ∈ s.take 4)
    (hu : s.head? ≠ some 'u') : translateEscape s = none := by
  rw [translateEscape.eq_def]
  split
  · exact absurd rfl hu
  · rename_i p q r s rest _
    have hdigits : c ∈ [p, q, r, s] := h
    rw [hexUnit?_of_mem hc.not_alphanum hdigits, Option.bind_none]
  · rfl

theorem translate_append_cons_both {c : Char} (hc : Inert c) (b : List Char) :
    (∀ a, translate (a ++ c :: b) =
      (translate a).bind fun xs => (translate b).map (xs ++ plain c ++ ·)) ∧
    ∀ a, translateEscape (a ++ c :: b) =
      (translateEscape a).bind fun xs => (translate b).map (xs ++ plain c ++ ·) := by
  apply translate.mutual_induct
  case case1 =>
    rw [List.nil_append, translate_cons hc.ne_backslash, translate, Option.bind_some,
      List.nil_append]
  case case2 =>
    intro rest ih
    simp only [List.cons_append, translate, ih]
    cases translate rest <;> cases translate b <;> simp
  case case3 =>
    intro rest ih
    simp only [List.cons_append, translate, ih]
  case case4 =>
    -- a backslash may stand right before `c`, but then it begins nothing
    intro d rest hslash hmark ih
    have hnext : ∀ e, e ≠ c → (∀ more, d = '\\' → rest = e :: more → False) →
        ∀ more, d = '\\' → rest ++ c :: b = e :: more → False := by
      intro e he hrest more hd hcons
      cases rest with
      | nil => exact he (List.cons.inj hcons).1.symm
      | cons e' rest => exact hrest rest hd (by rw [(List.cons.inj hcons).1])
    rw [List.cons_append, translate.eq_4 d rest hslash hmark,
      translate.eq_4 d _ (hnext _ hc.ne_backslash.symm hslash) (hnext _ hc.ne_u.symm hmark), ih]
    cases translate rest <;> cases translate b <;> simp
  case case5 =>
    intro rest ih
    simp only [List.cons_append, translateEscape, ih]
  case case6 =>
    intro p q r s rest hu ih
    simp only [List.cons_append, translateEscape, ih]
    cases hexUnit? [p, q, r, s] <;> cases translate rest <;> cases translate b <;> simp
  case case7 =>
    intro t ht hshort
    have hlength : t.length < 4 := by
      match t, hshort with
      | p :: q :: r :: s :: rest, hshort => exact (hshort p q r s rest rfl).elim
      | [], _ | [_], _ | [_, _], _ | [_, _, _], _ => simp
    rw [translateEscape.eq_3 t ht hshort, Option.bind_none]
    apply translateEscape_of_mem hc
    · obtain ⟨n, hn⟩ : ∃ n, 4 - t.length = n + 1 := ⟨3 - t.length, by omega⟩
      rw [List.take_append, hn, List.take_succ_cons]
      exact List.mem_append_right _ List.mem_cons_self
    · cases t with
      | nil => simpa using hc.ne_u
      | cons e t =>
        rintro hhead
        obtain rfl : e = 'u' := by simpa using hhead
        exact ht t rfl

theorem translate_append_cons {c : Char} (hc : Inert c) (a b : List Char) :
    translate (a ++ c :: b) =
      (translate a).bind fun xs => (translate b).map (xs ++ plain c ++ ·) :=
  (translate_append_cons_both hc b).1 a

end ClientGen.JavaSource
