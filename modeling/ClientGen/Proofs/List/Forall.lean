import Mathlib.Data.List.Forall2

/-! Lists that match member by member: the match of a member, the lists when they are mapped or
filtered, and whether a list has a match. -/

namespace List

variable {α β γ : Type} {R : α → β → Prop} {as : List α} {bs : List β}

theorem Forall₂.exists_of_mem_right (h : Forall₂ R as bs) {b : β} (hb : b ∈ bs) :
    ∃ a ∈ as, R a b := by
  induction h with
  | nil => simp at hb
  | cons hab _ ih =>
    rcases mem_cons.mp hb with rfl | hb
    · exact ⟨_, mem_cons_self, hab⟩
    · obtain ⟨a, ha, hr⟩ := ih hb
      exact ⟨a, mem_cons_of_mem _ ha, hr⟩

theorem Forall₂.exists_of_mem_left (h : Forall₂ R as bs) {a : α} (ha : a ∈ as) :
    ∃ b ∈ bs, R a b :=
  h.flip.exists_of_mem_right ha

theorem Forall₂.exists_of_getElem? (h : Forall₂ R as bs) {i : Nat} {a : α}
    (ha : as[i]? = some a) : ∃ b, bs[i]? = some b ∧ R a b := by
  induction h generalizing i with
  | nil => cases ha
  | @cons _ b _ _ hab _ ih =>
    cases i with
    | zero =>
      obtain rfl := Option.some.inj ha
      exact ⟨b, rfl, hab⟩
    | succ i => exact ih ha

theorem Forall₂.map_eq {f : α → γ} {g : β → γ} (h : Forall₂ R as bs)
    (hR : ∀ a b, R a b → g b = f a) : bs.map g = as.map f := by
  induction h with
  | nil => rfl
  | cons hab _ ih => rw [map_cons, map_cons, hR _ _ hab, ih]

theorem Forall₂.filterMap_eq {f : β → Option γ} {p : α → Bool} {g : α → γ}
    (h : Forall₂ (fun a b => f b = if p a then some (g a) else none) as bs) :
    bs.filterMap f = (as.filter p).map g := by
  induction h with
  | nil => rfl
  | @cons a b as bs hab _ ih =>
    cases hp : p a with
    | true =>
      rw [hp, if_pos rfl] at hab
      rw [filterMap_cons_some hab, filter_cons_of_pos hp, map_cons, ih]
    | false =>
      rw [hp, if_neg Bool.false_ne_true] at hab
      rw [filterMap_cons_none hab, filter_cons_of_neg (Bool.eq_false_iff.mp hp), ih]

theorem exists_forall₂_iff : (∃ bs, Forall₂ R as bs) ↔ ∀ a ∈ as, ∃ b, R a b := by
  induction as with
  | nil => simp
  | cons a as ih =>
    rw [forall_mem_cons, ← ih]
    constructor
    · rintro ⟨_, hbs⟩
      obtain ⟨b, rest, hb, hrest, -⟩ := forall₂_cons_left_iff.mp hbs
      exact ⟨⟨b, hb⟩, rest, hrest⟩
    · rintro ⟨⟨b, hb⟩, bs, hbs⟩
      exact ⟨b :: bs, .cons hb hbs⟩

end List
