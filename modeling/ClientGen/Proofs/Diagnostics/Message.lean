import ClientGen.Diagnostics.Collector
import Mathlib.Data.List.Basic

/-! The text that is recorded for an event. Fields come one by one, and each may replace what those
before it have left: one named `message` always does, and any other only where nothing came before
it. So it does not matter where among the fields the message stands. -/

namespace ClientGen

namespace Event

inductive Value.Reads : Value → String → Prop
  | text (s : String) : Reads (.text s) s
  | shown (form : String) : Reads (.shown form) form

inductive Gives : List (String × Value) → String → Prop
  | message {fields : List (String × Value)} {value : Value} {s : String}
    (hmem : ("message", value) ∈ fields) (hs : value.Reads s) : Gives fields s
  | first {name : String} {value : Value} {rest : List (String × Value)} {s : String}
    (hnone : "message" ∉ ((name, value) :: rest).map Prod.fst) (hs : value.Reads s) :
    Gives ((name, value) :: rest) s
  | nothing : Gives [] ""

variable {fields : List (String × Value)} {value : Value} {s : String}

theorem reads_render (value : Value) : value.Reads value.render := by
  cases value with
  | text s => exact .text s
  | shown form => exact .shown form

theorem Value.Reads.render_eq (h : value.Reads s) : value.render = s := by
  cases h <;> rfl

theorem foldl_considerField_of_notMem (h : "message" ∉ fields.map Prod.fst) :
    fields.foldl considerField (some s) = some s := by
  induction fields with
  | nil => rfl
  | cons field rest ih =>
    obtain ⟨hname, hrest⟩ := not_or.mp (List.mem_cons.not.mp h)
    have hkeep : considerField (some s) field = some s := by
      rw [considerField, if_neg]
      simpa using Ne.symm hname
    rw [List.foldl_cons, hkeep, ih hrest]

theorem considerField_message (chosen : Option String) (value : Value) :
    considerField chosen ("message", value) = some value.render :=
  if_pos (.inl rfl)

theorem messageOf_append_cons (before : List (String × Value)) (value : Value)
    {after : List (String × Value)} (h : "message" ∉ after.map Prod.fst) :
    messageOf (before ++ ("message", value) :: after) = value.render := by
  rw [messageOf, List.foldl_append, List.foldl_cons, considerField_message,
    foldl_considerField_of_notMem h, Option.getD_some]

theorem messageOf_cons (name : String) (value : Value) {rest : List (String × Value)}
    (h : "message" ∉ rest.map Prod.fst) : messageOf ((name, value) :: rest) = value.render := by
  have hfirst : considerField none (name, value) = some value.render := if_pos (.inr rfl)
  rw [messageOf, List.foldl_cons, hfirst, foldl_considerField_of_notMem h, Option.getD_some]

theorem messageOf_of_gives (hnames : (fields.map Prod.fst).Nodup) (h : Gives fields s) :
    messageOf fields = s := by
  cases h with
  | message hmem hs =>
    obtain ⟨before, after, rfl⟩ := List.append_of_mem hmem
    have hafter : "message" ∉ after.map Prod.fst := by
      rw [List.map_append, List.map_cons] at hnames
      exact (List.nodup_cons.mp (List.nodup_append.mp hnames).2.1).1
    rw [messageOf_append_cons before _ hafter, hs.render_eq]
  | first hnone hs =>
    have hrest := fun hrest => hnone (List.mem_cons_of_mem _ hrest)
    rw [messageOf_cons _ _ hrest, hs.render_eq]
  | nothing => rfl

theorem exists_gives (fields : List (String × Value)) : ∃ s, Gives fields s := by
  by_cases h : "message" ∈ fields.map Prod.fst
  · obtain ⟨⟨_, value⟩, hmem, rfl⟩ := List.mem_map.mp h
    exact ⟨_, .message hmem (reads_render value)⟩
  · cases fields with
    | nil => exact ⟨_, .nothing⟩
    | cons field rest => exact ⟨_, .first h (reads_render field.2)⟩

theorem gives_iff (hnames : (fields.map Prod.fst).Nodup) :
    Gives fields s ↔ s = messageOf fields := by
  constructor
  · exact fun h => (messageOf_of_gives hnames h).symm
  · rintro rfl
    obtain ⟨s, h⟩ := exists_gives fields
    rwa [messageOf_of_gives hnames h]

end Event

namespace Collector

open Event

/-- An event of a level that is recorded adds one entry, with the level and the target of the event
and the one text that its fields give. -/
theorem observe_of_recorded (c : Collector) (level : Level) (target : String)
    (fields : List (String × Value)) (hlevel : c.isRecorded level = true)
    (hnames : (fields.map Prod.fst).Nodup) :
    ∃ message, (∀ s, Gives fields s ↔ s = message) ∧
      c.observe level target fields =
        { c with entries := c.entries ++ [⟨level, target, message⟩] } := by
  refine ⟨messageOf fields, fun s => gives_iff hnames, ?_⟩
  rw [observe, if_pos hlevel, record, if_pos hlevel]

def failedLogin : List (String × Value) :=
  [("user", .text "ann"), ("attempt", .shown "3"), ("message", .shown "login failed"),
    ("source", .text "web")]

theorem observe_of_failedLogin :
    isRecorded {} .error = true ∧ (failedLogin.map Prod.fst).Nodup ∧
      observe {} .error "app" failedLogin = ⟨.warn, [⟨.error, "app", "login failed"⟩]⟩ := by
  have hlevel : isRecorded {} .error = true := rfl
  have hnames : (failedLogin.map Prod.fst).Nodup := by decide
  obtain ⟨message, hgives, hobserve⟩ := observe_of_recorded {} .error "app" failedLogin hlevel hnames
  have hmessage : "login failed" = message :=
    (hgives _).mp (.message (by simp [failedLogin]) (.shown _))
  exact ⟨hlevel, hnames, hmessage ▸ hobserve⟩

end Collector

end ClientGen
