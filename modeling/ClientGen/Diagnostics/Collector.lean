import ClientGen.Diagnostics.Event

/-!
The collector of the diagnostics that the report at the end of a run is made from.
-/

namespace ClientGen

structure Collector where
  threshold : Level := .warn
  entries : List Event := []

namespace Collector

def isRecorded (c : Collector) (l : Level) : Bool :=
  l ≠ .off && decide (c.threshold ≤ l)

def record (c : Collector) (e : Event) : Collector :=
  if c.isRecorded e.level then { c with entries := c.entries ++ [e] } else c

def recordAll (c : Collector) (events : List Event) : Collector :=
  events.foldl record c

@[simp]
theorem threshold_record (c : Collector) (e : Event) : (c.record e).threshold = c.threshold := by
  unfold record
  split <;> rfl

theorem entries_record (c : Collector) (e : Event) :
    (c.record e).entries = c.entries ++ [e].filter (c.isRecorded ·.level) := by
  unfold record
  split <;> simp_all

theorem isRecorded_record (c : Collector) (e : Event) (l : Level) :
    (c.record e).isRecorded l = c.isRecorded l := by
  simp [isRecorded]

theorem entries_recordAll (c : Collector) (events : List Event) :
    (c.recordAll events).entries = c.entries ++ events.filter (c.isRecorded ·.level) := by
  induction events generalizing c with
  | nil => simp [recordAll]
  | cons e rest ih =>
    have : (c.record e).isRecorded = c.isRecorded := funext (isRecorded_record c e)
    show ((c.record e).recordAll rest).entries = _
    rw [ih, entries_record, this, List.append_assoc, ← List.filter_append]
    rfl

def observe (c : Collector) (level : Level) (target : String)
    (fields : List (String × Event.Value)) : Collector :=
  if c.isRecorded level then c.record ⟨level, target, Event.messageOf fields⟩ else c

/-- Entries already held stay whatever the new threshold is. A level is handed on by its number. -/
def setThreshold (c : Collector) (l : Level) : Collector :=
  { c with threshold := .ofRank l.rank }

@[simp]
theorem threshold_setThreshold (c : Collector) (l : Level) : (c.setThreshold l).threshold = l :=
  Level.ofRank_rank l

def drain (c : Collector) : List Event × Collector := (c.entries, { c with entries := [] })

def count (c : Collector) (l : Level) : Nat := c.entries.countP (·.level = l)

/-- What a run collects when its console shows events from `console` on. -/
def thresholdFor (console : Level) : Level := if console ≤ .warn then .warn else console

end Collector

end ClientGen
