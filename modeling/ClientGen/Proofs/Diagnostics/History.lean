import ClientGen.Diagnostics.Collector
import Mathlib.Data.List.Basic
import Mathlib.Data.List.Induction

/-! A collector over any sequence of calls. What it has handed out and what it still holds are
together the events that counted when they came in, each once and in the order of their arrival. -/

namespace ClientGen.Collector

inductive Call
  | setThreshold (l : Level)
  | record (e : Event)
  | count (l : Level)
  | drain

inductive Answer
  | done
  | number (n : Nat)
  | events (es : List Event)
deriving DecidableEq

def Answer.drained : Answer → List Event
  | .events es => es
  | _ => []

def answer (c : Collector) : Call → Answer
  | .count l => .number (c.count l)
  | .drain => .events c.drain.1
  | _ => .done

def next (c : Collector) : Call → Collector
  | .setThreshold l => c.setThreshold l
  | .record e => c.record e
  | .count _ => c
  | .drain => c.drain.2

def after (c : Collector) (calls : List Call) : Collector := calls.foldl next c

def answers : Collector → List Call → List Answer
  | _, [] => []
  | c, call :: rest => c.answer call :: answers (c.next call) rest

theorem after_concat (c : Collector) (calls : List Call) (call : Call) :
    c.after (calls ++ [call]) = (c.after calls).next call := by
  rw [after, List.foldl_concat, after]

theorem answers_append (c : Collector) (calls more : List Call) :
    c.answers (calls ++ more) = c.answers calls ++ (c.after calls).answers more := by
  induction calls generalizing c with
  | nil => rfl
  | cons call rest ih =>
    rw [List.cons_append, answers, answers, ih, List.cons_append]
    rfl

theorem length_answers (c : Collector) (calls : List Call) :
    (c.answers calls).length = calls.length := by
  induction calls generalizing c with
  | nil => rfl
  | cons call rest ih => rw [answers, List.length_cons, ih, List.length_cons]

theorem getElem?_answers (c : Collector) (calls rest : List Call) (call : Call) :
    (c.answers (calls ++ call :: rest))[calls.length]? = some ((c.after calls).answer call) := by
  rw [answers_append, List.getElem?_append_right (Nat.le_of_eq (length_answers c calls)),
    length_answers, Nat.sub_self]
  rfl

/-! What the calls say, apart from any collector. -/

def Call.threshold? : Call → Option Level
  | .setThreshold l => some l
  | _ => none

/-- What a call adds to the log while `t` is in force; `off` is no level of an event. -/
def Call.counted (t : Level) : Call → List Event
  | .record e => if e.level ≠ .off ∧ t ≤ e.level then [e] else []
  | _ => []

def inForce (calls : List Call) : Level := (calls.filterMap Call.threshold?).getLastD .warn

def recorded (calls : List Call) : List Event :=
  calls.zipIdx.flatMap fun (call, i) => call.counted (inForce (calls.take i))

example : recorded [.record ⟨.info, "app", "a"⟩, .record ⟨.warn, "app", "b"⟩, .setThreshold .trace,
    .record ⟨.off, "app", "c"⟩, .drain, .record ⟨.info, "app", "d"⟩] =
      [⟨.warn, "app", "b"⟩, ⟨.info, "app", "d"⟩] := by decide

theorem inForce_concat (calls : List Call) (call : Call) :
    inForce (calls ++ [call]) = call.threshold?.getD (inForce calls) := by
  rw [inForce, List.filterMap_append]
  cases call <;> simp [Call.threshold?, inForce]

theorem recorded_concat (calls : List Call) (call : Call) :
    recorded (calls ++ [call]) = recorded calls ++ call.counted (inForce calls) := by
  have hearlier : calls.zipIdx.flatMap
      (fun (earlier, i) => earlier.counted (inForce ((calls ++ [call]).take i))) =
        recorded calls := by
    apply List.flatMap_congr
    rintro ⟨earlier, i⟩ hmem
    have hi : i < calls.length := by simpa using (List.mem_zipIdx hmem).2.1
    have htake : (calls ++ [call]).take i = calls.take i :=
      List.take_append_of_le_length (Nat.le_of_lt hi)
    exact congrArg (fun before => earlier.counted (inForce before)) htake
  rw [recorded, List.zipIdx_append, List.flatMap_append, hearlier]
  simp

theorem drained_append_next (c : Collector) (call : Call) :
    (c.answer call).drained ++ (c.next call).entries =
      c.entries ++ call.counted c.threshold := by
  cases call with
  | setThreshold l => exact (List.append_nil c.entries).symm
  | record e =>
    rw [next, entries_record]
    simp [answer, Answer.drained, Call.counted, isRecorded, List.filter_singleton]
  | count l => exact (List.append_nil c.entries).symm
  | drain => rfl

theorem threshold_next (c : Collector) (call : Call) :
    (c.next call).threshold = call.threshold?.getD c.threshold := by
  cases call with
  | setThreshold l => exact threshold_setThreshold c l
  | record e => exact threshold_record c e
  | count l => rfl
  | drain => rfl

theorem threshold_after (calls : List Call) : (after {} calls).threshold = inForce calls := by
  induction calls using List.reverseRecOn with
  | nil => rfl
  | append_singleton calls call ih => rw [after_concat, threshold_next, ih, inForce_concat]

theorem drained_append_entries (calls : List Call) :
    (answers {} calls).flatMap Answer.drained ++ (after {} calls).entries = recorded calls := by
  induction calls using List.reverseRecOn with
  | nil => rfl
  | append_singleton calls call ih =>
    have hanswers : answers {} (calls ++ [call]) =
        answers {} calls ++ [(after {} calls).answer call] := answers_append {} calls [call]
    rw [hanswers, after_concat, List.flatMap_append, List.flatMap_singleton, List.append_assoc,
      drained_append_next, ← List.append_assoc, ih, threshold_after, recorded_concat]

/-- Nothing that counted when it came in is lost, doubled or moved, however often the threshold
changes and the collector is drained; a new threshold leaves what is held alone, and a count is of
what is held just then. -/
theorem history_lossless (calls : List Call) :
    (answers {} calls).flatMap Answer.drained ++ (after {} calls).entries = recorded calls ∧
      (∀ l, (after {} (calls ++ [.setThreshold l])).entries = (after {} calls).entries) ∧
      ∀ l rest, (answers {} (calls ++ .count l :: rest))[calls.length]? =
        some (.number ((after {} calls).entries.filter (·.level = l)).length) := by
  refine ⟨drained_append_entries calls, fun l => ?_, fun l rest => ?_⟩
  · rw [after_concat]
    rfl
  · rw [getElem?_answers, answer, count, List.countP_eq_length_filter]

end ClientGen.Collector
