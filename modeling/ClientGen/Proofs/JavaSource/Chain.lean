import ClientGen.Output.JavaSource
import Mathlib.Data.List.Basic
import Mathlib.Data.List.Induction

/-! Expressions in one line and in several. Both forms are the same pieces in the same order: the
root of the chain of calls, and the calls on it. Every expression can be read back from its tokens,
so neither form loses, repeats or moves a call, an argument or a receiver. -/

namespace ClientGen.JavaSource

variable {e root : Expr} {calls : List (String × List Expr)}

def applied (root : Expr) (calls : List (String × List Expr)) : Expr :=
  calls.foldl (fun receiver call => .call receiver call.1 call.2) root

theorem applied_concat (root : Expr) (calls : List (String × List Expr))
    (call : String × List Expr) :
    applied root (calls ++ [call]) = .call (applied root calls) call.1 call.2 :=
  List.foldl_concat ..

structure IsSpine (e root : Expr) (calls : List (String × List Expr)) : Prop where
  eq : e = applied root calls
  noCall : ∀ receiver method args, root ≠ .call receiver method args

theorem isSpine_chain (e : Expr) : IsSpine e (chainRoot e) (chainCalls e) := by
  induction e using chainCalls.induct with
  | case1 receiver method args ih =>
    rw [chainRoot, chainCalls]
    exact ⟨by rw [applied_concat, ← ih.eq], ih.noCall⟩
  | case2 e h =>
    rw [chainRoot, chainCalls]
    · exact ⟨rfl, h⟩
    all_goals exact h

theorem chainRoot_applied (root : Expr) (calls : List (String × List Expr)) :
    chainRoot (applied root calls) = chainRoot root := by
  induction calls using List.reverseRecOn with
  | nil => rfl
  | append_singleton calls call ih => rw [applied_concat, chainRoot, ih]

theorem chainCalls_applied (root : Expr) (calls : List (String × List Expr)) :
    chainCalls (applied root calls) = chainCalls root ++ calls := by
  induction calls using List.reverseRecOn with
  | nil => exact (List.append_nil _).symm
  | append_singleton calls call ih => rw [applied_concat, chainCalls, ih, List.append_assoc]

theorem isSpine_iff : IsSpine e root calls ↔ root = chainRoot e ∧ calls = chainCalls e := by
  constructor
  · rintro ⟨rfl, hroot⟩
    rw [chainRoot_applied, chainCalls_applied, chainRoot, chainCalls]
    · exact ⟨rfl, rfl⟩
    all_goals exact hroot
  · rintro ⟨rfl, rfl⟩
    exact isSpine_chain e

theorem arguments_eq (es : List Expr) : arguments es = String.intercalate ", " (es.map inline) := by
  induction es with
  | nil => rfl
  | cons e es ih =>
    cases es with
    | nil => rw [arguments, List.map_singleton, String.intercalate_singleton]
    | cons f es =>
      rw [List.map_cons, String.intercalate_cons_of_ne_nil (by simp), ← ih, arguments]
      simp

def callText (call : String × List Expr) : String :=
  "." ++ call.1 ++ "(" ++ String.intercalate ", " (call.2.map inline) ++ ")"

def pieces (root : Expr) (calls : List (String × List Expr)) : List String :=
  inline root :: calls.map callText

theorem inline_applied (root : Expr) (calls : List (String × List Expr)) :
    inline (applied root calls) = String.join (pieces root calls) := by
  -- the outermost call is the last one, so the induction is on the calls from their end
  induction calls using List.reverseRecOn with
  | nil => simp [applied, pieces]
  | append_singleton calls call ih =>
    rw [applied_concat, inline, ih, arguments_eq]
    simp [pieces, callText, String.append_assoc]

theorem intercalate_cons (s t : String) (parts : List String) :
    String.intercalate s (t :: parts) = t ++ String.join (parts.map (s ++ ·)) := by
  induction parts generalizing t with
  | nil => simp
  | cons u parts ih =>
    rw [String.intercalate_cons_cons, ih]
    simp [String.append_assoc]

theorem expression_eq (e : Expr) (margin : String) :
    expression e margin = if (chainCalls e).length < 2 then inline e else
      String.intercalate ("\n" ++ margin ++ indent) (pieces (chainRoot e) (chainCalls e)) := by
  rw [expression]
  split
  · rfl
  · rw [pieces, intercalate_cons, List.map_map]
    simp [callText, arguments_eq, Function.comp_def, String.append_assoc]

inductive Token
  | this
  | null
  | field (name : String)
  | param (name : String)
  | staticCall (owner method : String)
  | call (method : String)
  | comma
  | close

def Token.text : Token → String
  | this => "this"
  | null => "null"
  | field name => "this." ++ name
  | param name => name
  | staticCall owner method => owner ++ "." ++ method ++ "("
  | call method => "." ++ method ++ "("
  | comma => ", "
  | close => ")"

def spelled (tokens : List Token) : String := String.join (tokens.map Token.text)

theorem spelled_append (a b : List Token) : spelled (a ++ b) = spelled a ++ spelled b := by
  simp [spelled]

theorem spelled_cons (t : Token) (rest : List Token) :
    spelled (t :: rest) = t.text ++ spelled rest := by
  simp [spelled]

theorem spelled_close : spelled [.close] = ")" := rfl

mutual

def tokens : Expr → List Token
  | .this => [.this]
  | .null => [.null]
  | .field name => [.field name]
  | .param name => [.param name]
  | .staticCall owner method args => .staticCall owner method :: (argumentTokens args ++ [.close])
  | .call receiver method args =>
    tokens receiver ++ .call method :: (argumentTokens args ++ [.close])

def argumentTokens : List Expr → List Token
  | [] => []
  | [e] => tokens e
  | e :: es => tokens e ++ .comma :: argumentTokens es

end

def callTokens (call : String × List Expr) : List Token :=
  .call call.1 :: (argumentTokens call.2 ++ [.close])

mutual

theorem spelled_tokens : (e : Expr) → spelled (tokens e) = inline e
  | .this | .null | .field _ | .param _ => by simp [spelled, tokens, inline, Token.text]
  | .staticCall owner method args => by
    rw [tokens, inline, spelled_cons, spelled_append, spelled_argumentTokens args, spelled_close,
      Token.text]
    simp only [String.append_assoc]
  | .call receiver method args => by
    rw [tokens, inline, spelled_append, spelled_cons, spelled_append, spelled_tokens receiver,
      spelled_argumentTokens args, spelled_close, Token.text]
    simp only [String.append_assoc]

theorem spelled_argumentTokens : (es : List Expr) → spelled (argumentTokens es) = arguments es
  | [] => rfl
  | [e] => by rw [argumentTokens, arguments, spelled_tokens e]
  | e :: f :: es => by
    have hcons : f :: es = [] → False := by simp
    rw [argumentTokens.eq_3 _ _ hcons, arguments.eq_3 _ _ hcons, spelled_append, spelled_cons,
      spelled_tokens e, spelled_argumentTokens (f :: es), Token.text, String.append_assoc]

end

theorem spelled_callTokens (call : String × List Expr) :
    spelled (callTokens call) = callText call := by
  rw [callTokens, callText, spelled_cons, spelled_append, spelled_argumentTokens, arguments_eq,
    spelled_close, Token.text]
  simp only [String.append_assoc]

theorem tokens_applied (root : Expr) (calls : List (String × List Expr)) :
    tokens (applied root calls) = (tokens root :: calls.map callTokens).flatten := by
  induction calls using List.reverseRecOn with
  | nil => simp [applied]
  | append_singleton calls call ih =>
    rw [applied_concat, tokens, ih]
    simp [callTokens]

/-- What has been read so far: the last whole expression if it is complete, and the calls that are
open around it, innermost first, each with its earlier arguments. -/
structure Reader where
  current : Option Expr
  pending : List ((List Expr → Expr) × List Expr)

namespace Reader

def step : Reader → Token → Option Reader
  | ⟨none, pending⟩, .this => some ⟨some .this, pending⟩
  | ⟨none, pending⟩, .null => some ⟨some .null, pending⟩
  | ⟨none, pending⟩, .field name => some ⟨some (.field name), pending⟩
  | ⟨none, pending⟩, .param name => some ⟨some (.param name), pending⟩
  | ⟨none, pending⟩, .staticCall owner method =>
    some ⟨none, (.staticCall owner method, []) :: pending⟩
  | ⟨some receiver, pending⟩, .call method => some ⟨none, (.call receiver method, []) :: pending⟩
  | ⟨some e, (make, args) :: pending⟩, .comma => some ⟨none, (make, args ++ [e]) :: pending⟩
  | ⟨e, (make, args) :: pending⟩, .close => some ⟨some (make (args ++ e.toList)), pending⟩
  | _, _ => none

def read? (tokens : List Token) : Option Expr :=
  match tokens.foldlM step ⟨none, []⟩ with
  | some ⟨some e, []⟩ => some e
  | _ => none

mutual

theorem foldlM_tokens : (e : Expr) → (pending : List ((List Expr → Expr) × List Expr)) →
    (tokens e).foldlM step ⟨none, pending⟩ = some ⟨some e, pending⟩
  | .this, _ | .null, _ | .field _, _ | .param _, _ => by rw [tokens]; rfl
  | .staticCall owner method args, pending => by
    rw [tokens, List.foldlM_cons]
    exact foldlM_arguments args (.staticCall owner method) [] pending
  | .call receiver method args, pending => by
    rw [tokens, List.foldlM_append, foldlM_tokens receiver pending]
    exact foldlM_arguments args (.call receiver method) [] pending

theorem foldlM_arguments : (es : List Expr) → (make : List Expr → Expr) → (args : List Expr) →
    (pending : List ((List Expr → Expr) × List Expr)) →
    (argumentTokens es ++ [Token.close]).foldlM step ⟨none, (make, args) :: pending⟩ =
      some ⟨some (make (args ++ es)), pending⟩
  | [], _, _, _ => rfl
  | [e], make, args, pending => by
    rw [argumentTokens, List.foldlM_append, foldlM_tokens e]
    rfl
  | e :: f :: es, make, args, pending => by
    rw [argumentTokens.eq_3 _ _ (by simp), List.append_assoc, List.foldlM_append, foldlM_tokens e]
    exact (foldlM_arguments (f :: es) make (args ++ [e]) pending).trans (by simp)

end

theorem read?_tokens (e : Expr) : read? (tokens e) = some e := by
  rw [read?, foldlM_tokens]

end Reader

/-- An expression has one spine. In one line it is the pieces of its spine; with two calls or more
it is the same pieces with a break before each call, and with fewer it is not broken. The tokens of
the pieces are those of the expression, which can be read back from them. -/
theorem expression_by_pieces (e : Expr) (margin : String) :
    ∃ root calls, (∀ root' calls', IsSpine e root' calls' ↔ root' = root ∧ calls' = calls) ∧
      inline e = String.join (pieces root calls) ∧
      (expression e margin = if calls.length < 2 then inline e else
        String.intercalate ("\n" ++ margin ++ indent) (pieces root calls)) ∧
      (tokens root :: calls.map callTokens).map spelled = pieces root calls ∧
      (tokens root :: calls.map callTokens).flatten = tokens e ∧
      Reader.read? (tokens e) = some e := by
  have hspine := (isSpine_chain e).eq
  refine ⟨chainRoot e, chainCalls e, fun _ _ => isSpine_iff, ?_, expression_eq e margin, ?_, ?_,
    Reader.read?_tokens e⟩
  · rw [← inline_applied, ← hspine]
  · rw [List.map_cons, List.map_map, spelled_tokens, pieces]
    exact congrArg _ (List.map_congr_left fun call _ => spelled_callTokens call)
  · rw [← tokens_applied, ← hspine]

end ClientGen.JavaSource
