/-!
Expressions in the bodies of generated methods.
-/

namespace ClientGen

inductive Expr
  /-- The owning instance. -/
  | this
  | null
  /-- A field of the owning instance. -/
  | field (name : String)
  /-- A parameter of the method. -/
  | param (name : String)
  | staticCall (owner method : String) (args : List Expr)
  | call (receiver : Expr) (method : String) (args : List Expr)
deriving Inhabited

namespace Expr

def callNames : Expr → List String
  | call receiver method _ => receiver.callNames ++ [method]
  | staticCall _ method _ => [method]
  | _ => []

mutual

def same : Expr → Expr → Bool
  | this, this | null, null => true
  | field a, field b | param a, param b => a == b
  | staticCall c m args, staticCall c' m' args' => c == c' && m == m' && sameAll args args'
  | call r m args, call r' m' args' => same r r' && m == m' && sameAll args args'
  | _, _ => false

def sameAll : List Expr → List Expr → Bool
  | [], [] => true
  | a :: as, b :: bs => same a b && sameAll as bs
  | _, _ => false

end

mutual

theorem same_iff : (a b : Expr) → (same a b = true ↔ a = b)
  | this, b | null, b => by cases b <;> simp [same]
  | field _, b | param _, b => by cases b <;> simp [same]
  | staticCall _ _ args, b => by
    cases b <;> simp [same, sameAll_iff args, and_assoc]
  | call r _ args, b => by
    cases b <;> simp [same, same_iff r, sameAll_iff args, and_assoc]

theorem sameAll_iff : (as bs : List Expr) → (sameAll as bs = true ↔ as = bs)
  | [], bs => by cases bs <;> simp [sameAll]
  | a :: as, bs => by cases bs <;> simp [sameAll, same_iff a, sameAll_iff as]

end

instance : DecidableEq Expr := fun a b => decidable_of_iff _ (same_iff a b)

end Expr

end ClientGen
