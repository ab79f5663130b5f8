/-!
Costs of hashing passwords. Each step of the cost doubles the work.
-/

namespace ChatServer.Password

def minNewCost : Nat := 10

def maxNewCost : Nat := 14

def minCost : Nat := 4

def maxCost : Nat := 31

/-- May a new hash have the cost? -/
def isNewCost (cost : Nat) : Bool :=
  minNewCost ≤ cost && cost ≤ maxNewCost

/-- May a hash have the cost? -/
def isCost (cost : Nat) : Bool :=
  minCost ≤ cost && cost ≤ maxCost

/-- The costs of new hashes are costs of hashes. -/
theorem isCost_of_isNewCost {cost : Nat} (h : isNewCost cost = true) : isCost cost = true := by
  simp only [isNewCost, isCost, Bool.and_eq_true, decide_eq_true_eq] at h ⊢
  simp only [minNewCost, maxNewCost, minCost, maxCost] at h ⊢
  omega

end ChatServer.Password
