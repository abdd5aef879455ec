namespace DocQuery

def wordSize : Nat := 18446744073709551616

def leastInt64 : Int := -9223372036854775808

def greatestInt64 : Int := 9223372036854775807

def clampInt64 (n : Int) : Int := max leastInt64 (min greatestInt64 n)

def isInt64 (n : Int) : Bool := clampInt64 n == n

theorem clampInt64_mem (n : Int) : leastInt64 ≤ clampInt64 n ∧ clampInt64 n ≤ greatestInt64 := by
  simp only [clampInt64, leastInt64, greatestInt64]
  omega

theorem isInt64_iff (n : Int) : isInt64 n = true ↔ leastInt64 ≤ n ∧ n ≤ greatestInt64 := by
  simp only [isInt64, beq_iff_eq, clampInt64, leastInt64, greatestInt64]
  omega

end DocQuery
