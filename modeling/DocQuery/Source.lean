import DocQuery.Number.Literal

namespace DocQuery

/-- What a run takes from outside: keys for new rows, no two of them the same, and the numbers that `RAND` draws, be
it with a seed or for the field `target` of the row `key`. -/
class Source where
  key : Nat → String
  key_injective : ∀ {m n : Nat}, key m = key n → m = n
  seeded (seed : Int) : Float
  draw (target key : String) : Float

namespace Source

def drawn [Source] (target key : String) : Option Int → Float
  | some seed => seeded seed
  | none => draw target key

def numberedKey (n : Nat) : String :=
  let digits := (Nat.repr n).toList
  "~gen-" ++ String.ofList (List.replicate (4 - digits.length) '0' ++ digits)

theorem toList_numberedKey (n : Nat) :
    (numberedKey n).toList = "~gen-".toList ++
      (List.replicate (4 - (Nat.repr n).toList.length) '0' ++ (Nat.repr n).toList) := by
  rw [numberedKey, String.toList_append]
  exact congrArg ("~gen-".toList ++ ·) String.toList_ofList

theorem numberedKey_injective {m n : Nat} (h : numberedKey m = numberedKey n) : m = n := by
  have hdigits := congrArg String.toList h
  rw [toList_numberedKey, toList_numberedKey] at hdigits
  -- zeros in front do not change the number that the digits read as
  have hread := congrArg Literal.digitsValue (List.append_cancel_left hdigits)
  simpa only [Literal.digitsValue_padded] using hread

/-- The source of the command line, whose keys can be told apart from others. -/
instance numbered : Source where
  key := numberedKey
  key_injective := numberedKey_injective
  seeded _ := 0.5
  draw _ _ := 0.5

end Source

end DocQuery
