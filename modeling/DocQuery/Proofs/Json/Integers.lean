import DocQuery.Proofs.Json.Lexing
import Mathlib.Data.List.TakeWhile

namespace DocQuery

namespace Literal

lemma span_digits {ds : List Char} (hd : ∀ c ∈ ds, c.isDigit = true) : ds.span Char.isDigit = (ds, []) := by
  rw [List.span_eq_takeWhile_dropWhile, List.takeWhile_eq_self_iff.mpr hd, List.dropWhile_eq_nil_iff.mpr hd]

lemma sign_digits {ds : List Char} (hd : ∀ c ∈ ds, c.isDigit = true) : sign ds = (false, ds) := by
  cases ds with
  | nil => rfl
  | cons c ds =>
    have hc := hd c List.mem_cons_self
    rw [sign]
    all_goals
      intro rest he
      obtain ⟨rfl, -⟩ := List.cons.inj he
      cases hc

lemma read?_digits {ds : List Char} (hd : ∀ c ∈ ds, c.isDigit = true) (hne : ds ≠ []) {text : List Char}
    {negative : Bool} (hs : sign text = (negative, ds)) : read? text = some ⟨negative, digitsValue ds, 0⟩ := by
  have hm : mantissa ds = (ds, 0, []) := by rw [mantissa, leadingDigits, span_digits hd]
  rw [read?, hs]
  dsimp only
  rw [hm]
  dsimp only
  rw [if_neg hne]
  rfl

end Literal

namespace Json

lemma head?_toDigits {n : Nat} (hn : n ≠ 0) : (Nat.toDigits 10 n).head? ≠ some '0' := by
  induction n using Nat.strongRecOn with
  | ind n ih =>
    by_cases h : n < 10
    · have hd : ∀ m < 10, m ≠ 0 → [Nat.digitChar m].head? ≠ some '0' := by decide
      rw [Nat.toDigits_of_lt_base h]
      exact hd n h hn
    · rw [Nat.toDigits_of_base_le (by decide) (by omega), List.head?_append, Option.or_of_isSome]
      · exact ih (n / 10) (by omega) (by omega)
      · exact List.isSome_head?.mpr Nat.toDigits_ne_nil

def signed (negative : Bool) (n : Nat) : List Char := if negative then '-' :: Nat.toDigits 10 n else Nat.toDigits 10 n

lemma isDigit_toDigits (n : Nat) : ∀ c ∈ Nat.toDigits 10 n, c.isDigit = true :=
  fun _ hc => Nat.isDigit_of_mem_toDigits (by decide) (by decide) hc

lemma head?_ne_of_not_isDigit {c : Char} (hc : c.isDigit = false) (n : Nat) : (Nat.toDigits 10 n).head? ≠ some c := by
  intro h
  rw [isDigit_toDigits n c (List.mem_of_head? h)] at hc
  cases hc

lemma sign_signed (negative : Bool) (n : Nat) : Literal.sign (signed negative n) = (negative, Nat.toDigits 10 n) := by
  cases negative with
  | true => rfl
  | false => exact Literal.sign_digits (isDigit_toDigits n)

lemma wellFormed_signed (negative : Bool) (n : Nat) : wellFormed (signed negative n) = true := by
  have hbody : (if (signed negative n).head? = some '-' then (signed negative n).drop 1 else signed negative n) =
      Nat.toDigits 10 n := by
    cases negative with
    | true => rfl
    | false => exact if_neg (head?_ne_of_not_isDigit rfl n)
  have hplus : (signed negative n).head? ≠ some '+' := by
    cases negative with
    | true => simp [signed]
    | false => exact head?_ne_of_not_isDigit rfl n
  have hzero : (Nat.toDigits 10 n).length = 1 ∨ (Nat.toDigits 10 n).head? ≠ some '0' := by
    by_cases hn : n = 0
    · exact .inl (by rw [hn]; rfl)
    · exact .inr (head?_toDigits hn)
  rw [wellFormed, hbody, Literal.span_digits (isDigit_toDigits n)]
  simp [hplus, hzero, Nat.toDigits_ne_nil]

lemma all_signed (negative : Bool) (n : Nat) : ∀ c ∈ signed negative n, (c.isDigit || c == '-') = true := by
  intro c hc
  cases negative with
  | true =>
    rcases List.mem_cons.mp hc with rfl | hc
    · rfl
    · rw [isDigit_toDigits n c hc, Bool.true_or]
  | false => rw [isDigit_toDigits n c hc, Bool.true_or]

lemma number?_signed {negative : Bool} {n : Nat} {m : Int} (hm : m = if negative then -(n : Int) else n)
    (hl : leastInt64 ≤ m) (hh : m < wordSize) (hz : (negative && n == 0) = false) :
    number? (signed negative n) = some (some (.int m)) := by
  have hr := Literal.read?_digits (isDigit_toDigits n) Nat.toDigits_ne_nil (sign_signed negative n)
  have hall := List.all_eq_true.mpr (all_signed negative n)
  rw [Literal.digitsValue_toDigits] at hr
  rw [number?, wellFormed_signed, hr]
  simp only [guard, if_true, pure_bind, Option.bind_eq_bind, Option.bind_some, ← hm, hall, hz, hl, hh]
  rfl

lemma exists_signed (m : Int) : ∃ negative n, (Number.int m).text.toList = signed negative n ∧
    m = (if negative then -(n : Int) else n) ∧ (negative && n == 0) = false := by
  cases m with
  | ofNat n => exact ⟨false, n, String.toList_ofList, rfl, rfl⟩
  | negSucc n =>
    have ht : (Number.int (.negSucc n)).text = "-" ++ Nat.repr (n + 1) := rfl
    exact ⟨true, n + 1, by simp [ht, signed], rfl, rfl⟩

end Json

lemma Number.rereadable_int {m : Int} (hl : leastInt64 ≤ m) (hh : m < wordSize) : Rereadable (.int m) := by
  obtain ⟨negative, n, ht, hm, hz⟩ := Json.exists_signed m
  constructor
  · intro c hc
    rw [ht] at hc
    rw [Json.isNumeral, Json.all_signed negative n c hc]
    rfl
  · rw [ht]
    exact Json.number?_signed hm hl hh hz

end DocQuery
