import DocQuery.Limit
import Mathlib.Tactic.Lemma

namespace DocQuery

variable {α β : Type}

lemma Bound.apply_map (b : Bound) (f : α → β) (rows : List α) :
    b.apply (rows.map f) = (b.apply rows).map f := by
  cases b with
  | first n => exact List.map_take.symm
  | last n => simp only [apply, List.length_map, List.map_drop]

def Bound.size : Bound → Nat
  | .first n => n
  | .last n => n

namespace Limit

lemma apply_map (l : Limit) (f : α → β) (rows : List α) : l.apply (rows.map f) = (l.apply rows).map f := by
  simp only [apply, List.length_map, List.map_drop, List.map_take]

lemma apply_eq (l : Limit) {rows : List α} {start stop : Nat} (h : l.range rows.length = (start, stop)) :
    l.apply rows = (rows.take stop).drop start := by
  simp only [apply, h]

structure Fits (l : Limit) : Prop where
  start : leastInt64 ≤ l.start ∧ l.start ≤ greatestInt64
  count : ∀ n, l.count = some n → leastInt64 ≤ n ∧ n ≤ greatestInt64
  sum : l ≠ ⟨leastInt64, some leastInt64⟩

lemma Fits.size_lt {l : Limit} (h : l.Fits) {n : Int} (hn : l.count = some n) :
    l.start.natAbs + n.natAbs < wordSize := by
  obtain ⟨start, count⟩ := l
  cases hn
  have hs := h.start
  have hc := h.count n rfl
  have hne : ¬ (start = leastInt64 ∧ n = leastInt64) := fun ⟨hs, hn⟩ => h.sum (by rw [hs, hn])
  simp only [leastInt64, greatestInt64, wordSize] at *
  omega

lemma apply_take (l : Limit) {start stop n : Nat} (h : ∀ length, l.range length = (start, stop))
    (hn : stop ≤ n) (rows : List α) : l.apply (rows.take n) = l.apply rows := by
  rw [l.apply_eq (h _), l.apply_eq (h _), List.take_take, Nat.min_eq_left hn]

lemma apply_drop (l : Limit) {start stop k : Nat} {rows : List α} (h : l.range rows.length = (start, stop))
    (hk : l.range (rows.length - k) = (start - k, stop - k)) (hs : k ≤ start) :
    l.apply (rows.drop k) = l.apply rows := by
  rw [← List.length_drop] at hk
  rw [l.apply_eq h, l.apply_eq hk, ← List.drop_take, List.drop_drop, Nat.add_sub_cancel' hs]

section Range

variable {start n : Int} (length : Nat)

lemma range_first (h : 0 ≤ start) : range ⟨start, none⟩ length = (0, start.toNat) := if_pos h

lemma range_last (h : ¬ 0 ≤ start) :
    range ⟨start, none⟩ length = (length - start.natAbs, length) := if_neg h

lemma range_forward (h : 0 ≤ n) :
    range ⟨start, some n⟩ length = (start.toNat, start.toNat + n.toNat) := if_pos h

lemma range_backward (h : ¬ 0 ≤ n) :
    range ⟨start, some n⟩ length = (length - start.toNat - n.natAbs, length - start.toNat) := if_neg h

end Range

theorem apply_bound {l : Limit} (h : l.Fits) (rows : List α) : l.apply (l.bound.apply rows) = l.apply rows := by
  obtain ⟨start, count⟩ := l
  cases count with
  | none =>
    by_cases hs : 0 ≤ start
    · have hb : bound ⟨start, none⟩ = .first start.natAbs := if_pos hs
      rw [hb]
      exact apply_take _ (fun length => range_first length hs) (by omega) rows
    · have hb : bound ⟨start, none⟩ = .last start.natAbs := if_neg hs
      rw [hb]
      refine apply_drop _ (range_last _ hs) ?_ (Nat.le_refl _)
      rw [range_last _ hs]
      congr 1
      omega
  | some n =>
    have hw : (start.natAbs + n.natAbs) % wordSize = start.natAbs + n.natAbs :=
      Nat.mod_eq_of_lt (h.size_lt rfl)
    by_cases hn : 0 ≤ n
    · have hb : bound ⟨start, some n⟩ = .first (start.natAbs + n.natAbs) := by
        simp only [bound, if_pos hn, hw]
      rw [hb]
      exact apply_take _ (fun length => range_forward length hn) (by omega) rows
    · have hb : bound ⟨start, some n⟩ = .last (start.natAbs + n.natAbs) := by
        simp only [bound, if_neg hn, hw]
      rw [hb]
      refine apply_drop _ (range_backward _ hn) ?_ (by omega)
      rw [range_backward _ hn]
      congr 1 <;> omega

lemma apply_infix (l : Limit) (rows : List α) : l.apply rows <:+: rows :=
  (List.drop_suffix _ _).isInfix.trans (List.take_prefix _ _).isInfix

def reach (l : Limit) : Nat := l.start.natAbs + l.count.elim 0 Int.natAbs

/-- The only limit whose reach is no word. -/
def widest : Limit := ⟨leastInt64, some leastInt64⟩

section Words

variable {l : Limit} (hs : leastInt64 ≤ l.start ∧ l.start ≤ greatestInt64)
  (hc : ∀ n ∈ l.count, leastInt64 ≤ n ∧ n ≤ greatestInt64)

include hs hc

lemma reach_lt_iff : l.reach < wordSize ↔ l ≠ widest := by
  obtain ⟨start, count⟩ := l
  simp only [leastInt64, greatestInt64] at hs hc
  cases count with
  | none =>
    simp only [reach, widest, wordSize, Option.elim_none, ne_eq, mk.injEq, reduceCtorEq, and_false, not_false_eq_true,
      iff_true]
    omega
  | some n =>
    have hn := hc n rfl
    simp only [reach, widest, wordSize, leastInt64, Option.elim_some, ne_eq, mk.injEq, Option.some.injEq]
    omega

lemma size_bound : l.bound.size = l.reach % wordSize := by
  obtain ⟨start, count⟩ := l
  cases count with
  | none =>
    have hlt : start.natAbs < wordSize := by
      simp only [leastInt64, greatestInt64, wordSize] at *
      omega
    simp only [bound, reach, Option.elim_none, Nat.add_zero, Nat.mod_eq_of_lt hlt]
    split <;> rfl
  | some n =>
    simp only [bound, reach, Option.elim_some]
    split <;> rfl

lemma fits_of_ne (h : l ≠ widest) : l.Fits := ⟨hs, fun n hn => hc n hn, h⟩

theorem bound_covers_iff :
    (∀ (α : Type) (rows : List α), l.apply rows <:+: rows) ∧
    (l.reach < wordSize ↔ l ≠ widest) ∧ (l.bound.size = l.reach ↔ l ≠ widest) ∧
    ((∀ (α : Type) (rows : List α), l.apply (l.bound.apply rows) = l.apply rows) ↔ l ≠ widest) := by
  refine ⟨fun _ rows => apply_infix l rows, reach_lt_iff hs hc, ?_, ?_⟩
  · rw [size_bound hs hc, ← reach_lt_iff hs hc]
    exact ⟨fun h => h ▸ Nat.mod_lt _ (by decide), Nat.mod_eq_of_lt⟩
  · refine ⟨?_, fun h _ rows => apply_bound (fits_of_ne hs hc h) rows⟩
    rintro h rfl
    have hnone : widest.apply (widest.bound.apply [()]) = [] := rfl
    exact absurd (hnone.symm.trans (h Unit [()])) (by decide)

end Words

theorem bound_covers_iff_last : ∃ l : Limit, l = ⟨leastInt64 + 1, some leastInt64⟩ ∧
    (leastInt64 ≤ l.start ∧ l.start ≤ greatestInt64) ∧ (∀ n ∈ l.count, leastInt64 ≤ n ∧ n ≤ greatestInt64) ∧
    l ≠ widest ∧ l.reach < wordSize ∧ l.bound = .last (wordSize - 1) ∧
    l.apply (l.bound.apply ["u1", "u2"]) = ["u1", "u2"] := by
  have hs : leastInt64 ≤ leastInt64 + 1 ∧ leastInt64 + 1 ≤ greatestInt64 := by decide
  have hc : ∀ n ∈ some leastInt64, leastInt64 ≤ n ∧ n ≤ greatestInt64 := by
    rintro n ⟨⟩
    decide
  have hne : (⟨leastInt64 + 1, some leastInt64⟩ : Limit) ≠ widest := by decide
  obtain ⟨-, hreach, -, hrows⟩ := bound_covers_iff (l := ⟨leastInt64 + 1, some leastInt64⟩) hs hc
  exact ⟨_, rfl, hs, hc, hne, hreach.mpr hne, rfl, (hrows.mpr hne String ["u1", "u2"]).trans rfl⟩

theorem widest_not_covered :
    (leastInt64 ≤ widest.start ∧ widest.start ≤ greatestInt64) ∧
    (∀ n ∈ widest.count, leastInt64 ≤ n ∧ n ≤ greatestInt64) ∧
    widest.reach = wordSize ∧ widest.bound = .last 0 ∧
    widest.apply ["u1"] = ["u1"] ∧ widest.apply (widest.bound.apply ["u1"]) = [] := by
  refine ⟨by decide, ?_, rfl, rfl, rfl, rfl⟩
  rintro n ⟨⟩
  decide

end Limit

end DocQuery
