import DocQuery.Calendar.Moment
import Mathlib.Order.Monotone.Basic

/-! Days against dates and milliseconds against moments. Each day has a date that is valid and that leads back to it,
and days follow each other as the years, months and days of their dates do. -/

namespace DocQuery.Calendar

lemma daysBeforeMonth_succ (leap : Bool) {m : Nat} (hm : 1 ≤ m) :
    daysBeforeMonth leap (m + 1) = daysBeforeMonth leap m + monthLength leap m := by
  obtain ⟨m, rfl⟩ := Nat.exists_eq_add_of_le' hm
  rfl

lemma monotone_daysBeforeMonth (leap : Bool) : Monotone (daysBeforeMonth leap) := by
  apply monotone_nat_of_le_succ
  intro m
  cases m with
  | zero => exact le_rfl
  | succ m => exact Nat.le_add_right _ _

lemma monthLength_le (leap : Bool) (m : Nat) : monthLength leap m ≤ 31 := by
  simp only [monthLength]
  split
  · cases leap <;> decide
  all_goals decide

lemma daysBeforeYear_succ (y : Int) :
    daysBeforeYear (y + 1) = daysBeforeYear y + daysBeforeMonth (isLeap y) 13 := by
  cases hl : isLeap y with
  | false =>
    have hdays : daysBeforeMonth false 13 = 365 := rfl
    simp only [isLeap, Bool.or_eq_false_iff, Bool.and_eq_false_iff, beq_eq_false_iff_ne, bne_eq_false_iff_eq] at hl
    simp only [hdays, daysBeforeYear]
    omega
  | true =>
    have hdays : daysBeforeMonth true 13 = 366 := rfl
    simp only [isLeap, Bool.or_eq_true, Bool.and_eq_true, beq_iff_eq, bne_iff_ne] at hl
    simp only [hdays, daysBeforeYear]
    omega

lemma daysBeforeYear_le {y y' : Int} (h : y ≤ y') : daysBeforeYear y ≤ daysBeforeYear y' := by
  simp only [daysBeforeYear]
  omega

def Covers (leap : Bool) (n m : Nat) : Prop := daysBeforeMonth leap m ≤ n ∧ n < daysBeforeMonth leap (m + 1)

lemma covers_monthOf {leap : Bool} {n m fuel : Nat} (hl : daysBeforeMonth leap m ≤ n)
    (hh : n < daysBeforeMonth leap (m + fuel + 1)) :
    m ≤ monthOf leap n fuel m ∧ monthOf leap n fuel m ≤ m + fuel ∧ Covers leap n (monthOf leap n fuel m) := by
  induction fuel generalizing m with
  | zero => exact ⟨le_rfl, le_rfl, hl, hh⟩
  | succ fuel ih =>
    rw [monthOf]
    split
    · next hlt => exact ⟨le_rfl, Nat.le_add_right _ _, hl, hlt⟩
    · next hge =>
      have hh' : n < daysBeforeMonth leap (m + 1 + fuel + 1) := by rwa [Nat.add_right_comm m 1 fuel]
      obtain ⟨hfirst, hlast, hcovers⟩ := ih (not_lt.mp hge) hh'
      exact ⟨by omega, by omega, hcovers⟩

namespace Date

variable {d d' : Date}

lemma isValid_iff : d.isValid = true ↔ yearInRange d.year = true ∧ (1 ≤ d.month ∧ d.month ≤ 12) ∧
    1 ≤ d.day ∧ d.day ≤ monthLength (isLeap d.year) d.month := by
  simp only [isValid, Bool.and_eq_true, decide_eq_true_eq, and_assoc]

def ofYear (d : Date) : Nat := daysBeforeMonth (isLeap d.year) d.month + (d.day - 1)

lemma covers_ofYear (h : d.isValid = true) : Covers (isLeap d.year) d.ofYear d.month := by
  obtain ⟨-, ⟨hm, -⟩, hd, hd'⟩ := isValid_iff.mp h
  rw [Covers, daysBeforeMonth_succ _ hm, ofYear]
  omega

lemma toDays_eq (h : d.isValid = true) : d.toDays = daysBeforeYear d.year + d.ofYear := by
  obtain ⟨-, -, hd, -⟩ := isValid_iff.mp h
  rw [toDays, ofYear]
  omega

lemma toDays_lt (h : d.isValid = true) : d.toDays < daysBeforeYear (d.year + 1) := by
  obtain ⟨-, ⟨-, hm⟩, -⟩ := isValid_iff.mp h
  have hlast : daysBeforeMonth (isLeap d.year) (d.month + 1) ≤ daysBeforeMonth (isLeap d.year) 13 :=
    monotone_daysBeforeMonth _ (Nat.succ_le_succ hm)
  have hcovers := (covers_ofYear h).2
  rw [toDays_eq h, daysBeforeYear_succ]
  omega

lemma ofYear_lt_iff (h : d.isValid = true) (h' : d'.isValid = true) (hy : d.year = d'.year) :
    d.ofYear < d'.ofYear ↔ d.month < d'.month ∨ d.month = d'.month ∧ d.day < d'.day := by
  have hc := covers_ofYear h
  have hc' := covers_ofYear h'
  rw [hy] at hc
  rcases Nat.lt_trichotomy d.month d'.month with hm | hm | hm
  · have hle := monotone_daysBeforeMonth (isLeap d'.year) hm
    exact iff_of_true (hc.2.trans_le (hle.trans hc'.1)) (.inl hm)
  · obtain ⟨-, -, hd, -⟩ := isValid_iff.mp h
    obtain ⟨-, -, hd', -⟩ := isValid_iff.mp h'
    rw [ofYear, ofYear, hy, hm]
    omega
  · have hle := monotone_daysBeforeMonth (isLeap d'.year) hm
    have hlt := hc'.2.trans_le (hle.trans hc.1)
    omega

lemma toDays_lt_iff (h : d.isValid = true) (h' : d'.isValid = true) :
    d.toDays < d'.toDays ↔ d.year < d'.year ∨ d.year = d'.year ∧ (d.month < d'.month ∨
      d.month = d'.month ∧ d.day < d'.day) := by
  have hlt := toDays_lt h
  have hlt' := toDays_lt h'
  have he := toDays_eq h
  have he' := toDays_eq h'
  rcases lt_trichotomy d.year d'.year with hy | hy | hy
  · have hle := daysBeforeYear_le hy
    exact iff_of_true (by omega) (.inl hy)
  · rw [← ofYear_lt_iff h h' hy, he, he', hy]
    omega
  · have hle := daysBeforeYear_le hy
    omega

lemma ofDays_spec {z : Int} (hy : yearInRange (yearOf z) = true) :
    (ofDays z).isValid = true ∧ (ofDays z).toDays = z := by
  have hl := daysBeforeYear_yearOf_le z
  have hh := lt_daysBeforeYear_yearOf z
  rw [daysBeforeYear_succ] at hh
  obtain ⟨n, hn⟩ := Int.eq_ofNat_of_zero_le (Int.sub_nonneg_of_le hl)
  have hlast : n < daysBeforeMonth (isLeap (yearOf z)) 13 := by omega
  obtain ⟨hm, hm', hcovers⟩ := covers_monthOf (m := 1) (Nat.zero_le n)
    (show n < daysBeforeMonth (isLeap (yearOf z)) (1 + 11 + 1) from hlast)
  have hfirst := hcovers.1
  have hafter := hcovers.2
  rw [daysBeforeMonth_succ _ hm] at hafter
  rw [isValid_iff, toDays, ofDays]
  dsimp only
  rw [hn, Int.toNat_natCast]
  exact ⟨⟨hy, ⟨hm, hm'⟩, by omega, by omega⟩, by omega⟩

end Date

namespace Moment

structure Plain (m : Moment) : Prop where
  date : m.date.isValid = true
  year : 0 ≤ m.date.year ∧ m.date.year ≤ 9999
  hour : m.hour ≤ 23
  minute : m.minute ≤ 59
  second : m.second ≤ 59
  millis : m.millis = 0

variable {m m' : Moment}

lemma Plain.toMillis_lt_iff (h : m.Plain) (h' : m'.Plain) :
    m.toMillis < m'.toMillis ↔ m.date.toDays < m'.date.toDays ∨ m.date.toDays = m'.date.toDays ∧ (m.hour < m'.hour ∨
      m.hour = m'.hour ∧ (m.minute < m'.minute ∨ m.minute = m'.minute ∧ m.second < m'.second)) := by
  obtain ⟨-, -, hh, hm, hs, hz⟩ := h
  obtain ⟨-, -, hh', hm', hs', hz'⟩ := h'
  rw [toMillis, toMillis, hz, hz']
  omega

lemma exists_plain {n : Int} (hs : n % 1000 = 0) (hl : 0 ≤ yearOf (n / 86400000))
    (hh : yearOf (n / 86400000) ≤ 9999) : ∃ m, ofMillis? n = some m ∧ m.Plain ∧ m.toMillis = n := by
  have hy : yearInRange (yearOf (n / 86400000)) = true := by
    simp only [yearInRange, Bool.and_eq_true, decide_eq_true_eq]
    omega
  obtain ⟨hvalid, hdays⟩ := Date.ofDays_spec hy
  refine ⟨_, if_pos hy, ⟨hvalid, ⟨hl, hh⟩, ?_, ?_, ?_, ?_⟩, ?_⟩
  all_goals dsimp only [toMillis]
  all_goals omega

end Moment

end DocQuery.Calendar
