import DocQuery.Proofs.Rows.JoinedColumns
import Mathlib.Data.List.Perm.Basic

/-! The rows of a join, told by the rows of either side that they are made of. All kinds of joins come from
the pairs of rows that match; the outer ones add each row that is in no pair once, next to a stand-in. -/

namespace DocQuery

def Join.of (j : Join) (kind : JoinKind) : Join := { j with kind := kind }

namespace Rows

inductive Pairing where
  | pair (a b : Row)
  | alone (a : Row)
  | orphan (b : Row)

namespace Pairing

def isPair : Pairing → Bool
  | pair _ _ => true
  | _ => false

def row (j : Join) (as bs : List Row) : Pairing → Row
  | pair a b => combine a b
  | alone a => combine a (noOther j bs)
  | orphan b => { combine (noOwn j as) b with key := b.key }

end Pairing

section Padding

variable {α β γ : Type}

def padded (item : α) (items : List α) : List α := if items.isEmpty then [item] else items

lemma mem_padded {x item : α} {items : List α} (h : x ∈ padded item items) : x = item ∨ x ∈ items := by
  simp only [padded] at h
  split at h
  · exact .inl (List.mem_singleton.mp h)
  · exact .inr h

lemma padded_ne_nil (item : α) (items : List α) : padded item items ≠ [] := by
  cases items <;> simp [padded]

lemma map_padded (f : α → β) (item : α) (items : List α) :
    (padded item items).map f = padded (f item) (items.map f) := by
  cases items <;> simp [padded]

lemma length_flatMap_padded (item : α → β) (items : α → List β) (xs : List α) :
    (xs.flatMap fun x => padded (item x) (items x)).length =
      (xs.flatMap items).length + (xs.filter fun x => (items x).isEmpty).length := by
  induction xs with
  | nil => rfl
  | cons x xs ih =>
    simp only [List.flatMap_cons, List.length_append, ih, List.filter_cons]
    cases h : items x with
    | nil => simp [padded]; omega
    | cons y ys => simp [padded]; omega

lemma filter_flatMap_padded {p : β → Bool} {item : α → β} {items : α → List β}
    (hitem : ∀ x, p (item x) = false) (hitems : ∀ x, ∀ y ∈ items x, p y = true) (xs : List α) :
    (xs.flatMap fun x => padded (item x) (items x)).filter p = xs.flatMap items := by
  induction xs with
  | nil => rfl
  | cons x xs ih =>
    have hx : (padded (item x) (items x)).filter p = items x := by
      cases h : items x with
      | nil => simp [padded, hitem]
      | cons y ys =>
        apply List.filter_eq_self.mpr
        exact fun z hz => hitems x z (h ▸ hz)
    rw [List.flatMap_cons, List.filter_append, hx, ih, List.flatMap_cons]

lemma map_filter_eq_flatMap (p : α → Bool) (f : α → β) (xs : List α) :
    (xs.filter p).map f = xs.flatMap fun x => if p x then [f x] else [] := by
  induction xs with
  | nil => rfl
  | cons x xs ih => by_cases h : p x <;> simp [h, ih]

lemma flatMap_exchange (f : α → β → List γ) (xs : List α) (ys : List β) :
    (xs.flatMap fun x => ys.flatMap (f x)).Perm (ys.flatMap fun y => xs.flatMap fun x => f x y) := by
  induction xs with
  | nil => simp
  | cons x xs ih =>
    simp only [List.flatMap_cons]
    exact (ih.append_left _).trans (List.flatMap_append_perm ys _ _)

end Padding

section Pairings

variable (j : Join) (as bs : List Row)

def matchedPairs : List (Row × Row) := (as.product bs).filter fun p => isMatch j p.1 p.2

def partnersOf (a : Row) : List Pairing := (bs.filter (isMatch j a)).map (.pair a)

def partnersOfOther (b : Row) : List Pairing := (as.filter (isMatch j · b)).map (.pair · b)

def leftPairings : List Pairing := as.flatMap fun a => padded (.alone a) (partnersOf j bs a)

def rightPairings : List Pairing := bs.flatMap fun b => padded (.orphan b) (partnersOfOther j as b)

def unmatched : List Row := as.filter fun a => bs.all fun b => !isMatch j a b

def unmatchedOther : List Row := bs.filter fun b => as.all fun a => !isMatch j a b

lemma isEmpty_partnersOf (a : Row) : (partnersOf j bs a).isEmpty = bs.all fun b => !isMatch j a b := by
  rw [partnersOf, List.isEmpty_map, Bool.eq_iff_iff]
  simp

lemma isEmpty_partnersOfOther (b : Row) :
    (partnersOfOther j as b).isEmpty = as.all fun a => !isMatch j a b := by
  rw [partnersOfOther, List.isEmpty_map, Bool.eq_iff_iff]
  simp

lemma flatMap_partnersOf :
    as.flatMap (partnersOf j bs) = (matchedPairs j as bs).map fun p => .pair p.1 p.2 := by
  rw [matchedPairs, List.product, List.filter_flatMap, List.map_flatMap]
  congr 1
  funext a
  rw [List.filter_map, List.map_map]
  rfl

lemma flatMap_partnersOfOther :
    (bs.flatMap (partnersOfOther j as)).Perm ((matchedPairs j as bs).map fun p => .pair p.1 p.2) := by
  have hown : partnersOf j bs = fun a => bs.flatMap fun b => if isMatch j a b then [.pair a b] else [] := by
    funext a
    exact map_filter_eq_flatMap _ _ _
  have hother : partnersOfOther j as = fun b => as.flatMap fun a => if isMatch j a b then [.pair a b] else [] := by
    funext b
    exact map_filter_eq_flatMap _ _ _
  rw [← flatMap_partnersOf, hown, hother]
  exact flatMap_exchange _ bs as

lemma filter_leftPairings :
    (leftPairings j as bs).filter Pairing.isPair = (matchedPairs j as bs).map fun p => .pair p.1 p.2 := by
  rw [← flatMap_partnersOf]
  apply filter_flatMap_padded
  · exact fun _ => rfl
  · intro a x hx
    obtain ⟨b, -, rfl⟩ := List.mem_map.mp hx
    rfl

lemma filter_rightPairings : ((rightPairings j as bs).filter Pairing.isPair).Perm
    ((matchedPairs j as bs).map fun p => .pair p.1 p.2) := by
  refine .trans (.of_eq ?_) (flatMap_partnersOfOther j as bs)
  apply filter_flatMap_padded
  · exact fun _ => rfl
  · intro b x hx
    obtain ⟨a, -, rfl⟩ := List.mem_map.mp hx
    rfl

lemma length_leftPairings :
    (leftPairings j as bs).length = (matchedPairs j as bs).length + (unmatched j as bs).length := by
  rw [leftPairings, length_flatMap_padded, flatMap_partnersOf, List.length_map]
  simp only [isEmpty_partnersOf, unmatched]

lemma length_rightPairings :
    (rightPairings j as bs).length = (matchedPairs j as bs).length + (unmatchedOther j as bs).length := by
  rw [rightPairings, length_flatMap_padded, (flatMap_partnersOfOther j as bs).length_eq, List.length_map]
  simp only [isEmpty_partnersOfOther, unmatchedOther]

lemma inner_eq : inner j as bs = (matchedPairs j as bs).map fun p => combine p.1 p.2 := by
  rw [matchedPairs, List.product, List.filter_flatMap, List.map_flatMap]
  simp only [inner, List.filter_map, List.map_map]
  rfl

lemma left_eq_map : left j as bs = (leftPairings j as bs).map (Pairing.row j as bs) := by
  rw [leftPairings, List.map_flatMap]
  simp only [left, map_padded, partnersOf, List.map_map]
  congr 1
  funext a
  cases bs.filter (isMatch j a) <;> rfl

lemma right_eq_map : right j as bs = (rightPairings j as bs).map (Pairing.row j as bs) := by
  rw [rightPairings, List.map_flatMap]
  simp only [right, map_padded, partnersOfOther, List.map_map]
  congr 1
  funext b
  cases as.filter (isMatch j · b) <;> rfl

variable {j as bs}

lemma isMatch_of_null {a b : Row} (h : a.read j.own = .null ∨ b.read j.other = .null) : isMatch j a b = false := by
  rcases h with h | h <;> simp [isMatch, h, Value.isNull]

lemma exists_mem_leftPairings {a : Row} (ha : a ∈ as) :
    .alone a ∈ leftPairings j as bs ∨ ∃ b ∈ bs, isMatch j a b = true ∧ .pair a b ∈ leftPairings j as bs := by
  obtain ⟨x, hx⟩ := List.exists_mem_of_ne_nil _ (padded_ne_nil (.alone a) (partnersOf j bs a))
  have hm : x ∈ leftPairings j as bs := List.mem_flatMap.mpr ⟨a, ha, hx⟩
  rcases mem_padded hx with rfl | hx
  · exact .inl hm
  · obtain ⟨b, hb, rfl⟩ := List.mem_map.mp hx
    obtain ⟨hb, hab⟩ := List.mem_filter.mp hb
    exact .inr ⟨b, hb, hab, hm⟩

lemma exists_mem_rightPairings {b : Row} (hb : b ∈ bs) :
    .orphan b ∈ rightPairings j as bs ∨ ∃ a ∈ as, isMatch j a b = true ∧ .pair a b ∈ rightPairings j as bs := by
  obtain ⟨x, hx⟩ := List.exists_mem_of_ne_nil _ (padded_ne_nil (.orphan b) (partnersOfOther j as b))
  have hm : x ∈ rightPairings j as bs := List.mem_flatMap.mpr ⟨b, hb, hx⟩
  rcases mem_padded hx with rfl | hx
  · exact .inl hm
  · obtain ⟨a, ha, rfl⟩ := List.mem_map.mp hx
    obtain ⟨ha, hab⟩ := List.mem_filter.mp ha
    exact .inr ⟨a, ha, hab, hm⟩

end Pairings

theorem join_pairings (j : Join) (as bs : List Row) :
    join (j.of .inner) as bs = (matchedPairs j as bs).map (fun p => combine p.1 p.2) ∧
    join (j.of .left) as bs = (leftPairings j as bs).map (Pairing.row j as bs) ∧
    join (j.of .right) as bs = (rightPairings j as bs).map (Pairing.row j as bs) ∧
    join (j.of .full) as bs = join (j.of .left) as bs ++ join (j.of .right) as bs ∧
    ((leftPairings j as bs).filter Pairing.isPair).map (Pairing.row j as bs) = join (j.of .inner) as bs ∧
    (((rightPairings j as bs).filter Pairing.isPair).map (Pairing.row j as bs)).Perm
      (join (j.of .inner) as bs) ∧
    (join (j.of .full) as bs).length = 2 * (join (j.of .inner) as bs).length +
      (unmatched j as bs).length + (unmatchedOther j as bs).length ∧
    (∀ a ∈ as, ∃ b, (b ∈ bs ∧ isMatch j a b = true ∨ b = noOther j bs) ∧
      combine a b ∈ join (j.of .left) as bs ∧ combine a b ∈ join (j.of .full) as bs) ∧
    (∀ b ∈ bs, ∃ r, ((∃ a ∈ as, isMatch j a b = true ∧ r = combine a b) ∨
        r = { combine (noOwn j as) b with key := b.key }) ∧
      r ∈ join (j.of .right) as bs ∧ r ∈ join (j.of .full) as bs) ∧
    (∀ a b, a.read j.own = .null ∨ b.read j.other = .null → isMatch j a b = false) ∧
    ∀ name, (noOther j bs).field name = .null ∧ (noOwn j as).field name = .null := by
  have hinner : join (j.of .inner) as bs = (matchedPairs j as bs).map fun p => combine p.1 p.2 := inner_eq j as bs
  have hleft : join (j.of .left) as bs = (leftPairings j as bs).map (Pairing.row j as bs) := left_eq_map j as bs
  have hright : join (j.of .right) as bs = (rightPairings j as bs).map (Pairing.row j as bs) :=
    right_eq_map j as bs
  have hfull : join (j.of .full) as bs = join (j.of .left) as bs ++ join (j.of .right) as bs := rfl
  have hpairs : ((matchedPairs j as bs).map fun p => Pairing.pair p.1 p.2).map (Pairing.row j as bs) =
      join (j.of .inner) as bs := by
    rw [hinner, List.map_map]
    rfl
  refine ⟨hinner, hleft, hright, hfull, ?_, ?_, ?_, fun a ha => ?_, fun b hb => ?_,
    fun _ _ h => isMatch_of_null h, fun name => ⟨field_standIn _ _ name, field_standIn _ _ name⟩⟩
  · rw [filter_leftPairings, hpairs]
  · rw [← hpairs]
    exact (filter_rightPairings j as bs).map _
  · rw [hfull, hleft, hright, hinner, List.length_append, List.length_map, List.length_map, List.length_map,
      length_leftPairings, length_rightPairings]
    omega
  · have hmem {x : Pairing} (hx : x ∈ leftPairings j as bs) :
        x.row j as bs ∈ join (j.of .left) as bs ∧ x.row j as bs ∈ join (j.of .full) as bs := by
      have hm := hleft ▸ List.mem_map_of_mem (f := Pairing.row j as bs) hx
      exact ⟨hm, hfull ▸ List.mem_append_left _ hm⟩
    rcases exists_mem_leftPairings ha with hx | ⟨b, hb, hab, hx⟩
    · exact ⟨_, .inr rfl, hmem hx⟩
    · exact ⟨b, .inl ⟨hb, hab⟩, hmem hx⟩
  · have hmem {x : Pairing} (hx : x ∈ rightPairings j as bs) :
        x.row j as bs ∈ join (j.of .right) as bs ∧ x.row j as bs ∈ join (j.of .full) as bs := by
      have hm := hright ▸ List.mem_map_of_mem (f := Pairing.row j as bs) hx
      exact ⟨hm, hfull ▸ List.mem_append_right _ hm⟩
    rcases exists_mem_rightPairings hb with hx | ⟨a, ha, hab, hx⟩
    · exact ⟨_, .inr rfl, hmem hx⟩
    · exact ⟨_, .inl ⟨a, ha, hab, rfl⟩, hmem hx⟩

def userAda : Row := .ofValue (.named "users") "u2" (.object [("name", .string "Ada")])

def orderOfBob : Row := .ofValue (.named "orders") "o2" (.object [("userId", .string "bob")])

theorem join_pairings_ann :
    (join ((toOrders .inner).of .full) [userAnn, userAda] [orderOfAnn, orderOfBob]).length = 2 * 1 + 1 + 1 ∧
    (userAda ∈ [userAnn, userAda] ∧ ∃ b,
      (b ∈ [orderOfAnn, orderOfBob] ∧ isMatch (toOrders .inner) userAda b = true ∨
        b = noOther (toOrders .inner) [orderOfAnn, orderOfBob]) ∧
      combine userAda b ∈ join ((toOrders .inner).of .left) [userAnn, userAda] [orderOfAnn, orderOfBob]) ∧
    (orderOfBob ∈ [orderOfAnn, orderOfBob] ∧ ∃ r,
      ((∃ a ∈ [userAnn, userAda], isMatch (toOrders .inner) a orderOfBob = true ∧ r = combine a orderOfBob) ∨
        r = { combine (noOwn (toOrders .inner) [userAnn, userAda]) orderOfBob with key := "o2" }) ∧
      r ∈ join ((toOrders .inner).of .right) [userAnn, userAda] [orderOfAnn, orderOfBob]) ∧
    userAda.read (toOrders .inner).own = .null ∧ isMatch (toOrders .inner) userAda orderOfAnn = false := by
  obtain ⟨hinner, -, -, -, -, -, hlength, hown, hother, hnull, -⟩ :=
    join_pairings (toOrders .inner) [userAnn, userAda] [orderOfAnn, orderOfBob]
  have hada : userAda ∈ [userAnn, userAda] := by simp
  have hbob : orderOfBob ∈ [orderOfAnn, orderOfBob] := by simp
  have hread : userAda.read (toOrders .inner).own = .null := rfl
  have hcount : (matchedPairs (toOrders .inner) [userAnn, userAda] [orderOfAnn, orderOfBob]).length = 1 ∧
      (unmatched (toOrders .inner) [userAnn, userAda] [orderOfAnn, orderOfBob]).length = 1 ∧
      (unmatchedOther (toOrders .inner) [userAnn, userAda] [orderOfAnn, orderOfBob]).length = 1 := by
    decide +kernel
  refine ⟨?_, ⟨hada, ?_⟩, ⟨hbob, ?_⟩, hread, hnull _ _ (.inl hread)⟩
  · rw [hlength, hinner, List.length_map, hcount.1, hcount.2.1, hcount.2.2]
  · obtain ⟨b, hb, hleft, -⟩ := hown userAda hada
    exact ⟨b, hb, hleft⟩
  · obtain ⟨r, hr, hright, -⟩ := hother orderOfBob hbob
    exact ⟨r, hr, hright⟩

end Rows

end DocQuery
