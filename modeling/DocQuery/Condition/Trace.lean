import DocQuery.Condition.Expression

/-! The trace of a condition on a row: its tokens with the verdicts in place of the tests, and the
rules that take away what tests that do not apply leave behind. `tidy` only deletes. -/

namespace DocQuery.Trace

def symbol : Verdict → String
  | some true => "1"
  | some false => "0"
  | none => ""

def render (rs : Results) (row : Row) (ts : List Token) : String :=
  String.join (ts.map fun
    | .leaf l => symbol (l.test.eval rs row)
    | t => t.label)

/-- A rule looks at the text from some place on, and at whether it is the start. It gives what
stays of the characters it takes in, and their number. -/
abbrev Rule := Bool → List Char → Option (List Char × Nat)

def Rule.replaceFrom (rule : Rule) (atStart : Bool) : Nat → List Char → List Char
  | _, [] => []
  | taken + 1, _ :: cs => rule.replaceFrom false taken cs
  | 0, c :: cs =>
    match rule atStart (c :: cs) with
    | some (kept, n) => kept ++ rule.replaceFrom false (n - 1) cs
    | none => c :: rule.replaceFrom false 0 cs

def Rule.replace (rule : Rule) (cs : List Char) : List Char := rule.replaceFrom true 0 cs

def connectives : List Char → Nat
  | '&' :: '&' :: cs => connectives cs + 1
  | '|' :: '|' :: cs => connectives cs + 1
  | _ => 0

def bareDigit : Rule
  | _, '(' :: d :: ')' :: _ => if d = '0' ∨ d = '1' then some ([d], 3) else none
  | _, _ => none

def trailing : Rule := fun _ cs =>
  match connectives cs with
  | 0 => none
  | n + 1 =>
    match cs.drop (2 * (n + 1)) with
    | [] => some ([], 2 * (n + 1))
    | ')' :: _ => some ([')'], 2 * (n + 1) + 1)
    | _ => none

def leading : Rule := fun atStart cs =>
  let bracket : Option (List Char × Nat) := match cs with
    | '(' :: cs => if connectives cs = 0 then none else some (['('], 2 * connectives cs + 1)
    | _ => none
  match bracket with
  | some m => some m
  | none => if atStart ∧ connectives cs ≠ 0 then some ([], 2 * connectives cs) else none

def emptyGroup : Rule
  | _, '(' :: ')' :: _ => some ([], 2)
  | _, _ => none

def repeated : Rule := fun _ cs =>
  if connectives cs < 2 then none else some (cs.take 2, 2 * connectives cs)

def negations : List Char → Nat
  | '!' :: cs => negations cs + 1
  | _ => 0

def loose : Rule := fun _ cs =>
  match negations cs with
  | 0 => none
  | n + 1 =>
    match cs.drop (n + 1) with
    | [] => some ([], n + 1)
    | ')' :: _ => some ([')'], n + 2)
    | rest => if connectives rest = 0 then none else some (rest.take 2, n + 3)

def rules : List Rule := [bareDigit, trailing, leading, emptyGroup, repeated, loose]

def round (cs : List Char) : List Char := rules.foldl (fun cs rule => rule.replace cs) cs

def Rule.Deletes (rule : Rule) : Prop :=
  ∀ atStart cs kept n, rule atStart cs = some (kept, n) → 0 < n ∧ kept.Sublist (cs.take n)

theorem Rule.Deletes.replaceFrom {rule : Rule} (h : rule.Deletes) (cs : List Char) :
    ∀ atStart taken, (rule.replaceFrom atStart taken cs).Sublist (cs.drop taken) := by
  induction cs with
  | nil => intro _ taken; cases taken <;> simp [Rule.replaceFrom]
  | cons c cs ih =>
    intro atStart taken
    cases taken with
    | succ taken => simpa [Rule.replaceFrom] using ih false taken
    | zero =>
      simp only [Rule.replaceFrom, List.drop_zero]
      split
      · rename_i kept n hr
        obtain ⟨hn, hk⟩ := h _ _ _ _ hr
        obtain ⟨n, rfl⟩ : ∃ m, n = m + 1 := ⟨n - 1, by omega⟩
        have := hk.append (ih false n)
        simpa [List.take_append_drop] using this
      · exact (ih false 0).cons_cons c

theorem Rule.Deletes.replace {rule : Rule} (h : rule.Deletes) (cs : List Char) :
    (rule.replace cs).Sublist cs := by
  simpa [Rule.replace] using Deletes.replaceFrom h cs true 0

theorem sublist_take {cs a rest : List Char} {k : Nat} (h : cs.drop k = a ++ rest) :
    a.Sublist (cs.take (k + a.length)) := by
  rw [List.take_add, h, List.take_left]
  exact List.sublist_append_right _ _

theorem bareDigit_deletes : bareDigit.Deletes := by
  intro _ cs kept n h
  unfold bareDigit at h
  split at h
  · split at h
    · cases h
      exact ⟨by omega, by simp⟩
    · cases h
  · cases h

theorem trailing_deletes : trailing.Deletes := by
  intro _ cs kept n h
  unfold trailing at h
  split at h
  · cases h
  · split at h
    · cases h
      exact ⟨by omega, List.nil_sublist _⟩
    · rename_i heq
      cases h
      exact ⟨by omega, sublist_take (a := [')']) heq⟩
    · cases h

theorem leading_deletes : leading.Deletes := by
  intro atStart cs kept n h
  simp only [leading] at h
  split at h
  · rename_i m heq
    cases h
    split at heq
    · split at heq
      · cases heq
      · cases heq
        exact ⟨by omega, by simp⟩
    · cases heq
  · split at h
    · rename_i hc
      cases h
      exact ⟨by omega, List.nil_sublist _⟩
    · cases h

theorem emptyGroup_deletes : emptyGroup.Deletes := by
  intro _ cs kept n h
  unfold emptyGroup at h
  split at h
  · cases h
    exact ⟨by omega, List.nil_sublist _⟩
  · cases h

theorem repeated_deletes : repeated.Deletes := by
  intro _ cs kept n h
  unfold repeated at h
  split at h
  · cases h
  · cases h
    exact ⟨by omega, List.take_sublist_take_left (by omega)⟩

theorem loose_deletes : loose.Deletes := by
  intro _ cs kept n h
  unfold loose at h
  split at h
  · cases h
  · split at h
    · cases h
      exact ⟨by omega, List.nil_sublist _⟩
    · rename_i heq
      cases h
      exact ⟨by omega, sublist_take (a := [')']) heq⟩
    · split at h
      · cases h
      · cases h
        refine ⟨by omega, ?_⟩
        rw [show ∀ m, m + 3 = m + 1 + 2 by omega, List.take_add]
        exact List.sublist_append_right _ _

theorem round_sublist (cs : List Char) : (round cs).Sublist cs := by
  simp only [round, rules, List.foldl]
  exact (loose_deletes.replace _).trans <| (repeated_deletes.replace _).trans <|
    (emptyGroup_deletes.replace _).trans <| (leading_deletes.replace _).trans <|
    (trailing_deletes.replace _).trans (bareDigit_deletes.replace _)

/-- The rules in rounds, until none of them matches. -/
def tidyChars (cs : List Char) : List Char :=
  if round cs = cs then cs else tidyChars (round cs)
termination_by cs.length
decreasing_by
  rename_i h
  exact Nat.lt_of_le_of_ne (round_sublist cs).length_le fun hl => h ((round_sublist cs).eq_of_length hl)

def tidy (s : String) : String := String.ofList (tidyChars s.toList)

end DocQuery.Trace
