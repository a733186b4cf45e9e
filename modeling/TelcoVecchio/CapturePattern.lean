import Mathlib.Data.List.Infix

/-!
A fragment of regular expressions: single characters, greedy repetitions of a
class, and captures of repetitions. A search takes the leftmost position that
matches; at a position a repetition takes as much as it can and gives back one
character at a time when the rest of the pattern fails.
-/

namespace CapturePattern

inductive Item where
  | char (accepts : Char → Bool)
  | many (least : Nat) (captured : Bool) (accepts : Char → Bool)

def exactly (char : Char) : Item := .char (· == char)

def literal (text : List Char) : List Item := text.map exactly

/-- The class `.`: anything except a line feed. -/
def notLineFeed (char : Char) : Bool := char != '\n'

section Backtracking
variable {Result : Type}

/-- Tries the counts from the given one down to `least`. -/
def longestFirst (attempt : Nat → Option Result) (least : Nat) : Nat → Option Result
  | 0 => if least = 0 then attempt 0 else none
  | count + 1 =>
      if count + 1 < least then none
      else match attempt (count + 1) with
        | some result => some result
        | none => longestFirst attempt least count

theorem longest_first_none (attempt : Nat → Option Result) (least count : Nat)
    (fails : ∀ n ≤ count, attempt n = none) : longestFirst attempt least count = none := by
  induction count with
  | zero => simp [longestFirst, fails 0 (Nat.le_refl 0)]
  | succ count ih =>
      have below := ih (fun n bound => fails n (by omega))
      simp [longestFirst, fails (count + 1) (Nat.le_refl _), below]

theorem longest_first_single (attempt : Nat → Option Result) (least viable count : Nat)
    (lower : least ≤ viable) (upper : viable ≤ count)
    (others : ∀ n ≤ count, n ≠ viable → attempt n = none) :
    longestFirst attempt least count = attempt viable := by
  induction count with
  | zero =>
      have zero : viable = 0 := by omega
      have noLeast : least = 0 := by omega
      simp [longestFirst, zero, noLeast]
  | succ count ih =>
      -- the viable count is met on the way down, everything before it fails
      by_cases last : viable = count + 1
      · subst last
        have noLater : longestFirst attempt least count = none :=
          longest_first_none _ _ _ (fun n bound => others n (by omega) (by omega))
        have allowed : ¬ count + 1 < least := by omega
        simp only [longestFirst, allowed, ↓reduceIte, noLater]
        cases attempt (count + 1) <;> rfl
      · have allowed : ¬ count + 1 < least := by omega
        simp only [longestFirst, allowed, ↓reduceIte,
          others (count + 1) (Nat.le_refl _) (Ne.symm last)]
        exact ih (by omega) (fun n bound => others n (by omega))

theorem longest_first_some (attempt : Nat → Option Result) (least count : Nat) (result : Result)
    (found : longestFirst attempt least count = some result) :
    ∃ n, least ≤ n ∧ n ≤ count ∧ attempt n = some result := by
  induction count with
  | zero =>
      simp only [longestFirst] at found
      split at found
      · next none => exact ⟨0, Nat.le_of_eq none, Nat.le_refl 0, found⟩
      · cases found
  | succ count ih =>
      simp only [longestFirst] at found
      split at found
      · cases found
      · next enough =>
          split at found
          · next here => exact ⟨count + 1, by omega, Nat.le_refl _, found ▸ here⟩
          · obtain ⟨n, lower, upper, here⟩ := ih found
            exact ⟨n, lower, by omega, here⟩

end Backtracking

/-- Matches at the start of a text; the result lists the captures in order. -/
def matchItems : List Item → List Char → Option (List (List Char))
  | [], _ => some []
  | .char accepts :: rest, head :: tail => if accepts head then matchItems rest tail else none
  | .char _ :: _, [] => none
  | .many least captured accepts :: rest, text =>
      longestFirst (fun count => (matchItems rest (text.drop count)).map fun found =>
          if captured then text.take count :: found else found)
        least (text.takeWhile accepts).length

def search (items : List Item) : List Char → Option (List (List Char))
  | [] => matchItems items []
  | head :: tail =>
      match matchItems items (head :: tail) with
      | some found => some found
      | none => search items tail

theorem match_literal (text : List Char) (rest : List Item) (following : List Char) :
    matchItems (literal text ++ rest) (text ++ following) = matchItems rest following := by
  induction text with
  | nil => rfl
  | cons head tail ih =>
      simpa [literal, exactly, matchItems] using ih

theorem match_literal_prefix (text : List Char) (rest : List Item) (subject : List Char)
    (found : (matchItems (literal text ++ rest) subject).isSome = true) : text <+: subject := by
  induction text generalizing subject with
  | nil => exact List.nil_prefix
  | cons head tail ih =>
      cases subject with
      | nil => simp [literal, exactly, matchItems] at found
      | cons first others =>
          by_cases same : first = head
          · subst same
            have later := ih others (by simpa [literal, exactly, matchItems] using found)
            exact List.cons_prefix_cons.mpr ⟨rfl, later⟩
          · simp [literal, exactly, matchItems, same] at found

theorem take_while_line (line following : List Char) (single : '\n' ∉ line) :
    (line ++ '\r' :: '\n' :: following).takeWhile notLineFeed = line ++ ['\r'] := by
  induction line with
  | nil => rfl
  | cons head tail ih =>
      have plain : head ≠ '\n' := fun same => single (by simp [same])
      have later := ih (fun member => single (by simp [member]))
      have accepted : notLineFeed head = true := by simp [notLineFeed, plain]
      simp [accepted, later]

theorem no_line_end_inside (line following : List Char) (rest : List Item) (count : Nat)
    (single : '\n' ∉ line) (bound : count ≤ line.length + 1) (other : count ≠ line.length) :
    matchItems (exactly '\r' :: exactly '\n' :: rest)
      ((line ++ '\r' :: '\n' :: following).drop count) = none := by
  by_cases past : count = line.length + 1
  · have dropped : (line ++ '\r' :: '\n' :: following).drop count = '\n' :: following := by
      rw [past, List.drop_append]
      simp
    simp [dropped, exactly, matchItems]
  · have inside : count < line.length := by omega
    obtain ⟨front, char, back, rfl, rfl⟩ : ∃ front char back,
        line = front ++ char :: back ∧ count = front.length := by
      refine ⟨line.take count, (line)[count], line.drop (count + 1), ?_, ?_⟩
      · rw [List.getElem_cons_drop, List.take_append_drop]
      · rw [List.length_take]
        omega
    rw [List.append_assoc, List.drop_left]
    by_cases carriage : char = '\r'
    · cases back with
      | nil => simp [exactly, matchItems, carriage]
      | cons second back =>
          have plain : second ≠ '\n' := fun same => single (by simp [same])
          simp [exactly, matchItems, carriage, plain]
    · simp [exactly, matchItems, carriage]

theorem match_line (least : Nat) (captured : Bool) (rest : List Item) (line following : List Char)
    (single : '\n' ∉ line) (enough : least ≤ line.length) :
    matchItems (.many least captured notLineFeed :: exactly '\r' :: exactly '\n' :: rest)
        (line ++ '\r' :: '\n' :: following) =
      (matchItems rest following).map fun found => if captured then line :: found else found := by
  rw [matchItems, take_while_line line following single, List.length_append, List.length_singleton]
  rw [longest_first_single _ least line.length (line.length + 1) enough (by omega)]
  · have dropped : (line ++ '\r' :: '\n' :: following).drop line.length =
        '\r' :: '\n' :: following := List.drop_left
    have taken : (line ++ '\r' :: '\n' :: following).take line.length = line := List.take_left
    rw [dropped, taken]
    simp [exactly, matchItems]
  · intro count bound other
    rw [no_line_end_inside line following rest count single bound other]
    rfl

theorem longest_first_short (attempt : Nat → Option (List (List Char))) (least count : Nat)
    (short : count < least) : longestFirst attempt least count = none := by
  cases count with
  | zero => simp [longestFirst, Nat.ne_of_gt short]
  | succ count => simp [longestFirst, short]

theorem match_to_line_feed (least : Nat) (captured : Bool) (rest : List Item)
    (line following : List Char) (single : '\n' ∉ line) :
    matchItems (.many least captured notLineFeed :: exactly '\n' :: rest)
        (line ++ '\n' :: following) =
      if least ≤ line.length then
        (matchItems rest following).map fun found => if captured then line :: found else found
      else none := by
  have taken : (line ++ '\n' :: following).takeWhile notLineFeed = line := by
    have plain : ∀ char ∈ line, notLineFeed char = true := by
      intro char member
      have other : char ≠ '\n' := fun same => single (same ▸ member)
      simpa [notLineFeed] using other
    rw [List.takeWhile_append_of_pos plain]
    simp [notLineFeed]
  rw [matchItems, taken]
  by_cases enough : least ≤ line.length
  · rw [if_pos enough, longest_first_single _ least line.length line.length enough
      (Nat.le_refl _)]
    · have dropped : (line ++ '\n' :: following).drop line.length = '\n' :: following :=
        List.drop_left
      have front : (line ++ '\n' :: following).take line.length = line := List.take_left
      rw [dropped, front]
      simp [exactly, matchItems]
    · intro count bound other
      -- given back early, the repetition stands before a character of the line
      have inside : count < line.length := by omega
      have head : (line ++ '\n' :: following).drop count =
          (line)[count] :: (line ++ '\n' :: following).drop (count + 1) := by
        rw [List.drop_eq_getElem_cons (by simp only [List.length_append]; omega),
          List.getElem_append_left inside]
      have plain : (line)[count] ≠ '\n' := fun same => single (same ▸ List.getElem_mem inside)
      rw [head]
      simp [exactly, matchItems, plain]
  · rw [if_neg enough]
    exact longest_first_short _ _ _ (Nat.lt_of_not_le enough)

theorem match_needs_line_feed (least : Nat) (captured : Bool) (rest : List Item)
    (text : List Char) (none : '\n' ∉ text) :
    matchItems (.many least captured notLineFeed :: exactly '\n' :: rest) text = Option.none := by
  rw [matchItems]
  apply longest_first_none
  intro count _
  cases dropped : text.drop count with
  | nil => simp [exactly, matchItems]
  | cons head tail =>
      have member : head ∈ text := List.mem_of_mem_drop (dropped ▸ List.mem_cons_self)
      have plain : head ≠ '\n' := fun same => none (same ▸ member)
      simp [exactly, matchItems, plain]

theorem match_final_run (accepts : Char → Bool) (text : List Char) :
    matchItems [.many 1 true accepts] text =
      if text.takeWhile accepts = [] then none else some [text.takeWhile accepts] := by
  have whole : text.take (text.takeWhile accepts).length = text.takeWhile accepts :=
    (List.prefix_iff_eq_take.mp (List.takeWhile_prefix accepts)).symm
  rw [matchItems]
  cases run : text.takeWhile accepts with
  | nil => rfl
  | cons head tail =>
      rw [run, List.length_cons] at whole
      simp [longestFirst, matchItems, whole]

theorem match_literal_some (text : List Char) (rest : List Item) (subject : List Char)
    (found : List (List Char)) (hit : matchItems (literal text ++ rest) subject = some found) :
    ∃ following, subject = text ++ following ∧ matchItems rest following = some found := by
  obtain ⟨following, split⟩ :=
    match_literal_prefix text rest subject (Option.isSome_iff_exists.mpr ⟨found, hit⟩)
  rw [← split, match_literal] at hit
  exact ⟨following, split.symm, hit⟩

theorem match_many_some (least : Nat) (captured : Bool) (accepts : Char → Bool)
    (rest : List Item) (text : List Char) (found : List (List Char))
    (hit : matchItems (.many least captured accepts :: rest) text = some found) :
    ∃ run following later, text = run ++ following ∧ (∀ char ∈ run, accepts char = true) ∧
      matchItems rest following = some later ∧
      found = if captured then run :: later else later := by
  rw [matchItems] at hit
  obtain ⟨count, _, short, here⟩ := longest_first_some _ _ _ _ hit
  obtain ⟨later, rested, same⟩ := Option.map_eq_some_iff.mp here
  refine ⟨text.take count, text.drop count, later, (List.take_append_drop _ _).symm, ?_, rested,
    same.symm⟩
  intro char member
  have inRun : text.take count <+: text.takeWhile accepts :=
    List.prefix_of_prefix_length_le (List.take_prefix _ _) (List.takeWhile_prefix _)
      (by rw [List.length_take]; omega)
  exact List.all_eq_true.mp List.all_takeWhile char (inRun.subset member)

theorem search_skip (items : List Item) (before text : List Char)
    (silent : ∀ front back, before = front ++ back → back ≠ [] →
      matchItems items (back ++ text) = none) :
    search items (before ++ text) = search items text := by
  induction before with
  | nil => rfl
  | cons head tail ih =>
      have here := silent [] (head :: tail) rfl (by simp)
      have later := ih (fun front back split => silent (head :: front) back (by simp [split]))
      rw [List.cons_append] at here ⊢
      rw [search, here]
      exact later

theorem search_here (items : List Item) (text : List Char) (found : List (List Char))
    (hit : matchItems items text = some found) : search items text = some found := by
  cases text with
  | nil => exact hit
  | cons head tail => simp [search, hit]

theorem search_some (items : List Item) (text : List Char) (found : List (List Char))
    (hit : search items text = some found) :
    ∃ suffix, suffix <:+ text ∧ matchItems items suffix = some found := by
  induction text with
  | nil => exact ⟨[], List.suffix_refl _, hit⟩
  | cons head tail ih =>
      cases here : matchItems items (head :: tail) with
      | some result =>
          simp only [search, here, Option.some.injEq] at hit
          exact ⟨head :: tail, List.suffix_refl _, hit ▸ here⟩
      | none =>
          simp only [search, here] at hit
          obtain ⟨suffix, inside, found⟩ := ih hit
          exact ⟨suffix, inside.trans (List.suffix_cons head tail), found⟩

theorem search_isSome_of_match (items : List Item) (before suffix : List Char)
    (hit : (matchItems items suffix).isSome = true) :
    (search items (before ++ suffix)).isSome = true := by
  induction before with
  | nil =>
      obtain ⟨found, same⟩ := Option.isSome_iff_exists.mp hit
      rw [List.nil_append, search_here items suffix found same]
      rfl
  | cons head tail ih =>
      rw [List.cons_append, search]
      split
      · rfl
      · exact ih

/-- Text after a text that decides nothing new at any of its positions. -/
theorem search_append (items : List Item) (text more : List Char)
    (same : ∀ suffix, suffix <:+ text → suffix ≠ [] →
      matchItems items (suffix ++ more) = matchItems items suffix)
    (empty : matchItems items [] = none) :
    search items (text ++ more) =
      match search items text with
      | some found => some found
      | none => search items more := by
  induction text with
  | nil => simp [search, empty]
  | cons head tail ih =>
      have here := same (head :: tail) (List.suffix_refl _) (List.cons_ne_nil _ _)
      have later := ih fun suffix inside => same suffix (inside.trans (List.suffix_cons head tail))
      rw [List.cons_append] at here ⊢
      rw [search, search, here, later]
      split
      · rfl
      · rfl

theorem literal_not_earlier (first : Char) (later before following : List Char)
    (once : first ∉ later) (absent : ¬ (first :: later) <:+: before)
    (front back : List Char) (split : before = front ++ back) (nonempty : back ≠ []) :
    ¬ (first :: later) <+: back ++ (first :: later) ++ following := by
  intro starts
  -- either the literal lies inside the text before, or its first character
  -- shows up again further on in it
  by_cases fits : (first :: later).length ≤ back.length
  · have within : (first :: later) <+: back := by
      rw [List.append_assoc] at starts
      exact List.prefix_of_prefix_length_le starts (List.prefix_append back _) fits
    apply absent
    rw [split]
    exact within.isInfix.trans (List.suffix_append front back).isInfix
  · obtain ⟨tail, joined⟩ := starts
    cases back with
    | nil => exact nonempty rfl
    | cons head back =>
        have inner : later ++ tail = back ++ (first :: (later ++ following)) := by
          simpa using (List.cons.inj joined).2
        have shorter : back.length < later.length := by
          simp only [List.length_cons] at fits
          omega
        have position : later[back.length]? = some first := by
          have whole := congrArg (·[back.length]?) inner
          simpa [List.getElem?_append_left shorter] using whole
        exact once (List.mem_of_getElem? position)

end CapturePattern
