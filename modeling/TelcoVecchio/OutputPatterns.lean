import TelcoVecchio.SshUtils

/-!
The two patterns of the reading loop on an output that grows. A complete
`Forwarding` line is found again, whatever follows it; an error code is found
again as it was only if what follows cannot lengthen it.
-/

namespace TelcoVecchio.OutputPatterns

open Common SshUtils

theorem literal_prefix_cases (text : List Char) (rest : List CapturePattern.Item)
    (subject : List Char) (found : List (List Char))
    (hit : CapturePattern.matchItems (CapturePattern.literal text ++ rest) subject = some found) :
    ∃ following, subject = text ++ following ∧
      CapturePattern.matchItems rest following = some found := by
  obtain ⟨following, rfl⟩ := CapturePattern.match_literal_prefix text rest subject (by rw [hit]; rfl)
  rw [CapturePattern.match_literal] at hit
  exact ⟨following, rfl, hit⟩

theorem split_at_line_feed (text : List Char) (member : '\n' ∈ text) :
    ∃ line following, text = line ++ '\n' :: following ∧ '\n' ∉ line :=
  List.eq_append_cons_of_mem member

theorem match_success_iff (text : List Char) (found : List (List Char)) :
    CapturePattern.matchItems successPattern text = some found ↔
      ∃ url following, text = "Forwarding  ".toList ++ (url ++ '\n' :: following) ∧
        url ≠ [] ∧ '\n' ∉ url ∧ found = [url] := by
  constructor
  · intro hit
    obtain ⟨line, rfl, matched⟩ := literal_prefix_cases _ _ _ _ hit
    by_cases ended : '\n' ∈ line
    · obtain ⟨url, following, rfl, single⟩ := split_at_line_feed line ended
      rw [CapturePattern.match_to_line_feed 1 true [] url following single] at matched
      split at matched
      case isFalse => cases matched
      case isTrue enough =>
        simp only [CapturePattern.matchItems, Option.map_some, ↓reduceIte,
          Option.some.injEq] at matched
        exact ⟨url, following, rfl, List.ne_nil_of_length_pos enough, single, matched.symm⟩
    · rw [CapturePattern.match_needs_line_feed 1 true [] line ended] at matched
      cases matched
  · rintro ⟨url, following, rfl, nonempty, single, rfl⟩
    have enough : 1 ≤ url.length := List.length_pos_iff.mpr nonempty
    rw [successPattern, CapturePattern.match_literal,
      CapturePattern.match_to_line_feed 1 true [] url following single, if_pos enough]
    rfl

theorem success_line_feed (text : List Char) (found : List (List Char))
    (hit : CapturePattern.matchItems successPattern text = some found) : '\n' ∈ text := by
  obtain ⟨url, following, rfl, _⟩ := (match_success_iff text found).mp hit
  simp

theorem match_success_append (text more : List Char) (ended : '\n' ∈ text) :
    CapturePattern.matchItems successPattern (text ++ more) =
      CapturePattern.matchItems successPattern text := by
  have forward : ∀ found, CapturePattern.matchItems successPattern text = some found →
      CapturePattern.matchItems successPattern (text ++ more) = some found := by
    intro found hit
    obtain ⟨url, following, rfl, facts⟩ := (match_success_iff text found).mp hit
    exact (match_success_iff _ found).mpr ⟨url, following ++ more, by simp, facts⟩
  have backward : ∀ found, CapturePattern.matchItems successPattern (text ++ more) = some found →
      CapturePattern.matchItems successPattern text = some found := by
    intro found hit
    obtain ⟨url, following, whole, nonempty, single, rfl⟩ := (match_success_iff _ found).mp hit
    rw [← List.append_assoc] at whole
    rcases List.append_eq_append_iff.mp whole with ⟨inner, early, _⟩ | ⟨inner, rfl, rest⟩
    · -- the line feed of the text would lie inside the line
      exfalso
      have inLine : '\n' ∈ "Forwarding  ".toList ++ url := by
        rw [early]
        exact List.mem_append_left _ ended
      rcases List.mem_append.mp inLine with inLiteral | inUrl
      · exact absurd inLiteral (by decide)
      · exact single inUrl
    · cases inner with
      | nil =>
          exfalso
          rw [List.append_nil] at ended
          rcases List.mem_append.mp ended with inLiteral | inUrl
          · exact absurd inLiteral (by decide)
          · exact single inUrl
      | cons head tail =>
          rw [List.cons_append, List.cons.injEq] at rest
          rw [← rest.1]
          exact (match_success_iff _ _).mpr ⟨url, tail, by simp, nonempty, single, rfl⟩
  exact Option.ext fun found => ⟨backward found, forward found⟩

theorem search_success_line_feed (text : List Char) (found : List (List Char))
    (hit : CapturePattern.search successPattern text = some found) : '\n' ∈ text := by
  obtain ⟨suffix, inside, matched⟩ := CapturePattern.search_some _ text found hit
  exact inside.subset (success_line_feed suffix found matched)

theorem search_success_stable (text more : List Char) (found : List (List Char))
    (hit : CapturePattern.search successPattern text = some found) :
    CapturePattern.search successPattern (text ++ more) = some found := by
  induction text with
  | nil => exact absurd (search_success_line_feed [] found hit) List.not_mem_nil
  | cons head tail ih =>
      have ended := search_success_line_feed _ found hit
      have here := match_success_append (head :: tail) more ended
      rw [CapturePattern.search] at hit
      rw [List.cons_append] at here ⊢
      rw [CapturePattern.search, here]
      cases matched : CapturePattern.matchItems successPattern (head :: tail) with
      | some other =>
          simp only [matched] at hit
          exact hit
      | none =>
          simp only [matched] at hit
          exact ih hit

theorem search_success_quiet (text more : List Char) (quiet : '\n' ∉ more) :
    CapturePattern.search successPattern (text ++ more) =
      CapturePattern.search successPattern text := by
  have same : ∀ suffix, suffix <:+ text → suffix ≠ [] →
      CapturePattern.matchItems successPattern (suffix ++ more) =
        CapturePattern.matchItems successPattern suffix := by
    intro suffix _ _
    by_cases ended : '\n' ∈ suffix
    · exact match_success_append suffix more ended
    · have silent (subject : List Char) (absent : '\n' ∉ subject) :
          CapturePattern.matchItems successPattern subject = none := by
        cases hit : CapturePattern.matchItems successPattern subject with
        | none => rfl
        | some found => exact absurd (success_line_feed subject found hit) absent
      rw [silent suffix ended, silent (suffix ++ more) (by simp [ended, quiet])]
  have silentMore : CapturePattern.search successPattern more = none := by
    cases hit : CapturePattern.search successPattern more with
    | none => rfl
    | some found => exact absurd (search_success_line_feed more found hit) quiet
  rw [CapturePattern.search_append successPattern text more same rfl, silentMore]
  cases CapturePattern.search successPattern text <;> rfl

def Stops (text : List Char) : Prop := ∀ char ∈ text.head?, wordCharacter char = false

theorem take_while_word (code following : List Char)
    (word : ∀ char ∈ code, wordCharacter char = true) (stops : Stops following) :
    (code ++ following).takeWhile wordCharacter = code := by
  rw [List.takeWhile_append_of_pos word]
  cases following with
  | nil => simp
  | cons head tail => simp [stops head rfl]

theorem match_error_iff (text : List Char) (found : List (List Char)) :
    CapturePattern.matchItems errorPattern text = some found ↔
      ∃ code following, text = "ERR_".toList ++ (code ++ following) ∧ code ≠ [] ∧
        (∀ char ∈ code, wordCharacter char = true) ∧ Stops following ∧ found = [code] := by
  constructor
  · intro hit
    obtain ⟨following, rfl, matched⟩ := literal_prefix_cases _ _ _ _ hit
    rw [CapturePattern.match_final_run] at matched
    split at matched
    case isTrue => cases matched
    case isFalse nonempty =>
      refine ⟨following.takeWhile wordCharacter, following.dropWhile wordCharacter,
        by rw [List.takeWhile_append_dropWhile], nonempty,
        List.all_eq_true.mp List.all_takeWhile, ?_, (Option.some.inj matched).symm⟩
      intro char first
      have stopped := List.head?_dropWhile_not wordCharacter following
      rw [Option.mem_def.mp first] at stopped
      exact stopped
  · rintro ⟨code, following, rfl, nonempty, word, stops, rfl⟩
    rw [errorPattern, CapturePattern.match_literal, CapturePattern.match_final_run,
      take_while_word code following word stops, if_neg nonempty]

theorem match_error_append (text more : List Char) (nonempty : text ≠ []) (stops : Stops more) :
    CapturePattern.matchItems errorPattern (text ++ more) =
      CapturePattern.matchItems errorPattern text := by
  have forward : ∀ found, CapturePattern.matchItems errorPattern text = some found →
      CapturePattern.matchItems errorPattern (text ++ more) = some found := by
    intro found hit
    obtain ⟨code, following, rfl, some, word, stopped, rfl⟩ := (match_error_iff text found).mp hit
    refine (match_error_iff _ _).mpr ⟨code, following ++ more, by simp, some, word, ?_, rfl⟩
    cases following with
    | nil => exact stops
    | cons head tail => exact stopped
  have backward : ∀ found, CapturePattern.matchItems errorPattern (text ++ more) = some found →
      CapturePattern.matchItems errorPattern text = some found := by
    intro found hit
    obtain ⟨code, following, whole, some, word, stopped, rfl⟩ := (match_error_iff _ _).mp hit
    have wordAll : ∀ char ∈ "ERR_".toList ++ code, wordCharacter char = true := by
      intro char member
      rcases List.mem_append.mp member with inLiteral | inCode
      · have literal : "ERR_".toList.all wordCharacter = true := rfl
        exact List.all_eq_true.mp literal char inLiteral
      · exact word char inCode
    rw [← List.append_assoc] at whole
    rcases List.append_eq_append_iff.mp whole with ⟨inner, early, rest⟩ | ⟨inner, rfl, rest⟩
    · cases inner with
      | nil =>
          rw [List.append_nil] at early
          rw [← early]
          exact (match_error_iff _ _).mpr ⟨code, [], by simp, some, word, by simp [Stops], rfl⟩
      | cons head tail =>
          -- what follows the text would go on with word characters
          exfalso
          have stop := stops head (by rw [rest]; rfl)
          have go := wordAll head (by rw [early]; simp)
          rw [stop] at go
          cases go
    · refine (match_error_iff _ _).mpr ⟨code, inner, by simp, some, word, ?_, rfl⟩
      cases inner with
      | nil => simp [Stops]
      | cons head tail =>
          rw [rest] at stopped
          exact stopped
  exact Option.ext fun found => ⟨backward found, forward found⟩

theorem search_error_stable (text more : List Char) (found : List (List Char))
    (hit : CapturePattern.search errorPattern text = some found) (stops : Stops more) :
    CapturePattern.search errorPattern (text ++ more) = some found := by
  rw [CapturePattern.search_append errorPattern text more
    (fun suffix _ nonempty => match_error_append suffix more nonempty stops) rfl, hit]

theorem match_error_concat (text : List Char) (last : Char) (found : List (List Char))
    (hit : CapturePattern.matchItems errorPattern (text ++ [last]) = some found) :
    CapturePattern.matchItems errorPattern text = some found ∨
      ∃ code, text = "ERR_".toList ++ code ∧ found = [code ++ [last]] ∧
        ∀ char ∈ code, wordCharacter char = true := by
  obtain ⟨code, following, whole, nonempty, word, stopped, rfl⟩ := (match_error_iff _ _).mp hit
  rcases List.eq_nil_or_concat following with rfl | ⟨init, final, rfl⟩
  · obtain ⟨init, final, rfl⟩ : ∃ init final, code = init ++ [final] :=
      ⟨_, _, (List.dropLast_concat_getLast nonempty).symm⟩
    rw [List.append_nil, ← List.append_assoc] at whole
    obtain ⟨front, same⟩ := List.append_inj' whole rfl
    cases same
    exact Or.inr ⟨init, front, rfl, fun char member => word char (List.mem_append_left _ member)⟩
  · rw [List.concat_eq_append, ← List.append_assoc, ← List.append_assoc] at whole
    obtain ⟨front, same⟩ := List.append_inj' whole rfl
    cases same
    refine Or.inl ((match_error_iff _ _).mpr
      ⟨code, init, by rw [front, List.append_assoc], nonempty, word, ?_, rfl⟩)
    cases init with
    | nil => simp [Stops]
    | cons head tail => exact stopped

theorem silent_suffix (text : List Char) (before : CapturePattern.search errorPattern text = none)
    (suffix : List Char) (inside : suffix <:+ text) :
    CapturePattern.matchItems errorPattern suffix = none := by
  obtain ⟨front, rfl⟩ := inside
  cases matched : CapturePattern.matchItems errorPattern suffix with
  | none => rfl
  | some found =>
      have hit := CapturePattern.search_isSome_of_match errorPattern front suffix
        (by rw [matched]; rfl)
      rw [before] at hit
      cases hit

theorem new_code_single (text : List Char) (last : Char) (found : List (List Char))
    (before : CapturePattern.search errorPattern text = none) (suffix : List Char)
    (inside : suffix <:+ text ++ [last])
    (matched : CapturePattern.matchItems errorPattern suffix = some found) :
    found = [[last]] ∧ suffix = "ERR_".toList ++ [last] ∧ "ERR_".toList <:+ text := by
  rcases List.suffix_concat_iff.mp inside with rfl | ⟨front, rfl, earlier⟩
  · cases matched
  · have silent := silent_suffix text before front earlier
    rcases match_error_concat front last found matched with already | ⟨code, rfl, rfl, word⟩
    · rw [silent] at already
      cases already
    · cases code with
      | nil => exact ⟨rfl, rfl, earlier⟩
      | cons head tail =>
          -- the code was there without its last character
          have still := (match_error_iff ("ERR_".toList ++ head :: tail) _).mpr
            ⟨head :: tail, [], by simp, List.cons_ne_nil _ _, word, by simp [Stops], rfl⟩
          rw [silent] at still
          cases still

theorem new_code_lengthens (text : List Char) (last next : Char) (found : List (List Char))
    (before : CapturePattern.search errorPattern text = none)
    (hit : CapturePattern.search errorPattern (text ++ [last]) = some found)
    (word : wordCharacter next = true) :
    CapturePattern.search errorPattern (text ++ [last] ++ [next]) ≠ some found := by
  intro again
  obtain ⟨first, firstInside, firstMatched⟩ := CapturePattern.search_some _ _ _ hit
  obtain ⟨rfl, rfl, preceded⟩ := new_code_single text last found before first firstInside
    firstMatched
  obtain ⟨second, secondInside, secondMatched⟩ := CapturePattern.search_some _ _ _ again
  rcases List.suffix_concat_iff.mp secondInside with rfl | ⟨front, rfl, inside⟩
  · cases secondMatched
  · rcases match_error_concat front next _ secondMatched with already | ⟨code, rfl, same, _⟩
    · obtain ⟨_, rfl, _⟩ := new_code_single text last _ before front inside already
      have lastWord : wordCharacter last = true := by
        obtain ⟨code, following, _, _, codeWord, _, alone⟩ := (match_error_iff _ _).mp firstMatched
        cases alone
        exact codeWord last List.mem_cons_self
      have both := (match_error_iff ("ERR_".toList ++ [last] ++ [next]) _).mpr
        ⟨[last, next], [], by simp, List.cons_ne_nil _ _, by simp [lastWord, word],
          by simp [Stops], rfl⟩
      rw [secondMatched] at both
      cases both
    · -- the literal would end at the last character and one before it
      have empty : code = [] := by
        have width := congrArg List.length (List.cons.inj same).1
        simp only [List.length_singleton, List.length_append] at width
        exact List.length_eq_zero_iff.mp (by omega)
      subst code
      rw [List.append_nil, show "ERR_".toList = "ERR".toList ++ ['_'] from rfl] at inside
      rcases List.suffix_concat_iff.mp inside with none | ⟨other, split, shorter⟩
      · cases none
      · obtain ⟨rfl, _⟩ := List.append_inj' split rfl
        obtain ⟨left, rfl⟩ := shorter
        obtain ⟨right, joined⟩ := preceded
        have ends := congrArg List.getLast? joined
        simp at ends

theorem search_error_persists (text more : List Char) (found : List (List Char))
    (hit : CapturePattern.search errorPattern text = some found) :
    (CapturePattern.search errorPattern (text ++ more)).isSome = true := by
  obtain ⟨suffix, ⟨front, rfl⟩, matched⟩ := CapturePattern.search_some _ _ _ hit
  obtain ⟨code, following, rfl, nonempty, word, _, _⟩ := (match_error_iff _ _).mp matched
  rw [List.append_assoc]
  apply CapturePattern.search_isSome_of_match
  rw [List.append_assoc, errorPattern, CapturePattern.match_literal,
    CapturePattern.match_final_run, if_neg]
  · rfl
  · rw [List.append_assoc, List.takeWhile_append_of_pos word]
    simp [nonempty]

theorem search_error_run (text : List Char) (found : List (List Char))
    (hit : CapturePattern.search errorPattern text = some found) :
    ∃ before run after, found = [run] ∧ text = before ++ ("ERR_".toList ++ (run ++ after)) ∧
      run ≠ [] ∧ (∀ char ∈ run, wordCharacter char = true) ∧ Stops after := by
  obtain ⟨suffix, ⟨before, rfl⟩, matched⟩ := CapturePattern.search_some _ _ _ hit
  obtain ⟨run, after, rfl, nonempty, word, stops, rfl⟩ := (match_error_iff _ _).mp matched
  exact ⟨before, run, after, rfl, rfl, nonempty, word, stops⟩

theorem capture_code_iff (text : List Char) (code : String) :
    captureErrorCode text = some code ↔
      ∃ run, CapturePattern.search errorPattern text = some [run] ∧
        code = "ERR_" ++ String.ofList run := by
  constructor
  · intro found
    obtain ⟨captures, hit, head⟩ := Option.bind_eq_some_iff.mp found
    obtain ⟨_, run, _, rfl, _⟩ := search_error_run text captures hit
    exact ⟨run, hit, (Option.some.inj head).symm⟩
  · rintro ⟨run, hit, rfl⟩
    rw [captureErrorCode, hit]
    rfl

theorem capture_code_none {text : List Char} (silent : captureErrorCode text = none) :
    CapturePattern.search errorPattern text = none := by
  cases hit : CapturePattern.search errorPattern text with
  | none => rfl
  | some captures =>
      obtain ⟨_, run, _, rfl, _⟩ := search_error_run text captures hit
      have found := (capture_code_iff text _).mpr ⟨run, hit, rfl⟩
      rw [silent] at found
      cases found

end TelcoVecchio.OutputPatterns
