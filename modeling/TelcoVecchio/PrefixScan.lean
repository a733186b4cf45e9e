import Mathlib.Data.List.Infix

/-!
A reader that decides on everything read so far after each chunk, and stops at
the first decision. A delivery cuts the items into non-empty chunks of bounded
width; which prefixes are looked at depends on the cuts.
-/

namespace PrefixScan

universe u v
variable {Item : Type u} {Result : Type v}

def scan (decision : List Item → Option Result) (seen : List Item) :
    List (List Item) → Option Result
  | [] => none
  | chunk :: rest =>
      match decision (seen ++ chunk) with
      | some result => some result
      | none => scan decision (seen ++ chunk) rest

structure Delivers (width : Nat) (items : List Item) (chunks : List (List Item)) : Prop where
  whole : chunks.flatten = items
  nonempty : ∀ chunk ∈ chunks, chunk ≠ []
  bounded : ∀ chunk ∈ chunks, chunk.length ≤ width

def singles (items : List Item) : List (List Item) := items.map ([·])

theorem singles_flatten (items : List Item) : (singles items).flatten = items := by
  induction items with
  | nil => rfl
  | cons head tail ih =>
      rw [singles, List.map_cons, List.flatten_cons, ← singles, ih]
      rfl

theorem singles_delivers (width : Nat) (positive : 0 < width) (items : List Item) :
    Delivers width items (singles items) := by
  refine ⟨singles_flatten items, ?_, ?_⟩
  · intro chunk member
    obtain ⟨item, _, rfl⟩ := List.mem_map.mp member
    exact List.cons_ne_nil _ _
  · intro chunk member
    obtain ⟨item, _, rfl⟩ := List.mem_map.mp member
    exact positive

theorem delivers_append {width : Nat} {left right : List Item}
    {leftChunks rightChunks : List (List Item)} (first : Delivers width left leftChunks)
    (second : Delivers width right rightChunks) :
    Delivers width (left ++ right) (leftChunks ++ rightChunks) := by
  refine ⟨by rw [List.flatten_append, first.whole, second.whole], ?_, ?_⟩
  · intro chunk member
    rcases List.mem_append.mp member with inLeft | inRight
    · exact first.nonempty chunk inLeft
    · exact second.nonempty chunk inRight
  · intro chunk member
    rcases List.mem_append.mp member with inLeft | inRight
    · exact first.bounded chunk inLeft
    · exact second.bounded chunk inRight

theorem delivers_one (width : Nat) (chunk : List Item) (nonempty : chunk ≠ [])
    (bounded : chunk.length ≤ width) : Delivers width chunk [chunk] := by
  refine ⟨by simp, ?_, ?_⟩
  · intro other member
    rwa [List.mem_singleton.mp member]
  · intro other member
    rwa [List.mem_singleton.mp member]

section Scan
variable (decision : List Item → Option Result)

theorem scan_append (seen : List Item) (left right : List (List Item)) :
    scan decision seen (left ++ right) =
      match scan decision seen left with
      | some result => some result
      | none => scan decision (seen ++ left.flatten) right := by
  induction left generalizing seen with
  | nil => simp [scan]
  | cons chunk rest ih =>
      cases decided : decision (seen ++ chunk) with
      | some result => simp [scan, decided]
      | none => simp [scan, decided, ih, List.append_assoc]

theorem scan_undecided (seen : List Item) (chunks : List (List Item))
    (quiet : ∀ left right, chunks = left ++ right → left ≠ [] →
      decision (seen ++ left.flatten) = none) : scan decision seen chunks = none := by
  induction chunks generalizing seen with
  | nil => rfl
  | cons chunk rest ih =>
      have here := quiet [chunk] rest rfl (List.cons_ne_nil _ _)
      simp only [List.flatten_cons, List.flatten_nil, List.append_nil] at here
      simp only [scan, here]
      apply ih
      intro left right split _
      have later := quiet (chunk :: left) right (by rw [split, List.cons_append])
        (List.cons_ne_nil _ _)
      rwa [List.flatten_cons, ← List.append_assoc] at later

theorem scan_last (left : List (List Item)) (last : List Item) (right : List (List Item))
    (result : Result) (quiet : scan decision [] left = none)
    (decided : decision (left.flatten ++ last) = some result) :
    scan decision [] (left ++ last :: right) = some result := by
  rw [scan_append, quiet]
  simp [scan, decided]

def QuietBelow (items : List Item) (bound : Nat) : Prop :=
  ∀ count, 0 < count → count < bound → decision (items.take count) = none

theorem scan_singles_quiet (items : List Item) (count : Nat)
    (quiet : QuietBelow decision items (count + 1)) :
    scan decision [] (singles (items.take count)) = none := by
  apply scan_undecided
  intro left right split nonempty
  have cut : left = singles ((items.take count).take left.length) := by
    rw [singles, List.map_take, ← singles, split, List.take_left]
  have short : left.length ≤ count := by
    have total := congrArg List.length split
    rw [singles, List.length_map, List.length_take, List.length_append] at total
    omega
  rw [List.nil_append, cut, singles_flatten, List.take_take, Nat.min_eq_left short]
  exact quiet left.length (List.length_pos_iff.mpr nonempty) (by omega)

/-- The delivery of single items up to `start`, of one chunk from there up to
`stop`, and of single items again. -/
def jump (items : List Item) (start stop : Nat) : List (List Item) :=
  singles (items.take start) ++ (items.take stop).drop start :: singles (items.drop stop)

theorem jump_delivers (width : Nat) (items : List Item) (start stop : Nat)
    (ahead : start < stop) (inside : stop ≤ items.length) (fits : stop ≤ start + width) :
    Delivers width items (jump items start stop) := by
  have chunkLength : ((items.take stop).drop start).length = stop - start := by
    rw [List.length_drop, List.length_take, Nat.min_eq_left inside]
  have nonempty : (items.take stop).drop start ≠ [] := by
    intro none
    rw [none, List.length_nil] at chunkLength
    omega
  have positive : 0 < width := by omega
  have parts := delivers_append (singles_delivers width positive (items.take start))
    (delivers_append (delivers_one width _ nonempty (by omega))
      (singles_delivers width positive (items.drop stop)))
  have joined : items.take start ++ ((items.take stop).drop start ++ items.drop stop) = items := by
    have front : items.take start = (items.take stop).take start := by
      rw [List.take_take, Nat.min_eq_left (Nat.le_of_lt ahead)]
    rw [← List.append_assoc, front, List.take_append_drop, List.take_append_drop]
  rwa [joined] at parts

/-- A jump over undecided prefixes decides as its end does. -/
theorem scan_jump (items : List Item) (start stop : Nat) (ahead : start < stop)
    (quiet : QuietBelow decision items (start + 1)) (result : Result)
    (decided : decision (items.take stop) = some result) :
    scan decision [] (jump items start stop) = some result := by
  apply scan_last decision _ _ _ result (scan_singles_quiet decision items start quiet)
  have front : items.take start = (items.take stop).take start := by
    rw [List.take_take, Nat.min_eq_left (Nat.le_of_lt ahead)]
  rwa [singles_flatten, front, List.take_append_drop]

theorem take_boundary {items seen : List Item} {chunk : List Item} {rest : List (List Item)}
    (whole : seen ++ (chunk :: rest).flatten = items) :
    items.take (seen.length + chunk.length) = seen ++ chunk ∧
      seen.length + chunk.length ≤ items.length := by
  subst items
  constructor
  · rw [List.flatten_cons, ← List.append_assoc, ← List.length_append, List.take_left]
  · simp only [List.length_append, List.flatten_cons]
    omega

/-- Every delivery decides alike when all prefixes before the first decision are
undecided and all prefixes that a cut can end at instead decision the same. -/
theorem scan_window (width : Nat) (items : List Item) (first : Nat) (result : Result)
    (inside : first ≤ items.length) (quiet : QuietBelow decision items first)
    (agree : ∀ count, first ≤ count → count ≤ items.length → count < first + width →
      decision (items.take count) = some result)
    (seen : List Item) (before : seen.length < first) (chunks : List (List Item))
    (whole : seen ++ chunks.flatten = items) (nonempty : ∀ chunk ∈ chunks, chunk ≠ [])
    (bounded : ∀ chunk ∈ chunks, chunk.length ≤ width) :
    scan decision seen chunks = some result := by
  induction chunks generalizing seen with
  | nil =>
      have same := congrArg List.length whole
      simp only [List.flatten_nil, List.append_nil] at same
      omega
  | cons chunk rest ih =>
      obtain ⟨boundary, within⟩ := take_boundary whole
      have positive := List.length_pos_iff.mpr (nonempty chunk List.mem_cons_self)
      have narrow := bounded chunk List.mem_cons_self
      by_cases early : seen.length + chunk.length < first
      · have undecided := quiet _ (by omega) early
        rw [boundary] at undecided
        simp only [scan, undecided]
        apply ih (seen ++ chunk)
        · rw [List.length_append]
          exact early
        · rw [List.append_assoc, ← List.flatten_cons]
          exact whole
        · exact fun other member => nonempty other (List.mem_cons_of_mem _ member)
        · exact fun other member => bounded other (List.mem_cons_of_mem _ member)
      · have decided := agree _ (by omega) within (by omega)
        rw [boundary] at decided
        simp only [scan, decided]

theorem scan_some (items seen : List Item) (chunks : List (List Item)) (result : Result)
    (whole : seen ++ chunks.flatten = items)
    (scanned : scan decision seen chunks = some result) :
    ∃ count, decision (items.take count) = some result := by
  induction chunks generalizing seen with
  | nil => cases scanned
  | cons chunk rest ih =>
      cases here : decision (seen ++ chunk) with
      | some other =>
          simp only [scan, here] at scanned
          exact ⟨_, by rw [(take_boundary whole).1, here, scanned]⟩
      | none =>
          simp only [scan, here] at scanned
          exact ih (seen ++ chunk) (by rwa [List.append_assoc, ← List.flatten_cons]) scanned

theorem scan_quiet (items : List Item) (quiet : QuietBelow decision items (items.length + 1))
    (chunks : List (List Item)) (whole : chunks.flatten = items)
    (nonempty : ∀ chunk ∈ chunks, chunk ≠ []) : scan decision [] chunks = none := by
  apply scan_undecided
  intro left right split leftNonempty
  subst chunks items
  have boundary : (left ++ right).flatten.take left.flatten.length = left.flatten := by
    rw [List.flatten_append, List.take_left]
  have positive : 0 < left.flatten.length := by
    cases left with
    | nil => exact absurd rfl leftNonempty
    | cons chunk others =>
        have some := List.length_pos_iff.mpr (nonempty chunk (by simp))
        simp only [List.flatten_cons, List.length_append]
        omega
  have inside : left.flatten.length < (left ++ right).flatten.length + 1 := by
    simp only [List.flatten_append, List.length_append]
    omega
  have undecided := quiet left.flatten.length positive inside
  rwa [boundary] at undecided

theorem scan_constant (items : List Item) (result : Result)
    (constant : ∀ count other, decision (items.take count) = some other → other = result)
    (decided : decision items = some result) (seen : List Item) (chunks : List (List Item))
    (whole : seen ++ chunks.flatten = items) (more : chunks ≠ []) :
    scan decision seen chunks = some result := by
  induction chunks generalizing seen with
  | nil => exact absurd rfl more
  | cons chunk rest ih =>
      obtain ⟨boundary, _⟩ := take_boundary whole
      cases here : decision (seen ++ chunk) with
      | some other =>
          rw [← boundary] at here
          simp only [scan, ← boundary, here, constant _ other here]
      | none =>
          cases rest with
          | nil =>
              simp only [List.flatten_cons, List.flatten_nil, List.append_nil] at whole
              rw [whole, decided] at here
              cases here
          | cons next others =>
              simp only [scan, here]
              apply ih
              · rw [List.append_assoc, ← List.flatten_cons]
                exact whole
              · exact List.cons_ne_nil _ _

end Scan

end PrefixScan
