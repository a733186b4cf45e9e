import Mathlib.Data.List.Basic
import Mathlib.Data.List.Nodup

/-!
A ledger of handles that are opened once and closed at least once. `live`
lists the handles opened and not closed since; closing a handle twice, or one
that was never opened, changes nothing.
-/

namespace HandleLedger

variable {Handle : Type} [DecidableEq Handle]

inductive Entry (Handle : Type) where
  | opened (handle : Handle)
  | closed (handle : Handle)

def record (held : List Handle) : Entry Handle → List Handle
  | .opened handle => handle :: held
  | .closed handle => held.filter (· ≠ handle)

def live (entries : List (Entry Handle)) : List Handle := entries.foldl record []

@[simp] theorem live_nil : live ([] : List (Entry Handle)) = [] := rfl

theorem live_append (entries later : List (Entry Handle)) :
    live (entries ++ later) = later.foldl record (live entries) := by
  simp [live, List.foldl_append]

theorem live_opened (entries : List (Entry Handle)) (handle : Handle) :
    live (entries ++ [.opened handle]) = handle :: live entries := by
  simp [live_append, record]

theorem live_closed (entries : List (Entry Handle)) (handle : Handle) :
    live (entries ++ [.closed handle]) = (live entries).filter (· ≠ handle) := by
  simp [live_append, record]

omit [DecidableEq Handle] in
def isOpening : Entry Handle → Bool
  | .opened _ => true
  | .closed _ => false

theorem live_sublist (entries later : List (Entry Handle))
    (noOpening : ∀ entry ∈ later, isOpening entry = false) :
    (live (entries ++ later)).Sublist (live entries) := by
  induction later generalizing entries with
  | nil => simp
  | cons entry later ih =>
      have rest := ih (entries ++ [entry]) (fun e member => noOpening e (by simp [member]))
      rw [List.append_assoc, List.singleton_append] at rest
      cases entry with
      | opened handle => exact absurd (noOpening (.opened handle) (by simp)) (by simp [isOpening])
      | closed handle =>
          rw [live_closed] at rest
          exact rest.trans List.filter_sublist

theorem live_length_le (entries later : List (Entry Handle)) :
    (live (entries ++ later)).length ≤ (live entries).length + later.countP isOpening := by
  induction later generalizing entries with
  | nil => simp
  | cons entry later ih =>
      have rest := ih (entries ++ [entry])
      rw [List.append_assoc, List.singleton_append] at rest
      cases entry with
      | opened handle =>
          rw [live_opened, List.length_cons] at rest
          simp only [List.countP_cons, isOpening, ↓reduceIte]
          omega
      | closed handle =>
          have fewer := List.length_filter_le (fun held => decide (held ≠ handle)) (live entries)
          rw [live_closed] at rest
          simp only [List.countP_cons, isOpening, Bool.false_eq_true, ↓reduceIte]
          omega

end HandleLedger
