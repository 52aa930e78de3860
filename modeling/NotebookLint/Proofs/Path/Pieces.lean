import Mathlib.Data.List.Infix
import NotebookLint.Path

/-!
# Paths piece by piece

A text is cut into pieces at its separators and can be put together again. What stands between two
separators, as a search for a name with separators around it finds it, is a piece that is neither
the first nor the last.
-/

namespace NotebookLint.Path

/-- There is always a piece. -/
theorem pieces_ne_nil (text : List Char) : pieces text ≠ [] := by
  cases text with
  | nil => simp [pieces]
  | cons c rest =>
    rw [pieces]
    split
    · simp
    · split <;> simp

/-- A separator ends a piece. -/
theorem pieces_append (text rest : List Char) :
    pieces (text ++ '/' :: rest) = pieces text ++ pieces rest := by
  induction text with
  | nil => rfl
  | cons c text ih =>
    rw [List.cons_append, pieces, pieces, ih]
    split
    · rfl
    · cases hpieces : pieces text with
      | nil => exact absurd hpieces (pieces_ne_nil text)
      | cons piece more => rfl

/-- A text without separators is one piece. -/
theorem pieces_of_not_mem {text : List Char} (h : '/' ∉ text) : pieces text = [text] := by
  induction text with
  | nil => rfl
  | cons c rest ih =>
    rw [List.mem_cons, not_or] at h
    rw [pieces, if_neg (Ne.symm h.1), ih h.2]

/-- A piece before others is joined to them by a separator. -/
theorem joinPieces_cons (piece : List Char) {rest : List (List Char)} (hrest : rest ≠ []) :
    joinPieces (piece :: rest) = piece ++ '/' :: joinPieces rest := by
  cases rest with
  | nil => exact absurd rfl hrest
  | cons next more => rfl

/-- Pieces of which neither part is empty are joined by a separator between the parts. -/
theorem joinPieces_append {first second : List (List Char)} (hfirst : first ≠ [])
    (hsecond : second ≠ []) :
    joinPieces (first ++ second) = joinPieces first ++ '/' :: joinPieces second := by
  induction first with
  | nil => exact absurd rfl hfirst
  | cons piece rest ih =>
    by_cases hrest : rest = []
    · rw [hrest, List.singleton_append, joinPieces_cons piece hsecond]
      rfl
    · have hboth : rest ++ second ≠ [] := by simp [hrest]
      rw [List.cons_append, joinPieces_cons piece hboth, ih hrest, joinPieces_cons piece hrest,
        List.append_assoc, List.cons_append]

/-- The pieces of a text make the text. -/
theorem joinPieces_pieces (text : List Char) : joinPieces (pieces text) = text := by
  induction text with
  | nil => rfl
  | cons c rest ih =>
    rw [pieces]
    split
    · rename_i hc
      rw [joinPieces_cons [] (pieces_ne_nil rest), ih, hc]
      rfl
    · cases hpieces : pieces rest with
      | nil => exact absurd hpieces (pieces_ne_nil rest)
      | cons piece more =>
        rw [hpieces] at ih
        cases more with
        | nil => rw [← ih]; rfl
        | cons next more => rw [← ih]; rfl

/-- What stands between two separators is a piece that is neither the first nor the last. -/
theorem isInfix_iff_mem_pieces {name : List Char} (hname : '/' ∉ name) (text : List Char) :
    '/' :: name ++ ['/'] <:+: text ↔ name ∈ (pieces text).tail.dropLast := by
  constructor
  · rintro ⟨before, after, rfl⟩
    have hpieces : pieces (before ++ ('/' :: name ++ ['/']) ++ after) =
        pieces before ++ name :: pieces after := by
      have htext : before ++ ('/' :: name ++ ['/']) ++ after =
          before ++ '/' :: (name ++ '/' :: after) := by simp
      rw [htext, pieces_append, pieces_append, pieces_of_not_mem hname]
      rfl
    rw [hpieces, List.tail_append_of_ne_nil (pieces_ne_nil before),
      List.dropLast_append_of_ne_nil (List.cons_ne_nil _ _),
      List.dropLast_cons_of_ne_nil (pieces_ne_nil after)]
    exact List.mem_append_right _ List.mem_cons_self
  · intro hmem
    obtain ⟨first, rest, hpieces⟩ := List.exists_cons_of_ne_nil (pieces_ne_nil text)
    rw [hpieces, List.tail_cons] at hmem
    have hrest : rest ≠ [] := by
      rintro rfl
      cases hmem
    obtain ⟨before, after, hbetween⟩ := List.append_of_mem hmem
    -- The last piece closes what stands after the name.
    have hlast : rest = before ++ name :: (after ++ [rest.getLast hrest]) := by
      rw [← List.cons_append, ← List.append_assoc, ← hbetween,
        List.dropLast_append_getLast hrest]
    refine ⟨joinPieces (first :: before), joinPieces (after ++ [rest.getLast hrest]), ?_⟩
    have hjoin := joinPieces_pieces text
    rw [hpieces, hlast, ← List.cons_append,
      joinPieces_append (List.cons_ne_nil first before) (List.cons_ne_nil name _),
      joinPieces_cons name (by simp)] at hjoin
    rw [← hjoin]
    simp

end NotebookLint.Path
