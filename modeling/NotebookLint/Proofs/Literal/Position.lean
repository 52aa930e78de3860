import Mathlib.Data.String.Basic
import NotebookLint.Literal.Fault

/-!
# Positions in bytes

A source is cut at a number of bytes, which fails beyond its end and inside a character. A position
at which it can be cut is one of core's valid positions of the same string, and the positions of the
texts that are left grow with what lies between them.
-/

namespace NotebookLint.Literal

open NotebookLint.Text

/-- Cuts a text after a number of bytes. Beyond the end and inside a character there is no cut. -/
def splitBytes : (text : List Char) → (bytes : Nat) → Option (List Char × List Char)
  | text, 0 => some ([], text)
  | [], _ + 1 => none
  | c :: text, bytes + 1 =>
    if c.utf8Size ≤ bytes + 1 then
      (splitBytes text (bytes + 1 - c.utf8Size)).map fun parts => (c :: parts.1, parts.2)
    else none

/-- A position in bytes is directly before a text at the end of the source. -/
def Before (source : List Char) (pos : Nat) (text : List Char) : Prop :=
  ∃ front, source = front ++ text ∧ byteLength front = pos

/-- Where a text is cut. -/
theorem splitBytes_eq_some_iff {text front rest : List Char} {bytes : Nat} :
    splitBytes text bytes = some (front, rest) ↔ text = front ++ rest ∧ byteLength front = bytes := by
  fun_induction splitBytes text bytes generalizing front rest with
  | case1 text =>
    constructor
    · intro h
      obtain ⟨rfl, rfl⟩ := Prod.mk.inj (Option.some.inj h)
      exact ⟨rfl, rfl⟩
    · rintro ⟨rfl, hlength⟩
      cases front with
      | nil => rfl
      | cons c front =>
        have hpos := c.utf8Size_pos
        rw [byteLength] at hlength
        omega
  | case2 bytes =>
    refine iff_of_false (by simp) ?_
    rintro ⟨hnil, hlength⟩
    rw [(List.append_eq_nil_iff.mp hnil.symm).1] at hlength
    cases hlength
  | case3 c text bytes hfits ih =>
    rw [Option.map_eq_some_iff]
    constructor
    · rintro ⟨⟨inside, after⟩, hparts, hsplit⟩
      obtain ⟨rfl, rfl⟩ := Prod.mk.inj hsplit
      obtain ⟨rfl, hlength⟩ := ih.mp hparts
      exact ⟨rfl, by rw [byteLength, hlength]; omega⟩
    · rintro ⟨htext, hlength⟩
      cases front with
      | nil => cases hlength
      | cons d front =>
        obtain ⟨rfl, rfl⟩ := List.cons.inj htext
        rw [byteLength] at hlength
        exact ⟨(front, rest), ih.mpr ⟨rfl, by omega⟩, rfl⟩
  | case4 c text bytes hfits =>
    refine iff_of_false (by simp) ?_
    rintro ⟨htext, hlength⟩
    cases front with
    | nil => cases hlength
    | cons d front =>
      obtain ⟨rfl, -⟩ := List.cons.inj htext
      rw [byteLength] at hlength
      omega

namespace Before

variable {source text rest chars : List Char} {pos : Nat}

/-- The beginning of a source is before all of it. -/
theorem start (source : List Char) : Before source 0 source :=
  ⟨[], rfl, rfl⟩

/-- A position moves over characters by their bytes. -/
theorem append (h : Before source pos (chars ++ rest)) :
    Before source (pos + byteLength chars) rest := by
  obtain ⟨front, rfl, rfl⟩ := h
  exact ⟨front ++ chars, (List.append_assoc _ _ _).symm, byteLength_append _ _⟩

/-- A position moves over one character by its bytes. -/
theorem cons {c : Char} (h : Before source pos (c :: rest)) : Before source (pos + c.utf8Size) rest :=
  (show Before source pos ([c] ++ rest) from h).append

/-- A position before a text is not beyond the end. -/
theorem add_byteLength (h : Before source pos text) : pos + byteLength text = byteLength source := by
  obtain ⟨front, rfl, rfl⟩ := h
  exact (byteLength_append _ _).symm

/-- What is left further on is less. -/
theorem lt_of_length_lt {pos' : Nat} (h : Before source pos text) (h' : Before source pos' rest)
    (hlength : rest.length < text.length) : pos < pos' := by
  have htotal := h.add_byteLength
  have htotal' := h'.add_byteLength
  obtain ⟨front, hsource, -⟩ := h
  obtain ⟨front', hsource', -⟩ := h'
  obtain ⟨chars, rfl⟩ := List.suffix_of_suffix_length_le ⟨front', hsource'.symm⟩ ⟨front, hsource.symm⟩
    (Nat.le_of_lt hlength)
  have hchars : chars ≠ [] := by
    rintro rfl
    exact Nat.lt_irrefl _ hlength
  have hpos := byteLength_pos hchars
  rw [byteLength_append] at htotal
  omega

/-- The place of a fault is the position before its text. -/
theorem located_eq {fault : Fault} (h : Before source pos fault.rest) :
    fault.located source = ⟨pos, fault.cause⟩ := by
  obtain ⟨front, rfl, rfl⟩ := h
  exact Fault.located_append front fault

/-- A position before a text is a valid one of the string. -/
theorem isValid {string : String} (h : Before string.toList pos text) :
    (⟨pos⟩ : String.Pos.Raw).IsValid string := by
  obtain ⟨front, hsource, rfl⟩ := h
  refine String.Pos.Raw.isValid_iff_exists_append.mpr
    ⟨String.ofList front, String.ofList text, ?_, ?_⟩
  · rw [← String.ofList_append, ← hsource, String.ofList_toList]
  · rw [byteLength_eq_utf8ByteSize]
    rfl

end Before

end NotebookLint.Literal
