/-!
# UTF-8

Bytes are decoded a sequence at a time: the first byte says how many more belong to it and
between which bounds the second lies. Where a sequence breaks off, its longest well-formed part
counts as one fault, so that lenient decoding puts one replacement character for it.
-/

namespace NotebookLint.Text

/-- What a first byte announces. -/
structure Lead where
  /-- The bits of the code point that it carries. -/
  bits : Nat
  /-- The least second byte. -/
  low : Nat
  /-- The greatest second byte. -/
  high : Nat
  /-- The number of bytes after it. -/
  more : Nat
  deriving DecidableEq, Repr

/-- What a byte outside ASCII announces as the first of a sequence. -/
def leadOf (byte : Nat) : Option Lead :=
  if 0xC2 ≤ byte ∧ byte ≤ 0xDF then some ⟨byte - 0xC0, 0x80, 0xBF, 1⟩
  else if byte = 0xE0 then some ⟨0, 0xA0, 0xBF, 2⟩
  else if byte = 0xED then some ⟨0xD, 0x80, 0x9F, 2⟩
  else if 0xE1 ≤ byte ∧ byte ≤ 0xEF then some ⟨byte - 0xE0, 0x80, 0xBF, 2⟩
  else if byte = 0xF0 then some ⟨0, 0x90, 0xBF, 3⟩
  else if 0xF1 ≤ byte ∧ byte ≤ 0xF3 then some ⟨byte - 0xF0, 0x80, 0xBF, 3⟩
  else if byte = 0xF4 then some ⟨4, 0x80, 0x8F, 3⟩
  else none

/-- The code point that continuation bytes complete and how many of them are used, or how many
there are before a sequence breaks off. -/
def continuation : (more : Nat) → (low high bits used : Nat) → List UInt8 → Option Nat × Nat
  | 0, _, _, bits, used, _ => (some bits, used)
  | _ + 1, _, _, _, used, [] => (none, used)
  | more + 1, low, high, bits, used, byte :: rest =>
    if low ≤ byte.toNat ∧ byte.toNat ≤ high then
      continuation more 0x80 0xBF (bits * 0x40 + (byte.toNat - 0x80)) (used + 1) rest
    else (none, used)

/-- The character of the sequence with this first byte, if it is well formed, and the number of
bytes after the first that belong to the sequence or to its longest well-formed part. -/
def sequence (first : UInt8) (rest : List UInt8) : Option Char × Nat :=
  if first.toNat < 0x80 then (some (Char.ofNat first.toNat), 0)
  else
    match leadOf first.toNat with
    | none => (none, 0)
    | some lead =>
      let (code, used) := continuation lead.more lead.low lead.high lead.bits 0 rest
      (code.map Char.ofNat, used)

/-- The character that stands for bytes that are no text. -/
def replacement : Char := Char.ofNat 0xFFFD

/-- The characters of bytes, with nothing in the place of each broken sequence. The first `skip`
bytes belong to a sequence that is already read. -/
def decodeParts : (skip : Nat) → List UInt8 → List (Option Char)
  | _, [] => []
  | skip + 1, _ :: rest => decodeParts skip rest
  | 0, first :: rest =>
    let (char, used) := sequence first rest
    char :: decodeParts used rest

/-- The text of bytes, with a replacement character for each broken sequence. -/
def decodeLenient (bytes : List UInt8) : List Char :=
  (decodeParts 0 bytes).map fun part => part.getD replacement

/-- The text of bytes, if they are well-formed UTF-8. -/
def decodeStrict (bytes : List UInt8) : Option (List Char) :=
  (decodeParts 0 bytes).mapM id

/-- The bytes of a text. -/
def encode (text : List Char) : List UInt8 :=
  text.flatMap String.utf8EncodeChar

/-- The number of bytes of a text. -/
def byteLength : (text : List Char) → Nat
  | [] => 0
  | c :: rest => c.utf8Size + byteLength rest

/-- Strict decoding only succeeds where lenient decoding replaces nothing. -/
theorem decodeLenient_of_decodeStrict {bytes : List UInt8} {text : List Char}
    (h : decodeStrict bytes = some text) : decodeLenient bytes = text := by
  unfold decodeStrict at h
  unfold decodeLenient
  generalize decodeParts 0 bytes = parts at h
  induction parts generalizing text with
  | nil => simp_all
  | cons part parts ih =>
    cases part with
    | none => simp at h
    | some c =>
      simp only [List.mapM_cons, id_eq, Option.pure_def, Option.bind_eq_bind,
        Option.bind_some, Option.bind_eq_some_iff, Option.some.injEq] at h
      obtain ⟨tail, ht, rfl⟩ := h
      simp [ih ht]

/-- The bytes of two texts add up. -/
theorem byteLength_append (text more : List Char) :
    byteLength (text ++ more) = byteLength text + byteLength more := by
  induction text with
  | nil => simp [byteLength]
  | cons c text ih => rw [List.cons_append, byteLength, byteLength, ih, Nat.add_assoc]

/-- A text with characters has bytes. -/
theorem byteLength_pos {text : List Char} (h : text ≠ []) : 0 < byteLength text := by
  cases text with
  | nil => exact absurd rfl h
  | cons c text =>
    have hpos := c.utf8Size_pos
    rw [byteLength]
    omega

/-- A text has at least as many bytes as characters. -/
theorem length_le_byteLength (text : List Char) : text.length ≤ byteLength text := by
  induction text with
  | nil => exact Nat.le_refl 0
  | cons c text ih =>
    have hpos := c.utf8Size_pos
    rw [List.length_cons, byteLength]
    omega

/-- The bytes of a text are those of its string. -/
theorem byteLength_eq_utf8ByteSize (text : List Char) :
    byteLength text = (String.ofList text).utf8ByteSize := by
  induction text with
  | nil => rfl
  | cons c text ih =>
    rw [byteLength, ih, String.ofList_cons, String.utf8ByteSize_append, String.utf8ByteSize_singleton]

/-- Characters of one byte each have as many bytes. -/
theorem byteLength_eq_length {text : List Char} (h : ∀ c ∈ text, c.utf8Size = 1) :
    byteLength text = text.length := by
  induction text with
  | nil => rfl
  | cons c text ih =>
    obtain ⟨hc, htext⟩ := List.forall_mem_cons.mp h
    rw [byteLength, hc, ih htext, List.length_cons, Nat.add_comm]

end NotebookLint.Text
