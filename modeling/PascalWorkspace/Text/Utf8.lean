/-! UTF-8. A byte sequence that is no character is cut after the longest part that could have begun
one; a strict reading refuses it and a lenient one puts the replacement character. -/
namespace PascalWorkspace.Text.Utf8

/-- Reads `count` more continuation bytes; the first of them must lie between `lo` and `hi`. -/
def continueWith : Nat → Nat → Nat → Nat → List UInt8 → Option Nat × List UInt8
  | 0, _, _, value, rest => (some value, rest)
  | count + 1, lo, hi, value, b :: rest =>
    if lo ≤ b.toNat ∧ b.toNat ≤ hi then
      continueWith count 0x80 0xBF (value * 64 + (b.toNat - 0x80)) rest
    else (none, b :: rest)
  | _ + 1, _, _, _, [] => (none, [])

/-- What the first byte of a character announces. -/
structure Lead where
  /-- The number of bytes that follow. -/
  count : Nat
  /-- The range of the byte behind it. -/
  lo : Nat
  hi : Nat
  /-- Its own part of the code point. -/
  value : Nat

/-- No character begins with a continuation byte, or with one that only longer spellings and code
points out of range would need. -/
def lead? (n : Nat) : Option Lead :=
  if n < 0x80 then some ⟨0, 0x80, 0xBF, n⟩
  else if n < 0xC2 then none
  else if n < 0xE0 then some ⟨1, 0x80, 0xBF, n - 0xC0⟩
  else if n = 0xE0 then some ⟨2, 0xA0, 0xBF, 0⟩
  else if n = 0xED then some ⟨2, 0x80, 0x9F, 13⟩
  else if n < 0xF0 then some ⟨2, 0x80, 0xBF, n - 0xE0⟩
  else if n = 0xF0 then some ⟨3, 0x90, 0xBF, 0⟩
  else if n < 0xF4 then some ⟨3, 0x80, 0xBF, n - 0xF0⟩
  else if n = 0xF4 then some ⟨3, 0x80, 0x8F, 4⟩
  else none

/-- The code point that begins with a byte, and the bytes behind it. -/
def readOne (b : UInt8) (rest : List UInt8) : Option Nat × List UInt8 :=
  match lead? b.toNat with
  | some l => continueWith l.count l.lo l.hi l.value rest
  | none => (none, rest)

theorem length_continueWith_le (count lo hi value : Nat) (bytes : List UInt8) :
    (continueWith count lo hi value bytes).2.length ≤ bytes.length := by
  induction count generalizing lo hi value bytes with
  | zero => simp [continueWith]
  | succ count ih =>
    cases bytes with
    | nil => simp [continueWith]
    | cons b rest =>
      rw [continueWith]
      split
      · exact Nat.le_trans (ih ..) (by simp)
      · simp

theorem length_readOne_le (b : UInt8) (rest : List UInt8) :
    (readOne b rest).2.length ≤ rest.length := by
  rw [readOne]
  split
  · exact length_continueWith_le ..
  · exact Nat.le_refl _

/-- The characters of a byte sequence; nothing stands for a part that is no character. -/
def read : List UInt8 → List (Option Char)
  | [] => []
  | b :: rest => (readOne b rest).1.map Char.ofNat :: read (readOne b rest).2
  termination_by bytes => bytes.length
  decreasing_by simpa using Nat.lt_succ_of_le (length_readOne_le b rest)

/-- The text of a byte sequence, if all of it is UTF-8. -/
def decode? (bytes : List UInt8) : Option (List Char) := (read bytes).mapM id

def replacement : Char := Char.ofNat 0xFFFD

def decodeLenient (bytes : List UInt8) : List Char := (read bytes).map (·.getD replacement)

def encode (cs : List Char) : List UInt8 := cs.flatMap String.utf8EncodeChar

end PascalWorkspace.Text.Utf8
