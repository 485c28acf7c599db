/-!
# Text as bytes

The UTF-8 form of a text, and two readings of a byte sequence: a strict one, which
refuses anything that is not UTF-8, and a lossy one, which puts the replacement
character in the place of every malformed stretch.  A malformed stretch is the
longest start of a character that the bytes make, or one byte that starts none.
-/

namespace CodeShelf.Text.Utf8

def encode (cs : List Char) : List UInt8 :=
  cs.flatMap String.utf8EncodeChar

/-- What the first byte of a longer character says: how many bytes follow, the
bounds of the next one, and the bits that the first byte contributes. -/
structure Lead where
  owed : Nat
  low : Nat
  high : Nat
  bits : Nat
  deriving DecidableEq, Repr

def lead? (b : Nat) : Option Lead :=
  if 0xC2 ≤ b ∧ b ≤ 0xDF then some ⟨1, 0x80, 0xBF, b - 0xC0⟩
  else if b = 0xE0 then some ⟨2, 0xA0, 0xBF, 0⟩
  else if b = 0xED then some ⟨2, 0x80, 0x9F, 0xD⟩
  else if 0xE1 ≤ b ∧ b ≤ 0xEF then some ⟨2, 0x80, 0xBF, b - 0xE0⟩
  else if b = 0xF0 then some ⟨3, 0x90, 0xBF, 0⟩
  else if 0xF1 ≤ b ∧ b ≤ 0xF3 then some ⟨3, 0x80, 0xBF, b - 0xF0⟩
  else if b = 0xF4 then some ⟨3, 0x80, 0x8F, 4⟩
  else none

/-- Reads the bytes that a character still owes; the next one lies between `low`
and `high`, the later ones between 0x80 and 0xBF.  Returns no character where one
of them is missing, and what is left to read. -/
def readOwed : Nat → Nat → Nat → Nat → List UInt8 → Option Char × List UInt8
  | 0, _, _, bits, bytes => (some (Char.ofNat bits), bytes)
  | _ + 1, _, _, _, [] => (none, [])
  | owed + 1, low, high, bits, b :: bytes =>
      if low ≤ b.toNat ∧ b.toNat ≤ high then
        readOwed owed 0x80 0xBF (bits * 64 + (b.toNat - 0x80)) bytes
      else (none, b :: bytes)

def readChar (b : UInt8) (bytes : List UInt8) : Option Char × List UInt8 :=
  if b.toNat < 0x80 then (some (Char.ofNat b.toNat), bytes)
  else
    match lead? b.toNat with
    | none => (none, bytes)
    | some l => readOwed l.owed l.low l.high l.bits bytes

theorem length_readOwed_le (owed low high bits : Nat) (bytes : List UInt8) :
    (readOwed owed low high bits bytes).2.length ≤ bytes.length := by
  induction owed generalizing low high bits bytes with
  | zero => simp [readOwed]
  | succ owed ih =>
      cases bytes with
      | nil => simp [readOwed]
      | cons b bytes =>
          simp only [readOwed]
          split
          · exact Nat.le_succ_of_le (ih ..)
          · simp

theorem length_readChar_le (b : UInt8) (bytes : List UInt8) :
    (readChar b bytes).2.length ≤ bytes.length := by
  unfold readChar
  split
  · simp
  · split
    · simp
    · exact length_readOwed_le ..

def scan : List UInt8 → List (Option Char)
  | [] => []
  | b :: bytes =>
      have : (readChar b bytes).2.length < bytes.length + 1 :=
        Nat.lt_succ_of_le (length_readChar_le b bytes)
      (readChar b bytes).1 :: scan (readChar b bytes).2
termination_by bytes => bytes.length

def decode? (bytes : List UInt8) : Option (List Char) :=
  (scan bytes).mapM id

def decodeLossy (bytes : List UInt8) : List Char :=
  (scan bytes).map fun c => c.getD (Char.ofNat 0xFFFD)

end CodeShelf.Text.Utf8
