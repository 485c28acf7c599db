import CodeShelf.Text.Normal.Table

/-!
# The composed form of a text

Two texts that look alike may differ in how their accented letters are written.  In the
composed form every character is first taken apart, the marks on one letter are put in
order of their classes, and letters and marks are then put together as far as possible.
-/

namespace CodeShelf.Text

namespace Normal

def combiningClass (c : Char) : Nat :=
  let code := c.toNat
  if code < 0x300 then 0
  else
    match classRanges.find? fun (first, last, _) => first ≤ code && code ≤ last with
    | some (_, _, k) => k
    | none => 0

/-! ## Hangul syllables -/

def leadBase : Nat := 0x1100

def vowelBase : Nat := 0x1161

/-- One before the first trailing consonant: a syllable need not have one. -/
def trailBase : Nat := 0x11A7

def syllableBase : Nat := 0xAC00

def leadCount : Nat := 19

def vowelCount : Nat := 21

def trailCount : Nat := 28

def isSyllable (code : Nat) : Bool :=
  syllableBase ≤ code && code < syllableBase + leadCount * vowelCount * trailCount

def syllableParts (code : Nat) : List Nat :=
  let index := code - syllableBase
  let trail := index % trailCount
  [leadBase + index / (vowelCount * trailCount), vowelBase + index / trailCount % vowelCount] ++
    if trail = 0 then [] else [trailBase + trail]

def joinSyllable? (first second : Nat) : Option Nat :=
  if leadBase ≤ first ∧ first < leadBase + leadCount ∧
      vowelBase ≤ second ∧ second < vowelBase + vowelCount then
    some (syllableBase + ((first - leadBase) * vowelCount + (second - vowelBase)) * trailCount)
  else if isSyllable first ∧ (first - syllableBase) % trailCount = 0 ∧
      trailBase < second ∧ second < trailBase + trailCount then
    some (first + (second - trailBase))
  else none

/-! ## Taking apart -/

def parts (code : Nat) : List Nat :=
  if code < 0xC0 then [code]
  else if isSyllable code then syllableParts code
  else ((rowText? composites code).orElse fun _ => rowText? oneWay code).getD [code]

def decompose (cs : List Char) : List Char :=
  cs.flatMap fun c => (parts c.toNat).map Char.ofNat

/-! ## Order of marks -/

/-- Puts a character with its class before a text; a mark goes behind the marks of lower
classes. -/
def place (mark : Nat × Char) : List (Nat × Char) → List (Nat × Char)
  | [] => [mark]
  | next :: rest =>
      if 0 < next.1 ∧ next.1 < mark.1 then next :: place mark rest
      else mark :: next :: rest

theorem place_perm (mark : Nat × Char) (text : List (Nat × Char)) :
    (place mark text).Perm (mark :: text) := by
  induction text with
  | nil => exact .refl _
  | cons next rest ih =>
      unfold place
      split
      · exact (ih.cons next).trans (.swap mark next rest)
      · exact .refl _

def ordered (cs : List Char) : List (Nat × Char) :=
  cs.foldr (fun c rest => place (combiningClass c, c) rest) []

/-! ## Putting together -/

def join? (letter next : Char) : Option Char :=
  if next.toNat < 0x300 then none
  else
    match joinSyllable? letter.toNat next.toNat with
    | some code => some (Char.ofNat code)
    | none =>
        let both := parts letter.toNat ++ [next.toNat]
        (composites.findSome? fun row =>
          (row.texts.findIdx? (· == both)).map (row.first + ·)).map Char.ofNat

/-- Goes on from a letter: `kept` are the marks behind it that it does not take up, last
one first, and `last` is the class of the last of them.  A character is out of reach for
the letter if a kept mark of its own class or a higher one stands between. -/
def composeFrom (letter : Char) (kept : List Char) (last : Nat) :
    List (Nat × Char) → List Char
  | [] => letter :: kept.reverse
  | (k, c) :: rest =>
      let joined := if kept.isEmpty || last < k then join? letter c else none
      match joined with
      | some whole => composeFrom whole kept last rest
      | none =>
          if k = 0 then letter :: kept.reverse ++ composeFrom c [] 0 rest
          else composeFrom letter (c :: kept) k rest

def compose : List (Nat × Char) → List Char
  | [] => []
  | (k, c) :: rest => if k = 0 then composeFrom c [] 0 rest else c :: compose rest

end Normal

def normalize (cs : List Char) : List Char :=
  -- Below the first accented letter every text is composed already.
  if cs.all fun c => c.toNat < 0xC0 then cs
  else Normal.compose (Normal.ordered (Normal.decompose cs))

end CodeShelf.Text
