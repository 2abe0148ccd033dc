/-!
# Surrogates

A name read from JSON may hold half of a surrogate pair on its own. There is no character for one,
so it is kept as the private character that stands 0x100000 above it, and where the code point of a
character of a name matters, that of the half is meant.

The text of a file holds no halves: these 2048 private characters are read from it and written to it
as themselves (`Utf8.decode`, `Utf8.encode`). In a name or a message they always stand for halves: a
name that held one of them itself would be ordered, quoted and looked up as one with that half.
-/

namespace TagOrder

/-- The character that stands for half of a surrogate pair. -/
def ofSurrogate (unit : Nat) : Char := Char.ofNat (0x100000 + unit)

/-- The character with a code point, that of half of a surrogate pair included. -/
def ofCodePoint (code : Nat) : Char :=
  if 0xD800 ≤ code && code < 0xE000 then ofSurrogate code else Char.ofNat code

/-- Whether a character stands for half of a surrogate pair. -/
def isSurrogate (c : Char) : Bool := 0x10D800 ≤ c.toNat && c.toNat < 0x10E000

/-- The code point of a character. -/
def codePoint (c : Char) : Nat := if isSurrogate c then c.toNat - 0x100000 else c.toNat

/-- Two characters with the same code point are the same. -/
theorem codePoint_injective {left right : Char} (same : codePoint left = codePoint right) :
    left = right := by
  have valid (c : Char) : c.toNat < 0xD800 ∨ 0xDFFF < c.toNat ∧ c.toNat < 0x110000 := c.valid
  have range (c : Char) (half : isSurrogate c = true) :
      0x10D800 ≤ c.toNat ∧ c.toNat < 0x10E000 := by
    simpa only [isSurrogate, Bool.and_eq_true, decide_eq_true_eq] using half
  refine Char.toNat_inj.mp ?_
  have first := valid left
  have second := valid right
  unfold codePoint at same
  split at same <;> split at same
  · next inLeft inRight =>
    have := range left inLeft
    have := range right inRight
    omega
  · next inLeft _ =>
    have := range left inLeft
    omega
  · next _ inRight =>
    have := range right inRight
    omega
  · exact same

end TagOrder
