/-!
# Reading bytes as UTF-8

Bytes that should be UTF-8 but need not be are read with a replacement character in place of what
is broken: each longest start of a well-formed sequence that is not continued, and each byte that
starts none, becomes one replacement character.

* `Utf8.Reader` — between two characters, or inside one.
* `Utf8.begin` — what a byte does that starts a character.
* `Utf8.step` — what a byte does to a reader: the characters it completes, and the reader after it.
* `Utf8.decode` — the reading, over lists of bytes; `Utf8.toString` — the same as text.
-/

namespace Paintbox.Utf8

/-- Where the reading stands. -/
inductive Reader where
  /-- Between two characters. -/
  | idle
  /-- Inside a character: the bits gathered so far, how many bytes are missing after the next one,
  and the range that the next one must be in. -/
  | within (bits left : Nat) (low high : UInt8)

/-- The character that stands for what cannot be read. -/
def replacement : Char := '\uFFFD'

/-- What a first byte does.  The range of the second byte is narrowed where the sequence would be
longer than needed, a surrogate, or beyond the last code point. -/
def begin (b : UInt8) : List Char × Reader :=
  if b < 0x80 then ([Char.ofNat b.toNat], .idle)
  else if b < 0xC2 then ([replacement], .idle)
  else if b < 0xE0 then ([], .within (b.toNat - 0xC0) 0 0x80 0xBF)
  else if b = 0xE0 then ([], .within 0 1 0xA0 0xBF)
  else if b = 0xED then ([], .within 0xD 1 0x80 0x9F)
  else if b < 0xF0 then ([], .within (b.toNat - 0xE0) 1 0x80 0xBF)
  else if b = 0xF0 then ([], .within 0 2 0x90 0xBF)
  else if b < 0xF4 then ([], .within (b.toNat - 0xF0) 2 0x80 0xBF)
  else if b = 0xF4 then ([], .within 4 2 0x80 0x8F)
  else ([replacement], .idle)

/-- What a byte does.  One that breaks off a character is read again as the start of the next. -/
def step (r : Reader) (b : UInt8) : List Char × Reader :=
  match r with
  | .idle => begin b
  | .within bits left low high =>
      if low ≤ b ∧ b ≤ high then
        let bits := bits * 64 + (b.toNat - 0x80)
        match left with
        | 0 => ([Char.ofNat bits], .idle)
        | left + 1 => ([], .within bits left 0x80 0xBF)
      else
        (replacement :: (begin b).1, (begin b).2)

/-- The characters that the remaining bytes are read as. -/
def decodeFrom : Reader → List UInt8 → List Char
  | .idle, [] => []
  | .within .., [] => [replacement]
  | r, b :: rest => (step r b).1 ++ decodeFrom (step r b).2 rest

def decode (bytes : List UInt8) : List Char := decodeFrom .idle bytes

def toString (bytes : List UInt8) : String := String.ofList (decode bytes)

end Paintbox.Utf8
