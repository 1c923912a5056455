import Paintbox.Png.Bytes

/-!
# Compressed streams

Bytes that are mostly zero, as the rows of a filtered picture are, become short under a prefix code
in which zero has the shortest word and a run of zeros is one word.  The code is the same for all
streams and is told in front of them.  It is made for filtered pictures: the words are the longer,
the farther a byte is from zero, either way round.

* `Png.wordLengths`, `Png.codeWords` — the code, which is complete (`shares_eq_whole`).
* `Bits` — bits on their way into bytes.
* `Bits.piece` — a piece of the stream, `Bits.zeros` — a run of zeros.
* `Png.coded` — pieces as a stream; `Png.stored` — bytes as a stream that is not compressed.
-/

namespace Paintbox.Png

/-! ## The code -/

/-- How many words of the code in turn have the same length, and which.  The first 256 words are
those of the bytes, the next one ends the stream, and the others stand for runs. -/
def wordRuns : List (Nat × Nat) :=
  [(1, 2), (1, 3), (1, 4), (2, 5), (2, 6), (3, 7), (5, 8), (7, 9), (9, 10), (12, 11), (171, 12),
    (10, 11), (1, 10), (1, 11), (9, 10), (5, 9), (1, 8), (1, 9), (5, 8), (3, 7), (3, 6), (1, 5),
    (1, 4), (1, 3), (3, 12), (2, 9), (1, 11), (1, 10), (2, 11), (1, 10), (6, 11), (1, 12),
    (1, 11), (11, 12), (1, 9)]

def wordLengths : List Nat := wordRuns.flatMap fun run => List.replicate run.1 run.2

def longestWord : Nat := 12

/-- The code leaves no room for another word: the shares of all words, of which a word takes half as
much as one that is a bit shorter, add up to the whole. -/
theorem shares_eq_whole :
    wordLengths.foldl (fun total length => total + 1 <<< (longestWord - length)) 0 =
      1 <<< longestWord := by
  decide +kernel

/-- The last bits of a number, the other way round. -/
def reversed : (bits n : Nat) → Nat
  | 0, _ => 0
  | bits + 1, n => (n % 2) <<< bits ||| reversed bits (n / 2)

/-- The words of the code with their lengths.  Shorter words come before longer ones, and words of
one length in turn, each the number after the one before.  A word is sent from its first bit on, so
it is kept the other way round. -/
def codeWords : Array (UInt32 × Nat) :=
  let lengths := wordLengths.toArray
  let start : Array (UInt32 × Nat) := Array.replicate lengths.size (0, 0)
  let place (length : Nat) (state : Array (UInt32 × Nat) × Nat) : Array (UInt32 × Nat) × Nat :=
    lengths.size.fold (fun i _ (state : Array (UInt32 × Nat) × Nat) =>
      if lengths.getD i 0 = length then
        (state.1.setIfInBounds i (UInt32.ofNat (reversed length state.2), length), state.2 + 1)
      else state) state
  (longestWord.fold (fun i _ state =>
    let (placed, next) := place (i + 1) state
    (placed, 2 * next)) (start, 0)).1

/-- What a stream begins with: the kind of the stream and the lengths of the words. -/
def codeHeader : ByteArray :=
  ⟨#[0x78, 0x01, 0xED, 0xC0, 0x03, 0xA0, 0x24, 0x59, 0x96, 0xC6, 0xF1, 0xFF, 0x77, 0xEE, 0x8D,
    0xC8, 0xCC, 0xA7, 0x72, 0x4B, 0x63, 0xAE, 0x6D, 0xDB, 0xB6, 0x6D, 0xDB, 0xB6, 0x6D, 0xDB,
    0xB6, 0x6D, 0x69, 0x8C, 0x9E, 0x96, 0x4A, 0xAF, 0x9E, 0x32, 0x33, 0x22, 0xEE, 0xF9, 0x76,
    0xB7, 0x6A, 0x7A, 0xA6, 0x87, 0x3B, 0x6B, 0xD5]⟩

/-! ## Bits -/

/-- Bits on their way into bytes. -/
structure Bits where
  bytes : ByteArray
  /-- The bits that do not yet fill a byte, the first of them in the lowest place. -/
  pending : UInt32
  count : Nat

namespace Bits

def start : Bits := ⟨codeHeader, 0x0F, 5⟩

/-- Move full bytes out of the pending bits, at most so many. -/
def carry : Nat → Bits → Bits
  | 0, s => s
  | n + 1, s =>
      if s.count < 8 then s
      else carry n ⟨s.bytes.push s.pending.toUInt8, s.pending >>> 8, s.count - 8⟩

def add (s : Bits) (n : UInt32) (count : Nat) : Bits :=
  carry 3 ⟨s.bytes, s.pending ||| (n <<< UInt32.ofNat s.count), s.count + count⟩

def word (s : Bits) (i : Nat) : Bits :=
  let (n, count) := codeWords.getD i (0, 0)
  s.add n count

/-- Add some bytes of a piece, each with its own word. -/
def literals (s : Bits) (piece : ByteArray) (start stop : Nat) : Bits :=
  (stop - start).fold (fun i _ s => s.word (byteAt piece (start + i)).toNat) s

/-- Add that the byte before is repeated so often, which is from 5 to 257 times.  The word says how
often to within some bits, which follow it; one more bit says that it is the byte before. -/
def again (s : Bits) (times : Nat) : Bits :=
  let n := times - 3
  let extra := Nat.log2 n - 2
  (((s.word (257 + 4 * extra + n >>> extra)).add (UInt32.ofNat (n % (1 <<< extra))) extra).add 0 1)

/-- Add a run of zeros.  The longest repetition, of 258, has a word of its own. -/
def zeros (s : Bits) (run : Nat) : Bits :=
  let s := s.word 0
  let s := ((run - 1) / 258).fold (fun _ _ s => (s.word 285).add 0 1) s
  let rest := (run - 1) % 258
  if 4 < rest then s.again rest else rest.fold (fun _ _ s => s.word 0) s

/-- How many zeros there are from a place on, of at most so many bytes. -/
def leading (piece : ByteArray) (start : Nat) : Nat → Nat
  | 0 => 0
  | n + 1 => if byteAt piece start = 0 then leading piece (start + 1) n + 1 else 0

/-- How many zeros there are before a place, of at most so many bytes. -/
def trailing (piece : ByteArray) (stop : Nat) : Nat → Nat
  | 0 => 0
  | n + 1 => if byteAt piece (stop - 1) = 0 then trailing piece (stop - 1) n + 1 else 0

/-- Add the next eight bytes, after a run of zeros that has not been added yet.  A run begins at the
end of such a group and goes on at the start of the next ones. -/
def group (piece : ByteArray) (start run : Nat) (s : Bits) : Nat × Bits :=
  let before := leading piece start 8
  if before = 8 then
    (run + 8, s)
  else
    let after := trailing piece (start + 8) 8
    if run = 0 then (after, s.literals piece start (start + 8 - after))
    else (after, (s.zeros (run + before)).literals piece (start + before) (start + 8 - after))

/-- Add a piece.  No run leads from one piece into another, nor into what is left over after the
last group. -/
def piece (s : Bits) (p : ByteArray) : Bits :=
  let groups := p.size / 8
  let (run, s) := groups.fold
    (fun i _ (state : Nat × Bits) => group p (8 * i) state.1 state.2) (0, s)
  let s := if run = 0 then s else s.zeros run
  s.literals p (8 * groups) p.size

def finish (s : Bits) : ByteArray :=
  let s := s.word 256
  if s.count = 0 then s.bytes else s.bytes.push s.pending.toUInt8

end Bits

/-! ## Streams -/

def coded (pieces : List ByteArray) : ByteArray :=
  (pieces.foldl Bits.piece .start).finish ++ word (adler (pieces.foldl (· ++ ·) .empty))

def blockSize : Nat := 65535

/-- Stored blocks of the bytes from a place on; the last of them is marked. -/
def blocks (bytes : ByteArray) : (count : Nat) → (start : Nat) → ByteArray
  | 0, _ => .empty
  | count + 1, start =>
      let size := min blockSize (bytes.size - start)
      let last : UInt8 := if count = 0 then 1 else 0
      ByteArray.mk #[last] ++ short size ++ short (65535 - size) ++
        bytes.extract start (start + size) ++ blocks bytes count (start + size)

def stored (bytes : ByteArray) : ByteArray :=
  ⟨#[0x78, 0x01]⟩ ++ blocks bytes ((bytes.size + blockSize - 1) / blockSize) 0 ++
    word (adler bytes)

end Paintbox.Png
