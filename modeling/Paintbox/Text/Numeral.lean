/-!
# Decimal numerals

An integer is written as decimal digits after an optional sign.  The minus sign is one only where
negative numbers are in range; elsewhere it is a character like any other.  A numeral is read from
left to right, and the first thing that is wrong with it is what is reported.

* `Numeral.Range` — which integers are wanted; `Numeral.signed32` and `Numeral.unsigned64`.
* `Numeral.Fault` — what can be wrong with a numeral.
* `Numeral.magnitude` — a run of digits up to a limit.
* `Numeral.parse` — the reading.
-/

namespace Paintbox.Numeral

/-- The integers that are wanted. -/
structure Range where
  low : Int
  high : Int
  low_le : low ≤ 0 := by decide
  le_high : 0 ≤ high := by decide

def signed32 : Range where
  low := -0x80000000
  high := 0x7FFFFFFF

def unsigned64 : Range where
  low := 0
  high := 0xFFFFFFFFFFFFFFFF

/-- What can be wrong with a numeral. -/
inductive Fault where
  /-- There is nothing to read. -/
  | empty
  /-- A character is no digit, or there is a sign and nothing else. -/
  | invalidDigit
  | tooLarge
  | tooSmall
deriving DecidableEq

def Fault.message : Fault → String
  | empty => "cannot parse integer from empty string"
  | invalidDigit => "invalid digit found in string"
  | tooLarge => "number too large to fit in target type"
  | tooSmall => "number too small to fit in target type"

def digit? (c : Char) : Option Nat :=
  if '0' ≤ c ∧ c ≤ '9' then some (c.toNat - '0'.toNat) else none

/-- Read digits on, given the value of those before.  Passing the limit is the fault `beyond`. -/
def magnitude (limit : Nat) (beyond : Fault) : (value : Nat) → List Char → Except Fault Nat
  | value, [] => .ok value
  | value, c :: cs =>
      match digit? c with
      | none => .error .invalidDigit
      | some d =>
          if limit < value * 10 + d then .error beyond
          else magnitude limit beyond (value * 10 + d) cs

def unsigned (r : Range) (s : List Char) : Except Fault Int :=
  (magnitude r.high.toNat .tooLarge 0 s).map fun n => (n : Int)

def negative (r : Range) (s : List Char) : Except Fault Int :=
  if r.low < 0 then (magnitude (-r.low).toNat .tooSmall 0 s).map fun n => -(n : Int)
  else .error .invalidDigit

def parse (r : Range) : List Char → Except Fault Int
  | [] => .error .empty
  | '+' :: c :: cs => unsigned r (c :: cs)
  | '-' :: c :: cs => negative r (c :: cs)
  | s => unsigned r s

end Paintbox.Numeral
