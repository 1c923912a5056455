import Paintbox.Handle
import Paintbox.ObjectKind
import Paintbox.Settings

/-!
# Errors

Every operation on a display fails for one of seven causes.  A cause carries what it is about; its
wording is `Error.message` and its number, for callers that see numbers only, is `Error.code`.

* `Table` — the two tables that can be full.
* `BadArgument` — the ways in which an argument can be unusable by itself.
* `Error` — the seven causes.
* `Error.code_neg` — every number is negative, so it never reads as a handle or a count.
-/

namespace Paintbox

/-- The two tables of a display. -/
inductive Table where
  | contexts
  | objects
deriving DecidableEq

namespace Table

def label : Table → String
  | contexts => "device-context"
  | objects => "object"

end Table

/-- Why an argument cannot be used. -/
inductive BadArgument where
  /-- A surface needs a positive width and height. -/
  | size (width height : Int)
  /-- The object is live, but of another kind than the operation needs. -/
  | wrongKind (handle : ObjectHandle) (found wanted : ObjectKind)
  /-- A figure needs two points at least. -/
  | tooFewPoints (given : Nat)
  /-- A setting of the display is out of range. -/
  | setting (which : OutOfRange)
  /-- There is a display already. -/
  | alreadyOpen
  /-- A capacity is below zero. -/
  | negativeCapacity
  /-- No background mode has this number. -/
  | noSuchMode (number : Int)
  /-- Any other reason, in words. -/
  | reason (text : String)
deriving DecidableEq

namespace BadArgument

def message : BadArgument → String
  | size w h => s!"pixel buffer dimensions {w}x{h} must be positive"
  | wrongKind handle found wanted =>
      s!"{handle.label} is a {found.label}, not a {wanted.noun}"
  | tooFewPoints n => s!"need at least 2 points, got {n}"
  | setting which => which.message
  | alreadyOpen => "the display is open already"
  | negativeCapacity => "a capacity is negative"
  | noSuchMode n => s!"there is no background mode {n}"
  | reason text => text

end BadArgument

/-- Why an operation failed. -/
inductive Error where
  /-- An argument that the operation needs is missing. -/
  | nullArgument
  /-- There is no display to work on. -/
  | notInitialized
  /-- The table already holds as many live entries as it may. -/
  | capacityExceeded (table : Table)
  /-- The handle denotes no live entry. -/
  | notFound (handle : UInt16)
  /-- The handle is the null handle. -/
  | badHandle
  /-- An argument is unusable by itself. -/
  | invalidArgument (why : BadArgument)
  /-- The pixels of a surface cannot be stored. -/
  | outOfMemory (bytes : Nat)
deriving DecidableEq

namespace Error

def code : Error → Int
  | nullArgument => -1
  | notInitialized => -2
  | capacityExceeded _ => -3
  | notFound _ => -4
  | badHandle => -5
  | invalidArgument _ => -6
  | outOfMemory _ => -7

def message : Error → String
  | nullArgument => "required argument was not supplied"
  | notInitialized => "GDI context is not initialized"
  | capacityExceeded table => s!"{table.label} table is full"
  | notFound handle => s!"handle {handle.toNat} does not refer to a live entry"
  | badHandle => "handle is the null sentinel"
  | invalidArgument why => s!"invalid argument: {why.message}"
  | outOfMemory bytes => s!"failed to allocate {bytes} bytes of pixel storage"

theorem code_mem (e : Error) : -7 ≤ e.code ∧ e.code ≤ -1 := by
  cases e <;> simp [code]

/-- No cause reads as a handle or a count. -/
theorem code_neg (e : Error) : e.code < 0 := by
  have := e.code_mem
  omega

end Error

end Paintbox
