import Mathlib.Algebra.Ring.Int.Defs
import Mathlib.Data.List.Basic

/-!
# JSON values

Values as `json.load` returns them, with the built-in conversions that programs apply to them. A
floating-point number is finite, with a significand and a binary exponent, or one of the special
values that the decoder accepts.

The conversion of strings to integers and of values to strings is a parameter (`Conversions`): nothing
depends on how digits are spelled.
-/

set_option autoImplicit false

namespace StorageNode.Json

/-- A floating-point number; a finite one is `significand * 2 ^ exponent`. -/
inductive Number where
  | finite (significand exponent : Int)
  | infinite (negative : Bool)
  | nan
  deriving DecidableEq

/-- A JSON value. In an object, the last member of a name counts. -/
inductive Value where
  | null
  | bool (b : Bool)
  | int (n : Int)
  | float (x : Number)
  | str (s : String)
  | array (items : List Value)
  | object (members : List (String × Value))

/-- The built-in conversions whose texts are left open: `int` of a string, and `str` of a value that
is not a string. -/
structure Conversions where
  intOfStr : String → Option Int
  strOf : Value → String

/-- The exceptions of `int`. -/
inductive IntError where
  | typeError
  | valueError
  | overflow
  deriving DecidableEq

/-- `int` of a floating-point number truncates towards zero. -/
def Number.toInt : Number → Except IntError Int
  | .finite significand exponent =>
      .ok (if 0 ≤ exponent then significand * 2 ^ exponent.toNat
        else significand.tdiv (2 ^ (-exponent).toNat))
  | .infinite _ => .error .overflow
  | .nan => .error .valueError

namespace Value

/-- `dict.get`. -/
def get? (members : List (String × Value)) (name : String) : Option Value :=
  (members.reverse.find? fun m => m.1 = name).map Prod.snd

/-- `int(value)`. -/
def toInt (conv : Conversions) : Value → Except IntError Int
  | .bool b => .ok b.toNat
  | .int n => .ok n
  | .float x => x.toInt
  | .str s => match conv.intOfStr s with
    | some n => .ok n
    | none => .error .valueError
  | .null | .array _ | .object _ => .error .typeError

/-- The truth value of a value. -/
def truthy : Value → Bool
  | .null => false
  | .bool b => b
  | .int n => decide (n ≠ 0)
  | .float (.finite significand _) => decide (significand ≠ 0)
  | .float _ => true
  | .str s => decide (s ≠ "")
  | .array items => !items.isEmpty
  | .object members => !members.isEmpty

/-- `str(value)`. -/
def toStr (conv : Conversions) : Value → String
  | .str s => s
  | v => conv.strOf v

end Value

end StorageNode.Json
