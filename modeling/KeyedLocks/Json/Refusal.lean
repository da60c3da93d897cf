/-
Why a text is refused.

A text is refused either for a fault, when it is no JSON where it matters, or for
a misfit, when a part of it does not fit the record that is asked for. A misfit
knows where it stands, as a path of field names and positions from the outermost
record inwards, and has a wording of its own.
-/
import KeyedLocks.Text.Quoted
import KeyedLocks.Text.Digits
import KeyedLocks.Json.Reading

set_option autoImplicit false

namespace KeyedLocks.Json

/-! ## What was found and what was asked for -/

/-- What a value looks like from outside. -/
inductive Shape where
  | null
  | bool (b : Bool)
  | integer (i : Int)
  | floating
  | string (s : String)
  | sequence
  | map
  deriving DecidableEq, Repr

/-- The wording of a shape. -/
def Shape.describe : Shape → String
  | .null => "null"
  | .bool true => "boolean `true`"
  | .bool false => "boolean `false`"
  | .integer i => "integer `" ++ (Numeral.ofInt i).text ++ "`"
  | .floating => "floating point"
  | .string s => "string " ++ Text.quoted s
  | .sequence => "sequence"
  | .map => "map"

/-- A range of integers that a field can hold, with the name that messages use. -/
structure IntegerType where
  name : String
  bounds : Text.Bounds

namespace IntegerType

def int32 : IntegerType := ⟨"i32", .signed 32⟩
def int64 : IntegerType := ⟨"i64", .signed 64⟩
def word32 : IntegerType := ⟨"u32", .word 32⟩
def word64 : IntegerType := ⟨"u64", .word 64⟩
def count : IntegerType := ⟨"usize", .word 64⟩

end IntegerType

/-! ## Misfits -/

/-- How a part of a text fails to fit. -/
inductive Misfit where
  | missing (field : String)
  | duplicate (field : String)
  | unknownVariant (given : String) (known : List String)
  | wrongType (found : Shape) (wanted : String)
  | outOfRange (i : Int) (wanted : String)
  | wrongLength (length : Nat) (record : String) (fields : Nat)
  deriving DecidableEq, Repr

/-- The known names of a choice, each between backquotes. -/
def quoteNames (names : List String) : String :=
  ", ".intercalate (names.map fun n => "`" ++ n ++ "`")

/-- The wording of a misfit. -/
def Misfit.message : Misfit → String
  | .missing field => "missing field `" ++ field ++ "`"
  | .duplicate field => "duplicate field `" ++ field ++ "`"
  | .unknownVariant given known =>
    "unknown variant `" ++ given ++ "`, expected one of " ++ quoteNames known
  | .wrongType found wanted => "invalid type: " ++ found.describe ++ ", expected " ++ wanted
  | .outOfRange i wanted =>
    "invalid value: integer `" ++ (Numeral.ofInt i).text ++ "`, expected " ++ wanted
  | .wrongLength length record fields =>
    "invalid length " ++ (Numeral.ofNat length).text ++ ", expected struct " ++ record ++ " with "
      ++ (Numeral.ofNat fields).text ++ (if fields = 1 then " element" else " elements")

/-! ## Where a misfit stands -/

/-- One step from a record to a part of it. -/
inductive Segment where
  | field (name : String)
  | index (n : Nat)
  deriving DecidableEq, Repr

/-- A path in writing: names with a point between them, positions in brackets. -/
def pathText : List Segment → String
  | [] => ""
  | [.field name] => name
  | .field name :: .field next :: rest => name ++ "." ++ pathText (.field next :: rest)
  | .field name :: rest => name ++ pathText rest
  | .index n :: .field next :: rest =>
    "[" ++ (Numeral.ofNat n).text ++ "]." ++ pathText (.field next :: rest)
  | .index n :: rest => "[" ++ (Numeral.ofNat n).text ++ "]" ++ pathText rest

/-- Why a text is refused. -/
inductive Refusal where
  | fault (f : Fault)
  | misfit (path : List Segment) (m : Misfit)
  deriving DecidableEq, Repr

namespace Refusal

/-- A misfit of the whole. -/
def here (m : Misfit) : Refusal := .misfit [] m

/-- A refusal of a part, seen from the whole. -/
def under (s : Segment) : Refusal → Refusal
  | .fault f => .fault f
  | .misfit path m => .misfit (s :: path) m

/-- The refusal of a part keeps its kind: going outwards only lengthens the path. -/
@[simp] theorem under_fault (s : Segment) (f : Fault) : (fault f).under s = .fault f := rfl

@[simp] theorem under_misfit (s : Segment) (path : List Segment) (m : Misfit) :
    (misfit path m).under s = .misfit (s :: path) m := rfl

end Refusal

end KeyedLocks.Json
