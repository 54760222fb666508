import Mathlib.Data.UInt

namespace NgGateway.Value

inductive DataType where
  | boolean | int8 | uint8 | int16 | uint16 | int32 | uint32 | int64 | uint64
  | float32 | float64 | string | binary | timestamp
  deriving DecidableEq

def DataType.debug : DataType → String
  | .boolean => "Boolean"
  | .int8 => "Int8"
  | .uint8 => "UInt8"
  | .int16 => "Int16"
  | .uint16 => "UInt16"
  | .int32 => "Int32"
  | .uint32 => "UInt32"
  | .int64 => "Int64"
  | .uint64 => "UInt64"
  | .float32 => "Float32"
  | .float64 => "Float64"
  | .string => "String"
  | .binary => "Binary"
  | .timestamp => "Timestamp"

inductive DataPointType where
  | attribute
  | telemetry
  deriving DecidableEq

/-- `NGValue`. Floating-point values are their bit patterns. -/
inductive NGValue where
  | boolean (v : Bool)
  | int8 (v : Int8)
  | uint8 (v : UInt8)
  | int16 (v : Int16)
  | uint16 (v : UInt16)
  | int32 (v : Int32)
  | uint32 (v : UInt32)
  | int64 (v : Int64)
  | uint64 (v : UInt64)
  | float32 (bits : UInt32)
  | float64 (bits : UInt64)
  | string (s : String)
  | binary (bytes : List UInt8)
  | timestamp (ms : Int64)
  deriving DecidableEq

def NGValue.dataType : NGValue → DataType
  | .boolean _ => .boolean
  | .int8 _ => .int8
  | .uint8 _ => .uint8
  | .int16 _ => .int16
  | .uint16 _ => .uint16
  | .int32 _ => .int32
  | .uint32 _ => .uint32
  | .int64 _ => .int64
  | .uint64 _ => .uint64
  | .float32 _ => .float32
  | .float64 _ => .float64
  | .string _ => .string
  | .binary _ => .binary
  | .timestamp _ => .timestamp

inductive NGValueCastError where
  | notNumeric (actual : DataType)
  | notFinite
  | outOfRange (target : String)
  | typeMismatch (expected actual : DataType)
  | parseError (target value : String)
  | invalidUtf8 (target : String)
  | invalidBinaryLength (target expected : String) (len : Nat)

def NGValueCastError.display : NGValueCastError → String
  | .notNumeric actual => "expected numeric value, got " ++ actual.debug
  | .notFinite => "numeric value is not finite"
  | .outOfRange target => "numeric value out of range for " ++ target
  | .typeMismatch expected actual =>
    "type mismatch: expected " ++ expected.debug ++ ", got " ++ actual.debug
  | .parseError target value => "failed to parse " ++ target ++ " from string: " ++ value
  | .invalidUtf8 target => "binary value is not valid UTF-8 for " ++ target
  | .invalidBinaryLength target expected len =>
    "binary length mismatch for " ++ target ++ ": expected " ++ expected ++
      " bytes, got " ++ toString len

structure NGValueCasts where
  toBool : NGValue → Except NGValueCastError Bool
  toI8 : NGValue → Except NGValueCastError Int8
  toU8 : NGValue → Except NGValueCastError UInt8
  toI16 : NGValue → Except NGValueCastError Int16
  toU16 : NGValue → Except NGValueCastError UInt16
  toI32 : NGValue → Except NGValueCastError Int32
  toU32 : NGValue → Except NGValueCastError UInt32
  toI64 : NGValue → Except NGValueCastError Int64
  toU64 : NGValue → Except NGValueCastError UInt64
  toF32 : NGValue → Except NGValueCastError UInt32
  toF64 : NGValue → Except NGValueCastError UInt64

inductive DriverError where
  | validationError (message : String)
  | executionError (message : String)
  | configurationError (message : String)
  | codecError (message : String)
  deriving DecidableEq

def leBytes (count v : Nat) : List UInt8 :=
  (List.range count).map fun i => UInt8.ofNat (v / 256 ^ i)

end NgGateway.Value
