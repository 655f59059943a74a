import QueryTemplate.Value.Basic
import QueryTemplate.Double.Round

/-!
# Values of native types

Every type of parameters has one way of becoming a value: all integers become 64-bit ones, all
numbers of lower precision doubles, a missing value null, and a sequence a list.
-/

namespace QueryTemplate

/-- A type whose elements are parameters. -/
class ToValue (α : Type) where
  toValue : α → Value

export ToValue (toValue)

/-- A binary32 number by its bits. -/
structure Single where
  bits : UInt32

instance : ToValue Value := ⟨id⟩
instance : ToValue Unit := ⟨fun _ => .null⟩
instance : ToValue Bool := ⟨.bool⟩
instance : ToValue Int8 := ⟨fun n => .int n.toInt64⟩
instance : ToValue Int16 := ⟨fun n => .int n.toInt64⟩
instance : ToValue Int32 := ⟨fun n => .int n.toInt64⟩
instance : ToValue Int64 := ⟨.int⟩
instance : ToValue UInt8 := ⟨fun n => .int (Int64.ofNat n.toNat)⟩
instance : ToValue UInt16 := ⟨fun n => .int (Int64.ofNat n.toNat)⟩
instance : ToValue UInt32 := ⟨fun n => .int (Int64.ofNat n.toNat)⟩
instance : ToValue Single := ⟨fun x => .float (Double.ofBinary32 x.bits.toNat)⟩
instance : ToValue Double := ⟨.float⟩
instance : ToValue String := ⟨.string⟩

instance {α : Type} [ToValue α] : ToValue (Option α) where
  toValue
    | none => .null
    | some x => toValue x

instance {α : Type} [ToValue α] : ToValue (List α) where
  toValue xs := .list (xs.map toValue)

end QueryTemplate
