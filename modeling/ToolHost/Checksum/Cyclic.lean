/-! Short sums of bytes that tell whether something was changed by accident. -/
namespace ToolHost.Checksum

/-- One step of a division of polynomials over two elements by the one whose lower coefficients are
the bits of `0x04c11db7`. -/
def divideBit (rest : UInt32) : UInt32 :=
  if rest &&& 0x80000000 = 0 then rest <<< 1 else (rest <<< 1) ^^^ 0x04c11db7

/-- The remainder with one more byte. -/
def divideByte (rest : UInt32) (b : UInt8) : UInt32 :=
  (List.range 8).foldl (fun rest _ => divideBit rest) (rest ^^^ (b.toUInt32 <<< 24))

/-- The bytes of a number, the lowest one first, without zeros at the end. -/
def lengthBytes : Nat → Nat → List UInt8
  | 0, _ => []
  | fuel + 1, n => if n = 0 then [] else UInt8.ofNat n :: lengthBytes fuel (n / 256)

/-- The remainder of bytes and of their number, turned round. -/
def cyclic (bytes : List UInt8) : UInt32 :=
  ~~~((lengthBytes 16 bytes.length).foldl divideByte (bytes.foldl divideByte 0))

/-- The sum of bytes in sixteen bits, which are turned to the right by one for each byte. -/
def turning (bytes : List UInt8) : Nat :=
  bytes.foldl (fun sum b => ((sum / 2 + sum % 2 * 32768) + b.toNat) % 65536) 0

/-- The sum of bytes, with what exceeds sixteen bits added to it. -/
def plain (bytes : List UInt8) : Nat :=
  let sum := bytes.foldl (fun sum b => (sum + b.toNat) % 4294967296) 0
  let folded := sum % 65536 + sum / 65536
  folded % 65536 + folded / 65536

end ToolHost.Checksum
