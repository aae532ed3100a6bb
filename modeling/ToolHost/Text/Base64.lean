/-! Bytes written with 64 characters, four for each three bytes. -/
namespace ToolHost.Base64

/-- The characters, each for its place. -/
def alphabet : List Char := "ABCDEFGHIJKLMNOPQRSTUVWXYZabcdefghijklmnopqrstuvwxyz0123456789+/".toList

/-- The character for six bits. -/
def digit (n : Nat) : Char := alphabet.getD (n % 64) 'A'

/-- The six bits that a character stands for. -/
def value? (c : Char) : Option Nat := alphabet.idxOf? c

/-- Bytes as characters, filled up with equals signs. -/
def encode : List UInt8 → List Char
  | x :: y :: z :: rest =>
    let n := x.toNat * 65536 + y.toNat * 256 + z.toNat
    digit (n / 262144) :: digit (n / 4096) :: digit (n / 64) :: digit n :: encode rest
  | [x, y] =>
    let n := x.toNat * 1024 + y.toNat * 4
    [digit (n / 4096), digit (n / 64), digit n, '=']
  | [x] =>
    let n := x.toNat * 16
    [digit (n / 64), digit n, '=', '=']
  | [] => []

/-- The bytes that characters stand for, up to the first group that stands for none, and whether all
of them stand for some. -/
def decode : List Char → List UInt8 × Bool
  | [] => ([], true)
  | w :: x :: y :: z :: rest =>
    match value? w, value? x, value? y, value? z with
    | some w, some x, some y, some z =>
      let n := w * 262144 + x * 4096 + y * 64 + z
      let (bytes, good) := decode rest
      (UInt8.ofNat (n / 65536) :: UInt8.ofNat (n / 256) :: UInt8.ofNat n :: bytes, good)
    | some w, some x, some y, none =>
      let n := w * 4096 + x * 64 + y
      if z = '=' then
        let (bytes, good) := decode rest
        (UInt8.ofNat (n / 1024) :: UInt8.ofNat (n / 4) :: bytes, good)
      else ([UInt8.ofNat (n / 1024), UInt8.ofNat (n / 4)], false)
    | some w, some x, none, _ =>
      let n := w * 64 + x
      if y = '=' && z = '=' then
        let (bytes, good) := decode rest
        (UInt8.ofNat (n / 16) :: bytes, good)
      else ([UInt8.ofNat (n / 16)], false)
    | _, _, _, _ => ([], false)
  | [w, x, y] =>
    match value? w, value? x, value? y with
    | some w, some x, some y =>
      let n := w * 4096 + x * 64 + y
      ([UInt8.ofNat (n / 1024), UInt8.ofNat (n / 4)], false)
    | some w, some x, none => ([UInt8.ofNat ((w * 64 + x) / 16)], false)
    | _, _, _ => ([], false)
  | [w, x] =>
    match value? w, value? x with
    | some w, some x => ([UInt8.ofNat ((w * 64 + x) / 16)], false)
    | _, _ => ([], false)
  | [_] => ([], false)

end ToolHost.Base64
