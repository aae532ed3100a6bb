/-! Spans of time, in whole milliseconds. -/
namespace ToolHost

structure Duration where
  millis : Nat
  deriving DecidableEq, Repr

namespace Duration

def ofSeconds (n : Nat) : Duration := ⟨n * 1000⟩

/-- The digits behind the point of a count of seconds, without zeros at the end. -/
def fractionDigits (millis : Nat) : List Char :=
  let digits := [millis / 100 % 10, millis / 10 % 10, millis % 10]
  ((digits.map Nat.digitChar).reverse.dropWhile (· == '0')).reverse

/-- A span as people read it: in seconds from one second on, else in milliseconds. No time at all
is given in the smallest unit. -/
def text (d : Duration) : String :=
  if d.millis = 0 then "0ns"
  else if d.millis < 1000 then s!"{d.millis}ms"
  else
    match fractionDigits (d.millis % 1000) with
    | [] => s!"{d.millis / 1000}s"
    | digits => s!"{d.millis / 1000}.{String.ofList digits}s"

end Duration
end ToolHost
