import ImageChain.Text.Number

/-!
# Durations

Lengths of time, counted in nanoseconds.
-/

namespace ImageChain

/-- A length of time. -/
structure Duration where
  /-- The number of nanoseconds. -/
  nanoseconds : Nat
  deriving DecidableEq, Repr

namespace Duration

/-- A number of seconds. -/
def ofSeconds (seconds : Nat) : Duration := ⟨seconds * 1000000000⟩

/-- A number of milliseconds. -/
def ofMilliseconds (milliseconds : Nat) : Duration := ⟨milliseconds * 1000000⟩

/-- No time at all. -/
def zero : Duration := ⟨0⟩

/-- One length of time after another. -/
def add (first second : Duration) : Duration := ⟨first.nanoseconds + second.nanoseconds⟩

instance : Add Duration := ⟨add⟩

/-- Whether one length of time is at most another one. -/
def atMost (first second : Duration) : Bool := first.nanoseconds ≤ second.nanoseconds

/-- The shorter one of two lengths of time. -/
def shorter (first second : Duration) : Duration :=
  if first.atMost second then first else second

/-- The whole seconds. -/
def seconds (duration : Duration) : Nat := duration.nanoseconds / 1000000000

/-- The nanoseconds beyond the whole seconds. -/
def subsecond (duration : Duration) : Nat := duration.nanoseconds % 1000000000

/-- The whole milliseconds. -/
def milliseconds (duration : Duration) : Nat := duration.nanoseconds / 1000000

/-- A count of units with a fraction of `digits` decimal places, trailing zeros dropped. -/
private def renderIn (unit : String) (digits whole fraction : Nat) : String :=
  let places := ((padDigits digits fraction).reverse.dropWhile (· == '0')).reverse
  let tail := if places.isEmpty then "" else "." ++ String.ofList places
  toString whole ++ tail ++ unit

/-- A length of time in the largest unit of which it holds at least one. -/
def render (duration : Duration) : String :=
  let n := duration.nanoseconds
  if n ≥ 1000000000 then renderIn "s" 9 (n / 1000000000) (n % 1000000000)
  else if n ≥ 1000000 then renderIn "ms" 6 (n / 1000000) (n % 1000000)
  else if n ≥ 1000 then renderIn "µs" 3 (n / 1000) (n % 1000)
  else renderIn "ns" 0 n 0

end Duration

end ImageChain
