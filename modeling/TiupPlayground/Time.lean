import Mathlib.Tactic

/-!
Go's `time.Time` and `time.Duration` as the progress engine and the runtime files use them.
A `Time` is an instant in nanoseconds since January 1, year 1 UTC, so that its zero value
is Go's zero time, together with the offset of its location in seconds east of UTC.
Comparisons and differences read the instant only; the offset matters when a time is
formatted. Monotonic clock readings are not modelled.
-/
namespace TiupPlayground

def minInt64 : Int := -2 ^ 63
def maxInt64 : Int := 2 ^ 63 - 1

/-- Saturation, as `Time.Sub` does when the difference leaves the int64 range. -/
def clampInt64 (x : Int) : Int := max minInt64 (min maxInt64 x)

/-- Two's-complement wrap-around of an int64 operation. -/
def wrapInt64 (x : Int) : Int := (x + 2 ^ 63) % 2 ^ 64 - 2 ^ 63

/-- `time.Duration`: signed nanoseconds. -/
abbrev Duration := Int

def Second : Duration := 1000000000
def Millisecond : Duration := 1000000

/-- `Duration.Seconds`: whole seconds plus the nanosecond remainder, as float64. -/
def Duration.seconds (d : Duration) : Float :=
  Float.ofInt (d.tdiv Second) + Float.ofInt (d.tmod Second) / 1e9

structure Time where
  ns : Int
  offset : Int
  deriving DecidableEq, Repr

namespace Time

def zero : Time := ⟨0, 0⟩

def isZero (t : Time) : Bool := t.ns == 0

def after (t u : Time) : Bool := decide (u.ns < t.ns)

def sub (t u : Time) : Duration := clampInt64 (t.ns - u.ns)

/-- `t.Add(d)`; the int64 seconds of Go's representation do not overflow for the durations
    the code adds. -/
def add (t : Time) (d : Duration) : Time := ⟨t.ns + d, t.offset⟩

/-- `t.UTC()`: the same instant, in UTC. -/
def utc (t : Time) : Time := ⟨t.ns, 0⟩

@[simp] theorem isZero_iff (t : Time) : t.isZero = true ↔ t.ns = 0 := by
  simp [isZero]

@[simp] theorem after_iff (t u : Time) : t.after u = true ↔ u.ns < t.ns := by
  simp [after]

@[simp] theorem zero_isZero : zero.isZero = true := rfl

end Time

end TiupPlayground
