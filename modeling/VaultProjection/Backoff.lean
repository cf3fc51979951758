/-!
Spans of time, and the delay before a failed key is tried again: it starts at a base, doubles with
every failure and never exceeds a maximum.
-/

namespace VaultProjection

/-- A span of time in nanoseconds. -/
structure Duration where
  nanos : Nat
  deriving DecidableEq, Repr

namespace Duration

/-- Spans hold fewer than 2^64 seconds. -/
def limit : Nat := Nat.pow 2 64 * Nat.pow 10 9

def zero : Duration := ⟨0⟩
def ofSeconds (n : Nat) : Duration := ⟨n * Nat.pow 10 9⟩
def ofMillis (n : Nat) : Duration := ⟨n * Nat.pow 10 6⟩

def seconds (d : Duration) : Nat := d.nanos / Nat.pow 10 9
def subsecondNanos (d : Duration) : Nat := d.nanos % Nat.pow 10 9

/-- Whole milliseconds, no more than 64 bits hold. -/
def millis (d : Duration) : Nat := min (d.nanos / Nat.pow 10 6) (Nat.pow 2 64 - 1)

def min (a b : Duration) : Duration := ⟨Nat.min a.nanos b.nanos⟩

/-- `k` times the span, if it stays within the limit. -/
def times? (d : Duration) (k : Nat) : Option Duration :=
  if d.nanos * k < limit then some ⟨d.nanos * k⟩ else none

end Duration

/-- The delay after the first failure and the bound of every delay. -/
structure Backoff where
  base : Duration
  max : Duration
  deriving DecidableEq, Repr

namespace Backoff

/-- Five milliseconds, up to a thousand seconds. -/
def default : Backoff := ⟨.ofMillis 5, .ofSeconds 1000⟩

/-- A power of two, as far as 32 bits hold it. -/
def factor (failures : Nat) : Nat := if failures < 32 then Nat.pow 2 failures else Nat.pow 2 32 - 1

/-- The delay after `failures` earlier failures. -/
def delay (b : Backoff) (failures : Nat) : Duration :=
  match b.base.times? (factor failures) with
  | none => b.max
  | some d => d.min b.max

end Backoff

end VaultProjection
