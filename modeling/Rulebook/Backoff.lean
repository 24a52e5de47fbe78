import Rulebook.Binary64.Basic

/-!
# Pauses between attempts

When the service cannot be reached, the next attempt waits for a while, and each
pause is longer than the one before by the same factor, up to a limit. The pauses
are computed in doubles and then cut down to whole milliseconds, so a policy may
have any factor: one below one shrinks the pauses, a negative one gives no pause
every other time.
-/

namespace Rulebook

/-- How often an operation is tried again, and how long the pauses are. Times are in
milliseconds. -/
structure Backoff where
  maxRetries : Nat
  initialDelay : Nat
  maxDelay : Nat
  multiplier : Binary64
  deriving DecidableEq

namespace Backoff

/-- The policy of a program that is not told otherwise: three retries, after half a
second, one second and two. -/
def standard : Backoff := ⟨3, 500, 5000, .ofNat 2⟩

/-- The greatest pause that can be expressed. -/
def longest : Nat := 0xFFFFFFFFFFFFFFFF

/-- The exponent for the number of an attempt, which is taken as a signed number of
32 bits. -/
def exponent (attempt : Nat) : Int := (attempt : Int).bmod 0x100000000

/-- The pause before the retry with a given number, counted from zero. -/
def delay (p : Backoff) (attempt : Nat) : Nat :=
  let scaled := (Binary64.ofNat p.initialDelay).mul (p.multiplier.powInt (exponent attempt))
  (scaled.min (.ofNat p.maxDelay)).truncate longest

/-- The first pauses of the schedule, at most `limit` of them; the whole schedule has
a pause for every retry. -/
def schedule (p : Backoff) (limit : Nat) : List Nat :=
  (List.range (Nat.min limit p.maxRetries)).map p.delay

end Backoff

end Rulebook
