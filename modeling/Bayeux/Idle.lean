/-! How long a carrier may stay silent, in milliseconds. -/

namespace Bayeux.Idle

def platformTimeout : Int := 300000

/-- Negative settings stand for "not set"; the carrier's own comes before its transport's. -/
def timeout (requested interval : Int) : Int :=
  if 0 ≤ requested then requested else if 0 ≤ interval then interval else platformTimeout

theorem timeoutNonnegative (requested interval : Int) : 0 ≤ timeout requested interval := by
  unfold timeout platformTimeout
  split
  · assumption
  · split
    · assumption
    · decide

end Bayeux.Idle
