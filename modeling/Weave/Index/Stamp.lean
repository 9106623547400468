import Weave.Data.Calendar

/-! # Time stamps

Index documents are stamped with the time they were made, in UTC and in ISO 8601 form:
`YYYY-MM-DDTHH:MM:SS`, then six digits of microseconds when there are any, then
`+00:00`. The date is found from the day count since 1970-01-01 by the civil calendar.
-/

namespace Weave

/-- The ISO 8601 stamp of a time given in nanoseconds since 1970-01-01 UTC. -/
def isoStamp (nanos : Int) : String :=
  let micros := nanos / 1000
  let seconds := micros / 1000000
  let fraction := (micros - seconds * 1000000).toNat
  let days := seconds / 86400
  let inDay := (seconds - days * 86400).toNat
  let (y, m, d) := civilOfDays days
  zeroPadded 4 y.toNat ++ "-" ++ zeroPadded 2 m ++ "-" ++ zeroPadded 2 d ++ "T" ++
    zeroPadded 2 (inDay / 3600) ++ ":" ++ zeroPadded 2 (inDay / 60 % 60) ++ ":" ++
    zeroPadded 2 (inDay % 60) ++
    (if fraction == 0 then "" else "." ++ zeroPadded 6 fraction) ++ "+00:00"

theorem isoStamp_epoch : isoStamp 0 = "1970-01-01T00:00:00+00:00" := by decide

end Weave
