import CandidateSearch.Text.Quoted

/-!
# Lengths of time in messages

A length of time is shown in days and seconds.  The days may be negative, the seconds never are.
-/

namespace CandidateSearch

/-- A length of time, without the parts that are zero. -/
def durationText (seconds : Int) : Text :=
  let days := seconds / 86400
  let rest := seconds % 86400
  let parts :=
    (if days = 0 then [] else ["days=".toList ++ intDigits days])
      ++ if rest = 0 then [] else ["seconds=".toList ++ intDigits rest]
  "datetime.timedelta(".toList ++ (if parts.isEmpty then ['0'] else commaSeparated parts) ++ [')']

/-- A distance from universal time. -/
def offsetText (seconds : Int) : Text :=
  if seconds = 0 then "datetime.timezone.utc".toList
  else "datetime.timezone(".toList ++ durationText seconds ++ [')']

end CandidateSearch
