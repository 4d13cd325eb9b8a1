/-!
# Notices

What a campaign tells its operator while it works.  Each part of the library
has a closed type of the things that it can report; a notice is such a report
put into words, with its severity and, where it is about one, the driver.
-/

namespace BenchCampaign

/-- How serious a notice is. -/
inductive Severity where
  | debug
  | info
  | warning
  | error
deriving DecidableEq, Repr

/-- A report in words. -/
structure Notice where
  severity : Severity
  message : String
  /-- The driver that the notice is filed under. -/
  driver : Option String := none
deriving DecidableEq, Repr

end BenchCampaign
