import BenchCampaign.Log.Segment
import BenchCampaign.Notice
import BenchCampaign.Record.Reader
import BenchCampaign.Text.Quoted

/-!
# Reading a log

A run reports its time by a marker in its output: the word after the marker, on
the same line, is the time in milliseconds.  A segment without the marker
reports no time; one with it makes a record, unless its tag or its time cannot
be read.

* `Log.Segment.timeToken?`: the word after the first marker of a body.
* `Log.Segment.record?`: what a segment reports.
* `Log.read`: what the segments of a text report; `Log.readAll`: all or the first fault.
-/

namespace BenchCampaign

namespace Log

/-- What precedes a time. -/
def timeMarker : List Char := "Benchmark time: ".toList

/-- Why a segment makes no record; a segment is named by its trimmed tag. -/
inductive Fault where
  | malformedTag (raw : List Char)
  | malformedTime (raw token : List Char)
deriving DecidableEq, Repr

/-- A fault in words. -/
def Fault.message : Fault → String
  | .malformedTag raw => String.ofList ("Malformed execution tag: ".toList ++ raw)
  | .malformedTime raw token =>
    String.ofList ("Benchmark time ".toList ++ Text.quote token ++
      " is not an integer for tag: ".toList ++ raw)

/-- A natural number of 64 bits: digits, with or without a plus sign. -/
def time? (token : List Char) : Option UInt64 :=
  let digits := match token with
    | '+' :: rest => rest
    | _ => token
  (Decimal.natural? digits).bind fun n => if n < UInt64.size then some (UInt64.ofNat n) else none

namespace Segment

/-- The tag as faults name it. -/
def rawTag (s : Segment) : List Char := Text.trim s.tag

/-- The first line of a text, without its end. -/
def firstLine (text : List Char) : List Char :=
  ((Text.lineContents text).head?).getD []

/-- The word after the first marker, on the marker's line; no marker, no word. -/
def timeToken? (s : Segment) : Option (List Char) :=
  (Text.after? timeMarker s.body).map fun rest => Text.firstWord (firstLine rest)

/-- The run that the segment belongs to. -/
def readTag (s : Segment) : Except Fault Tag :=
  match Tag.read? s.rawTag with
  | some tag => .ok tag
  | none => .error (.malformedTag s.rawTag)

/-- The record of a segment with a given time. -/
def recordAt (s : Segment) (token : List Char) : Except Fault Record := do
  let tag ← s.readTag
  match time? token with
  | some time => .ok ⟨tag, time⟩
  | none => .error (.malformedTime s.rawTag token)

/-- What a segment reports: nothing without a time. -/
def record? (s : Segment) : Option (Except Fault Record) :=
  s.timeToken?.map s.recordAt

end Segment

/-! ## Whole logs -/

/-- What the segments of a text report, in order. -/
def read (text : List Char) : List (Except Fault Record) :=
  (segments text).filterMap Segment.record?

/-- The results before the first fault, or that fault. -/
def allOrFirstFault : List (Except Fault Record) → Except Fault (List Record)
  | [] => .ok []
  | .error f :: _ => .error f
  | .ok r :: rest => (allOrFirstFault rest).map (r :: ·)

/-- All records of a text, or its first fault. -/
def readAll (text : List Char) : Except Fault (List Record) :=
  allOrFirstFault (read text)

/-! ## Notices -/

/-- What is told while a log is read. -/
inductive Report where
  | skipped (bytes : Nat)
  | noTime (raw : List Char)
  | missing (tag : Tag)
deriving DecidableEq, Repr

/-- A report in words. -/
def Report.notice : Report → Notice
  | .skipped n =>
    ⟨.debug, "Skipping " ++ toString n ++ " bytes before the first tag", none⟩
  | .noTime raw =>
    ⟨.debug, String.ofList ("No benchmark time for ".toList ++ raw), none⟩
  | .missing tag =>
    ⟨.warning, "Run " ++ tag.workload.name ++ " concurrency=" ++ toString tag.concurrency.toNat ++
      " tasks=" ++ toString tag.tasks.toNat ++ " sample=" ++ toString tag.sample.toNat ++
      " has no benchmark time", some tag.driver⟩

/-- The number of bytes that a text takes. -/
def byteCount (text : List Char) : Nat := (text.map Char.utf8Size).foldr (· + ·) 0

/-- The preamble is reported if there is one and a tag after it. -/
def skipReports (text : List Char) : List Report :=
  if (preamble text).isEmpty || (segments text).isEmpty then []
  else [.skipped (byteCount (preamble text))]

/-- What reading a log reports. -/
def readReports (text : List Char) : List Report :=
  skipReports text ++ (segments text).filterMap fun s =>
    if s.record?.isNone then some (.noTime s.rawTag) else none

end Log

end BenchCampaign
