import SandboxRpc.Report.Basic

/-!
# Text reports

One line for each message, followed by a line for each call that leads to it, and in the end a line
for each replaced handler.
-/

namespace SandboxRpc

/-- Joins lines; each but the last ends in front of the next, and one line end closes the text. -/
def unlines (lines : List String) : String :=
  String.intercalate "\n" lines ++ "\n"

namespace Report

def receiverText : Receiver → String
  | .handled sandbox function => s!"{sandbox} (handled by {function})"
  | .missing => missingMark

/-- The line of a message. -/
def entryLine (entry : ReportEntry) : String :=
  s!"{entry.senderFunction} ({entry.senderSandbox}) ---{entry.messageType}--> " ++
    receiverText entry.receiver

/-- The line of a call that leads to a message. -/
def frameLine (frame : String) : String :=
  s!"    called from {frame}"

/-- The line of a replaced handler. -/
def replacementLine (replacement : ReportReplacement) : String :=
  s!"duplicate handler for {replacement.messageType} in {replacement.sandbox}: " ++
    s!"{replacement.replaced} replaced by {replacement.successor}"

/-- The lines of a report. -/
def lines (report : Report) : List String :=
  (report.entries.flatMap fun entry => entryLine entry :: entry.callTrace.map frameLine) ++
    report.replacements.map replacementLine

def toText (report : Report) : String :=
  unlines report.lines

end Report

end SandboxRpc
