import SandboxRpc.Log.Directive
import SandboxRpc.Log.Record
import SandboxRpc.Pieces

/-!
# Log filters

A log filter is a list of directives between commas. `LogFilter.parse` reads them from left to right
and stops at the first that is wrong. Of the directives that are about a record the narrowest decides
whether it is logged (`LogFilter.admits`); a record that no directive is about is not.
-/

namespace SandboxRpc

/-- The directives of a log filter. -/
structure LogFilter where
  directives : List LogDirective
deriving DecidableEq, Repr

namespace LogFilter

/-- The filter that a text writes. Empty directives do not count. -/
def parse (text : String) : Except LogFilterError LogFilter := do
  let parts := (pieces ',' text.toList).filter (!·.isEmpty)
  let directives ← parts.mapM LogDirective.parse
  return { directives }

/-! ## Preference -/

/-- Whether a directive is about a record. Nothing runs within spans, so one for spans is not. -/
def concerns (record : LogRecord) (directive : LogDirective) : Bool :=
  !directive.inSpan && (directive.target.getD "").toList.isPrefixOf record.part.toList &&
    directive.field.all (· ∈ record.names)

/-- The number of bytes of a directive's target. No target is less than any. -/
def targetSize (directive : LogDirective) : Nat :=
  (directive.target.map (·.utf8ByteSize + 1)).getD 0

/-- Whether one directive is narrower than another: by its target, and if the targets are equally
long, by its field, where any is narrower than none. -/
def isNarrower (a b : LogDirective) : Bool :=
  if targetSize a = targetSize b then b.field.getD "" < a.field.getD ""
  else targetSize b < targetSize a

/-- The narrower of two directives, or the later if they are equally narrow. -/
def prefer (best : Option LogDirective) (directive : LogDirective) : Option LogDirective :=
  match best with
  | some kept => if isNarrower kept directive then kept else directive
  | none => directive

/-- The level up to which records like this one are logged. -/
def levelFor (filter : LogFilter) (record : LogRecord) : LogLevel :=
  let best := (filter.directives.filter (concerns record)).foldl prefer none
  (best.map LogDirective.level).getD .off

/-- Whether a record is logged. -/
def admits (filter : LogFilter) (record : LogRecord) : Bool :=
  record.level.rank ≤ (filter.levelFor record).rank

end LogFilter

end SandboxRpc
