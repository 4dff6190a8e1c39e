import LinkPlanner.Regex.Parser
import LinkPlanner.Request.Text

/-! What the program does with a request file: it prints the plan, or tells on the error output why there is
none and ends with a status for the kind of failure. File filters are regular expressions to it. -/

namespace LinkPlanner.CommandLine

/-- Why there is no plan. -/
inductive Trouble where
  | unreadable (path reason : String)
  /-- The file does not describe a request. -/
  | unparsable (path : String)
  | unplannable (failure : Failure)

namespace Trouble

/-- The texts of a report, from the outermost inwards. -/
def texts : Trouble → List String
  | unreadable path reason => ["Failed to read " ++ ticked path, reason]
  | unparsable path => ["Failed to parse " ++ ticked path, "The text is not a link request in TOML"]
  | unplannable failure => failure.texts

def status : Trouble → UInt32
  | unplannable failure =>
    match failure.kind? with
    | some .usage => 2
    | some .configuration => 3
    | some .programming => 101
    | none => 1
  | _ => 1

/-- What is written on the error output. -/
def report (t : Trouble) : String := "thinlink: error: " ++ Report.block t.texts ++ "\n"

end Trouble

/-- The plan for a file, or what went wrong, with the phases that have ended in either case. The content of the
file is its text or the reason why it cannot be read. -/
def run (path : String) (content : Except String String) : Except Trouble LinkPlan × List (Nat × Phase) :=
  match content with
  | .error reason => (.error (.unreadable path reason), [])
  | .ok text =>
    match LinkRequest.ofText? Regex.matcher? text with
    | none => (.error (.unparsable path), [])
    | some request =>
      let (result, session) := request.plan.run {}
      (result.mapError .unplannable, session.closed)

end LinkPlanner.CommandLine
