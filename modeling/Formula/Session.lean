import Formula.Report
import Formula.Number.Integer
import Formula.Text.Whitespace

/-!
# Sessions

A session answers one line after the other.  A line is an expression, valued at the current point in
the current mode, or a command that changes one of these two.

## Main definitions

* `Session` — the current mode and point
* `Command`, `Command.read` — the commands and how they are written
* `SessionError` — why a line has no answer
* `Session.respond` — the answer to a line, and the session after it
-/

namespace Formula

/-- What a session remembers from one line to the next. -/
structure Session where
  mode : Mode
  point : Point
  deriving DecidableEq

/-- The session before its first line. -/
def Session.initial : Session := ⟨.checkedInt, .origin⟩

/-- A change to the session. -/
inductive Command where
  | setMode (mode : Mode)
  | setPoint (point : Point)
  deriving DecidableEq

/-- Why a line has no answer. -/
inductive SessionError where
  | parse (error : ParseError)
  | unknownMode (error : UnknownMode)
  | coordinate (word : String) (error : NumberError)
  | unknownCommand (text : String)
  deriving DecidableEq

/-- What is reported about a line without an answer. -/
def SessionError.message : SessionError → String
  | parse error => "Parse error: " ++ error.message
  | unknownMode error => error.message
  | coordinate word error => word ++ ": " ++ error.message
  | unknownCommand text => "Unknown command: " ++ text

namespace Command

/-- The integer that a word stands for. -/
def readCoordinate (word : String) : Except SessionError Int32 :=
  (readInt32 word.toList).mapError (.coordinate word)

/-- The command that a text denotes: `mode` and a name, or `at` and three integers.  Of several
words that are no integers the first is reported. -/
def read (text : String) : Except SessionError Command :=
  match words text with
  | ["mode", name] => do
    let mode ← (Mode.lookup name).mapError .unknownMode
    return .setMode mode
  | ["at", x, y, z] => do
    let x ← readCoordinate x
    let y ← readCoordinate y
    let z ← readCoordinate z
    return .setPoint ⟨x, y, z⟩
  | _ => .error (.unknownCommand text)

/-- The answer to a command. -/
def answer : Command → String
  | setMode mode => "mode = " ++ mode.shortName
  | setPoint p =>
      "at x = " ++ toString p.x ++ ", y = " ++ toString p.y ++ ", z = " ++ toString p.z

end Command

namespace Session

/-- The session after a command. -/
def apply (s : Session) : Command → Session
  | .setMode mode => { s with mode }
  | .setPoint point => { s with point }

/-- The answer to an expression: its two written forms and its value at the current point. -/
def value (s : Session) (text : String) : Except SessionError String :=
  match reportMode s.mode text (.single s.point) with
  | .ok r => .ok (r.full ++ "\n" ++ r.minimal ++ "\n= " ++ (r.table.get? s.point).getD "null")
  | .error error => .error (.parse error)

/-- The answer to a line, and the session after it.  A colon at the very start marks a command.  An
error leaves the session as it was. -/
def respond (s : Session) (line : String) : Except SessionError String × Session :=
  match line.toList with
  | ':' :: text =>
    match Command.read (String.ofList text) with
    | .ok command => (.ok command.answer, s.apply command)
    | .error error => (.error error, s)
  | _ => (s.value line, s)

/-- What is shown in answer to a line, an error in the same way as a success, and the session after
it. -/
def answer (s : Session) (line : String) : String × Session :=
  match s.respond line with
  | (.ok answer, after) => (answer, after)
  | (.error error, after) => (error.message, after)

end Session

end Formula
