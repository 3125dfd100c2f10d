import Formula.Report
import Formula.Session

/-!
# Command lines

Two commands work on written expressions.  The calculator answers the expression of its arguments,
or the lines of its input one by one.  The tabulator prints the values of the expression of its
arguments over a cube.

## Main definitions

* `Output` — what a command leaves behind
* `calculator` — the calculator
* `TabulatorOptions.read` — the options of the tabulator and the expression after them
* `tabulator` — the tabulator
-/

namespace Formula

/-- What a command leaves behind: its exit code and what it wrote. -/
structure Output where
  code : Nat
  stdout : String
  stderr : String
  deriving DecidableEq

/-! ### The calculator -/

/-- What the calculator prints before it reads a line. -/
def prompt : String := ">> "

/-- The lines of a text without their ends.  A line ends with a line feed, in front of which a
carriage return may stand; after the last line feed only a nonempty text is a line. -/
def linesOf (text : String) : List String :=
  let parts := text.toList.splitOnP (· == '\n')
  let ended := parts.dropLast.map fun line =>
    if line.getLast? = some '\r' then line.dropLast else line
  let unended := parts.getLast?.toList.filter (· ≠ [])
  (ended ++ unended).map String.ofList

/-- What the calculator prints for a line, and the session after it.  A blank line is passed over. -/
def Session.printed (s : Session) (line : String) : String × Session :=
  if isBlankLine line then ("", s)
  else
    let (answer, after) := s.answer line
    (answer ++ "\n", after)

/-- What the calculator prints for some lines, each after a prompt. -/
def Session.transcript (s : Session) : List String → String
  | [] => prompt
  | line :: others =>
    let (printed, after) := s.printed line
    prompt ++ printed ++ after.transcript others

/-- The calculator.  Arguments are joined to a single line; without any, the input is read. -/
def calculator (arguments : List String) (stdin : String) : Output where
  code := 0
  stdout :=
    match arguments with
    | [] => Session.initial.transcript (linesOf stdin)
    | _ => (Session.initial.answer (" ".intercalate arguments)).1 ++ "\n"
  stderr := ""

/-! ### The tabulator -/

/-- The options that the tabulator was given. -/
structure TabulatorOptions where
  mode : Option String := none
  first : Option Int32 := none
  last : Option Int32 := none
  showForms : Bool := false
  deriving DecidableEq

/-- The options that take a value. -/
inductive ValueOption where
  | mode
  | first
  | last
  deriving DecidableEq

/-- What an argument in front of the expression is. -/
inductive TabulatorArgument where
  /-- An option whose value is attached, or else follows as the next argument. -/
  | option (name : ValueOption) (attached : Option String)
  /-- The wish for both written forms. -/
  | showForms
  /-- That wish with a value attached, which it does not take. -/
  | showFormsWithValue
  /-- The mark that ends the options. -/
  | separator
  /-- Anything else. -/
  | word (text : String)
  deriving DecidableEq

namespace TabulatorArgument

/-- The long option of a name, with the value attached to it. -/
def long? (name : String) (attached : Option String) : Option TabulatorArgument :=
  match name, attached with
  | "mode", _ => some (.option .mode attached)
  | "min", _ => some (.option .first attached)
  | "max", _ => some (.option .last attached)
  | "show", none => some .showForms
  | "show", some _ => some .showFormsWithValue
  | _, _ => none

/-- The letters of short options: mode, help and version. -/
def isShortOption (c : Char) : Bool := c == 'm' || c == 'h' || c == 'V'

/-- What an argument is.  After a single hyphen and the letter of the mode a value may be attached,
but only if it looks like further short options; otherwise the argument is a word. -/
def ofString (argument : String) : TabulatorArgument :=
  match argument.toList with
  | ['-', '-'] => .separator
  | '-' :: '-' :: rest =>
    let name := rest.takeWhile (· ≠ '=')
    let attached := (rest.drop name.length).tail?.map String.ofList
    (long? (String.ofList name) attached).getD (.word argument)
  | ['-', 'm'] => .option .mode none
  | '-' :: 'm' :: rest =>
    if rest.all isShortOption then .option .mode (some (String.ofList rest)) else .word argument
  | _ => .word argument

end TabulatorArgument

namespace TabulatorOptions

/-- Adds an option with its value.  An option that was given already, and a bound that is no 32-bit
integer, are refused. -/
def add? (options : TabulatorOptions) (name : ValueOption) (value : String) :
    Option TabulatorOptions :=
  match name with
  | .mode =>
    if options.mode.isSome then none else some { options with mode := value }
  | .first => do
    if options.first.isSome then none
    let bound ← (readInt32 value.toList).toOption
    some { options with first := bound }
  | .last => do
    if options.last.isSome then none
    let bound ← (readInt32 value.toList).toOption
    some { options with last := bound }

/-- Reads options up to the expression, which starts at the first word or after a separator.  The
value of an option is a word even if it starts with a hyphen, but no option of its own. -/
def read? (options : TabulatorOptions) : List String → Option (TabulatorOptions × List String)
  | [] => some (options, [])
  | argument :: rest =>
    match TabulatorArgument.ofString argument with
    | .word _ => some (options, argument :: rest)
    | .separator => some (options, rest)
    | .showFormsWithValue => none
    | .showForms =>
      if options.showForms then none else read? { options with showForms := true } rest
    | .option name (some value) =>
      match options.add? name value with
      | some added => read? added rest
      | none => none
    | .option name none =>
      match rest with
      | [] => none
      | value :: others =>
        match TabulatorArgument.ofString value with
        | .word _ =>
          match options.add? name value with
          | some added => read? added others
          | none => none
        | _ => none

/-- The cube that the options describe; its bounds are those of the standard box where none is
given. -/
def bounds (options : TabulatorOptions) : Bounds :=
  .cube (options.first.getD Bounds.standard.x.first) (options.last.getD Bounds.standard.x.last)

end TabulatorOptions

/-- How the tabulator is used. -/
def tabulatorUsage : String :=
  "usage: tabulate [-m|--mode MODE] [--min N] [--max N] [--show] [--] EXPRESSION...\n"

/-- The output of the tabulator for a written expression in a mode. -/
def tabulatorOutput (mode : Mode) (options : TabulatorOptions) (text : String) : Output :=
  let heading := "Mode: " ++ mode.shortName ++ "\nExpression: " ++ text ++ "\n"
  match reportMode mode text options.bounds with
  | .error error => ⟨1, heading, "Parse error: " ++ error.message ++ "\n"⟩
  | .ok r =>
    let forms :=
      if options.showForms then "Full: " ++ r.full ++ "\nMinimal: " ++ r.minimal ++ "\n" else ""
    ⟨0, heading ++ forms ++ "Results:\n" ++ r.table.text, ""⟩

/-- The tabulator.  Wrong options and a missing expression are refused before anything is printed,
and an unknown mode before the expression is read. -/
def tabulator (arguments : List String) : Output :=
  match TabulatorOptions.read? {} arguments with
  | none | some (_, []) => ⟨2, "", tabulatorUsage⟩
  | some (options, expression) =>
    match Mode.lookup (options.mode.getD Mode.checkedInt.shortName) with
    | .error error => ⟨1, "", error.message ++ "\n"⟩
    | .ok mode => tabulatorOutput mode options (" ".intercalate expression)

end Formula
