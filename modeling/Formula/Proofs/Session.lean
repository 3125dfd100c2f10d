import Formula.Session

/-!
# What a session remembers

A session is determined by its last successful commands.  A line that is answered with an error and
a line that is no command leave it as it was, whatever the line has in common with a command that
would succeed; a command that succeeds changes the mode only or the point only.  After any lines the
mode is therefore the one that the last successful command of its kind named, and so is the point,
and nothing else of the past has an influence on the answer to the next line.

## Main definitions

* `commandWords?` — the words of a command
* `Exchange`, `Session.exchanges` — the lines of a session and the answers to them
* `Exchange.mode?`, `Exchange.point?` — what a successful command names
* `Session.after` — the session after some lines
* `Session.lastMode`, `Session.lastPoint` — what the last successful commands named

## Main statements

* `Command.exists_of_read` — what a command that is understood consists of
* `Session.respond_eq` — what an answered line does to a session
* `Session.after_eq` — the same for a run over any lines
* `Session.determined_by_last_commands` — the session is determined by its last successful commands
-/

namespace Formula

/-! ### Commands -/

/-- The words of a command, which is a line that starts with a colon. -/
def commandWords? (line : String) : Option (List String) :=
  match line.toList with
  | ':' :: text => some (words (String.ofList text))
  | _ => none

/-- What is done in two steps succeeds if both steps do. -/
theorem exists_of_bind {ε α β : Type} {first : Except ε α} {next : α → Except ε β} {b : β}
    (done : first >>= next = .ok b) : ∃ a, first = .ok a ∧ next a = .ok b := by
  cases first with
  | ok a => exact ⟨a, rfl, done⟩
  | error error => cases done

/-- Naming the cause of an error makes no difference to a success. -/
theorem mapError_eq_ok_iff {ε ε' α : Type} {f : ε → ε'} {result : Except ε α} {a : α} :
    result.mapError f = .ok a ↔ result = .ok a := by
  cases result with
  | ok b =>
      exact ⟨fun found => congrArg Except.ok (Except.ok.inj found),
        fun found => congrArg Except.ok (Except.ok.inj found)⟩
  | error error => constructor <;> intro found <;> cases found

/-- A command that is understood has the name of a mode or three coordinates. -/
theorem Command.exists_of_read {text : String} {command : Command}
    (read : Command.read text = .ok command) :
    (∃ name mode, words text = ["mode", name] ∧ Mode.lookup name = .ok mode ∧
        command = .setMode mode) ∨
      ∃ x y z p, words text = ["at", x, y, z] ∧ readInt32 x.toList = .ok p.x ∧
        readInt32 y.toList = .ok p.y ∧ readInt32 z.toList = .ok p.z ∧
        command = .setPoint p := by
  unfold Command.read at read
  split at read
  next name split =>
    obtain ⟨mode, lookup, read⟩ := exists_of_bind read
    exact .inl ⟨name, mode, split, mapError_eq_ok_iff.mp lookup, (Except.ok.inj read).symm⟩
  next x y z split =>
    obtain ⟨i, readX, read⟩ := exists_of_bind read
    obtain ⟨j, readY, read⟩ := exists_of_bind read
    obtain ⟨k, readZ, read⟩ := exists_of_bind read
    exact .inr ⟨x, y, z, ⟨i, j, k⟩, split, mapError_eq_ok_iff.mp readX,
      mapError_eq_ok_iff.mp readY, mapError_eq_ok_iff.mp readZ, (Except.ok.inj read).symm⟩
  next => cases read

/-! ### Exchanges -/

/-- A line of a session and the answer to it. -/
structure Exchange where
  line : String
  answer : Except SessionError String

namespace Exchange

/-- The words of a command that succeeded. -/
def successWords? (x : Exchange) : Option (List String) :=
  match x.answer with
  | .ok _ => commandWords? x.line
  | .error _ => none

/-- The mode that a successful command names. -/
def mode? (x : Exchange) : Option Mode :=
  match x.successWords? with
  | some ["mode", name] => (Mode.lookup name).toOption
  | _ => none

/-- The point that a successful command names. -/
def point? (x : Exchange) : Option Point :=
  match x.successWords? with
  | some ["at", x, y, z] => do
    let x ← (readInt32 x.toList).toOption
    let y ← (readInt32 y.toList).toOption
    let z ← (readInt32 z.toList).toOption
    return ⟨x, y, z⟩
  | _ => none

end Exchange

namespace Session

/-- The exchange of a line. -/
def exchange (s : Session) (line : String) : Exchange := ⟨line, (s.respond line).1⟩

/-- The session after some lines. -/
def after (s : Session) (lines : List String) : Session :=
  lines.foldl (fun s line => (s.respond line).2) s

/-- The exchanges of some lines. -/
def exchanges (s : Session) : List String → List Exchange
  | [] => []
  | line :: lines => s.exchange line :: (s.respond line).2.exchanges lines

/-- How a session responds to a line.  A line that is no command is valued, a command that succeeds
is carried out, and nothing else changes the session. -/
inductive Responds (s : Session) (line : String) : Prop
  | value (noCommand : commandWords? line = none) (response : s.respond line = (s.value line, s))
  | refusal {error} (response : s.respond line = (.error error, s))
  | mode {name mode} (split : commandWords? line = some ["mode", name])
      (names : Mode.lookup name = .ok mode)
      (response : s.respond line = (.ok (Command.setMode mode).answer, ⟨mode, s.point⟩))
  | point {x y z p} (split : commandWords? line = some ["at", x, y, z])
      (readX : readInt32 x.toList = .ok p.x) (readY : readInt32 y.toList = .ok p.y)
      (readZ : readInt32 z.toList = .ok p.z)
      (response : s.respond line = (.ok (Command.setPoint p).answer, ⟨s.mode, p⟩))

theorem responds (s : Session) (line : String) : s.Responds line := by
  by_cases isCommand : ∃ text, line.toList = ':' :: text
  · obtain ⟨text, start⟩ := isCommand
    have split : commandWords? line = some (words (String.ofList text)) := by
      simp only [commandWords?, start]
    cases read : Command.read (String.ofList text) with
    | error error => exact .refusal (by simp only [respond, start, read]; rfl)
    | ok command =>
        have response : s.respond line = (.ok command.answer, s.apply command) := by
          simp only [respond, start, read]
        rcases Command.exists_of_read read with
          ⟨name, mode, named, names, rfl⟩ | ⟨x, y, z, p, named, readX, readY, readZ, rfl⟩
        · exact .mode (named ▸ split) names response
        · exact .point (named ▸ split) readX readY readZ response
  · refine .value ?_ ?_
    · unfold commandWords?
      split
      next text start => exact absurd ⟨text, start⟩ isCommand
      next => rfl
    · unfold respond
      split
      next text start => exact absurd ⟨text, start⟩ isCommand
      next => rfl

/-- An error leaves the session as it was. -/
theorem respond_of_error {s : Session} {line : String} {error : SessionError}
    (failed : (s.respond line).1 = .error error) : (s.respond line).2 = s := by
  cases s.responds line with
  | value _ response | refusal response => rw [response]
  | mode _ _ response | point _ _ _ _ response =>
      rw [response] at failed
      cases failed

/-- A line that is no command leaves the session as it was. -/
theorem respond_of_noColon (s : Session) {line : String} (noColon : line.toList.head? ≠ some ':') :
    (s.respond line).2 = s := by
  have noCommand : commandWords? line = none := by
    unfold commandWords?
    split
    next text start => exact absurd (by rw [start]; rfl) noColon
    next => rfl
  cases s.responds line with
  | value _ response | refusal response => rw [response]
  | mode split => cases noCommand.symm.trans split
  | point split => cases noCommand.symm.trans split

/-- A successful command for the mode changes the mode to the one that it names. -/
theorem respond_of_mode {s : Session} {line answer : String} {arguments : List String}
    (succeeded : (s.respond line).1 = .ok answer)
    (isMode : commandWords? line = some ("mode" :: arguments)) :
    ∃ name mode, arguments = [name] ∧ Mode.lookup name = .ok mode ∧
      (s.exchange line).mode? = some mode ∧ (s.respond line).2 = ⟨mode, s.point⟩ := by
  cases s.responds line with
  | value noCommand => cases noCommand.symm.trans isMode
  | refusal response =>
      rw [response] at succeeded
      cases succeeded
  | @mode name mode split names response =>
      obtain rfl : arguments = [name] := by simpa using isMode.symm.trans split
      refine ⟨name, mode, rfl, names, ?_, by rw [response]⟩
      simp [exchange, Exchange.mode?, Exchange.successWords?, response, split, names,
        Except.toOption]
  | point split =>
      rw [isMode] at split
      simp at split

/-- A successful command for the point changes the point to the one that it names. -/
theorem respond_of_point {s : Session} {line answer : String} {arguments : List String}
    (succeeded : (s.respond line).1 = .ok answer)
    (isPoint : commandWords? line = some ("at" :: arguments)) :
    ∃ x y z p, arguments = [x, y, z] ∧ readInt32 x.toList = .ok p.x ∧
      readInt32 y.toList = .ok p.y ∧ readInt32 z.toList = .ok p.z ∧
      (s.exchange line).point? = some p ∧ (s.respond line).2 = ⟨s.mode, p⟩ := by
  cases s.responds line with
  | value noCommand => cases noCommand.symm.trans isPoint
  | refusal response =>
      rw [response] at succeeded
      cases succeeded
  | mode split =>
      rw [isPoint] at split
      simp at split
  | @point x y z p split readX readY readZ response =>
      obtain rfl : arguments = [x, y, z] := by simpa using isPoint.symm.trans split
      refine ⟨x, y, z, p, rfl, readX, readY, readZ, ?_, by rw [response]⟩
      simp [exchange, Exchange.point?, Exchange.successWords?, response, split, readX, readY,
        readZ, Except.toOption]

/-- **What a line does to a session** is seen from the exchange: it takes over the mode or the point
that a successful command names. -/
theorem respond_eq (s : Session) (line : String) :
    (s.respond line).2 =
      ⟨(s.exchange line).mode?.getD s.mode, (s.exchange line).point?.getD s.point⟩ := by
  cases s.responds line with
  | value noCommand response =>
      have noWords : (s.exchange line).successWords? = none := by
        unfold Exchange.successWords? exchange
        split
        next => exact noCommand
        next => rfl
      rw [response, Exchange.mode?, Exchange.point?, noWords]
      rfl
  | refusal response =>
      simp [response, exchange, Exchange.mode?, Exchange.point?, Exchange.successWords?]
  | mode split names response =>
      simp [response, exchange, Exchange.mode?, Exchange.point?, Exchange.successWords?, split,
        names, Except.toOption]
  | point split readX readY readZ response =>
      simp [response, exchange, Exchange.mode?, Exchange.point?, Exchange.successWords?, split,
        readX, readY, readZ, Except.toOption]

/-! ### Runs -/

/-- What is named last in some exchanges. -/
def lastNamed? {α : Type} (named? : Exchange → Option α) (exchanges : List Exchange) : Option α :=
  exchanges.reverse.findSome? named?

theorem lastNamed?_cons {α : Type} (named? : Exchange → Option α) (x : Exchange)
    (exchanges : List Exchange) :
    lastNamed? named? (x :: exchanges) = (lastNamed? named? exchanges).or (named? x) := by
  simp [lastNamed?, List.findSome?_append, List.findSome?_singleton]

/-- **What a run does to a session**: it takes over what the last successful commands named.  The
induction is on the lines, from any session, since a line that names nothing is passed over. -/
theorem after_eq (s : Session) (lines : List String) :
    s.after lines =
      ⟨(lastNamed? Exchange.mode? (s.exchanges lines)).getD s.mode,
        (lastNamed? Exchange.point? (s.exchanges lines)).getD s.point⟩ := by
  induction lines generalizing s with
  | nil => rfl
  | cons line lines ih =>
      have rest : s.after (line :: lines) = (s.respond line).2.after lines := rfl
      rw [rest, ih, exchanges, lastNamed?_cons, lastNamed?_cons, Option.getD_or, Option.getD_or,
        respond_eq]

/-- The mode that the last successful command for the mode named, from the start of a session. -/
def lastMode (lines : List String) : Mode :=
  (lastNamed? Exchange.mode? (initial.exchanges lines)).getD initial.mode

/-- The point that the last successful command for the point named, from the start of a session. -/
def lastPoint (lines : List String) : Point :=
  (lastNamed? Exchange.point? (initial.exchanges lines)).getD initial.point

/-- **A session is determined by its last successful commands.**  An error leaves it as it was, and
so does a line that is no command.  A successful command for the mode changes only the mode, to the
one of its name, and a successful command for the point only the point, to its three coordinates.
After any lines the mode and the point are those of the last successful commands, and runs that
agree on these give the same answer to any next line. -/
theorem determined_by_last_commands :
    initial = ⟨.checkedInt, ⟨0, 0, 0⟩⟩ ∧
      (∀ (s : Session) line error, (s.respond line).1 = .error error → (s.respond line).2 = s) ∧
      (∀ (s : Session) (line : String), line.toList.head? ≠ some ':' → (s.respond line).2 = s) ∧
      (∀ (s : Session) line answer arguments, (s.respond line).1 = .ok answer →
        commandWords? line = some ("mode" :: arguments) →
          ∃ name mode, arguments = [name] ∧ Mode.lookup name = .ok mode ∧
            (s.exchange line).mode? = some mode ∧ (s.respond line).2 = ⟨mode, s.point⟩) ∧
      (∀ (s : Session) line answer arguments, (s.respond line).1 = .ok answer →
        commandWords? line = some ("at" :: arguments) →
          ∃ x y z p, arguments = [x, y, z] ∧ readInt32 x.toList = .ok p.x ∧
            readInt32 y.toList = .ok p.y ∧ readInt32 z.toList = .ok p.z ∧
            (s.exchange line).point? = some p ∧ (s.respond line).2 = ⟨s.mode, p⟩) ∧
      (∀ lines, (initial.after lines).mode = lastMode lines ∧
        (initial.after lines).point = lastPoint lines) ∧
      ∀ lines lines', lastMode lines = lastMode lines' → lastPoint lines = lastPoint lines' →
        ∀ line,
          ((initial.after lines).respond line).1 = ((initial.after lines').respond line).1 := by
  refine ⟨rfl, fun s line error => respond_of_error, fun s line => s.respond_of_noColon,
    fun s line answer arguments => respond_of_mode,
    fun s line answer arguments => respond_of_point, ?_, ?_⟩
  · intro lines
    rw [after_eq]
    exact ⟨rfl, rfl⟩
  · intro lines lines' sameMode samePoint line
    have same : initial.after lines = initial.after lines' := by
      rw [after_eq, after_eq, Session.mk.injEq]
      exact ⟨sameMode, samePoint⟩
    rw [same]

/-- Neither a coordinate that is no integer nor a name of no mode changes a session. -/
example : initial.after [":at 1 2 3", ":mode p", ":at 4 5 x", ":mode q", "x / 0"] =
    ⟨.modularInt, ⟨1, 2, 3⟩⟩ := by decide

end Session

end Formula
