import Formula.Parse
import Mathlib.Data.List.Infix

/-!
# Recorded reading

How reading goes about a text is not seen from its result.  Here reading is repeated with a record
of what it does: each time it asks for an operand, opens or closes a level of nesting, or looks for
the next operator of a chain, it leaves an event behind.  Without the record it is reading itself.

Levels are opened and closed like brackets, and no more of them are open at once than are allowed.

## Main definitions

* `Event`, `Run` — what happens while a text is read, and a reading with its events
* `recordOperand`, `recordExpression` — the grammar with a record
* `recordWithin`, `recordParse` — the reading of whole texts with a record
* `Levels` — how many levels of nesting are open at once

## Main statements

* `outcome_recordOperand`, `outcome_recordWithin` — without its record it is reading itself
* `levels_recordWithin` — no more levels are open at once than are allowed

## Design notes

Only the loop of a chain and the entry into an operand leave events.  All other functions hand on
the events of what they call, by `Run.andThen` and `Run.map`, so no call can go unrecorded.
-/

namespace Formula

variable {V : Type}

/-! ### Events -/

/-- What happens while a text is read. -/
inductive Event where
  /-- An operand is asked for at a place. -/
  | enter (place : Cursor)
  /-- The operand is not nested too deeply: one more level is open. -/
  | descend
  /-- The level of an operand is closed again. -/
  | ascend
  /-- A chain of operators of a rank looks for its next operator at a place. -/
  | turn (rank : Nat) (place : Cursor)
  deriving DecidableEq

/-- A reading with its events. -/
structure Run (α : Type) where
  events : List Event
  outcome : Except ParseError α

namespace Run

variable {α β : Type}

/-- A reading without events. -/
def silent (outcome : Except ParseError α) : Run α := ⟨[], outcome⟩

/-- A reading that is made into another one by a function without events. -/
def map (f : Except ParseError α → Except ParseError β) (run : Run α) : Run β :=
  ⟨run.events, f run.outcome⟩

/-- A reading that is gone on with if it succeeds. -/
def andThen (run : Run α) (next : α → Run β) : Run β :=
  match run.outcome with
  | .ok a => ⟨run.events ++ (next a).events, (next a).outcome⟩
  | .error error => ⟨run.events, .error error⟩

/-- A reading behind an event. -/
def behind (event : Event) (run : Run α) : Run α := ⟨event :: run.events, run.outcome⟩

/-- A reading inside a level of nesting. -/
def nested (run : Run α) : Run α := ⟨.descend :: (run.events ++ [.ascend]), run.outcome⟩

end Run

/-! ### The grammar with a record -/

/-- The links of a chain of operators of a rank, with a record. -/
def recordLinks (rank : Nat) (op? : Cursor → Option (BinaryOp × Cursor))
    (part : Cursor → Run (Expr V × Cursor)) : Nat → Expr V → Cursor → Run (Expr V × Cursor)
  | 0, e, c => .silent (.ok (e, c))
  | links + 1, e, c =>
    .behind (.turn rank c) <|
      match op? c with
      | none => .silent (.ok (e, c))
      | some (op, afterOp) =>
        (part afterOp).andThen fun (right, after) =>
          recordLinks rank op? part links (.binary op e right) after

/-- A chain of operators of a rank, with a record. -/
def recordChain (rank : Nat) (op? : Cursor → Option (BinaryOp × Cursor))
    (part : Cursor → Run (Expr V × Cursor)) (links : Nat) (c : Cursor) : Run (Expr V × Cursor) :=
  (part c).andThen fun (first, after) => recordLinks rank op? part links first after

/-- An expression, with a record. -/
def recordExpression (links : Nat) (operand : Cursor → Run (Expr V × Cursor)) :
    Cursor → Run (Expr V × Cursor) :=
  recordChain 1 additiveOpAt? (recordChain 2 multiplicativeOpAt? operand links) links

/-- An operand without the blanks around it, with a record. -/
def recordBareOperand (d : Domain V) (links : Nat) (inner : Cursor → Run (Expr V × Cursor))
    (c : Cursor) : Run (Expr V × Cursor) :=
  if startsSignedLiteral d c then .silent (literal d c)
  else
    match unaryOpAt? c with
    | some (op, afterOp) => (inner afterOp).map fun result => applied op (fun _ => result) afterOp
    | none =>
      match c.accept? '(' with
      | some opened =>
        (recordExpression links inner opened).map fun result => bracketed (fun _ => result) opened
      | none => .silent (leaf d c)

/-- An operand with the blanks around it and the nesting still allowed, with a record. -/
def recordOperand (d : Domain V) (links : Nat) : Nat → Cursor → Run (Expr V × Cursor)
  | 0, c => .behind (.enter c) (.silent (.error (.tooDeep c.column)))
  | nesting + 1, c =>
    .behind (.enter c) <| .nested <|
      (recordBareOperand d links (recordOperand d links nesting) c.skipBlanks).map fun result =>
        betweenBlanks (fun _ => result) c

/-- The reading of a whole text with limits on nesting and on the length of chains, with a
record. -/
def recordWithin (d : Domain V) (nesting links : Nat) (text : List Char) : Run (Expr V) :=
  (recordExpression links (recordOperand d links nesting) (.start text)).andThen fun (e, after) =>
    .silent (if after.peek?.isNone then .ok e else .error (illegalAt .binaryOperator after))

/-- The reading of a whole text, with a record. -/
def recordParse (d : Domain V) (text : String) : Run (Expr V) :=
  recordWithin d maxNesting text.toList.length text.toList

/-! ### Without the record -/

section Outcomes

variable {d : Domain V} {links : Nat}

/-- Two readings in a row succeed one after the other. -/
theorem Run.outcome_andThen {α β : Type} (run : Run α) (next : α → Run β) :
    (run.andThen next).outcome =
      match run.outcome with
      | .ok a => (next a).outcome
      | .error error => .error error := by
  rw [andThen]
  cases run.outcome <;> rfl

theorem outcome_recordLinks {rank : Nat} {op? : Cursor → Option (BinaryOp × Cursor)}
    {part : Cursor → Run (Expr V × Cursor)} (links : Nat) (e : Expr V) (c : Cursor) :
    (recordLinks rank op? part links e c).outcome =
      chainLinks op? (fun c => (part c).outcome) links e c := by
  induction links generalizing e c with
  | zero => rfl
  | succ links ih =>
      rw [recordLinks, chainLinks, Run.behind]
      cases op? c with
      | none => rfl
      | some found =>
          dsimp only
          rw [Run.outcome_andThen]
          cases (part found.2).outcome with
          | ok read => exact ih _ _
          | error error => rfl

theorem outcome_recordChain {rank : Nat} {op? : Cursor → Option (BinaryOp × Cursor)}
    {part : Cursor → Run (Expr V × Cursor)} (c : Cursor) :
    (recordChain rank op? part links c).outcome =
      chain op? (fun c => (part c).outcome) links c := by
  rw [recordChain, chain, Run.outcome_andThen]
  cases (part c).outcome with
  | ok read => exact outcome_recordLinks links _ _
  | error error => rfl

theorem outcome_recordExpression {operand : Cursor → Run (Expr V × Cursor)} (c : Cursor) :
    (recordExpression links operand c).outcome =
      expression links (fun c => (operand c).outcome) c := by
  rw [recordExpression, outcome_recordChain, expression]
  congr 1
  funext c
  exact outcome_recordChain c

theorem outcome_recordBareOperand {inner : Cursor → Run (Expr V × Cursor)} (c : Cursor) :
    (recordBareOperand d links inner c).outcome =
      bareOperand d links (fun c => (inner c).outcome) c := by
  rw [recordBareOperand, bareOperand]
  split
  next => rfl
  next =>
    cases unaryOpAt? c with
    | some found => rfl
    | none =>
        cases c.accept? '(' with
        | some opened => simp only [Run.map, outcome_recordExpression, bracketed]
        | none => rfl

/-- **Without its record, reading an operand is reading it.** -/
theorem outcome_recordOperand (d : Domain V) (links bound : Nat) (c : Cursor) :
    (recordOperand d links bound c).outcome = operand d links bound c := by
  induction bound generalizing c with
  | zero => rfl
  | succ bound ih =>
      have inner : (fun c => (recordOperand d links bound c).outcome) = operand d links bound :=
        funext ih
      rw [recordOperand, operand, Run.behind, Run.nested, Run.map]
      simp only [outcome_recordBareOperand, inner, betweenBlanks]

theorem outcome_recordExpression_recordOperand (d : Domain V) (links nesting : Nat) (c : Cursor) :
    (recordExpression links (recordOperand d links nesting) c).outcome =
      expression links (operand d links nesting) c := by
  rw [outcome_recordExpression]
  congr 1
  funext c
  exact outcome_recordOperand d links nesting c

/-- **Without its record, the reading of a text is its reading.** -/
theorem outcome_recordWithin (d : Domain V) (nesting links : Nat) (text : List Char) :
    (recordWithin d nesting links text).outcome = parseWithin d nesting links text := by
  rw [recordWithin, parseWithin, Run.outcome_andThen, outcome_recordExpression_recordOperand]
  cases expression links (operand d links nesting) (.start text) <;> rfl

end Outcomes

/-! ### Levels of nesting -/

/-- Levels are opened and closed like brackets, with no more of them open at once than a bound. -/
structure Levels (bound : Nat) (events : List Event) : Prop where
  /-- Up to every event none is closed that is not open, and the bound is kept. -/
  upTo : ∀ before, before <+: events → before.count .ascend ≤ before.count .descend ∧
    before.count .descend ≤ before.count .ascend + bound
  /-- In the end all are closed. -/
  allClosed : events.count .descend = events.count .ascend

namespace Levels

variable {bound : Nat} {first last : List Event}

/-- Where no level is opened or closed, none is open. -/
theorem of_not_mem {events : List Event} (noDescend : .descend ∉ events)
    (noAscend : .ascend ∉ events) : Levels bound events where
  upTo before isBefore := by
    rw [List.count_eq_zero_of_not_mem fun mem => noDescend (isBefore.subset mem),
      List.count_eq_zero_of_not_mem fun mem => noAscend (isBefore.subset mem)]
    omega
  allClosed := by
    rw [List.count_eq_zero_of_not_mem noDescend, List.count_eq_zero_of_not_mem noAscend]

theorem nil : Levels bound [] := of_not_mem List.not_mem_nil List.not_mem_nil

/-- What ends with all levels closed may be followed by what starts so. -/
theorem append (isFirst : Levels bound first) (isLast : Levels bound last) :
    Levels bound (first ++ last) where
  upTo before isBefore := by
    obtain ⟨left, splitEq⟩ := isBefore
    obtain ⟨part, firstEq, -⟩ | ⟨part, rfl, lastEq⟩ := List.append_eq_append_iff.mp splitEq
    · exact isFirst.upTo before ⟨part, firstEq.symm⟩
    · have closed := isFirst.allClosed
      have late := isLast.upTo part ⟨left, lastEq.symm⟩
      rw [List.count_append, List.count_append]
      omega
  allClosed := by
    rw [List.count_append, List.count_append, isFirst.allClosed, isLast.allClosed]

/-- Inside a further level one more is open. -/
theorem nested (inner : Levels bound first) :
    Levels (bound + 1) (.descend :: (first ++ [.ascend])) where
  upTo before isBefore := by
    have closed := inner.allClosed
    obtain rfl | ⟨part, rfl, isPart⟩ := List.prefix_cons_iff.mp isBefore
    · simp
    · obtain rfl | inside := List.prefix_concat_iff.mp isPart
      · simp [closed]
      · have inside := inner.upTo part inside
        rw [List.count_cons_self, List.count_cons_of_ne (by decide : Event.descend ≠ .ascend)]
        omega
  allClosed := by simp [inner.allClosed]

end Levels

section Levels

variable {d : Domain V} {links bound : Nat}

theorem Levels.andThen {α β : Type} {run : Run α} {next : α → Run β}
    (isFirst : Levels bound run.events) (isNext : ∀ a, Levels bound (next a).events) :
    Levels bound (run.andThen next).events := by
  rw [Run.andThen]
  split
  next a found => exact isFirst.append (isNext a)
  next => exact isFirst

theorem levels_recordLinks {rank : Nat} {op? : Cursor → Option (BinaryOp × Cursor)}
    {part : Cursor → Run (Expr V × Cursor)} (levels : ∀ c, Levels bound (part c).events)
    (links : Nat) (e : Expr V) (c : Cursor) :
    Levels bound (recordLinks rank op? part links e c).events := by
  induction links generalizing e c with
  | zero => exact .nil
  | succ links ih =>
      have turned : Levels bound [.turn rank c] := .of_not_mem (by simp) (by simp)
      rw [recordLinks, Run.behind, ← List.singleton_append]
      refine turned.append ?_
      split
      next => exact .nil
      next => exact (levels _).andThen fun _ => ih _ _

theorem levels_recordExpression {operand : Cursor → Run (Expr V × Cursor)}
    (levels : ∀ c, Levels bound (operand c).events) (c : Cursor) :
    Levels bound (recordExpression links operand c).events :=
  have terms c : Levels bound (recordChain 2 multiplicativeOpAt? operand links c).events :=
    (levels c).andThen fun _ => levels_recordLinks levels links _ _
  (terms c).andThen fun _ => levels_recordLinks terms links _ _

theorem levels_recordBareOperand {inner : Cursor → Run (Expr V × Cursor)}
    (levels : ∀ c, Levels bound (inner c).events) (c : Cursor) :
    Levels bound (recordBareOperand d links inner c).events := by
  rw [recordBareOperand]
  split
  next => exact .nil
  next =>
    split
    next => exact levels _
    next =>
      split
      next opened _ => exact levels_recordExpression levels opened
      next => exact .nil

/-- An operand is allowed as many levels as it may nest. -/
theorem levels_recordOperand (d : Domain V) (links nesting : Nat) (c : Cursor) :
    Levels nesting (recordOperand d links nesting c).events := by
  have entered {bound : Nat} (c : Cursor) : Levels bound [.enter c] :=
    .of_not_mem (by simp) (by simp)
  induction nesting generalizing c with
  | zero => exact entered c
  | succ nesting ih =>
      rw [recordOperand, Run.behind, ← List.singleton_append]
      exact (entered c).append (levels_recordBareOperand ih c.skipBlanks).nested

/-- **No more levels are open at once than are allowed.** -/
theorem levels_recordWithin (d : Domain V) (nesting links : Nat) (text : List Char) :
    Levels nesting (recordWithin d nesting links text).events :=
  (levels_recordExpression (levels_recordOperand d links nesting) _).andThen fun _ => .nil

end Levels

end Formula
