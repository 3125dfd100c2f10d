import Formula.Proofs.Progress
import Mathlib.Data.List.Perm.Subperm

/-!
# The length of a text bounds its reading

Since reading passes a character between any two operands that it asks for, it asks for no more of
them than the text has places.  Since it passes a character with every link of a chain, a bound on
the links that is as long as the text is never met.

## Main definitions

* `entries` — where the operands are asked for
* `AgreesUpTo` — readings that do the same on texts up to a length

## Main statements

* `length_entries_le` — operands are asked for at most once at every place
* `recordWithin_congr` — a bound on links that is as long as the text is no bound
* `parse_progresses` — reading makes progress, and its work and its tree are bounded by the text
-/

namespace Formula

variable {V : Type} {d : Domain V}

/-! ### Operands that are asked for -/

/-- The number of characters before each operand that is asked for. -/
def entries (events : List Event) : List Nat :=
  events.filterMap fun
    | .enter place => some place.consumed
    | _ => none

theorem mem_entries {events : List Event} {n : Nat} :
    n ∈ entries events ↔ ∃ place, .enter place ∈ events ∧ place.consumed = n := by
  rw [entries, List.mem_filterMap]
  constructor
  · rintro ⟨x, mem, found⟩
    cases x with
    | enter place => exact ⟨place, mem, Option.some.inj found⟩
    | descend | ascend | turn => cases found
  · rintro ⟨place, mem, rfl⟩
    exact ⟨.enter place, mem, rfl⟩

/-- Each operand is asked for further on than the ones before. -/
theorem pairwise_entries {events : List Event} (inOrder : events.Pairwise Event.Precedes) :
    (entries events).Pairwise (· < ·) := by
  refine inOrder.filterMap _ fun x y precedes m foundX n foundY => ?_
  cases x with
  | enter place =>
      cases y with
      | enter place' =>
          obtain rfl := Option.some.inj foundX
          obtain rfl := Option.some.inj foundY
          exact precedes.2
      | descend | ascend | turn => cases foundY
  | descend | ascend | turn => cases foundX

/-- **Operands are asked for at most once at every place of the text.** -/
theorem length_entries_le {events : List Event} {text : List Char}
    (inOrder : events.Pairwise Event.Precedes)
    (starts : ∀ x ∈ events, x.StandsFrom (.start text)) :
    (entries events).length ≤ text.length + 1 := by
  have different : (entries events).Nodup := (pairwise_entries inOrder).imp Nat.ne_of_lt
  have places : entries events ⊆ List.range (text.length + 1) := by
    intro n mem
    obtain ⟨place, entered, rfl⟩ := mem_entries.mp mem
    have same := (starts _ entered).extent_eq
    rw [Cursor.extent_start, Cursor.extent] at same
    exact List.mem_range.mpr (by omega)
  calc (entries events).length
      ≤ (List.range (text.length + 1)).length := (different.subperm places).length_le
    _ = text.length + 1 := List.length_range

/-! ### Bounds that are not met -/

/-- The readings do the same where no more than a number of characters is left. -/
def AgreesUpTo (length : Nat) (read read' : Cursor → Run (Expr V × Cursor)) : Prop :=
  ∀ c, c.rest.length ≤ length → read c = read' c

theorem Run.andThen_congr {α β : Type} {run : Run α} {next next' : α → Run β}
    (same : ∀ a, run.outcome = .ok a → next a = next' a) : run.andThen next = run.andThen next' := by
  rw [andThen, andThen]
  split
  next a found => rw [same a found]
  next => rfl

section Bounds

variable {rank length links links' : Nat} {op? : Cursor → Option (BinaryOp × Cursor)}
  {part part' : Cursor → Run (Expr V × Cursor)}

/-- The loop of a chain stops by itself where its bound is above what is left of the text.  The
induction is on the one bound, and every link keeps both above what is left. -/
theorem recordLinks_congr (passes : ∀ {c op after}, op? c = some (op, after) → c.Passes after)
    (advances : Advances (rank + 1) part) (agrees : AgreesUpTo length part part') (links : Nat) :
    ∀ {links' : Nat} (e : Expr V) (c : Cursor), c.rest.length ≤ length → c.rest.length < links →
      c.rest.length < links' →
      recordLinks (rank + 1) op? part links e c = recordLinks (rank + 1) op? part' links' e c := by
  induction links with
  | zero => exact fun e c _ below => absurd below (Nat.not_lt_zero _)
  | succ links ih =>
      intro links' e c fits below below'
      obtain ⟨links', rfl⟩ := Nat.exists_eq_succ_of_ne_zero (Nat.ne_zero_of_lt below')
      rw [recordLinks, recordLinks]
      congr 1
      split
      next => rfl
      next op afterOp found =>
        have lessAfterOp := (passes found).length_lt
        rw [← agrees afterOp (by omega)]
        refine Run.andThen_congr fun read foundPart => ?_
        have lessAfter := ((advances afterOp).arrives read.1 read.2 foundPart).1.length_lt
        exact ih _ _ (by omega) (by omega) (by omega)

theorem recordChain_congr (passes : ∀ {c op after}, op? c = some (op, after) → c.Passes after)
    (advances : Advances (rank + 1) part) (agrees : AgreesUpTo length part part')
    (enough : length ≤ links) (enough' : length ≤ links') :
    AgreesUpTo length (recordChain (rank + 1) op? part links)
      (recordChain (rank + 1) op? part' links') := by
  intro c fits
  rw [recordChain, recordChain, ← agrees c fits]
  refine Run.andThen_congr fun read foundFirst => ?_
  have less := ((advances c).arrives read.1 read.2 foundFirst).1.length_lt
  exact recordLinks_congr passes advances agrees links _ _ (by omega) (by omega) (by omega)

theorem recordExpression_congr (advances : Advances 2 part) (agrees : AgreesUpTo length part part')
    (enough : length ≤ links) (enough' : length ≤ links') :
    AgreesUpTo length (recordExpression links part) (recordExpression links' part') :=
  recordChain_congr passes_of_additiveOpAt?
    (advances_recordChain passes_of_multiplicativeOpAt? advances links)
    (recordChain_congr passes_of_multiplicativeOpAt? advances agrees enough enough') enough enough'

theorem recordBareOperand_congr (advances : Advances 2 part) (agrees : AgreesUpTo length part part')
    (enough : length ≤ links) (enough' : length ≤ links') :
    AgreesUpTo length (recordBareOperand d links part) (recordBareOperand d links' part') := by
  intro c fits
  rw [recordBareOperand, recordBareOperand]
  split
  next => rfl
  next =>
    split
    next op afterOp found =>
      have := (reaches_of_unaryOpAt? found).length_le
      rw [agrees afterOp (by omega)]
    next =>
      split
      next opened accepted =>
        have := (Cursor.reaches_of_accept? accepted).length_le
        rw [recordExpression_congr advances agrees enough enough' opened (by omega)]
      next => rfl

theorem recordOperand_congr (enough : length ≤ links) (enough' : length ≤ links')
    (nesting : Nat) :
    AgreesUpTo length (recordOperand d links nesting) (recordOperand d links' nesting) := by
  induction nesting with
  | zero => exact fun c fits => rfl
  | succ nesting ih =>
      intro c fits
      have := c.reaches_skipBlanks.length_le
      rw [recordOperand, recordOperand, recordBareOperand_congr
        (advances_recordOperand d links nesting) ih enough enough' c.skipBlanks (by omega)]

/-- **A bound on links that is as long as the text is no bound.** -/
theorem recordWithin_congr (nesting : Nat) {text : List Char} (enough : text.length ≤ links)
    (enough' : text.length ≤ links') :
    recordWithin d nesting links text = recordWithin d nesting links' text := by
  rw [recordWithin, recordWithin, recordExpression_congr (advances_recordOperand d links nesting)
    (recordOperand_congr enough enough' nesting) enough enough' (.start text) le_rfl]

end Bounds

/-! ### Whole texts -/

section Texts

variable {nesting links : Nat} {text : List Char}

/-- The events of a whole text come in order, from its start on. -/
theorem inOrder_recordWithin (d : Domain V) (nesting links : Nat) (text : List Char) :
    (recordWithin d nesting links text).events.Pairwise Event.Precedes ∧
      ∀ x ∈ (recordWithin d nesting links text).events, x.StandsFrom (.start text) := by
  have moves := advances_recordExpression (advances_recordOperand d links nesting) links
    (.start text)
  have same : (recordWithin d nesting links text).events =
      (recordExpression links (recordOperand d links nesting) (.start text)).events := by
    rw [recordWithin, Run.andThen]
    split
    next => exact List.append_nil _
    next => rfl
  rw [same]
  exact ⟨moves.inOrder, moves.starts⟩

/-- A text that is read is read to its end. -/
theorem expression_of_parseWithin {e : Expr V} (found : parseWithin d nesting links text = .ok e) :
    expression links (operand d links nesting) (.start text) = .ok (e, ⟨text.length, []⟩) := by
  have moves := advances_recordExpression (advances_recordOperand d links nesting) links
  rw [parseWithin] at found
  split at found
  next e' after foundInner =>
    split at found
    next atEnd =>
      obtain rfl := Except.ok.inj found
      rw [← outcome_recordExpression_recordOperand] at foundInner
      have reached := ((moves _).arrives e' after foundInner).1.1
      have nothingLeft : after.rest = [] := by simpa using atEnd
      have atLength : after.consumed = text.length := by
        rw [← Cursor.extent_start, ← reached.extent_eq, Cursor.extent, nothingLeft]
        rfl
      rw [← outcome_recordExpression_recordOperand, foundInner, ← nothingLeft, ← atLength]
    next => cases found
  next => cases found

/-- **Reading makes progress, and its work and its tree are bounded by the text.**  Of a text of `n`
characters every operand and every turn of a loop is further on than the ones before, operands are
asked for `n + 1` times at most, no more levels of them are open at once than are allowed, every
bound on the links of chains from `n` on makes for the same reading, and a tree that is read has `n`
nodes at most and takes all characters of the text. -/
theorem parse_progresses (d : Domain V) (text : String) :
    (recordParse d text).outcome = parse d text ∧
    (recordParse d text).events.Pairwise Event.Precedes ∧
    (entries (recordParse d text).events).length ≤ text.toList.length + 1 ∧
    Levels maxNesting (recordParse d text).events ∧
    (∀ links, text.toList.length ≤ links →
      recordWithin d maxNesting links text.toList = recordParse d text ∧
        parseWithin d maxNesting links text.toList = parse d text) ∧
    ∀ e, parse d text = .ok e →
      e.size ≤ text.toList.length ∧
        expression text.toList.length (operand d text.toList.length maxNesting)
          (.start text.toList) = .ok (e, ⟨text.toList.length, []⟩) := by
  have outcome : ∀ links, (recordWithin d maxNesting links text.toList).outcome =
      parseWithin d maxNesting links text.toList := fun links => outcome_recordWithin d _ links _
  obtain ⟨inOrder, starts⟩ := inOrder_recordWithin d maxNesting text.toList.length text.toList
  refine ⟨outcome _, inOrder, length_entries_le inOrder starts,
    levels_recordWithin d _ _ _, ?_, ?_⟩
  · intro links enough
    have same := recordWithin_congr (d := d) maxNesting enough (Nat.le_refl _)
    refine ⟨same, ?_⟩
    rw [← outcome, same, outcome]
    rfl
  · intro e found
    obtain ⟨n, -, derivation⟩ := derives_of_parseWithin found
    exact ⟨by simpa using derivation.size_add_length_le, expression_of_parseWithin found⟩

/-- A text of one character may have operands asked for at both of its places. -/
example : entries (recordParse checkedInt "-").events = [0, 1] := by decide

end Texts

end Formula
