import Formula.Proofs.Grammar.Sound
import Formula.Proofs.Recording

/-!
# Progress

Reading never stands still.  Between any two operands that are asked for, and between any two turns
of the loop of a chain, a character at least is passed for good.

What is passed for good is seen from the places in the record of a reading.  Each function that
reads leaves a record that is in order, starts where the function is called and ends before the
place where it arrives, provided that the functions it calls do.

## Main definitions

* `Cursor.Passes` — places of one text, the one before the other with characters between them
* `Event.Precedes` — events in the order in which they may happen
* `Run.Orderly`, `Advances` — readings that move on from event to event

## Main statements

* `Derives.size_add_length_le` — every node of a tree has a character of its own
* `Run.Orderly.andThen` — what moves on and is gone on with by what moves on moves on
* `advances_recordOperand`, `advances_recordExpression` — reading moves on

## Design notes

Both chains look for an operator where an operand ends, first the inner and then the outer one, and
nothing is passed in between.  This is the only case in which two places in a record may be the
same.  The rank that a turn carries tells it from a loop that turns on the spot.
-/

namespace Formula

variable {V : Type}

/-! ### Places further on -/

namespace Cursor

variable {c mid after : Cursor}

/-- A place is passed if another one is reached from it behind a character at least. -/
def Passes (c after : Cursor) : Prop := c.Reaches after ∧ c.consumed < after.consumed

theorem Reaches.consumed_le (reached : c.Reaches after) : c.consumed ≤ after.consumed := by
  obtain ⟨passed, -, consumed⟩ := reached
  omega

theorem Reaches.length_le (reached : c.Reaches after) : after.rest.length ≤ c.rest.length := by
  obtain ⟨passed, split, -⟩ := reached
  rw [split, List.length_append]
  omega

theorem Reaches.trans_passes (first : c.Reaches mid) (last : mid.Passes after) : c.Passes after :=
  ⟨first.trans last.1, Nat.lt_of_le_of_lt first.consumed_le last.2⟩

theorem Passes.trans_reaches (first : c.Passes mid) (last : mid.Reaches after) : c.Passes after :=
  ⟨first.1.trans last, Nat.lt_of_lt_of_le first.2 last.consumed_le⟩

theorem Passes.trans (first : c.Passes mid) (last : mid.Passes after) : c.Passes after :=
  first.trans_reaches last.1

/-- Less is left of a text behind a place that is passed. -/
theorem Passes.length_lt (passed : c.Passes after) : after.rest.length < c.rest.length := by
  have same := passed.1.extent_eq
  have := passed.2
  rw [extent, extent] at same
  omega

/-- A place is passed where less is left of its text. -/
theorem Reaches.passes (reached : c.Reaches after) (less : after.rest.length < c.rest.length) :
    c.Passes after := by
  have same := reached.extent_eq
  rw [extent, extent] at same
  exact ⟨reached, by omega⟩

theorem passes_of_accept? {expected : Char} (accepted : c.accept? expected = some after) :
    c.Passes after := by
  refine ⟨reaches_of_accept? accepted, ?_⟩
  have := (accept?_eq_some_iff.mp accepted).2
  omega

end Cursor

section Symbols

variable {d : Domain V} {c after : Cursor}

theorem passes_of_unaryOpAt? {op : UnaryOp} (noSign : startsSignedLiteral d c = false)
    (found : unaryOpAt? c = some (op, after)) : c.Passes after :=
  (reaches_of_unaryOpAt? found).passes (unarySymbol_of_unaryOpAt? noSign found).length_lt

theorem passes_of_additiveOpAt? {op : BinaryOp} (found : additiveOpAt? c = some (op, after)) :
    c.Passes after :=
  (reaches_of_additiveOpAt? found).passes (binarySymbol_of_additiveOpAt? found).1.length_lt

theorem passes_of_multiplicativeOpAt? {op : BinaryOp}
    (found : multiplicativeOpAt? c = some (op, after)) : c.Passes after :=
  (reaches_of_multiplicativeOpAt? found).passes
    (binarySymbol_of_multiplicativeOpAt? found).1.length_lt

end Symbols

/-! ### Trees and their texts -/

/-- Every node of a tree has a character of its own in the text. -/
theorem Derives.size_add_length_le {d : Domain V} {category : Category} {text rest : List Char}
    {e : Expr V} {n : Nat} (derivation : Derives d category text e n rest) :
    e.size + rest.length ≤ text.length := by
  induction derivation with
  | term _ ih => exact ih
  | sum _ symbol _ _ ihFirst ihLast =>
      have := symbol.length_lt
      rw [Expr.size]
      omega
  | operand _ ih => exact ih
  | product _ symbol _ _ ihFirst ihLast =>
      have := symbol.length_lt
      rw [Expr.size]
      omega
  | blanks _ _ _ ih =>
      simp only [List.length_append] at ih ⊢
      omega
  | constant _ nonempty =>
      have := List.length_pos_of_ne_nil nonempty
      simp only [Expr.size, List.length_append]
      omega
  | letter => simp [Expr.size, Nat.add_comm]
  | unary symbol _ ih =>
      have := symbol.length_lt
      rw [Expr.size]
      omega
  | brackets _ ih =>
      simp only [List.length_cons] at ih ⊢
      omega

theorem Expr.size_pos (e : Expr V) : 0 < e.size := by
  cases e <;> simp only [Expr.size] <;> omega

/-- A phrase takes a character at least. -/
theorem Derives.length_lt {d : Domain V} {category : Category} {text rest : List Char}
    {e : Expr V} {n : Nat} (derivation : Derives d category text e n rest) :
    rest.length < text.length := by
  have := derivation.size_add_length_le
  have := e.size_pos
  omega

section Leaves

variable {d : Domain V} {c after : Cursor} {e : Expr V}

theorem passes_of_literal (starts : startsSignedLiteral d c = true ∨ startsLiteral d c = true)
    (found : literal d c = .ok (e, after)) : c.Passes after := by
  refine Cursor.Reaches.passes ?_ (derives_of_literal starts found).length_lt
  obtain ⟨sign, start, signAt⟩ := exists_signAt c
  obtain ⟨digits, behind, taken, -⟩ := signAt.exists_digits starts
  cases denotes : d.read? (sign ++ digits) with
  | some value =>
      rw [signAt.literal_eq_ok taken denotes] at found
      obtain ⟨-, rfl⟩ := Prod.mk.inj (Except.ok.inj found)
      exact signAt.reaches.trans (Cursor.reaches_of_takeWhile taken)
  | none =>
      rw [signAt.literal_eq_error taken denotes] at found
      cases found

theorem passes_of_leaf (found : leaf d c = .ok (e, after)) : c.Passes after := by
  have less := (derives_of_leaf found).length_lt
  rw [leaf] at found
  split at found
  next starts => exact passes_of_literal (.inr starts) found
  next =>
    refine Cursor.Reaches.passes ?_ less
    split at found
    next v behind foundVariable =>
      obtain ⟨-, rfl⟩ := Prod.mk.inj (Except.ok.inj found)
      exact reaches_of_variableAt? foundVariable
    next => cases found

end Leaves

/-! ### Events in order -/

namespace Event

/-- The one event may happen before the other: the place of the other one is further on.  Only where
the chain of a lower rank turns after one of a higher rank may the places be the same. -/
def Precedes : Event → Event → Prop
  | .turn rank c, .turn rank' c' => c.Reaches c' ∧ (rank ≤ rank' → c.Passes c')
  | .turn _ c, .enter c' => c.Passes c'
  | .enter c, .enter c' => c.Passes c'
  | .enter c, .turn _ c' => c.Passes c'
  | _, _ => True

/-- The event is at a given place or further on, if it is at a place. -/
def StandsFrom (c : Cursor) : Event → Prop
  | .enter place => c.Reaches place
  | .turn _ place => c.Reaches place
  | _ => True

/-- The event is further on than a given place, if it is at a place. -/
def StandsPast (c : Cursor) : Event → Prop
  | .enter place => c.Passes place
  | .turn _ place => c.Passes place
  | _ => True

variable {x y : Event} {c mid after : Cursor} {rank level : Nat}

theorem StandsFrom.past (stands : x.StandsFrom mid) (passed : c.Passes mid) : x.StandsPast c := by
  cases x with
  | enter | turn => exact passed.trans_reaches stands
  | descend | ascend => trivial

theorem StandsPast.past (stands : x.StandsPast mid) (reached : c.Reaches mid) :
    x.StandsPast c := by
  cases x with
  | enter | turn => exact reached.trans_passes stands
  | descend | ascend => trivial

theorem StandsPast.standsFrom (stands : x.StandsPast c) : x.StandsFrom c := by
  cases x with
  | enter | turn => exact stands.1
  | descend | ascend => trivial

theorem StandsPast.enter_precedes (stands : x.StandsPast c) : (Event.enter c).Precedes x := by
  cases x with
  | enter | turn => exact stands
  | descend | ascend => trivial

theorem StandsPast.turn_precedes (stands : x.StandsPast c) : (Event.turn rank c).Precedes x := by
  cases x with
  | enter => exact stands
  | turn => exact ⟨stands.1, fun _ => stands⟩
  | descend | ascend => trivial

/-- What may happen before a turn may happen before everything that the turn may happen before. -/
theorem Precedes.trans (first : x.Precedes (.turn rank mid))
    (last : (Event.turn rank mid).Precedes y) : x.Precedes y := by
  cases x with
  | enter =>
      cases y with
      | enter => exact first.trans last
      | turn => exact first.trans_reaches last.1
      | descend | ascend => trivial
  | turn rankFirst c =>
      cases y with
      | enter => exact first.1.trans_passes last
      | turn rankLast c' =>
          refine ⟨first.1.trans last.1, fun higher => ?_⟩
          -- The rank does not go down from the first to the last turn, so at one step it does not.
          obtain below | above := Nat.le_or_le rankFirst rank
          · exact (first.2 below).trans_reaches last.1
          · exact first.1.trans_passes (last.2 (above.trans higher))
      | descend | ascend => trivial
  | descend | ascend => cases y <;> trivial

/-- What may happen before a turn may happen before a turn at no higher rank that is reached. -/
theorem Precedes.turn_of_reaches (precedes : x.Precedes (.turn rank mid))
    (reached : mid.Reaches after) (lower : level ≤ rank) : x.Precedes (.turn level after) := by
  cases x with
  | enter => exact Cursor.Passes.trans_reaches precedes reached
  | turn => exact ⟨precedes.1.trans reached,
      fun higher => (precedes.2 (higher.trans lower)).trans_reaches reached⟩
  | descend | ascend => trivial

/-- What may happen before a turn may happen before every turn further on. -/
theorem Precedes.turn_of_passes (precedes : x.Precedes (.turn rank mid))
    (passed : mid.Passes after) : x.Precedes (.turn level after) :=
  precedes.trans ⟨passed.1, fun _ => passed⟩

end Event

/-! ### Orderly readings -/

/-- A reading that moves on.  Its events come in order and where they have to, and before a turn of
a rank where it arrives. -/
structure Run.Orderly (front : Event → Prop) (rank : Nat) (there : Cursor → Prop)
    (run : Run (Expr V × Cursor)) : Prop where
  inOrder : run.events.Pairwise Event.Precedes
  starts : ∀ x ∈ run.events, front x
  arrives : ∀ e after, run.outcome = .ok (e, after) →
    there after ∧ ∀ x ∈ run.events, x.Precedes (.turn rank after)

/-- A reading that passes characters whenever it succeeds, and moves on while it does. -/
def Advances (rank : Nat) (read : Cursor → Run (Expr V × Cursor)) : Prop :=
  ∀ c, (read c).Orderly (Event.StandsFrom c) rank c.Passes

namespace Run.Orderly

variable {front front' : Event → Prop} {rank level : Nat} {there there' : Cursor → Prop}
  {c : Cursor}

/-- A reading without events moves on if it arrives where it has to. -/
theorem silent {outcome : Except ParseError (Expr V × Cursor)}
    (arrives : ∀ e after, outcome = .ok (e, after) → there after) :
    (Run.silent outcome).Orderly front rank there where
  inOrder := .nil
  starts _ mem := absurd mem List.not_mem_nil
  arrives e after found := ⟨arrives e after found, fun _ mem => absurd mem List.not_mem_nil⟩

/-- A reading that ends where it starts arrives there. -/
theorem stay (e : Expr V) (c : Cursor) :
    (Run.silent (.ok (e, c))).Orderly front rank c.Reaches :=
  silent fun e' after found => by
    obtain ⟨-, rfl⟩ := Prod.mk.inj (Except.ok.inj found)
    exact .refl c

theorem mono {run : Run (Expr V × Cursor)} (orderly : run.Orderly front rank there)
    (starts : ∀ x, front x → front' x) (arrives : ∀ after, there after → there' after) :
    run.Orderly front' rank there' where
  inOrder := orderly.inOrder
  starts x mem := starts x (orderly.starts x mem)
  arrives e after found :=
    have ⟨atAfter, before⟩ := orderly.arrives e after found
    ⟨arrives after atAfter, before⟩

/-- A reading with the same events moves on if it arrives no earlier. -/
theorem map {run : Run (Expr V × Cursor)} (orderly : run.Orderly front rank there)
    {f : Except ParseError (Expr V × Cursor) → Except ParseError (Expr V × Cursor)}
    (later : ∀ e after, f run.outcome = .ok (e, after) → ∃ e' mid, run.outcome = .ok (e', mid) ∧
      (there mid → there' after) ∧ ∀ x : Event, x.Precedes (.turn rank mid) →
        x.Precedes (.turn level after)) :
    (run.map f).Orderly front level there' where
  inOrder := orderly.inOrder
  starts := orderly.starts
  arrives e after found := by
    obtain ⟨e', mid, foundMid, arrives, turns⟩ := later e after found
    obtain ⟨atMid, before⟩ := orderly.arrives e' mid foundMid
    exact ⟨arrives atMid, fun x mem => turns x (before x mem)⟩

theorem mem_nested {run : Run (Expr V × Cursor)} {x : Event} :
    x ∈ run.nested.events ↔ x = .descend ∨ x ∈ run.events ∨ x = .ascend := by
  simp [Run.nested]

/-- What is read inside a further level moves on. -/
theorem nested {run : Run (Expr V × Cursor)} (orderly : run.Orderly front rank there)
    (opens : front .descend) (closes : front .ascend) : run.nested.Orderly front rank there where
  inOrder := by
    refine List.pairwise_cons.mpr ⟨fun _ _ => trivial, List.pairwise_append.mpr
      ⟨orderly.inOrder, List.pairwise_singleton _ _, fun x _ y isLast => ?_⟩⟩
    obtain rfl := List.mem_singleton.mp isLast
    cases x <;> trivial
  starts x mem := by
    obtain rfl | inside | rfl := mem_nested.mp mem
    · exact opens
    · exact orderly.starts x inside
    · exact closes
  arrives e after found := by
    obtain ⟨arrives, before⟩ := orderly.arrives e after found
    refine ⟨arrives, fun x mem => ?_⟩
    obtain rfl | inside | rfl := mem_nested.mp mem
    · trivial
    · exact before x inside
    · trivial

/-- An event that comes before all others may come first. -/
theorem behind {run : Run (Expr V × Cursor)} {x : Event} (orderly : run.Orderly front rank there)
    (first : ∀ y, front y → x.Precedes y) (starts : front' x) (weaker : ∀ y, front y → front' y)
    (turns : ∀ after, there after → x.Precedes (.turn rank after)) :
    (Run.behind x run).Orderly front' rank there where
  inOrder := List.pairwise_cons.mpr
    ⟨fun y mem => first y (orderly.starts y mem), orderly.inOrder⟩
  starts := List.forall_mem_cons.mpr ⟨starts, fun y mem => weaker y (orderly.starts y mem)⟩
  arrives e after found := by
    obtain ⟨arrives, before⟩ := orderly.arrives e after found
    exact ⟨arrives, List.forall_mem_cons.mpr ⟨turns after arrives, before⟩⟩

/-- A chain moves on if its first part does, and if its links do from where that part ends. -/
theorem andThen {run : Run (Expr V × Cursor)} {next : Expr V × Cursor → Run (Expr V × Cursor)}
    (isFirst : run.Orderly (Event.StandsFrom c) rank c.Passes) (lower : level ≤ rank)
    (isNext : ∀ e mid, (next (e, mid)).Orderly
      (fun y => y = .turn rank mid ∨ y.StandsPast mid) level mid.Reaches) :
    (run.andThen next).Orderly (Event.StandsFrom c) level c.Passes := by
  rw [Run.andThen]
  split
  next a found =>
    obtain ⟨e, mid⟩ := a
    obtain ⟨passed, before⟩ := isFirst.arrives e mid found
    have further := isNext e mid
    have follows : ∀ x ∈ run.events, ∀ y ∈ (next (e, mid)).events, x.Precedes y := by
      intro x memX y memY
      obtain rfl | past := further.starts y memY
      · exact before x memX
      · exact (before x memX).trans past.turn_precedes
    refine ⟨List.pairwise_append.mpr ⟨isFirst.inOrder, further.inOrder, follows⟩, ?_, ?_⟩
    · intro x mem
      obtain early | late := List.mem_append.mp mem
      · exact isFirst.starts x early
      · obtain rfl | past := further.starts x late
        · exact passed.1
        · exact (past.past passed.1).standsFrom
    · intro e' after foundAfter
      obtain ⟨reached, beforeAfter⟩ := further.arrives e' after foundAfter
      refine ⟨passed.trans_reaches reached, fun x mem => ?_⟩
      obtain early | late := List.mem_append.mp mem
      · exact (before x early).turn_of_reaches reached lower
      · exact beforeAfter x late
  next =>
    refine ⟨isFirst.inOrder, isFirst.starts, fun e after found => ?_⟩
    cases found

end Run.Orderly

section Operands

variable {d : Domain V} {links rank : Nat}

/-- The loop of a chain moves on.  The induction is on the number of links. -/
theorem orderly_recordLinks {op? : Cursor → Option (BinaryOp × Cursor)}
    {part : Cursor → Run (Expr V × Cursor)}
    (passes : ∀ {c op after}, op? c = some (op, after) → c.Passes after)
    (advances : Advances (rank + 1) part) (links : Nat) (e : Expr V) (c : Cursor) :
    (recordLinks (rank + 1) op? part links e c).Orderly
      (fun x => x = .turn (rank + 1) c ∨ x.StandsPast c) rank c.Reaches := by
  induction links generalizing e c with
  | zero => exact .stay e c
  | succ links ih =>
      rw [recordLinks]
      -- Behind the turn, all events are past the place where the chain turns.
      suffices past : Run.Orderly (Event.StandsPast c) rank c.Reaches _ from
        past.behind (fun x past => past.turn_precedes) (.inl rfl) (fun x => .inr)
          fun after reached => ⟨reached, fun higher => absurd higher (Nat.not_succ_le_self rank)⟩
      split
      next => exact .stay e c
      next op afterOp found =>
        have passed := passes found
        exact .mono (.andThen (advances afterOp) (Nat.le_succ rank) fun _ _ => ih _ _)
          (fun x stands => stands.past passed) fun after behind => passed.1.trans behind.1

/-- A chain moves on. -/
theorem advances_recordChain {op? : Cursor → Option (BinaryOp × Cursor)}
    {part : Cursor → Run (Expr V × Cursor)}
    (passes : ∀ {c op after}, op? c = some (op, after) → c.Passes after)
    (advances : Advances (rank + 1) part) (links : Nat) :
    Advances rank (recordChain (rank + 1) op? part links) :=
  fun c => (advances c).andThen (Nat.le_succ rank) fun e mid =>
    orderly_recordLinks passes advances links e mid

/-- **Reading an expression moves on.** -/
theorem advances_recordExpression {operand : Cursor → Run (Expr V × Cursor)}
    (advances : Advances 2 operand) (links : Nat) : Advances 0 (recordExpression links operand) :=
  advances_recordChain passes_of_additiveOpAt?
    (advances_recordChain passes_of_multiplicativeOpAt? advances links) links

/-- An operand without the blanks around it moves on.  All that happens in it happens behind its
first character. -/
theorem orderly_recordBareOperand {inner : Cursor → Run (Expr V × Cursor)}
    (advances : Advances 2 inner) (c : Cursor) :
    (recordBareOperand d links inner c).Orderly (Event.StandsPast c) 2 c.Passes := by
  rw [recordBareOperand]
  split
  next starts => exact .silent fun e after found => passes_of_literal (.inl starts) found
  next noSign =>
    split
    next op afterOp foundOp =>
      have passed := passes_of_unaryOpAt? (Bool.eq_false_iff.mpr noSign) foundOp
      refine ((advances afterOp).mono (fun x stands => stands.past passed)
        fun after behind => passed.trans behind).map fun e after found => ?_
      rw [applied] at found
      split at found
      next e' mid foundInner =>
        obtain ⟨rfl, rfl⟩ := Prod.mk.inj (Except.ok.inj found)
        exact ⟨e', mid, foundInner, id, fun x => id⟩
      next => cases found
    next =>
      split
      next opened accepted =>
        have passed := Cursor.passes_of_accept? accepted
        refine ((advances_recordExpression advances links opened).mono
          (fun x stands => stands.past passed) fun after behind => passed.trans behind).map
            fun e after found => ?_
        rw [bracketed] at found
        split at found
        next e' mid foundInner =>
          split at found
          next closed acceptedClosing =>
            obtain ⟨rfl, rfl⟩ := Prod.mk.inj (Except.ok.inj found)
            have closes := Cursor.passes_of_accept? acceptedClosing
            exact ⟨e', mid, foundInner, fun behind => behind.trans closes,
              fun x precedes => precedes.turn_of_passes closes⟩
          next => cases found
        next => cases found
      next => exact .silent fun e after found => passes_of_leaf found

/-- **Reading an operand moves on.**  The induction is on the levels that are allowed. -/
theorem advances_recordOperand (d : Domain V) (links nesting : Nat) :
    Advances 2 (recordOperand d links nesting) := by
  induction nesting with
  | zero =>
      intro c
      have refused : (Run.silent (.error (.tooDeep c.column))).Orderly (V := V)
          (Event.StandsPast c) 2 c.Passes := .silent fun e after found => by cases found
      exact refused.behind (fun x past => past.enter_precedes) (.refl c)
        (fun x past => past.standsFrom) fun after passed => passed
  | succ nesting ih =>
      intro c
      have blanks := c.reaches_skipBlanks
      have bare : Run.Orderly (Event.StandsPast c) 2 c.Passes
          (recordBareOperand d links (recordOperand d links nesting) c.skipBlanks) :=
        (orderly_recordBareOperand ih c.skipBlanks).mono
          (fun x past => past.past blanks) fun after behind => blanks.trans_passes behind
      have within : Run.Orderly (Event.StandsPast c) 2 c.Passes
          ((recordBareOperand d links (recordOperand d links nesting) c.skipBlanks).map
            fun result => betweenBlanks (fun _ => result) c) :=
        bare.map fun e after found => by
          rw [betweenBlanks] at found
          split at found
          next e' mid foundInner =>
            obtain ⟨rfl, rfl⟩ := Prod.mk.inj (Except.ok.inj found)
            have blanks := mid.reaches_skipBlanks
            exact ⟨e', mid, foundInner, fun behind => behind.trans_reaches blanks,
              fun x precedes => precedes.turn_of_reaches blanks le_rfl⟩
          next => cases found
      exact (within.nested trivial trivial).behind (fun x past => past.enter_precedes) (.refl c)
        (fun x past => past.standsFrom) fun after passed => passed

end Operands

end Formula
