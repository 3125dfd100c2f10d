import Formula.Proofs.Scanner.ListCursor
import Formula.Scanner.Words

/-!
# What scanners of text do

Words and blanks are read by reading, looking ahead and going back.  So whatever is done with a
scanner of characters, it takes characters from its source into its buffer, but loses none of them.
A word that does not match leaves the scanner at its place.

## Main definitions

* `TextCall`, `Scanner.afterText` — what a user of a scanner of characters can ask for
* `Scanner.comesNext` — the condition under which a word matches

## Main statements

* `Scanner.acceptWord_advances`, `Scanner.acceptFirst_advances` — which words match, and what is
  passed
* `Scanner.Reads.afterText` — no character is ever lost
-/

namespace Formula

/-- What a user of a scanner of characters can ask for. -/
inductive TextCall where
  /-- What can be asked for with items of any kind. -/
  | call (call : Call Char)
  | skipBlanks
  | scanWhile (p : Char → Bool)
  | acceptWord (word : String)
  | acceptLongest (words : List String)

namespace Scanner

/-- The scanner after a call. -/
def afterTextCall (s : Scanner Char) : TextCall → Scanner Char
  | .call call => (scannerReader.call call s).2
  | .skipBlanks => s.skipBlanks.2
  | .scanWhile p => (s.scanWhile p).2
  | .acceptWord word => (s.acceptWord word).2
  | .acceptLongest words => (s.acceptLongest words).2

/-- The scanner after some calls. -/
def afterText (s : Scanner Char) (calls : List TextCall) : Scanner Char :=
  calls.foldl afterTextCall s

/-! ### Words -/

/-- A word comes next in a text and ends there. -/
def comesNext (text : List Char) (word : String) : Bool :=
  word.toList.isPrefixOf text && endsWord (text.drop word.length)

/-- Items accepted one after the other are taken into the buffer, and passed if all of them come. -/
theorem acceptEach_cases {α : Type} [BEq α] [LawfulBEq α] (word : List α) (s : Scanner α) :
    (word <+: s.unread ∧ (s.acceptEach word).1 = true ∧
      Advances s word.length (s.acceptEach word).2) ∨
    (¬word <+: s.unread ∧ (s.acceptEach word).1 = false ∧ Fills s (s.acceptEach word).2) := by
  induction word generalizing s with
  | nil => exact .inl ⟨List.nil_prefix, rfl, .refl s⟩
  | cons expected others ih =>
      rcases acceptIf_cases (· == expected) s with ⟨item, head, same, accepted⟩ | ⟨other, refused⟩
      · -- The first item comes, so the others decide.
        obtain rfl := eq_of_beq same
        have first := advances_next head
        have step : s.acceptEach (item :: others) = s.next.2.acceptEach others := by
          rw [acceptEach, accept, accepted]
        have split : item :: others <+: s.unread ↔ others <+: s.next.2.unread := by
          rw [unread_of_head head, first.unread_eq, List.cons_prefix_cons]
          exact and_iff_right rfl
        rw [step, split]
        rcases ih s.next.2 with ⟨come, all, advances⟩ | ⟨missing, notAll, fills⟩
        · refine .inl ⟨come, all, ?_⟩
          rw [List.length_cons, Nat.add_comm]
          exact first.trans advances
        · exact .inr ⟨missing, notAll, first.toFills.trans fills⟩
      · have step : s.acceptEach (expected :: others) = (false, s.peek.2) := by
          rw [acceptEach, accept, refused]
        rw [step]
        refine .inr ⟨?_, rfl, (s.advances_peekNth 0).toFills⟩
        rintro ⟨rest, comes⟩
        have head : s.remaining[s.passed]? = some expected := by
          rw [← List.head?_drop, ← unread_eq_drop, ← comes, List.cons_append, List.head?_cons]
        exact absurd (other expected head) (by simp)

/-- A scanner that has read ahead can go back to where it was. -/
theorem Fills.passed_moveTo {α : Type} {s after : Scanner α} (fills : Fills s after) :
    (after.moveTo s.position).2.passed = s.passed := by
  have here := s.position_add_one
  have there := (after.moveTo s.position).2.position_add_one
  have bound := s.passed_le
  have more := fills.size_le
  have least : -1 ≤ s.position := by omega
  have most : s.position ≤ after.buffer.size := by omega
  have place := (moveTo_spec least most).2
  omega

/-- A scanner that goes back to where it was has passed nothing. -/
theorem Fills.advances_moveTo {α : Type} {s after : Scanner α} (fills : Fills s after) :
    Advances s 0 (after.moveTo s.position).2 where
  toFills := fills.trans (fills_moveTo _ _)
  passed_eq := fills.passed_moveTo
  settles settled := (fills.trans (fills_moveTo _ _)).isSettled settled fills.passed_moveTo

/-- **A word is accepted exactly if it comes next and ends there.**  Then it is passed, and
otherwise nothing is. -/
theorem acceptWord_advances (word : String) (s : Scanner Char) :
    (s.acceptWord word).1 = comesNext s.unread word ∧
      Advances s (if comesNext s.unread word then word.length else 0) (s.acceptWord word).2 := by
  rw [acceptWord, comesNext]
  rcases acceptEach_cases word.toList s with ⟨come, all, advances⟩ | ⟨missing, notAll, fills⟩
  · rw [String.length_toList] at advances
    generalize s.acceptEach word.toList = outcome at all advances
    obtain ⟨matched, after⟩ := outcome
    obtain rfl : matched = true := all
    have follower : after.peek.1 = (s.unread.drop word.length).head? := by
      rw [peek_answer, ← advances.unread_eq, unread_eq_drop, List.head?_drop]
    have prefixes : word.toList.isPrefixOf s.unread = true := List.isPrefixOf_iff_prefix.mpr come
    rw [prefixes, Bool.true_and, endsWord, ← follower]
    have ahead := advances.trans (after.advances_peekNth 0)
    dsimp only
    cases after.peek.1.any isAlphanumeric with
    | true => exact ⟨rfl, ahead.toFills.advances_moveTo⟩
    | false => exact ⟨rfl, ahead⟩
  · generalize s.acceptEach word.toList = outcome at notAll fills
    obtain ⟨matched, after⟩ := outcome
    obtain rfl : matched = false := notAll
    have noPrefix : word.toList.isPrefixOf s.unread = false :=
      Bool.eq_false_iff.mpr fun prefixes => missing (List.isPrefixOf_iff_prefix.mp prefixes)
    rw [noPrefix, Bool.false_and]
    exact ⟨rfl, fills.advances_moveTo⟩

/-- A word only takes characters into the buffer, and passes none of them unless it matches. -/
theorem acceptWord_spec (word : String) (s : Scanner Char) :
    Fills s (s.acceptWord word).2 ∧
      ((s.acceptWord word).1 = false → (s.acceptWord word).2.passed = s.passed) := by
  obtain ⟨answer, advances⟩ := acceptWord_advances word s
  refine ⟨advances.toFills, fun refused => ?_⟩
  rw [advances.passed_eq, ← answer, refused]
  rfl

/-- **The first of several words that comes next is accepted**, and is passed. -/
theorem acceptFirst_advances (words : List String) (s : Scanner Char) :
    (s.acceptFirst words).1 = words.find? (comesNext s.unread) ∧
      Advances s ((words.find? (comesNext s.unread)).elim 0 String.length)
        (s.acceptFirst words).2 := by
  induction words generalizing s with
  | nil => exact ⟨rfl, .refl s⟩
  | cons word others ih =>
      obtain ⟨answer, advances⟩ := acceptWord_advances word s
      rw [acceptFirst]
      generalize s.acceptWord word = outcome at answer advances
      obtain ⟨matched, after⟩ := outcome
      cases matched with
      | true =>
          rw [List.find?_cons_of_pos answer.symm]
          rw [← answer] at advances
          exact ⟨rfl, advances⟩
      | false =>
          rw [List.find?_cons_of_neg (Bool.eq_false_iff.mp answer.symm)]
          rw [← answer] at advances
          have first : Advances s 0 after := advances
          obtain ⟨found, advances⟩ := ih after
          rw [first.unread_eq, List.drop_zero] at found advances
          have passed := first.trans advances
          rw [Nat.zero_add] at passed
          exact ⟨found, passed⟩

/-! ### Calls -/

/-- Every call but committing takes characters into the buffer at most. -/
theorem fills_afterTextCall {call : TextCall} (keeps : call ≠ .call .commit) (s : Scanner Char) :
    Fills s (s.afterTextCall call) := by
  cases call with
  | call call => exact fills_call (fun commits => keeps (congrArg TextCall.call commits)) s
  | skipBlanks => exact (takeWhile_spec _ s).2.toFills
  | scanWhile p => exact (takeWhile_spec p s).2.toFills
  | acceptWord word => exact (acceptWord_advances word s).2.toFills
  | acceptLongest words => exact (acceptFirst_advances _ s).2.toFills

/-- No call changes which characters there are. -/
theorem Reads.afterTextCall {text : List Char} {s : Scanner Char} (reads : Reads text s)
    (call : TextCall) : Reads text (s.afterTextCall call) := by
  by_cases commits : call = .call .commit
  · subst commits
    exact reads.commit
  · exact reads.of_fills (fills_afterTextCall commits s)

/-- After any calls a scanner has still the characters of its text. -/
theorem Reads.afterText {text : List Char} {s : Scanner Char} (reads : Reads text s)
    (calls : List TextCall) : Reads text (s.afterText calls) := by
  induction calls generalizing s with
  | nil => exact reads
  | cons call calls ih => exact ih (reads.afterTextCall call)

end Scanner

end Formula
