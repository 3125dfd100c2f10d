import Formula.Proofs.Scanner.Lookahead
import Mathlib.Data.List.Basic
import Mathlib.Data.List.Find

/-!
# What is matched

A scanner of characters is asked for words and for runs of characters.  What it answers depends on
the unread rest of its text only, and if it matches anything it passes just that.  If it matches
nothing it is where it was.

This holds wherever a scanner gets by reading, matching, committing and going back.  Going back
means moving to a position no further than the furthest one that the scanner has been at since the
last commit; all these positions are known to it.

Several words are tried by falling length.  As words of one length keep their order, the word that
is accepted is the first of the longest ones that match.

## Main definitions

* `Scanner.GoesBack` — calls that move to earlier positions only
* `Scanner.longest?` — the first of the longest words of a list
* `Scanner.PassesOver` — what a user sees of some characters being passed
* `Scanner.MatchesText` — what the calls for words and runs do

## Main statements

* `Scanner.find?_byLength` — the word that is tried with success
* `Scanner.Reads.isSettled_afterText` — earlier positions are known
* `Scanner.matchesText_after_calls` — what is matched after any calls
-/

namespace Formula

/-- If the call moves the scanner, it moves it no further than to a position. -/
def TextCall.StaysWithin (furthest : Int) : TextCall → Prop
  | .call (.moveTo position) => -1 ≤ position ∧ position ≤ furthest
  | _ => True

instance (furthest : Int) : (call : TextCall) → Decidable (call.StaysWithin furthest)
  | .call (.moveTo position) => inferInstanceAs (Decidable (-1 ≤ position ∧ position ≤ furthest))
  | .call .next | .call .peek | .call (.peekNth _) | .call (.accept _) | .call (.acceptAny _)
  | .call (.skipAll _) | .call .commit | .skipBlanks | .scanWhile _ | .acceptWord _
  | .acceptLongest _ => .isTrue trivial

namespace Scanner

/-! ### The longest of several words -/

/-- The first of the longest words of a list. -/
def longest? (words : List String) : Option String :=
  words.find? fun word => words.all fun other => other.length ≤ word.length

/-- Words are sorted by falling length. -/
theorem pairwise_byLength (words : List String) :
    (byLength words).Pairwise fun a b => b.length ≤ a.length := by
  have sorted : (byLength words).Pairwise fun a b => decide (b.length ≤ a.length) = true :=
    List.pairwise_mergeSort (by simp only [decide_eq_true_eq]; omega)
      (by intro a b; simp; omega) words
  simpa only [decide_eq_true_eq] using sorted

theorem perm_byLength (words : List String) : (byLength words).Perm words :=
  List.mergeSort_perm words _

/-- Words of one length keep their order. -/
theorem filter_byLength (size : Nat) (words : List String) :
    (byLength words).filter (·.length == size) = words.filter (·.length == size) := by
  have sameLength : (words.filter (·.length == size)).Pairwise
      fun a b => decide (b.length ≤ a.length) = true := by
    refine List.pairwise_of_forall_mem_list fun a first b second => ?_
    have lengthFirst := (List.mem_filter.mp first).2
    have lengthSecond := (List.mem_filter.mp second).2
    simp only [beq_iff_eq] at lengthFirst lengthSecond
    simp [lengthFirst, lengthSecond]
  have sublist : (words.filter (·.length == size)).Sublist (byLength words) :=
    List.sublist_mergeSort (by simp only [decide_eq_true_eq]; omega) (by intro a b; simp; omega)
      sameLength List.filter_sublist
  have inOrder := sublist.filter (·.length == size)
  rw [List.filter_filter] at inOrder
  simp only [Bool.and_self] at inOrder
  exact (inOrder.eq_of_length ((perm_byLength words).filter _).length_eq.symm).symm

section Longest

variable {p : String → Bool} {word : String} {words : List String}

/-- If a word of a list is as long as any, the first of its length is the first of the longest. -/
theorem longest?_eq_find? (member : word ∈ words)
    (greatest : ∀ other ∈ words, other.length ≤ word.length) :
    longest? words = words.find? (·.length == word.length) := by
  refine List.find?_congr fun other others => ?_
  rw [Bool.eq_iff_iff, List.all_eq_true, beq_iff_eq]
  constructor
  · intro longest
    exact Nat.le_antisymm (greatest other others) (of_decide_eq_true (longest word member))
  · intro same third thirds
    rw [same]
    exact decide_eq_true (greatest third thirds)

/-- No word that matches is longer than the one found, as it would have been tried before. -/
theorem length_le_of_find?_byLength (found : (byLength words).find? p = some word) :
    ∀ other ∈ words.filter p, other.length ≤ word.length := by
  intro other others
  obtain ⟨-, before, after, split, earlier⟩ := List.find?_eq_some_iff_append.mp found
  obtain ⟨listed, isMatch⟩ := List.mem_filter.mp others
  rw [← (perm_byLength words).mem_iff, split, List.mem_append, List.mem_cons] at listed
  rcases listed with tried | rfl | later
  · exact absurd isMatch (by simpa using earlier other tried)
  · exact Nat.le_refl _
  · have sorted := pairwise_byLength words
    rw [split, List.pairwise_append, List.pairwise_cons] at sorted
    exact sorted.2.1.1 other later

/-- The word found is the first of its length among the words that match. -/
theorem find?_length_filter (found : words.find? p = some word) :
    (words.filter p).find? (·.length == word.length) = some word := by
  rw [← List.head?_filter, List.head?_eq_some_iff] at found
  obtain ⟨others, first⟩ := found
  rw [first, List.find?_cons_of_pos (by simp)]

/-- **The first word that matches, by falling length**, is the first of the longest words that
match. -/
theorem find?_byLength (p : String → Bool) (words : List String) :
    (byLength words).find? p = longest? (words.filter p) := by
  cases found : (byLength words).find? p with
  | none =>
      have noMatch : words.filter p = [] := by
        rw [List.filter_eq_nil_iff]
        intro word member
        exact List.find?_eq_none.mp found word ((perm_byLength words).mem_iff.mpr member)
      rw [noMatch]
      rfl
  | some word =>
      have member : word ∈ words.filter p := by
        rw [List.mem_filter]
        exact ⟨(perm_byLength words).mem_iff.mp (List.mem_of_find?_eq_some found),
          List.find?_some found⟩
      calc some word
          = ((byLength words).filter p).find? (·.length == word.length) :=
            (find?_length_filter found).symm
        _ = (((byLength words).filter (·.length == word.length)).filter p).head? := by
            rw [← List.head?_filter, List.filter_comm]
        _ = (words.filter p).find? (·.length == word.length) := by
            rw [filter_byLength, ← List.head?_filter, List.filter_comm]
        _ = longest? (words.filter p) :=
            (longest?_eq_find? member (length_le_of_find?_byLength found)).symm

end Longest

/-! ### Earlier positions -/

/-- The furthest position of a scanner since the last commit, after one more call. -/
def furthestAfter (furthest : Int) : TextCall → Scanner Char → Int
  | .call .commit, s => s.position
  | _, s => max furthest s.position

theorem furthestAfter_of_ne_commit {call : TextCall} (keeps : call ≠ .call .commit)
    (furthest : Int) (s : Scanner Char) :
    furthestAfter furthest call s = max furthest s.position := by
  unfold furthestAfter
  split
  next => exact absurd rfl keeps
  next => rfl

/-- Some calls move a scanner to positions up to a given one, or to one that it has been at in the
meantime, but not to positions from before a commit. -/
def GoesBackWithin : Int → Scanner Char → List TextCall → Prop
  | _, _, [] => True
  | furthest, s, call :: calls =>
    call.StaysWithin furthest ∧
      GoesBackWithin (furthestAfter furthest call (s.afterTextCall call)) (s.afterTextCall call)
        calls

instance decidableGoesBackWithin :
    (furthest : Int) → (s : Scanner Char) → (calls : List TextCall) →
      Decidable (GoesBackWithin furthest s calls)
  | _, _, [] => .isTrue trivial
  | furthest, s, call :: calls =>
    have := decidableGoesBackWithin (furthestAfter furthest call (s.afterTextCall call))
      (s.afterTextCall call) calls
    inferInstanceAs (Decidable (_ ∧ _))

/-- Some calls move a scanner to earlier positions only. -/
def GoesBack (s : Scanner Char) (calls : List TextCall) : Prop :=
  GoesBackWithin s.position s calls

instance (s : Scanner Char) (calls : List TextCall) : Decidable (s.GoesBack calls) :=
  decidableGoesBackWithin _ s calls

section Earlier

variable {text : List Char} {s after : Scanner Char} {furthest position : Int} {count : Nat}

/-- Positions before a known one are known. -/
theorem Knows.of_le (known : s.Knows furthest) (least : -1 ≤ position) (le : position ≤ furthest) :
    s.Knows position := by
  obtain ⟨-, inBuffer | ⟨atEnd, ended⟩⟩ := known
  · exact ⟨least, .inl (by omega)⟩
  · rcases Int.lt_or_eq_of_le le with less | rfl
    · exact ⟨least, .inl (by omega)⟩
    · exact ⟨least, .inr ⟨atEnd, ended⟩⟩

/-- A scanner that is only moved to earlier positions is settled after each call. -/
theorem Reads.isSettled_afterTextCall (reads : Reads text s) (settled : s.IsSettled)
    (known : s.Knows furthest) {call : TextCall} (within : call.StaysWithin furthest) :
    (s.afterTextCall call).IsSettled := by
  cases call with
  | call call =>
      refine (reads.follows settled call fun position moves => ?_).settled
      subst moves
      exact known.of_le within.1 within.2
  | skipBlanks => exact (takeWhile_spec _ s).2.settles settled
  | scanWhile p => exact (takeWhile_spec p s).2.settles settled
  | acceptWord word => exact (acceptWord_advances word s).2.settles settled
  | acceptLongest words => exact (acceptFirst_advances _ s).2.settles settled

/-- The furthest position is known after the next call too. -/
theorem knows_furthestAfter (known : s.Knows furthest) {call : TextCall}
    (settled : (s.afterTextCall call).IsSettled) :
    (s.afterTextCall call).Knows (furthestAfter furthest call (s.afterTextCall call)) := by
  by_cases commits : call = .call .commit
  · subst commits
    exact settled
  · have kept := (fills_afterTextCall commits s).knows known
    rw [furthestAfter_of_ne_commit commits]
    rcases Int.le_total furthest (s.afterTextCall call).position with before | behind
    · rw [Int.max_eq_right before]
      exact settled
    · rw [Int.max_eq_left behind]
      exact kept

/-- **Earlier positions are known.**  A scanner that is only moved to such positions is always
settled.  The induction is on the calls; it is kept that the furthest position is known. -/
theorem Reads.isSettled_afterText {calls : List TextCall} (reads : Reads text s)
    (settled : s.IsSettled) (known : s.Knows furthest)
    (earlier : s.GoesBackWithin furthest calls) : (s.afterText calls).IsSettled := by
  induction calls generalizing s furthest with
  | nil => exact settled
  | cons call calls ih =>
      obtain ⟨within, earlier⟩ := earlier
      have settledAfter := reads.isSettled_afterTextCall settled known within
      exact ih (reads.afterTextCall call) settledAfter (knows_furthestAfter known settledAfter)
        earlier

/-- The unread rest of a text starts at the column. -/
theorem Reads.unread_eq_drop_column (reads : Reads text s) (settled : s.IsSettled) :
    s.unread = text.drop (s.column - 1) := by
  rw [settled.column_eq, Nat.add_sub_cancel, ← List.drop_drop, ← reads.remaining_eq,
    unread_eq_drop]
  rcases Nat.le_total s.passed s.remaining.length with within | behind
  · rw [Nat.min_eq_left within]
  · rw [Nat.min_eq_right behind, List.drop_eq_nil_of_le behind, List.drop_length]

end Earlier

/-! ### What a user sees -/

/-- A user sees that so many characters are passed. -/
structure PassesOver (s : Scanner Char) (count : Nat) (after : Scanner Char) : Prop where
  position_eq : after.position = s.position + count
  column_eq : after.column = s.column + count
  unread_eq : after.unread = s.unread.drop count

/-- What the calls for words and runs do.  A word matches if the unread rest starts with it and no
letter or digit follows.  Of several words the first of the longest that match is accepted.  A run
is the longest one, and blanks are spaces, tabs and line breaks.  What matches is passed, and where
nothing matches the place stays the same. -/
structure MatchesText (s : Scanner Char) : Prop where
  acceptWord_iff : ∀ word, (s.acceptWord word).1 = true ↔
    word.toList <+: s.unread ∧ ∀ c, s.unread[word.length]? = some c → isAlphanumeric c = false
  acceptWord_passes : ∀ word, (s.acceptWord word).1 = true →
    PassesOver s word.length (s.acceptWord word).2
  acceptWord_stays : ∀ word, (s.acceptWord word).1 = false → SamePlace s (s.acceptWord word).2
  acceptLongest_eq : ∀ words, (s.acceptLongest words).1 =
    longest? (words.filter fun word => (s.acceptWord word).1)
  acceptLongest_none_iff : ∀ words, (s.acceptLongest words).1 = none ↔
    ∀ word ∈ words, (s.acceptWord word).1 = false
  acceptLongest_passes : ∀ words word, (s.acceptLongest words).1 = some word →
    PassesOver s word.length (s.acceptLongest words).2
  acceptLongest_stays : ∀ words, (s.acceptLongest words).1 = none →
    SamePlace s (s.acceptLongest words).2
  scanWhile_eq : ∀ p, (s.scanWhile p).1 = String.ofList (s.unread.takeWhile p)
  scanWhile_passes : ∀ p, PassesOver s (s.unread.takeWhile p).length (s.scanWhile p).2
  skipBlanks_iff : s.skipBlanks.1 = true ↔ s.unread.takeWhile isBlank ≠ []
  skipBlanks_passes : PassesOver s (s.unread.takeWhile isBlank).length s.skipBlanks.2

section Matches

variable {s after : Scanner Char} {count : Nat} {word : String}

/-- What is passed of the unread rest is seen in the position and in the column. -/
theorem Advances.passesOver (advances : Advances s count after) (settled : s.IsSettled)
    (within : count ≤ s.unread.length) : PassesOver s count after where
  position_eq := by
    rw [position, position, advances.passed_eq]
    omega
  column_eq := by
    rw [unread_eq_drop, List.length_drop] at within
    rw [(advances.settles settled).column_eq, settled.column_eq, advances.committed_eq,
      advances.passed_eq, advances.remaining_eq]
    omega
  unread_eq := advances.unread_eq

theorem comesNext_iff (text : List Char) (word : String) :
    comesNext text word = true ↔
      word.toList <+: text ∧ ∀ c, text[word.length]? = some c → isAlphanumeric c = false := by
  rw [comesNext, Bool.and_eq_true, List.isPrefixOf_iff_prefix, endsWord, List.head?_drop]
  cases text[word.length]? <;> simp

theorem length_le_of_comesNext {text : List Char} (comes : comesNext text word = true) :
    word.length ≤ text.length := by
  have starts := ((comesNext_iff text word).mp comes).1
  rw [← String.length_toList]
  exact starts.length_le

/-- A scanner at a known place matches what comes next. -/
theorem IsSettled.matchesText (settled : s.IsSettled) : s.MatchesText := by
  have words (word : String) : (s.acceptWord word).1 = comesNext s.unread word :=
    (acceptWord_advances word s).1
  have longest (words : List String) : (s.acceptLongest words).1 =
      (byLength words).find? (comesNext s.unread) := (acceptFirst_advances _ s).1
  constructor
  case acceptWord_iff =>
    intro word
    rw [words, comesNext_iff]
  case acceptWord_passes =>
    intro word accepted
    obtain ⟨answer, advances⟩ := acceptWord_advances word s
    rw [accepted] at answer
    rw [if_pos answer.symm] at advances
    exact advances.passesOver settled (length_le_of_comesNext answer.symm)
  case acceptWord_stays =>
    intro word refused
    obtain ⟨fills, passed⟩ := acceptWord_spec word s
    exact fills.samePlace settled (passed refused)
  case acceptLongest_eq =>
    intro list
    rw [longest, find?_byLength, funext words]
  case acceptLongest_none_iff =>
    intro list
    rw [longest, List.find?_eq_none]
    simp [words, (perm_byLength list).mem_iff]
  case acceptLongest_passes =>
    intro list word accepted
    obtain ⟨answer, advances⟩ := acceptFirst_advances (byLength list) s
    have found := answer.symm.trans accepted
    rw [found] at advances
    exact advances.passesOver settled (length_le_of_comesNext (List.find?_some found))
  case acceptLongest_stays =>
    intro list refused
    obtain ⟨answer, advances⟩ := acceptFirst_advances (byLength list) s
    rw [answer.symm.trans refused] at advances
    exact advances.toFills.samePlace settled advances.passed_eq
  case scanWhile_eq =>
    intro p
    exact congrArg String.ofList (takeWhile_spec p s).1
  case scanWhile_passes =>
    intro p
    obtain ⟨run, advances⟩ := takeWhile_spec p s
    rw [run] at advances
    exact advances.passesOver settled (List.takeWhile_prefix p).length_le
  case skipBlanks_iff =>
    show (!(s.takeWhile isBlank).1.isEmpty) = true ↔ _
    rw [(takeWhile_spec isBlank s).1]
    simp
  case skipBlanks_passes =>
    obtain ⟨run, advances⟩ := takeWhile_spec isBlank s
    rw [run] at advances
    exact advances.passesOver settled (List.takeWhile_prefix isBlank).length_le

end Matches

/-- **Words and runs are matched on the unread rest**, and nothing is passed where they do not
match.  This holds after any calls on the scanner of a text that move it to earlier positions
only; the rest is that of the text from the column on. -/
theorem matchesText_after_calls (text : List Char) (calls : List TextCall)
    (earlier : (ofList text).GoesBack calls) :
    let s := (ofList text).afterText calls
    s.unread = text.drop (s.column - 1) ∧ s.MatchesText := by
  intro s
  have settled : s.IsSettled := (reads_ofList text).isSettled_afterText (isSettled_ofList text)
    (isSettled_ofList text) earlier
  exact ⟨((reads_ofList text).afterText calls).unread_eq_drop_column settled, settled.matchesText⟩

/-- A scanner commits, refuses a word for the letter that follows, accepts a longer one, and goes
back into it. -/
theorem matchesText_after_calls_into_word :
    let text := "3 absx y".toList
    let calls : List TextCall := [.call .next, .call .commit, .acceptWord " abs",
      .acceptWord " absx", .call (.moveTo 0), .call (.peekNth 40)]
    let s := (ofList text).afterText calls
    (ofList text).GoesBack calls ∧ s.unread = text.drop (s.column - 1) ∧ s.MatchesText ∧
      s.column = 3 := by
  intro text calls s
  have earlier : (ofList text).GoesBack calls := by decide +kernel
  have column : s.column = 3 := by decide +kernel
  obtain ⟨rest, matchesText⟩ := matchesText_after_calls text calls earlier
  exact ⟨earlier, rest, matchesText, column⟩

end Scanner

end Formula
