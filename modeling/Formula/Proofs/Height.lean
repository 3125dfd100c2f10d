import Formula.Proofs.Reprinting

/-!
# The height of what is read

Everything that is done with an expression walks down its tree, so the height of the tree is how
deeply these walks are nested.  The limit on the nesting of operands is a limit on brackets and
unary operators, and says nothing about chains: each link of a chain makes the tree higher by one,
and a chain may be as long as the text allows.  So there is no bound on the height of what is read.

Chains are all that is missing.  Between two levels of nesting the tree has at most one chain of
sums and below it one chain of products, down the left spine each.  The limit and the length of the
longest chain together therefore bound the height, and where every level has both chains the bound
is attained.

## Main definitions

* `Expr.longestChain` — the most operators of one rank down a left spine
* `Category.span` — how much higher than an operand a phrase can be
* `Expr.tower` — sums of products of sums of products, as high as they can be

## Main statements

* `Derives.height_le` — the height of a phrase of the grammar
* `height_le_of_parse` — the limit on nesting and the longest chain bound the height
* `not_height_bounded` — the limit alone does not
* `Expr.exists_parse_height_eq` — the bound is attained
-/

namespace Formula

variable {V : Type} {d : Domain V}

/-! ### Chains -/

namespace Expr

/-- The greatest number of operators of one rank that stand at a node, at the root of its left
operand, and so on. -/
def longestChain : Expr V → Nat
  | const _ => 0
  | var _ => 0
  | unary _ operand => operand.longestChain
  | binary op left right =>
      max ((binary op left right).leftSpine op.rank).length
        (max left.longestChain right.longestChain)

/-- No chain of a rank at the root of an expression is longer than the longest one. -/
theorem length_leftSpine_le (rank : Nat) (t : Expr V) :
    (t.leftSpine rank).length ≤ t.longestChain := by
  cases t with
  | const value => exact Nat.le_refl 0
  | var v => exact Nat.le_refl 0
  | unary op operand => exact Nat.zero_le _
  | binary op left right =>
      by_cases sameRank : op.rank = rank
      · rw [← sameRank]
        exact Nat.le_max_left _ _
      · rw [leftSpine, if_neg sameRank]
        exact Nat.zero_le _

/-- A chain goes on at its first operand. -/
theorem length_leftSpine_binary {op : BinaryOp} {rank : Nat} (sameRank : op.rank = rank)
    (left right : Expr V) :
    ((binary op left right).leftSpine rank).length = (left.leftSpine rank).length + 1 := by
  rw [leftSpine, if_pos sameRank, List.length_cons]

end Expr

/-- How much higher than an operand of the same nesting the tree of a phrase can be: a product has
its own chain, and a sum its own chain and that of a product below it. -/
def Category.span (links : Nat) (e : Expr V) : Category → Nat
  | .expression => (e.leftSpine 1).length + links
  | .term => (e.leftSpine 2).length
  | .operand | .bare => 0

/-! ### Phrases -/

/-- **The height of a phrase.**  Every level of nesting adds two chains to the height, or a unary
operator. -/
theorem Derives.height_le {category : Category} {text rest : List Char} {e : Expr V} {n links : Nat}
    (derivation : Derives d category text e n rest) (short : e.longestChain ≤ links) :
    e.height + max 1 (2 * links) ≤ category.span links e + n * max 1 (2 * links) + 1 := by
  have one_le : 1 ≤ max 1 (2 * links) := Nat.le_max_left _ _
  have two_le : 2 * links ≤ max 1 (2 * links) := Nat.le_max_right _ _
  -- What a level adds is only used through these two bounds.
  generalize max 1 (2 * links) = level at one_le two_le ⊢
  induction derivation with
  | @term _ e _ _ _ ih =>
      have whole := ih short
      have chain := (e.length_leftSpine_le 2).trans short
      simp only [Category.span] at whole ⊢
      omega
  | @sum _ left n _ op _ right m _ _ _ isSum _ ihFirst ihLast =>
      simp only [Expr.longestChain, max_le_iff] at short
      have first := ihFirst short.2.1
      have last := ihLast short.2.2
      have chain := (right.length_leftSpine_le 2).trans short.2.2
      have deepFirst := Nat.mul_le_mul_right level (Nat.le_max_left n m)
      have deepLast := Nat.mul_le_mul_right level (Nat.le_max_right n m)
      simp only [Category.span, Expr.length_leftSpine_binary isSum, Expr.height] at first last ⊢
      omega
  | operand _ ih =>
      have whole := ih short
      simp only [Category.span] at whole ⊢
      omega
  | @product _ left n _ op _ right m _ _ _ isProduct _ ihFirst ihLast =>
      simp only [Expr.longestChain, max_le_iff] at short
      have first := ihFirst short.2.1
      have last := ihLast short.2.2
      have deepFirst := Nat.mul_le_mul_right level (Nat.le_max_left n m)
      have deepLast := Nat.mul_le_mul_right level (Nat.le_max_right n m)
      simp only [Category.span, Expr.length_leftSpine_binary isProduct, Expr.height]
        at first last ⊢
      omega
  | blanks _ _ _ ih => exact ih short
  | constant =>
      simp only [Expr.height, Category.span]
      omega
  | letter =>
      simp only [Expr.height, Category.span]
      omega
  | @unary _ _ _ _ n _ _ _ ih =>
      have inner := ih short
      simp only [Category.span, Expr.height, Nat.add_one_mul] at inner ⊢
      omega
  | @brackets _ e n _ _ ih =>
      have inner := ih short
      have chain := (e.length_leftSpine_le 1).trans short
      simp only [Category.span, Nat.add_one_mul] at inner ⊢
      omega

/-! ### Whole texts -/

/-- **Nesting and chains bound the height.**  The height of an expression that was read is bounded
by the limit on nesting and the length of its longest chain, and by nothing else of the text. -/
theorem height_le_of_parse {text : String} {t : Expr V} (found : parse d text = .ok t) :
    t.height ≤ maxNesting * max 1 (2 * t.longestChain) + 1 := by
  obtain ⟨n, fits, derivation⟩ := derives_of_parseWithin found
  have whole := derivation.height_le (Nat.le_refl t.longestChain)
  have chain := t.length_leftSpine_le 1
  have deep := Nat.mul_le_mul_right (max 1 (2 * t.longestChain)) fits
  simp only [Category.span] at whole
  omega

/-- A sum in a product, with two chains of two links. -/
theorem height_le_of_parse_chains :
    parse checkedInt "(x + y - z) * x / y" =
        .ok (.binary .divide (.binary .multiply (.binary .subtract
          (.binary .add (.var .x) (.var .y)) (.var .z)) (.var .x)) (.var .y)) ∧
      (Expr.binary .divide (.binary .multiply (.binary .subtract
          (.binary .add (.var .x) (.var .y)) (.var .z)) (.var .x)) (.var .y) : Expr Int32).height ≤
        maxNesting * max 1 (2 * 2) + 1 :=
  ⟨rfl, height_le_of_parse (show parse checkedInt "(x + y - z) * x / y" = .ok _ from rfl)⟩

/-- **The limit on nesting alone does not bound the height.**  Sums of any length are read. -/
theorem not_height_bounded :
    ¬∃ bound, ∀ (mode : Mode) (text : String) (t : Expr mode.Value),
      parse mode.domain text = .ok t → t.height ≤ bound := by
  rintro ⟨bound, bounded⟩
  have height : (Expr.longSum bound : Expr Int32).height ≤ bound :=
    bounded .checkedInt _ _ (Expr.parse_minimalText_longSum bound)
  rw [Expr.height_longSum] at height
  exact absurd height (Nat.not_succ_le_self bound)

/-! ### The bound is attained -/

namespace Expr

/-- A chain of a number of operators, with `x` behind each of them. -/
def chainOf (op : BinaryOp) (first : Expr V) : Nat → Expr V
  | 0 => first
  | links + 1 => .binary op (first.chainOf op links) (.var .x)

/-- A sum of a product of a sum of a product and so on, each with the same number of operators. -/
def tower (links : Nat) : Nat → Expr V
  | 0 => .var .x
  | levels + 1 => ((tower links levels).chainOf .multiply links).chainOf .add links

section Chains

variable (op : BinaryOp) (first : Expr V) (links : Nat)

theorem height_chainOf : (first.chainOf op links).height = first.height + links := by
  have leaf : 1 ≤ first.height := by cases first <;> simp [height]
  induction links with
  | zero => rfl
  | succ links ih =>
      rw [chainOf, height, ih, height]
      omega

theorem IsGrouped.chainOf {first : Expr V} (grouped : first.IsGrouped) :
    (first.chainOf op links).IsGrouped := by
  induction links with
  | zero => exact grouped
  | succ links ih => exact ⟨rfl, ih, trivial⟩

theorem length_leftSpine_chainOf :
    ((first.chainOf op links).leftSpine op.rank).length =
      (first.leftSpine op.rank).length + links := by
  induction links with
  | zero => rfl
  | succ links ih => rw [chainOf, length_leftSpine_binary rfl, ih, Nat.add_assoc]

theorem longestChain_chainOf :
    (first.chainOf op links).longestChain =
      max first.longestChain ((first.leftSpine op.rank).length + links) := by
  induction links with
  | zero => exact (Nat.max_eq_left (first.length_leftSpine_le op.rank)).symm
  | succ links ih =>
      rw [chainOf, longestChain, length_leftSpine_binary rfl, length_leftSpine_chainOf, ih,
        longestChain]
      omega

/-- Where the operators of a chain need no brackets, only its first operand may be nested. -/
theorem nesting_chainOf {slot : Slot}
    (bare : ∀ left right : Expr V, (binary op left right).needsBrackets slot = false) :
    ((first.chainOf op (links + 1)).minimallyBracketedIn slot).nesting =
      max (first.minimallyBracketedIn (.left op)).nesting 1 := by
  induction links generalizing slot with
  | zero =>
      rw [chainOf, minimallyBracketedIn_binary, bare]
      rfl
  | succ links ih =>
      have sameRank (left right : Expr V) :
          (binary op left right).needsBrackets (.left op) = false := by
        simp [needsBrackets]
      rw [chainOf, minimallyBracketedIn_binary, bare]
      show max ((first.chainOf op (links + 1)).minimallyBracketedIn (.left op)).nesting 1 = _
      rw [ih sameRank, Nat.max_assoc, Nat.max_self]

end Chains

theorem height_tower (links levels : Nat) :
    (tower links levels : Expr V).height = levels * (2 * links) + 1 := by
  induction levels with
  | zero => simp [tower, height]
  | succ levels ih =>
      rw [tower, height_chainOf, height_chainOf, ih, Nat.succ_mul levels]
      omega

theorem isGrouped_tower (links levels : Nat) : (tower links levels : Expr V).IsGrouped := by
  induction levels with
  | zero => trivial
  | succ levels ih => exact (ih.chainOf .multiply links).chainOf .add links

/-- No chain of a tower goes on in another one, since sums and products take turns. -/
theorem longestChain_tower (links levels : Nat) :
    (tower (links + 1) (levels + 1) : Expr V).longestChain = links + 1 := by
  have sum (t : Expr V) : (t.chainOf .add (links + 1)).leftSpine 2 = [] := rfl
  have product (t : Expr V) : (t.chainOf .multiply (links + 1)).leftSpine 1 = [] := rfl
  have noSpine (levels : Nat) : (tower (links + 1) levels : Expr V).leftSpine 2 = [] := by
    cases levels with
    | zero => rfl
    | succ levels => exact sum _
  have step (levels : Nat) : (tower (links + 1) (levels + 1) : Expr V).longestChain =
      max (tower (links + 1) levels : Expr V).longestChain (links + 1) := by
    rw [tower, longestChain_chainOf, longestChain_chainOf,
      show BinaryOp.add.rank = 1 from rfl, show BinaryOp.multiply.rank = 2 from rfl,
      product, noSpine, List.length_nil, Nat.zero_add, Nat.max_assoc, Nat.max_self]
  induction levels with
  | zero =>
      rw [step]
      exact Nat.max_eq_right (Nat.zero_le _)
  | succ levels ih => rw [step, ih, Nat.max_self]

/-- In the minimal form of a tower each sum but the outermost stands in brackets. -/
theorem nesting_tower (links levels : Nat) :
    (tower (links + 1) (levels + 1) : Expr V).minimallyBracketed.nesting = levels + 1 := by
  have step (levels : Nat) :
      (tower (links + 1) (levels + 1) : Expr V).minimallyBracketed.nesting =
        max ((tower (links + 1) levels : Expr V).minimallyBracketedIn (.left .multiply)).nesting
          1 := by
    rw [minimallyBracketed, tower, nesting_chainOf .add _ links fun _ _ => rfl,
      nesting_chainOf .multiply _ links fun _ _ => rfl, Nat.max_assoc, Nat.max_self]
  induction levels with
  | zero => exact step 0
  | succ levels ih =>
      have inner : ((tower (links + 1) (levels + 1) : Expr V).minimallyBracketedIn
          (.left .multiply)).nesting =
            (tower (links + 1) (levels + 1) : Expr V).minimallyBracketed.nesting + 1 := rfl
      rw [step, inner, ih]
      omega

/-- A tower of as many levels as nesting allows is read from its minimal form. -/
theorem parse_minimalText_tower (links : Nat) :
    parse checkedInt ((tower (links + 1) maxNesting).minimalText checkedInt.text) =
      .ok (tower (links + 1) maxNesting) := by
  have reading := @parse_minimalText_eq .checkedInt (by decide) (tower (links + 1) maxNesting)
    fun _ _ => trivial
  have found := (if_pos (Nat.le_of_eq (nesting_tower links 255))).mp reading
  rwa [regrouped_of_isGrouped (isGrouped_tower _ _)] at found

/-- **The bound on the height is attained** for every length of the longest chain but zero. -/
theorem exists_parse_height_eq (links : Nat) :
    ∃ (text : String) (t : Expr Int32), parse checkedInt text = .ok t ∧
      t.longestChain = links + 1 ∧
      t.height = maxNesting * max 1 (2 * t.longestChain) + 1 := by
  have longest : (tower (links + 1) maxNesting : Expr Int32).longestChain = links + 1 :=
    longestChain_tower links 255
  refine ⟨_, _, parse_minimalText_tower links, longest, ?_⟩
  rw [longest, height_tower, Nat.max_eq_right (by omega)]

end Expr

end Formula
