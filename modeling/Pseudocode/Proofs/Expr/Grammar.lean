import Mathlib.Tactic.Common
import Pseudocode.Expr.Tree

namespace Pseudocode.Expr

/-- The ranks of the grammar, those that bind loosely first. -/
inductive Rank where
  | comparison
  | sum
  | product
  | unary
  | atom

def Compare.symbol : Compare → Symbol
  | .equal => .equal
  | .notEqual => .notEqual
  | .greaterEqual => .greaterEqual
  | .lessEqual => .lessEqual
  | .greater => .greater
  | .less => .less

/-- The tokens of each rank and the trees that they write. Sums and products group to the left, and
a comparison has two sides at most. -/
inductive Derives : Rank → List Token → Tree → Prop where
  | compare {xs ys : List Token} {left right : Tree} (op : Compare) (hleft : Derives .sum xs left)
      (hright : Derives .sum ys right) :
      Derives .comparison (xs ++ .symbol op.symbol :: ys) (.compare op left right)
  | ofSum {xs : List Token} {tree : Tree} (h : Derives .sum xs tree) :
      Derives .comparison xs tree
  | addition {xs ys : List Token} {left right : Tree} (op : Arith)
      (additive : op = .add ∨ op = .sub) (hleft : Derives .sum xs left)
      (hright : Derives .product ys right) :
      Derives .sum (xs ++ .symbol op.symbol :: ys) (.arith op left right)
  | ofProduct {xs : List Token} {tree : Tree} (h : Derives .product xs tree) :
      Derives .sum xs tree
  | multiplication {xs ys : List Token} {left right : Tree} (op : Arith)
      (multiplicative : op = .mul ∨ op = .div) (hleft : Derives .product xs left)
      (hright : Derives .unary ys right) :
      Derives .product (xs ++ .symbol op.symbol :: ys) (.arith op left right)
  | ofUnary {xs : List Token} {tree : Tree} (h : Derives .unary xs tree) :
      Derives .product xs tree
  | negate {xs : List Token} {operand : Tree} (h : Derives .unary xs operand) :
      Derives .unary (.symbol .minus :: xs) (.negate operand)
  | positive {xs : List Token} {operand : Tree} (h : Derives .unary xs operand) :
      Derives .unary (.symbol .plus :: xs) (.positive operand)
  | ofAtom {xs : List Token} {tree : Tree} (h : Derives .atom xs tree) : Derives .unary xs tree
  | number (text : String) : Derives .atom [.number text] (.number text)
  | quoted (quote : Char) (body : String) : Derives .atom [.quoted quote body] (.quoted body)
  | name (text : String) : Derives .atom [.name text] (.name text)
  | group {xs : List Token} {inner : Tree} (h : Derives .comparison xs inner) :
      Derives .atom (.symbol .openParen :: (xs ++ [.symbol .closeParen])) (.group inner)

namespace Tree

/-- The largest number of signs and parentheses on a path from the root of a tree to a leaf. -/
def nesting : Tree → Nat
  | .negate operand => operand.nesting + 1
  | .positive operand => operand.nesting + 1
  | .group inner => inner.nesting + 1
  | .arith _ left right => max left.nesting right.nesting
  | .compare _ left right => max left.nesting right.nesting
  | _ => 0

def Proper : Tree → Prop
  | .negate operand => operand.Proper
  | .positive operand => operand.Proper
  | .group inner => inner.Proper
  | .arith _ left right => left.Proper ∧ right.Proper
  | .compare _ left right => left.Proper ∧ right.Proper
  | .missing _ => False
  | .brokenOff _ _ => False
  | _ => True

end Tree

def Stops {α : Type} (op? : Token → Option α) (tokens : List Token) : Prop :=
  ∀ token rest, tokens = token :: rest → op? token = none

theorem stops_nil {α : Type} (op? : Token → Option α) : Stops op? [] := by
  intro token rest h
  cases h

theorem stops_cons {α : Type} {op? : Token → Option α} {token : Token} {rest : List Token}
    (h : op? token = none) : Stops op? (token :: rest) := by
  intro token' rest' heq
  cases heq
  exact h

theorem readChain_zero (op? : Token → Option Arith) (operand : Reader) (left : Tree)
    (tokens : List Token) : readChain op? operand 0 left tokens = (left, tokens) := by
  cases tokens <;> rfl

theorem readChain_stops {op? : Token → Option Arith} {operand : Reader} {tokens : List Token}
    (h : Stops op? tokens) (bound : Nat) (left : Tree) :
    readChain op? operand bound left tokens = (left, tokens) := by
  cases bound with
  | zero => exact readChain_zero op? operand left tokens
  | succ bound =>
      cases tokens with
      | nil => rfl
      | cons token rest => rw [readChain, h token rest rfl]

theorem readChain_cases (op? : Token → Option Arith) (operand : Reader) (bound : Nat)
    (left : Tree) (tokens : List Token) :
    readChain op? operand bound left tokens = (left, tokens) ∨
    ∃ b token more op, bound = b + 1 ∧ tokens = token :: more ∧ op? token = some op ∧
      readChain op? operand bound left tokens =
        readChain op? operand b (.arith op left (operand more).1) (operand more).2 := by
  cases tokens with
  | nil => exact .inl (readChain_stops (stops_nil _) bound left)
  | cons token more =>
      cases hop : op? token with
      | none => exact .inl (readChain_stops (stops_cons hop) bound left)
      | some op =>
          cases bound with
          | zero => exact .inl (readChain_zero op? operand left _)
          | succ b => exact .inr ⟨b, token, more, op, rfl, rfl, hop, by rw [readChain, hop]⟩

theorem readComparison_cases (unary : Reader) (tokens : List Token) :
    (Stops compareOp? (readSum unary tokens).2 ∧
      readComparison unary tokens = readSum unary tokens) ∨
    ∃ token more op, (readSum unary tokens).2 = token :: more ∧ compareOp? token = some op ∧
      readComparison unary tokens =
        (.compare op (readSum unary tokens).1 (readSum unary more).1, (readSum unary more).2) := by
  unfold readComparison
  cases readSum unary tokens with
  | mk left rest =>
      cases rest with
      | nil => exact .inl ⟨stops_nil _, rfl⟩
      | cons token more =>
          cases hop : compareOp? token with
          | none => exact .inl ⟨stops_cons hop, by simp only [hop]⟩
          | some op => exact .inr ⟨token, more, op, rfl, hop, by simp only [hop]⟩

/-- What a reader of signed and plain atoms can make of its tokens. -/
inductive ReadsUnary : Nat → List Token → Tree × List Token → Prop where
  | missing {depth : Nat} {tokens : List Token} (problem : Problem) :
      ReadsUnary depth tokens (.missing problem, [])
  | atom {depth : Nat} {token : Token} {rest : List Token} {tree : Tree}
      (derives : Derives .atom [token] tree) (flat : tree.nesting = 0) :
      ReadsUnary depth (token :: rest) (tree, rest)
  | negate {depth : Nat} {rest : List Token} : ReadsUnary (depth + 1) (.symbol .minus :: rest)
      (.negate (readUnary depth rest).1, (readUnary depth rest).2)
  | positive {depth : Nat} {rest : List Token} : ReadsUnary (depth + 1) (.symbol .plus :: rest)
      (.positive (readUnary depth rest).1, (readUnary depth rest).2)
  | group {depth : Nat} {rest after : List Token}
      (closed : (readComparison (readUnary depth) rest).2 = .symbol .closeParen :: after) :
      ReadsUnary (depth + 1) (.symbol .openParen :: rest)
        (.group (readComparison (readUnary depth) rest).1, after)
  | unclosed {depth : Nat} {tokens : List Token} (before : Tree) (problem : Problem) :
      ReadsUnary depth tokens (.brokenOff before problem, [])

theorem readUnary_openParen (depth : Nat) (rest : List Token) :
    ReadsUnary (depth + 1) (.symbol .openParen :: rest)
      (readUnary (depth + 1) (.symbol .openParen :: rest)) := by
  rw [readUnary]
  dsimp only
  split
  · next after hclosed => exact .group hclosed
  · exact .unclosed _ _

theorem readUnary_reads (depth : Nat) (tokens : List Token) :
    ReadsUnary depth tokens (readUnary depth tokens) := by
  cases tokens with
  | nil => cases depth <;> exact .missing _
  | cons token rest =>
      cases token with
      | number text => cases depth <;> exact .atom (.number text) rfl
      | quoted quote body => cases depth <;> exact .atom (.quoted quote body) rfl
      | name text => cases depth <;> exact .atom (.name text) rfl
      | symbol s =>
          cases depth with
          | zero => cases s <;> exact .missing _
          | succ depth =>
              cases s with
              | minus => exact .negate
              | plus => exact .positive
              | openParen => exact readUnary_openParen depth rest
              | _ => exact .missing _

def Shortens (reader : Reader) : Prop := ∀ tokens, (reader tokens).2.length ≤ tokens.length

section Shortens

variable {op? : Token → Option Arith} {operand unary : Reader}

theorem readChain_length (h : Shortens operand) (bound : Nat) (left : Tree) (tokens : List Token) :
    (readChain op? operand bound left tokens).2.length ≤ tokens.length := by
  induction bound generalizing left tokens with
  | zero =>
      simp only [readChain_zero, Nat.le_refl]
  | succ bound ih =>
      obtain hover | ⟨b, token, more, op, hbound, rfl, -, hmore⟩ :=
        readChain_cases op? operand (bound + 1) left tokens
      · simp only [hover, Nat.le_refl]
      · cases hbound
        have hrest := ih (.arith op left (operand more).1) (operand more).2
        have hoperand := h more
        rw [hmore, List.length_cons]
        omega

theorem shortens_rank (h : Shortens operand) : Shortens (readRank op? operand) := by
  intro tokens
  exact Nat.le_trans (readChain_length h _ _ _) (h tokens)

theorem shortens_comparison (h : Shortens unary) : Shortens (readComparison unary) := by
  have hsum : Shortens (readSum unary) := shortens_rank (shortens_rank h)
  intro tokens
  have hleft := hsum tokens
  obtain ⟨-, hread⟩ | ⟨token, more, op, hrest, -, hread⟩ := readComparison_cases unary tokens
  · rw [hread]
    exact hleft
  · have hright := hsum more
    rw [hrest, List.length_cons] at hleft
    rw [hread]
    dsimp only
    omega

theorem shortens_unary (depth : Nat) : Shortens (readUnary depth) := by
  induction depth with
  | zero =>
      intro tokens
      have hreads := readUnary_reads 0 tokens
      generalize readUnary 0 tokens = result at hreads
      cases hreads with
      | missing => exact Nat.zero_le _
      | atom => simp
      | unclosed => exact Nat.zero_le _
  | succ depth ih =>
      intro tokens
      have hreads := readUnary_reads (depth + 1) tokens
      generalize readUnary (depth + 1) tokens = result at hreads
      cases hreads with
      | missing => exact Nat.zero_le _
      | atom => simp
      | @negate _ rest => exact Nat.le_succ_of_le (ih rest)
      | @positive _ rest => exact Nat.le_succ_of_le (ih rest)
      | @group _ rest after closed =>
          have hinner := shortens_comparison ih rest
          rw [closed, List.length_cons] at hinner
          simp only [List.length_cons]
          omega
      | unclosed => exact Nat.zero_le _

theorem readChain_bound (h : Shortens operand) {bound bound' : Nat} {left : Tree}
    {tokens : List Token} (hbound : tokens.length ≤ bound) (hbound' : tokens.length ≤ bound') :
    readChain op? operand bound left tokens = readChain op? operand bound' left tokens := by
  induction bound generalizing bound' left tokens with
  | zero =>
      obtain rfl := List.eq_nil_of_length_eq_zero (Nat.le_zero.mp hbound)
      rw [readChain_stops (stops_nil _), readChain_stops (stops_nil _)]
  | succ bound ih =>
      cases tokens with
      | nil => rw [readChain_stops (stops_nil _), readChain_stops (stops_nil _)]
      | cons token tokens =>
          cases bound' with
          | zero => simp at hbound'
          | succ bound' =>
              rw [readChain, readChain]
              cases op? token with
              | none => rfl
              | some op =>
                  have hrest := h tokens
                  simp only [List.length_cons] at hbound hbound'
                  exact ih (by omega) (by omega)

theorem readChain_cons (h : Shortens operand) {token : Token} {op : Arith} {left right : Tree}
    {tokens rest : List Token} (hop : op? token = some op)
    (hright : operand tokens = (right, rest)) :
    readChain op? operand (token :: tokens).length left (token :: tokens) =
      readChain op? operand rest.length (.arith op left right) rest := by
  have hlength := h tokens
  rw [hright] at hlength
  rw [List.length_cons, readChain, hop]
  simp only [hright]
  exact readChain_bound h hlength (Nat.le_refl _)

end Shortens

/-- How tokens of a rank are read, with other tokens behind them. A sum or a product is read up to
where its chain of operations goes on. -/
def IsRead (depth : Nat) : Rank → List Token → Tree → Prop
  | .comparison, xs, tree => ∀ rest, Stops productOp? rest → Stops sumOp? rest →
      Stops compareOp? rest → readComparison (readUnary depth) (xs ++ rest) = (tree, rest)
  | .sum, xs, tree => ∀ rest, Stops productOp? rest →
      readSum (readUnary depth) (xs ++ rest) =
        readChain sumOp? (readProduct (readUnary depth)) rest.length tree rest
  | .product, xs, tree => ∀ rest, readProduct (readUnary depth) (xs ++ rest) =
      readChain productOp? (readUnary depth) rest.length tree rest
  | .unary, xs, tree => ∀ rest, readUnary depth (xs ++ rest) = (tree, rest)
  | .atom, xs, tree => ∀ rest, readUnary depth (xs ++ rest) = (tree, rest)

section IsRead

variable {depth : Nat} {xs : List Token} {tree : Tree}

theorem IsRead.product_stops (h : IsRead depth .product xs tree) {rest : List Token}
    (hproduct : Stops productOp? rest) :
    readProduct (readUnary depth) (xs ++ rest) = (tree, rest) := by
  rw [h rest, readChain_stops hproduct]

theorem IsRead.sum_stops (h : IsRead depth .sum xs tree) {rest : List Token}
    (hproduct : Stops productOp? rest) (hsum : Stops sumOp? rest) :
    readSum (readUnary depth) (xs ++ rest) = (tree, rest) := by
  rw [h rest hproduct, readChain_stops hsum]

theorem compareOp?_symbol (op : Compare) : compareOp? (.symbol op.symbol) = some op := by
  cases op <;> rfl

/-- Tokens that derive a tree are read as that tree, if signs and parentheses are not nested too
deeply in it. -/
theorem isRead_of_derives {rank : Rank} (h : Derives rank xs tree)
    (hdepth : tree.nesting ≤ depth) : IsRead depth rank xs tree := by
  -- The left operand of a chain is read as the start of the whole chain, so that the induction
  -- needs what follows it to be any tokens and not only some that stop the chain.
  induction h generalizing depth with
  | @compare xs ys left right op hleft hright ihLeft ihRight =>
      intro rest hproduct hsum hcompare
      rw [Tree.nesting] at hdepth
      have hfirst : readSum (readUnary depth) (xs ++ .symbol op.symbol :: (ys ++ rest)) =
          (left, .symbol op.symbol :: (ys ++ rest)) :=
        (ihLeft (by omega)).sum_stops (stops_cons (by cases op <;> rfl))
          (stops_cons (by cases op <;> rfl))
      have hsecond : readSum (readUnary depth) (ys ++ rest) = (right, rest) :=
        (ihRight (by omega)).sum_stops hproduct hsum
      rw [List.append_assoc, List.cons_append]
      unfold readComparison
      simp only [hfirst, hsecond, compareOp?_symbol]
  | ofSum _ ih =>
      intro rest hproduct hsum hcompare
      have hread := (ih hdepth).sum_stops hproduct hsum
      obtain ⟨-, hcomparison⟩ | ⟨token, more, op, hrest, hop, -⟩ :=
        readComparison_cases (readUnary depth) _
      · rw [hcomparison, hread]
      · rw [hread] at hrest
        rw [hcompare token more hrest] at hop
        cases hop
  | @addition xs ys left right op additive _ _ ihLeft ihRight =>
      intro rest hproduct
      rw [Tree.nesting] at hdepth
      have hproductOp : productOp? (.symbol op.symbol) = none := by
        rcases additive with rfl | rfl <;> rfl
      have hsumOp : sumOp? (.symbol op.symbol) = some op := by
        rcases additive with rfl | rfl <;> rfl
      rw [List.append_assoc, List.cons_append, ihLeft (by omega) _ (stops_cons hproductOp)]
      exact readChain_cons (shortens_rank (shortens_unary depth)) hsumOp
        ((ihRight (by omega)).product_stops hproduct)
  | ofProduct _ ih =>
      intro rest hproduct
      unfold readSum readRank
      simp only [(ih hdepth).product_stops hproduct]
  | @multiplication xs ys left right op multiplicative _ _ ihLeft ihRight =>
      intro rest
      rw [Tree.nesting] at hdepth
      have hop : productOp? (.symbol op.symbol) = some op := by
        rcases multiplicative with rfl | rfl <;> rfl
      rw [List.append_assoc, List.cons_append, ihLeft (by omega) _]
      exact readChain_cons (shortens_unary depth) hop (ihRight (by omega) rest)
  | ofUnary _ ih =>
      intro rest
      have hread := ih hdepth rest
      unfold readProduct readRank
      simp only [hread]
  | negate _ ih =>
      intro rest
      rw [Tree.nesting] at hdepth
      cases depth with
      | zero => omega
      | succ depth =>
          have hread := ih (Nat.le_of_succ_le_succ hdepth) rest
          rw [List.cons_append, readUnary]
          simp only [hread]
  | positive _ ih =>
      intro rest
      rw [Tree.nesting] at hdepth
      cases depth with
      | zero => omega
      | succ depth =>
          have hread := ih (Nat.le_of_succ_le_succ hdepth) rest
          rw [List.cons_append, readUnary]
          simp only [hread]
  | ofAtom _ ih => exact ih hdepth
  | number text => intro rest; cases depth <;> rfl
  | quoted quote body => intro rest; cases depth <;> rfl
  | name text => intro rest; cases depth <;> rfl
  | group _ ih =>
      intro rest
      rw [Tree.nesting] at hdepth
      cases depth with
      | zero => omega
      | succ depth =>
          have hread := ih (Nat.le_of_succ_le_succ hdepth) (.symbol .closeParen :: rest)
            (stops_cons rfl) (stops_cons rfl) (stops_cons rfl)
          rw [List.cons_append, List.append_assoc, List.singleton_append, readUnary]
          simp only [hread]

end IsRead

/-- A reader takes tokens of a rank from the start of a list, unless its tree has a gap. -/
def Explains (rank : Rank) (depth : Nat) (reader : Reader) : Prop :=
  ∀ tokens, (reader tokens).1.Proper → ∃ xs, tokens = xs ++ (reader tokens).2 ∧
    Derives rank xs (reader tokens).1 ∧ (reader tokens).1.nesting ≤ depth

section Explains

variable {rank rank' : Rank} {depth : Nat} {op? : Token → Option Arith} {operand unary : Reader}

theorem readChain_explains (hoperand : Explains rank' depth operand)
    (hop : ∀ {token op xs ys left right}, op? token = some op → Derives rank xs left →
      Derives rank' ys right → Derives rank (xs ++ token :: ys) (.arith op left right))
    {bound : Nat} {left tree : Tree} {tokens rest : List Token}
    (h : readChain op? operand bound left tokens = (tree, rest)) (hproper : tree.Proper) :
    left.Proper ∧ ∃ ys, tokens = ys ++ rest ∧ ∀ xs, Derives rank xs left → left.nesting ≤ depth →
      Derives rank (xs ++ ys) tree ∧ tree.nesting ≤ depth := by
  induction bound generalizing left tokens with
  | zero =>
      rw [readChain_zero] at h
      cases h
      exact ⟨hproper, [], rfl, fun xs hxs hdepth => ⟨by rwa [List.append_nil], hdepth⟩⟩
  | succ bound ih =>
      obtain hover | ⟨b, token, more, op, hbound, rfl, hfound, hmore⟩ :=
        readChain_cases op? operand (bound + 1) left tokens
      · rw [hover] at h
        cases h
        exact ⟨hproper, [], rfl, fun xs hxs hdepth => ⟨by rwa [List.append_nil], hdepth⟩⟩
      · cases hbound
        rw [hmore] at h
        obtain ⟨⟨hleft, hright⟩, ys, hys, hchain⟩ := ih h
        obtain ⟨zs, hzs, hderives, hnesting⟩ := hoperand more hright
        refine ⟨hleft, token :: (zs ++ ys), ?_, ?_⟩
        · rw [List.cons_append, List.append_assoc, ← hys, ← hzs]
        · intro xs hxs hdepth
          have hlonger := hchain _ (hop hfound hxs hderives) (Nat.max_le.mpr ⟨hdepth, hnesting⟩)
          rwa [List.append_assoc, List.cons_append] at hlonger

theorem readRank_explains (hoperand : Explains rank' depth operand)
    (hsingle : ∀ {xs tree}, Derives rank' xs tree → Derives rank xs tree)
    (hop : ∀ {token op xs ys left right}, op? token = some op → Derives rank xs left →
      Derives rank' ys right → Derives rank (xs ++ token :: ys) (.arith op left right)) :
    Explains rank depth (readRank op? operand) := by
  intro tokens hproper
  have hchained : readChain op? operand (operand tokens).2.length (operand tokens).1
      (operand tokens).2 = readRank op? operand tokens := rfl
  obtain ⟨hleft, ys, hys, hchain⟩ := readChain_explains hoperand hop hchained hproper
  obtain ⟨xs, hxs, hderives, hnesting⟩ := hoperand tokens hleft
  refine ⟨xs ++ ys, ?_, hchain xs (hsingle hderives) hnesting⟩
  rw [List.append_assoc]
  exact hxs.trans (congrArg (xs ++ ·) hys)

theorem productOp?_eq_some {token : Token} {op : Arith} (h : productOp? token = some op) :
    token = .symbol op.symbol ∧ (op = .mul ∨ op = .div) := by
  unfold productOp? at h
  split at h <;> cases h
  · exact ⟨rfl, .inl rfl⟩
  · exact ⟨rfl, .inr rfl⟩

theorem sumOp?_eq_some {token : Token} {op : Arith} (h : sumOp? token = some op) :
    token = .symbol op.symbol ∧ (op = .add ∨ op = .sub) := by
  unfold sumOp? at h
  split at h <;> cases h
  · exact ⟨rfl, .inl rfl⟩
  · exact ⟨rfl, .inr rfl⟩

theorem compareOp?_eq_some {token : Token} {op : Compare} (h : compareOp? token = some op) :
    token = .symbol op.symbol := by
  unfold compareOp? at h
  split at h <;> cases h <;> rfl

theorem readProduct_explains (h : Explains .unary depth unary) :
    Explains .product depth (readProduct unary) := by
  refine readRank_explains h .ofUnary ?_
  intro token op xs ys left right hop hleft hright
  obtain ⟨rfl, hrank⟩ := productOp?_eq_some hop
  exact .multiplication op hrank hleft hright

theorem readSum_explains (h : Explains .unary depth unary) :
    Explains .sum depth (readSum unary) := by
  refine readRank_explains (readProduct_explains h) .ofProduct ?_
  intro token op xs ys left right hop hleft hright
  obtain ⟨rfl, hrank⟩ := sumOp?_eq_some hop
  exact .addition op hrank hleft hright

theorem readComparison_explains (h : Explains .unary depth unary) :
    Explains .comparison depth (readComparison unary) := by
  have hsum := readSum_explains h
  intro tokens hproper
  obtain ⟨-, hread⟩ | ⟨token, more, op, hrest, hop, hread⟩ := readComparison_cases unary tokens
  · rw [hread] at hproper ⊢
    obtain ⟨xs, hxs, hderives, hnesting⟩ := hsum tokens hproper
    exact ⟨xs, hxs, .ofSum hderives, hnesting⟩
  · rw [hread] at hproper ⊢
    obtain ⟨xs, hxs, hleft, hleftNesting⟩ := hsum tokens hproper.1
    obtain ⟨ys, hys, hright, hrightNesting⟩ := hsum more hproper.2
    obtain rfl := compareOp?_eq_some hop
    refine ⟨_, ?_, .compare op hleft hright, Nat.max_le.mpr ⟨hleftNesting, hrightNesting⟩⟩
    rw [List.append_assoc, List.cons_append, ← hys, ← hrest, ← hxs]

theorem readUnary_explains (depth : Nat) : Explains .unary depth (readUnary depth) := by
  induction depth with
  | zero =>
      intro tokens hproper
      have hreads := readUnary_reads 0 tokens
      generalize readUnary 0 tokens = result at hreads hproper
      cases hreads with
      | missing problem => exact hproper.elim
      | unclosed before problem => exact hproper.elim
      | atom derives flat => exact ⟨_, rfl, .ofAtom derives, Nat.le_of_eq flat⟩
  | succ depth ih =>
      intro tokens hproper
      have hreads := readUnary_reads (depth + 1) tokens
      generalize readUnary (depth + 1) tokens = result at hreads hproper
      cases hreads with
      | missing problem => exact hproper.elim
      | unclosed before problem => exact hproper.elim
      | atom derives flat =>
          exact ⟨_, rfl, .ofAtom derives, Nat.le_trans (Nat.le_of_eq flat) (Nat.zero_le _)⟩
      | @negate _ rest =>
          obtain ⟨xs, hxs, hderives, hnesting⟩ := ih rest hproper
          exact ⟨_, congrArg _ hxs, .negate hderives, Nat.succ_le_succ hnesting⟩
      | @positive _ rest =>
          obtain ⟨xs, hxs, hderives, hnesting⟩ := ih rest hproper
          exact ⟨_, congrArg _ hxs, .positive hderives, Nat.succ_le_succ hnesting⟩
      | @group _ rest after closed =>
          obtain ⟨xs, hxs, hderives, hnesting⟩ := readComparison_explains ih rest hproper
          refine ⟨_, ?_, .ofAtom (.group hderives), Nat.succ_le_succ hnesting⟩
          rw [closed] at hxs
          simp [hxs]

end Explains

theorem readComparison_of_derives {depth : Nat} {tokens : List Token} {tree : Tree}
    (h : Derives .comparison tokens tree) (hdepth : tree.nesting ≤ depth) :
    readComparison (readUnary depth) tokens = (tree, []) := by
  have hread := isRead_of_derives h hdepth [] (stops_nil _) (stops_nil _) (stops_nil _)
  rwa [List.append_nil] at hread

theorem Derives.unique {tokens : List Token} {tree tree' : Tree}
    (h : Derives .comparison tokens tree) (h' : Derives .comparison tokens tree') :
    tree = tree' := by
  have hread := readComparison_of_derives h (Nat.le_max_left _ tree'.nesting)
  have hread' := readComparison_of_derives h' (Nat.le_max_right tree.nesting _)
  rw [hread] at hread'
  exact (Prod.ext_iff.mp hread').1

theorem Derives.proper {rank : Rank} {tokens : List Token} {tree : Tree}
    (h : Derives rank tokens tree) : tree.Proper := by
  induction h with
  | compare _ _ _ ihLeft ihRight => exact ⟨ihLeft, ihRight⟩
  | addition _ _ _ _ ihLeft ihRight => exact ⟨ihLeft, ihRight⟩
  | multiplication _ _ _ _ ihLeft ihRight => exact ⟨ihLeft, ihRight⟩
  | ofSum _ ih | ofProduct _ ih | ofUnary _ ih | ofAtom _ ih => exact ih
  | negate _ ih | positive _ ih | group _ ih => exact ih
  | number | quoted | name => trivial

theorem Derives.ne_nil {rank : Rank} {tokens : List Token} {tree : Tree}
    (h : Derives rank tokens tree) : tokens ≠ [] := by
  induction h with
  | ofSum _ ih | ofProduct _ ih | ofUnary _ ih | ofAtom _ ih => exact ih
  | _ => simp

theorem ofTokens_of_ne_nil {tokens : List Token} (h : tokens ≠ []) :
    Tree.ofTokens tokens = match readComparison (readUnary nestingLimit) tokens with
      | (tree, []) => tree
      | (tree, rest) => .brokenOff tree (.trailing rest) := by
  cases tokens with
  | nil => exact absurd rfl h
  | cons token rest => rfl

/-- The trees without a gap that are made of a list of tokens are those that the tokens derive,
with not too many signs and parentheses inside each other. -/
theorem ofTokens_proper_iff {tokens : List Token} {tree : Tree} :
    (Tree.ofTokens tokens = tree ∧ tree.Proper) ↔
      Derives .comparison tokens tree ∧ tree.nesting ≤ nestingLimit := by
  constructor
  · rintro ⟨rfl, hproper⟩
    by_cases hempty : tokens = []
    · rw [hempty] at hproper
      exact hproper.elim
    · rw [ofTokens_of_ne_nil hempty] at hproper ⊢
      have hexplains := readComparison_explains (readUnary_explains nestingLimit) tokens
      cases hread : readComparison (readUnary nestingLimit) tokens with
      | mk tree rest =>
          rw [hread] at hproper hexplains
          cases rest with
          | nil =>
              obtain ⟨xs, hxs, hderives, hnesting⟩ := hexplains hproper
              rw [List.append_nil] at hxs
              rw [hxs]
              exact ⟨hderives, hnesting⟩
          | cons token rest => exact hproper.elim
  · rintro ⟨hderives, hnesting⟩
    rw [ofTokens_of_ne_nil hderives.ne_nil, readComparison_of_derives hderives hnesting]
    exact ⟨rfl, hderives.proper⟩

end Pseudocode.Expr
