import Pseudocode.Expr.Token
import Pseudocode.Proofs.Basic
import Pseudocode.Proofs.Text.Case
import Pseudocode.Proofs.Text.Words

namespace Pseudocode

open Text

namespace Decimal

/-- The decimals without a sign: digits of any script, and perhaps a point with digits on at least
one side. -/
inductive Literal : List Char → Prop where
  | whole {digits : List Char} (ne_nil : digits ≠ []) (hdigits : ∀ c ∈ digits, isDigit c = true) :
      Literal digits
  | pointed {whole fraction : List Char} (ne_nil : whole ≠ [] ∨ fraction ≠ [])
      (hwhole : ∀ c ∈ whole, isDigit c = true) (hfraction : ∀ c ∈ fraction, isDigit c = true) :
      Literal (whole ++ '.' :: fraction)

def inLiteral (c : Char) : Bool := isDigit c || c == '.'

variable {cs rest : List Char}

theorem inLiteral_of_isBlank {c : Char} (h : isBlank c = true) : inLiteral c = false :=
  of_isBlank (p := fun c => inLiteral c = false) (by decide +kernel) h

theorem Literal.inLiteral (h : Literal cs) : ∀ c ∈ cs, inLiteral c = true := by
  intro c hc
  cases h with
  | whole _ hdigits => simp [Decimal.inLiteral, hdigits c hc]
  | pointed _ hwhole hfraction =>
      rcases List.mem_append.mp hc with hc | hc
      · simp [Decimal.inLiteral, hwhole c hc]
      · rcases List.mem_cons.mp hc with rfl | hc
        · rfl
        · simp [Decimal.inLiteral, hfraction c hc]

theorem Literal.word (h : Literal cs) : Word cs := by
  refine ⟨?_, ?_⟩
  · cases h with
    | whole ne_nil _ => exact ne_nil
    | pointed _ _ _ => simp
  · intro c hc
    by_contra hblank
    rw [Bool.not_eq_false] at hblank
    have hin := h.inLiteral c hc
    rw [inLiteral_of_isBlank hblank] at hin
    cases hin

theorem Literal.literal?_append (h : Literal cs) (hrest : Apart rest) :
    literal? (cs ++ rest) = some (cs, rest) := by
  have hstop : ∀ c, rest.head? = some c → isDigit c = false ∧ c ≠ '.' := by
    intro c hc
    simpa [Decimal.inLiteral] using inLiteral_of_isBlank (hrest c hc)
  unfold literal?
  dsimp only
  cases h with
  | whole ne_nil hdigits =>
      rw [takeWhile_append_eq hdigits fun c hc => (hstop c hc).1,
        dropWhile_append_eq hdigits fun c hc => (hstop c hc).1]
      split
      · exact absurd rfl ne_nil
      · exact absurd rfl ne_nil
      · exact absurd rfl (hstop '.' rfl).2
      · rfl
  | @pointed whole fraction ne_nil hwhole hfraction =>
      have hpoint : ∀ c, ('.' :: (fraction ++ rest)).head? = some c → isDigit c = false := by
        rintro c ⟨⟩
        decide
      rw [List.append_assoc, List.cons_append, takeWhile_append_eq hwhole hpoint,
        dropWhile_append_eq hwhole hpoint]
      have hfirst := takeWhile_append_eq hfraction fun c hc => (hstop c hc).1
      have hafter := dropWhile_append_eq hfraction fun c hc => (hstop c hc).1
      cases whole with
      | nil =>
          obtain ⟨c, fraction, rfl⟩ := List.exists_cons_of_ne_nil (ne_nil.resolve_left (by simp))
          simp only [hfirst, hafter]
          rfl
      | cons c whole => simp only [hfirst, hafter]

theorem Literal.isLiteral (h : Literal cs) : isLiteral cs = true := by
  have hread := h.literal?_append apart_nil
  rw [List.append_nil] at hread
  rw [Decimal.isLiteral, hread]

theorem literal?_eq_none {c : Char} (h : inLiteral c = false) : literal? (c :: rest) = none := by
  rw [inLiteral, Bool.or_eq_false_iff, beq_eq_false_iff_ne] at h
  unfold literal?
  dsimp only
  rw [List.takeWhile_cons_of_neg (by simp [h.1]), List.dropWhile_cons_of_neg (by simp [h.1])]
  split
  · next heq => exact absurd (List.cons.inj heq).1 h.2
  · rfl
  · next heq _ => exact absurd (List.cons.inj heq).1 h.2
  · next ne_nil _ _ => exact absurd rfl ne_nil

theorem literal_of_literal? {number after : List Char} (h : literal? cs = some (number, after)) :
    Literal number ∧ number ++ after = cs := by
  have hdigits : ∀ {ds : List Char}, ∀ c ∈ ds.takeWhile isDigit, isDigit c = true := fun _ hc =>
    List.mem_takeWhile_imp hc
  unfold literal? at h
  dsimp only at h
  split at h
  · next rest hwhole hafter =>
      split at h
      · cases h
      · next ne_nil =>
          cases h
          refine ⟨.pointed (.inr ne_nil) (List.forall_mem_nil _) hdigits, ?_⟩
          rw [List.cons_append, List.takeWhile_append_dropWhile, ← hafter, ← List.nil_append
            (cs.dropWhile isDigit), ← hwhole, List.takeWhile_append_dropWhile]
  · cases h
  · next rest hafter ne_nil =>
      cases h
      refine ⟨.pointed (.inl ne_nil) hdigits hdigits, ?_⟩
      rw [List.append_assoc, List.cons_append, List.takeWhile_append_dropWhile, ← hafter,
        List.takeWhile_append_dropWhile]
  · next ne_nil _ _ =>
      cases h
      exact ⟨.whole ne_nil hdigits, List.takeWhile_append_dropWhile⟩

end Decimal

namespace Expr

variable {cs rest after body : List Char} {token : Token} {tokens : List Token} {c mark : Char}

def symbolStarts : List Char := ['=', '!', '>', '<', '+', '-', '*', '/', '(', ')']

inductive TokenClass where
  | operator
  | number
  | quoted
  | name
deriving DecidableEq

def TokenClass.starts : TokenClass → Char → Bool
  | operator => fun c => symbolStarts.contains c
  | number => Decimal.inLiteral
  | quoted => isQuote
  | name => startsName

def TokenClass.startedBy (c : Char) : TokenClass :=
  if isQuote c then quoted
  else if symbolStarts.contains c then operator
  else if Decimal.inLiteral c then number
  else name

theorem isQuote_eq_false {p : Char → Bool} (hdouble : p '"' = false) (hsingle : p '\'' = false)
    (h : p c = true) : isQuote c = false := by
  by_contra hquote
  rw [Bool.not_eq_false, isQuote, Bool.or_eq_true, beq_iff_eq, beq_iff_eq] at hquote
  rcases hquote with rfl | rfl <;> simp_all

theorem not_mem_symbolStarts {p : Char → Bool} (hstarts : symbolStarts.all (!p ·) = true)
    (h : p c = true) : c ∉ symbolStarts := by
  intro hc
  have hout := List.all_eq_true.mp hstarts c hc
  rw [h] at hout
  cases hout

theorem lt_128_of_startsName (h : startsName c = true) : c.toNat < 128 := by
  rw [startsName, Bool.or_eq_true, beq_iff_eq] at h
  rcases h with h | rfl
  · have hletter : c.isUpper = true ∨ c.isLower = true := Bool.or_eq_true_iff.mp h
    rw [isUpper_iff, isLower_iff] at hletter
    omega
  · decide

theorem inLiteral_of_startsName (h : startsName c = true) : Decimal.inLiteral c = false := by
  have hall : ∀ n < 128, startsName (Char.ofNat n) = true →
      Decimal.inLiteral (Char.ofNat n) = false := by decide +kernel
  have hc := hall c.toNat (lt_128_of_startsName h)
  rw [Char.ofNat_toNat] at hc
  exact hc h

/-- The first character of a token tells its class. -/
theorem TokenClass.eq_startedBy {kind : TokenClass} (h : kind.starts c = true) :
    kind = startedBy c := by
  cases kind with
  | operator =>
      have hall : symbolStarts.all (startedBy · = operator) = true := by decide
      have hc := List.all_eq_true.mp hall c (List.contains_iff_mem.mp h)
      exact (of_decide_eq_true hc).symm
  | number =>
      have hquote := isQuote_eq_false (p := Decimal.inLiteral) (by decide) (by decide) h
      have hsymbol := not_mem_symbolStarts (p := Decimal.inLiteral) (by decide) h
      have hin : Decimal.inLiteral c = true := h
      simp [startedBy, hquote, hsymbol, hin]
  | quoted =>
      have hquote : isQuote c = true := h
      simp [startedBy, hquote]
  | name =>
      have hquote := isQuote_eq_false (p := startsName) (by decide) (by decide) h
      have hsymbol := not_mem_symbolStarts (p := startsName) (by decide) h
      simp [startedBy, hquote, hsymbol, inLiteral_of_startsName h]

theorem TokenClass.eq_of_starts {kind kind' : TokenClass} (h : kind.starts c = true)
    (h' : kind'.starts c = true) : kind = kind' :=
  (eq_startedBy h).trans (eq_startedBy h').symm

theorem symbol?_eq_none (h : c ∉ symbolStarts) : symbol? (c :: rest) = none := by
  unfold symbol?
  split <;> simp_all [symbolStarts]

theorem nextToken_symbol {symbol : Symbol} (hquote : isQuote c = false)
    (h : symbol? (c :: rest) = some (symbol, after)) :
    nextToken c rest = .ok (.symbol symbol, after) := by
  simp only [nextToken, hquote, h]
  rfl

theorem nextToken_literal (h : Decimal.Literal (c :: cs)) (hrest : Apart rest) :
    nextToken c (cs ++ rest) = .ok (.number (String.ofList (c :: cs)), rest) := by
  have hin : Decimal.inLiteral c = true := h.inLiteral c List.mem_cons_self
  have hquote : isQuote c = false := isQuote_eq_false (by decide) (by decide) hin
  have hsymbol : c ∉ symbolStarts := not_mem_symbolStarts (by decide) hin
  have hliteral := h.literal?_append hrest
  rw [List.cons_append] at hliteral
  simp only [nextToken, hquote, symbol?_eq_none hsymbol, hliteral]
  rfl

theorem nextToken_quoted (hmark : isQuote mark = true) (hbody : mark ∉ body) (rest : List Char) :
    nextToken mark (body ++ mark :: rest) = .ok (.quoted mark (String.ofList body), rest) := by
  have hinside : ∀ c ∈ body, (c != mark) = true := by
    intro c hc
    rw [bne_iff_ne]
    rintro rfl
    exact hbody hc
  have hstop : ∀ c, (mark :: rest).head? = some c → (c != mark) = false := by
    rintro c ⟨⟩
    exact bne_self_eq_false mark
  rw [nextToken, if_pos hmark, dropWhile_append_eq hinside hstop,
    takeWhile_append_eq hinside hstop]

theorem inName_of_isBlank (h : isBlank c = true) : inName c = false :=
  of_isBlank (p := fun c => inName c = false) (by decide +kernel) h

theorem nextToken_name (starts : startsName c = true) (hin : ∀ d ∈ cs, inName d = true)
    (hrest : Apart rest) :
    nextToken c (cs ++ rest) = .ok (.name (String.ofList (c :: cs)), rest) := by
  have hquote : isQuote c = false := isQuote_eq_false (by decide) (by decide) starts
  have hsymbol : c ∉ symbolStarts := not_mem_symbolStarts (by decide) starts
  have hliteral := inLiteral_of_startsName starts
  have hstop : ∀ d, rest.head? = some d → inName d = false := fun d hd =>
    inName_of_isBlank (hrest d hd)
  simp only [nextToken, hquote, symbol?_eq_none hsymbol, Decimal.literal?_eq_none hliteral,
    starts, if_pos, takeWhile_append_eq hin hstop, dropWhile_append_eq hin hstop]
  rfl

inductive Token.WellFormed : Token → Prop where
  | number {cs : List Char} (h : Decimal.Literal cs) : WellFormed (.number (String.ofList cs))
  | quoted {mark : Char} {body : List Char} (hmark : isQuote mark = true) (hbody : mark ∉ body) :
      WellFormed (.quoted mark (String.ofList body))
  | name {c : Char} {cs : List Char} (starts : startsName c = true)
      (hin : ∀ d ∈ cs, inName d = true) : WellFormed (.name (String.ofList (c :: cs)))
  | symbol (s : Symbol) : WellFormed (.symbol s)

theorem append_of_symbol? {symbol : Symbol} (h : symbol? cs = some (symbol, after)) :
    symbol.text.toList ++ after = cs := by
  unfold symbol? at h
  split at h <;> cases h <;> rfl

theorem wellFormed_of_nextToken (h : nextToken c rest = .ok (token, after)) :
    token.WellFormed ∧ token.text.toList ++ after = c :: rest := by
  unfold nextToken at h
  split at h
  · next hmark =>
      split at h
      · cases h
      · next d after' hafter =>
          cases h
          have hd : d = c := by
            have hstop := List.head?_dropWhile_not (· != c) rest
            rw [hafter] at hstop
            simpa using hstop
          have hbody : c ∉ rest.takeWhile (· != c) := by
            intro hc
            have hne := List.mem_takeWhile_imp hc
            rw [bne_self_eq_false] at hne
            cases hne
          refine ⟨.quoted hmark hbody, ?_⟩
          rw [hd] at hafter
          rw [Token.text, String.toList_ofList, String.toList_ofList, List.append_assoc,
            List.cons_append, List.singleton_append, ← hafter, List.takeWhile_append_dropWhile]
  · split at h
    · next hsymbol =>
        cases h
        exact ⟨.symbol _, append_of_symbol? hsymbol⟩
    · split at h
      · next hliteral =>
          cases h
          obtain ⟨hform, happend⟩ := Decimal.literal_of_literal? hliteral
          refine ⟨.number hform, ?_⟩
          rw [Token.text, String.toList_ofList, happend]
      · split at h
        · next starts =>
            cases h
            refine ⟨.name starts fun d hd => List.mem_takeWhile_imp hd, ?_⟩
            rw [Token.text, String.toList_ofList, List.cons_append,
              List.takeWhile_append_dropWhile]
        · cases h

theorem inName_of_startsName (h : startsName c = true) : inName c = true := by
  rw [startsName, Bool.or_eq_true] at h
  rw [inName, Char.isAlphanum, Bool.or_eq_true, Bool.or_eq_true]
  exact h.imp_left .inl

theorem word_of_name (starts : startsName c = true) (hin : ∀ d ∈ cs, inName d = true) :
    Word (c :: cs) := by
  have hall : ∀ d ∈ c :: cs, inName d = true :=
    List.forall_mem_cons.mpr ⟨inName_of_startsName starts, hin⟩
  refine ⟨List.cons_ne_nil _ _, fun d hd => ?_⟩
  by_contra hblank
  rw [Bool.not_eq_false] at hblank
  have hd := hall d hd
  rw [inName_of_isBlank hblank] at hd
  cases hd

theorem isBlank_of_isQuote (h : isQuote c = true) : isBlank c = false := by
  rw [isQuote, Bool.or_eq_true, beq_iff_eq, beq_iff_eq] at h
  rcases h with rfl | rfl <;> decide

theorem unquote?_quoted {mark : Char} (hmark : isQuote mark = true) (body : List Char) :
    unquote? (String.ofList (mark :: (body ++ [mark]))) = some (String.ofList body) := by
  rw [unquote?, String.toList_ofList]
  cases body with
  | nil => simp [hmark]
  | cons d body =>
      have hlast : (d :: (body ++ [mark])).getLast? = some mark := by
        rw [← List.cons_append, List.getLast?_concat]
      have hbody : (d :: (body ++ [mark])).dropLast = d :: body := by
        rw [← List.cons_append, List.dropLast_concat]
      simp [hmark, hlast, hbody]

theorem unquote?_eq_none (h : isQuote c = false) : unquote? (String.ofList (c :: cs)) = none := by
  rw [unquote?, String.toList_ofList]
  cases cs with
  | nil => rfl
  | cons d cs => simp [h]

theorem symbol_plain (s : Symbol) : ∀ c ∈ s.text.toList, isBlank c = false ∧ isQuote c = false := by
  have hall : s.text.toList.all (fun c => !isBlank c && !isQuote c) = true := by
    cases s <;> decide
  intro c hc
  simpa using List.all_eq_true.mp hall c hc

theorem Token.WellFormed.trimmed (h : token.WellFormed) : Trimmed token.text.toList := by
  cases h with
  | number h => simpa [Token.text] using h.word.trimmed
  | @quoted mark body hmark _ =>
      have hquote : Trimmed [mark] :=
        Word.trimmed ⟨by simp, by simpa using isBlank_of_isQuote hmark⟩
      simpa [Token.text] using hquote.append hquote body
  | name starts hin => simpa [Token.text] using (word_of_name starts hin).trimmed
  | symbol s =>
      have ne_nil : s.text.toList ≠ [] := by cases s <;> decide
      exact Word.trimmed ⟨ne_nil, fun c hc => (symbol_plain s c hc).1⟩

theorem length_of_nextToken (h : nextToken c rest = .ok (token, after)) :
    after.length ≤ rest.length := by
  obtain ⟨hform, happend⟩ := wellFormed_of_nextToken h
  have hlength := congrArg List.length happend
  have hpos := List.length_pos_iff.mpr hform.trimmed.ne_nil
  rw [List.length_append, List.length_cons] at hlength
  omega

/-- A text is cut into tokens, one after the other, with the blanks between them dropped. -/
inductive Cuts : List Char → List Token → Prop where
  | nil : Cuts [] []
  | blank {c : Char} {rest : List Char} {tokens : List Token} (hc : isBlank c = true)
      (h : Cuts rest tokens) : Cuts (c :: rest) tokens
  | token {c : Char} {rest after : List Char} {token : Token} {tokens : List Token}
      (hc : isBlank c = false) (hnext : nextToken c rest = .ok (token, after))
      (h : Cuts after tokens) : Cuts (c :: rest) (token :: tokens)

theorem Cuts.gap {gap : List Char} (hgap : ∀ c ∈ gap, isBlank c = true) (h : Cuts rest tokens) :
    Cuts (gap ++ rest) tokens := by
  induction gap with
  | nil => exact h
  | cons c gap ih =>
      apply Cuts.blank (hgap c List.mem_cons_self)
      exact ih fun d hd => hgap d (List.mem_cons_of_mem c hd)

theorem Cuts.tokensWithin (h : Cuts cs tokens) {bound : Nat} (hbound : cs.length ≤ bound) :
    tokensWithin bound cs = .ok tokens := by
  induction h generalizing bound with
  | nil => cases bound <;> rfl
  | blank hc _ ih =>
      obtain ⟨bound, rfl⟩ := Nat.exists_eq_add_one_of_ne_zero (Nat.ne_zero_of_lt hbound)
      rw [Expr.tokensWithin, if_pos hc]
      exact ih (Nat.le_of_succ_le_succ hbound)
  | token hc hnext _ ih =>
      obtain ⟨bound, rfl⟩ := Nat.exists_eq_add_one_of_ne_zero (Nat.ne_zero_of_lt hbound)
      have hafter := ih (Nat.le_trans (length_of_nextToken hnext) (Nat.le_of_succ_le_succ hbound))
      rw [Expr.tokensWithin, if_neg (by simp [hc]), hnext]
      exact bind_eq_ok_iff.mpr ⟨_, rfl, bind_eq_ok_iff.mpr ⟨_, hafter, rfl⟩⟩

theorem cuts_of_tokensWithin {bound : Nat} (h : tokensWithin bound cs = .ok tokens)
    (hbound : cs.length ≤ bound) : Cuts cs tokens := by
  induction bound generalizing cs tokens with
  | zero =>
      obtain rfl := List.length_eq_zero_iff.mp (Nat.le_zero.mp hbound)
      cases h
      exact .nil
  | succ bound ih =>
      cases cs with
      | nil =>
          cases h
          exact .nil
      | cons c rest =>
          rw [List.length_cons, Nat.add_le_add_iff_right] at hbound
          rw [tokensWithin] at h
          by_cases hc : isBlank c = true
          · rw [if_pos hc] at h
            exact .blank hc (ih h hbound)
          · rw [if_neg hc] at h
            obtain ⟨⟨token, after⟩, hnext, h⟩ := bind_eq_ok_iff.mp h
            obtain ⟨more, hmore, h⟩ := bind_eq_ok_iff.mp h
            cases h
            have hafter := Nat.le_trans (length_of_nextToken hnext) hbound
            exact .token (Bool.not_eq_true _ ▸ hc) hnext (ih hmore hafter)

theorem cuts_of_tokenize {expression : String} (h : tokenize expression = .ok tokens) :
    Cuts (trim expression.toList) tokens :=
  cuts_of_tokensWithin h (Nat.le_refl _)

theorem Cuts.wellFormed (h : Cuts cs tokens) : ∀ token ∈ tokens, token.WellFormed := by
  induction h with
  | nil => exact List.forall_mem_nil _
  | blank _ _ ih => exact ih
  | token _ hnext _ ih => exact List.forall_mem_cons.mpr ⟨(wellFormed_of_nextToken hnext).1, ih⟩

theorem Cuts.tokenize (h : Cuts cs tokens) (trimmed : Trimmed cs) :
    tokenize (String.ofList cs) = .ok tokens := by
  rw [Expr.tokenize, String.toList_ofList, trimmed.trim_eq]
  exact h.tokensWithin (Nat.le_refl _)

end Expr

end Pseudocode
