import Pseudocode.Proofs.Expr.Tokens

namespace Pseudocode.Expr

open Text

variable {cs rest after body : List Char} {token : Token} {tokens : List Token} {c mark : Char}

/-- A text without its blanks, except for those between a quote and the next one like it. The first
argument is the quote that is open. -/
def dropBlanks : Option Char → List Char → List Char
  | _, [] => []
  | none, c :: rest =>
      if isBlank c then dropBlanks none rest
      else c :: dropBlanks (if isQuote c then some c else none) rest
  | some mark, c :: rest => c :: dropBlanks (if c = mark then none else some mark) rest

theorem dropBlanks_gap (h : ∀ c ∈ cs, isBlank c = true) (rest : List Char) :
    dropBlanks none (cs ++ rest) = dropBlanks none rest := by
  induction cs with
  | nil => rfl
  | cons c cs ih =>
      obtain ⟨hc, hcs⟩ := List.forall_mem_cons.mp h
      rw [List.cons_append, dropBlanks, if_pos hc, ih hcs]

theorem dropBlanks_plain (hblank : ∀ c ∈ cs, isBlank c = false)
    (hquote : ∀ c ∈ cs, isQuote c = false) (rest : List Char) :
    dropBlanks none (cs ++ rest) = cs ++ dropBlanks none rest := by
  induction cs with
  | nil => rfl
  | cons c cs ih =>
      obtain ⟨hc, hcs⟩ := List.forall_mem_cons.mp hblank
      obtain ⟨hc', hcs'⟩ := List.forall_mem_cons.mp hquote
      simp only [List.cons_append, dropBlanks, hc, hc', ih hcs hcs', Bool.false_eq_true, if_false]

theorem dropBlanks_open (h : mark ∉ body) (rest : List Char) :
    dropBlanks (some mark) (body ++ mark :: rest) = body ++ mark :: dropBlanks none rest := by
  induction body with
  | nil => rw [List.nil_append, dropBlanks, if_pos rfl, List.nil_append]
  | cons c body ih =>
      rw [List.mem_cons, not_or] at h
      rw [List.cons_append, dropBlanks, if_neg (Ne.symm h.1), ih h.2, List.cons_append]

theorem Token.WellFormed.dropBlanks_append (h : token.WellFormed) (rest : List Char) :
    dropBlanks none (token.text.toList ++ rest) = token.text.toList ++ dropBlanks none rest := by
  cases h with
  | number h =>
      rw [Token.text, String.toList_ofList]
      refine dropBlanks_plain h.word.solid (fun c hc => ?_) rest
      exact isQuote_eq_false (by decide) (by decide) (h.inLiteral c hc)
  | quoted hmark hbody =>
      rw [Token.text, String.toList_ofList, String.toList_ofList, List.append_assoc,
        List.cons_append, List.singleton_append, List.cons_append, dropBlanks,
        if_neg (by simp [isBlank_of_isQuote hmark]), if_pos hmark, dropBlanks_open hbody,
        List.cons_append, List.append_assoc, List.singleton_append]
  | @name c cs starts hin =>
      have hall : ∀ d ∈ c :: cs, inName d = true :=
        List.forall_mem_cons.mpr ⟨inName_of_startsName starts, hin⟩
      rw [Token.text, String.toList_ofList]
      refine dropBlanks_plain (word_of_name starts hin).solid (fun d hd => ?_) rest
      exact isQuote_eq_false (by decide) (by decide) (hall d hd)
  | symbol s =>
      have hplain := symbol_plain s
      exact dropBlanks_plain (fun c hc => (hplain c hc).1) (fun c hc => (hplain c hc).2) rest

/-- The characters of the tokens are those of the text that are not blanks outside quotes. -/
theorem Cuts.dropBlanks_append (h : Cuts cs tokens) (hafter : ∀ c ∈ after, isBlank c = true) :
    dropBlanks none (cs ++ after) = tokens.flatMap fun token => token.text.toList := by
  induction h with
  | nil =>
      have hnone := dropBlanks_gap hafter []
      rwa [List.append_nil] at hnone
  | blank hc _ ih => rw [List.cons_append, dropBlanks, if_pos hc, ih]
  | token _ hnext _ ih =>
      obtain ⟨hform, happend⟩ := wellFormed_of_nextToken hnext
      rw [← happend, List.append_assoc, hform.dropBlanks_append, ih, List.flatMap_cons]

def operatorTexts : List String :=
  ["+", "-", "*", "/", "(", ")", ">", "<", "==", "!=", ">=", "<="]

/-- Whether a text is a letter or an underscore followed by letters, digits and underscores. -/
def isNameText (text : String) : Bool :=
  match text.toList with
  | [] => false
  | c :: rest => startsName c && rest.all inName

def TokenClass.has : TokenClass → String → Bool
  | operator, text => operatorTexts.contains text
  | number, text => Decimal.isLiteral text.toList
  | quoted, text => (unquote? text).isSome
  | name, text => isNameText text

theorem TokenClass.starts_of_has {kind : TokenClass} {text : String} (h : kind.has text = true) :
    ∃ c, text.toList.head? = some c ∧ kind.starts c = true := by
  cases kind with
  | operator =>
      have hall : ∀ text ∈ operatorTexts, text.toList.head?.any symbolStarts.contains = true := by
        decide
      exact (Option.any_eq_true _ _).mp (hall text (List.contains_iff_mem.mp h))
  | number =>
      rw [has] at h
      cases hchars : text.toList with
      | nil => simp [hchars, Decimal.isLiteral, Decimal.literal?] at h
      | cons c rest =>
          refine ⟨c, rfl, ?_⟩
          by_contra hc
          rw [hchars, Decimal.isLiteral, Decimal.literal?_eq_none (Bool.not_eq_true _ ▸ hc)] at h
          cases h
  | quoted =>
      rw [has, unquote?] at h
      split at h
      · next c d rest hchars =>
          split at h
          · next hquote =>
              refine ⟨c, by rw [hchars, List.head?_cons], ?_⟩
              exact (Bool.and_eq_true_iff.mp hquote).1
          · cases h
      · cases h
  | name =>
      rw [has, isNameText] at h
      split at h
      · cases h
      · next c rest hchars =>
          exact ⟨c, by rw [hchars, List.head?_cons], (Bool.and_eq_true_iff.mp h).1⟩

theorem TokenClass.eq_of_has {kind kind' : TokenClass} {text : String}
    (h : kind.has text = true) (h' : kind'.has text = true) : kind = kind' := by
  obtain ⟨c, hc, hstarts⟩ := starts_of_has h
  obtain ⟨c', hc', hstarts'⟩ := starts_of_has h'
  obtain rfl := Option.some.inj (hc.symm.trans hc')
  exact eq_of_starts hstarts hstarts'

theorem Token.WellFormed.exists_has (h : token.WellFormed) :
    ∃ kind : TokenClass, kind.has token.text = true := by
  cases h with
  | number h =>
      refine ⟨.number, ?_⟩
      rw [TokenClass.has, Token.text, String.toList_ofList]
      exact h.isLiteral
  | @quoted mark body hmark _ =>
      refine ⟨.quoted, ?_⟩
      rw [TokenClass.has, Token.text, String.toList_ofList, List.cons_append,
        unquote?_quoted hmark, Option.isSome_some]
  | name starts hin =>
      refine ⟨.name, ?_⟩
      simp only [TokenClass.has, isNameText, Token.text, String.toList_ofList, starts,
        Bool.true_and]
      exact List.all_eq_true.mpr hin
  | symbol s =>
      refine ⟨.operator, ?_⟩
      cases s <;> rfl

theorem symbol?_append (s : Symbol) (hrest : Apart rest) :
    symbol? (s.text.toList ++ rest) = some (s, rest) := by
  have hshort : ∀ more, rest ≠ '=' :: more := by
    rintro more rfl
    exact absurd (hrest '=' rfl) (by decide)
  cases s
  case greater =>
    change symbol? ('>' :: rest) = _
    unfold symbol?
    split <;> simp_all
  case less =>
    change symbol? ('<' :: rest) = _
    unfold symbol?
    split <;> simp_all
  all_goals rfl

theorem Token.WellFormed.nextToken (h : token.WellFormed) (hchars : token.text.toList = c :: cs)
    (hrest : Apart rest) : nextToken c (cs ++ rest) = .ok (token, rest) := by
  cases h with
  | number h =>
      rw [Token.text, String.toList_ofList] at hchars
      subst hchars
      exact nextToken_literal h hrest
  | quoted hmark hbody =>
      rw [Token.text, String.toList_ofList, String.toList_ofList, List.cons_append] at hchars
      cases hchars
      rw [List.append_assoc, List.singleton_append]
      exact nextToken_quoted hmark hbody rest
  | name starts hin =>
      rw [Token.text, String.toList_ofList] at hchars
      cases hchars
      exact nextToken_name starts hin hrest
  | symbol s =>
      rw [Token.text] at hchars
      have hsymbol := symbol?_append s hrest
      rw [hchars, List.cons_append] at hsymbol
      exact nextToken_symbol (symbol_plain s c (hchars ▸ List.mem_cons_self)).2 hsymbol

theorem Token.WellFormed.cuts (h : token.WellFormed) (hrest : Apart rest)
    (hmore : Cuts rest tokens) : Cuts (token.text.toList ++ rest) (token :: tokens) := by
  obtain ⟨c, cs, hchars⟩ := List.exists_cons_of_ne_nil h.trimmed.ne_nil
  have hc : isBlank c = false := h.trimmed.first c (by rw [hchars, List.head?_cons])
  have hnext := h.nextToken hchars hrest
  rw [hchars, List.cons_append]
  exact .token hc hnext hmore

theorem cuts_spaced (h : ∀ t ∈ token :: tokens, t.WellFormed) :
    Trimmed (" ".intercalate ((token :: tokens).map Token.text)).toList ∧
      Cuts (" ".intercalate ((token :: tokens).map Token.text)).toList (token :: tokens) := by
  induction tokens generalizing token with
  | nil =>
      have hform := h token List.mem_cons_self
      have hcuts := hform.cuts apart_nil .nil
      rw [List.append_nil] at hcuts
      rw [List.map_singleton, String.intercalate_singleton]
      exact ⟨hform.trimmed, hcuts⟩
  | cons next tokens ih =>
      obtain ⟨hform, hmore⟩ := List.forall_mem_cons.mp h
      obtain ⟨htrimmed, hcuts⟩ := ih hmore
      rw [List.map_cons, List.map_cons, String.intercalate_cons_cons, ← List.map_cons,
        String.toList_append, String.toList_append, List.append_assoc]
      exact ⟨hform.trimmed.append htrimmed _,
        hform.cuts (apart_cons (by decide) _) (.blank (by decide) hcuts)⟩

theorem tokenize_spaced (h : ∀ token ∈ tokens, token.WellFormed) :
    tokenize (" ".intercalate (tokens.map Token.text)) = .ok tokens := by
  cases tokens with
  | nil => rfl
  | cons token tokens =>
      obtain ⟨htrimmed, hcuts⟩ := cuts_spaced h
      have hagain := hcuts.tokenize htrimmed
      rwa [String.ofList_toList] at hagain

/-- Tokens written one after the other are the text without the blanks outside quotes, each is
written like tokens of one class, and with single blanks between them they are found again. -/
theorem tokenize_lossless (expression : String) (tokens : List Token)
    (h : tokenize expression = .ok tokens) :
    String.join (tokens.map Token.text) = String.ofList (dropBlanks none expression.toList) ∧
    (∀ token ∈ tokens, ∃! kind : TokenClass, kind.has token.text = true) ∧
    tokenize (" ".intercalate (tokens.map Token.text)) = .ok tokens := by
  have hcuts := cuts_of_tokenize h
  have hform := hcuts.wellFormed
  refine ⟨?_, ?_, ?_⟩
  · obtain ⟨before, after, hbefore, hafter, hsplit⟩ := exists_trim expression.toList
    rw [hsplit, dropBlanks_gap hbefore, hcuts.dropBlanks_append hafter, ← String.toList_inj,
      String.toList_join, String.toList_ofList, List.flatMap_map]
  · intro token htoken
    obtain ⟨kind, hkind⟩ := (hform token htoken).exists_has
    exact ⟨kind, hkind, fun _ hkind' => TokenClass.eq_of_has hkind' hkind⟩
  · exact tokenize_spaced hform

theorem tokenize_lossless_crowded :
    ∃ tokens, tokenize " x_1>=\"it's  so\"+ .5*(1.5.5 -'a b')==_\t" = .ok tokens ∧
      String.join (tokens.map Token.text) = "x_1>=\"it's  so\"+.5*(1.5.5-'a b')==_" ∧
      (∀ token ∈ tokens, ∃! kind : TokenClass, kind.has token.text = true) ∧
      tokenize "x_1 >= \"it's  so\" + .5 * ( 1.5 .5 - 'a b' ) == _" = .ok tokens := by
  have hfound : (tokenize " x_1>=\"it's  so\"+ .5*(1.5.5 -'a b')==_\t").toOption.map
      (fun tokens => " ".intercalate (tokens.map Token.text)) =
        some "x_1 >= \"it's  so\" + .5 * ( 1.5 .5 - 'a b' ) == _" := by decide +kernel
  cases h : tokenize " x_1>=\"it's  so\"+ .5*(1.5.5 -'a b')==_\t" with
  | error problem =>
      rw [h] at hfound
      cases hfound
  | ok tokens =>
      rw [h] at hfound
      obtain ⟨hjoin, hclasses, hagain⟩ := tokenize_lossless _ tokens h
      rw [← Option.some.inj hfound]
      exact ⟨tokens, rfl, hjoin.trans (by decide +kernel), hclasses, hagain⟩

end Pseudocode.Expr
