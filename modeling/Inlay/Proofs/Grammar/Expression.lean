import Inlay.Proofs.Grammar.Lexeme

/-!
# Scanning expressions

`scanWithin_source` says that the scan of an expression reads every phrase back that ends where the
rest of the source begins, and `exists_phrase` that it reads nothing else.
-/

namespace Inlay.Template

namespace Argument

variable {arg : Argument} {left right : List Char}

/-- Spaces may stand beside any argument. -/
theorem Margin.of_spaces (h : Spaces left) : arg.Margin left := by
  cases arg with
  | word chars => exact fun c hc => Expr.isBlank_of_isSpace (h c hc)
  | quoted | nested => exact h

/-- Two margins in a row are a margin. -/
theorem Margin.append (hl : arg.Margin left) (hr : arg.Margin right) :
    arg.Margin (left ++ right) := by
  cases arg <;> exact fun c hc => (List.mem_append.1 hc).elim (hl c) (hr c)

end Argument

namespace Expr

/-! ## Phrases -/

/-- Spaces in front are skipped whatever follows them. -/
theorem skipSpaces_spaces {spaces : List Char} (hs : Spaces spaces) (cs : List Char) :
    skipSpaces (spaces ++ cs) = skipSpaces cs :=
  List.dropWhile_append_of_pos hs

/-- Where no space stands there is none to skip. -/
theorem skipSpaces_of_head {cs : List Char} (h : ∀ c ∈ cs.head?, isSpace c = false) :
    skipSpaces cs = cs :=
  @dropWhile_run _ isSpace [] cs (by simp) h

/-- A run of spaces is skipped up to its end. -/
theorem skipSpaces_run {spaces rest : List Char} (hs : Spaces spaces)
    (h : ∀ c ∈ rest.head?, isSpace c = false) : skipSpaces (spaces ++ rest) = rest :=
  dropWhile_run hs h

/-- Of the blanks in front of a word, some are skipped as spaces; the word itself stays. -/
theorem skipSpaces_word {left word rest : List Char} (hw : IsWord word) :
    skipSpaces (left ++ (word ++ rest)) = skipSpaces left ++ (word ++ rest) := by
  obtain ⟨c, hc, hblank⟩ := hw.head
  have hspace : isSpace c = false := by
    refine Bool.eq_false_iff.2 fun h => ?_
    rw [isBlank_of_isSpace h] at hblank
    exact absurd hblank (by decide)
  have hword : skipSpaces (word ++ rest) = word ++ rest :=
    skipSpaces_of_head (by simp [List.head?_append, hc, hspace])
  rw [skipSpaces, List.dropWhile_append]
  split
  · next h => rw [← skipSpaces, hword, skipSpaces, List.isEmpty_iff.1 h, List.nil_append]
  · rfl

/-- Once skipped, no space is left. -/
theorem skipSpaces_skipSpaces (cs : List Char) : skipSpaces (skipSpaces cs) = skipSpaces cs :=
  skipSpaces_of_head (head_dropWhile cs)

/-- A key is scanned as itself where it ends and no parenthesis makes it a call. -/
theorem scanWithin_key {key rest : List Char} (hk : IsKey key) (hends : KeyEnds key rest)
    (hrest : rest.head? ≠ some '(') (depth : Nat) :
    scanWithin (depth + 1) (key ++ rest) = .ok (.ident (String.ofList key), rest) := by
  have hscan := scanKey?_source hk hends
  cases key with
  | nil => exact hk.elim
  | cons c key =>
    have hc : c ≠ '"' := by
      rintro rfl
      exact absurd hk.1 (by decide)
    rw [List.cons_append] at hscan ⊢
    rw [scanWithin.eq_3 _ _ (by simpa using hc), hscan]
    split
    · next h => simp at h
    · next h => simp at h hrest; simp [h] at hrest
    · next h => simp at h; simp [h]

/-- With a parenthesis behind it, a key is a call, and the scan goes on with its arguments. -/
theorem scanWithin_call {key : List Char} (hk : IsKey key) (depth : Nat) (rest : List Char) :
    scanWithin (depth + 1) (key ++ '(' :: rest) =
      (match skipSpaces rest with
      | ')' :: after => .ok (.call (String.ofList key) [], after)
      | rest => do
        let (args, after) ← scanArguments depth rest
        .ok (.call (String.ofList key) args, after)) := by
  have hscan := scanKey?_source hk
    (KeyEnds.of_head (c := '(') (by decide) (by decide) (by decide) key rest)
  cases key with
  | nil => exact hk.elim
  | cons c key =>
    have hc : c ≠ '"' := by
      rintro rfl
      exact absurd hk.1 (by decide)
    rw [List.cons_append] at hscan ⊢
    rw [scanWithin.eq_3 _ _ (by simpa using hc), hscan]
    rfl

/-- An argument that starts with neither a quote nor a dollar sign is a bare word. -/
theorem scanArgument_of_head {c : Char} (hquote : c ≠ '"') (hdollar : c ≠ '$') (depth : Nat)
    (cs : List Char) : scanArgument (depth + 1) (c :: cs) = scanBare (c :: cs) := by
  rw [scanArgument.eq_4]
  · rintro _ h
    exact hquote (List.cons.inj h).1
  · rintro _ h
    exact hdollar (List.cons.inj h).1

/-- No argument begins with the parenthesis that closes a call. -/
theorem skipSpaces_ne_paren {depth : Nat} {cs after : List Char} {result : List Expr × List Char}
    (h : scanArguments depth cs = .ok result) : skipSpaces cs ≠ ')' :: after := by
  intro hparen
  cases depth with
  | zero => simp [scanArguments] at h
  | succ depth =>
    rw [scanArguments, hparen] at h
    cases depth with
    | zero => simp [scanArgument, bind, Except.bind] at h
    | succ depth =>
      rw [scanArgument_of_head (by decide) (by decide)] at h
      simp [scanBare, isBare, Text.dropBlanks, Text.dropBlanksEnd, bind, Except.bind] at h

/-- The spaces in front of the first argument of a call are skipped twice. -/
theorem scanArguments_skipSpaces (depth : Nat) (cs : List Char) :
    scanArguments (depth + 1) (skipSpaces cs) = scanArguments (depth + 1) cs := by
  rw [scanArguments, scanArguments, skipSpaces_skipSpaces]

mutual

/-- A phrase is read back where it ends, if the scan may nest deep enough. -/
theorem scanWithin_source : (phrase : Phrase) → phrase.Written → phrase.expr.Clear →
    (rest : List Char) → phrase.Ends rest → (depth : Nat) → phrase.source.length ≤ depth →
    scanWithin depth (phrase.source ++ rest) = .ok (phrase.expr, rest)
  | .ident key, hw, _, rest, hends, depth, hd => by
    cases depth with
    | zero =>
      obtain rfl : key = [] := by simpa [Phrase.source] using hd
      exact hw.elim
    | succ depth => exact scanWithin_key hw hends.1 hends.2 depth
  | .literal glyphs, hw, _, rest, _, depth, hd => by
    simp only [Phrase.source, quotedSource, List.length_cons] at hd
    obtain ⟨depth, rfl⟩ : ∃ d, depth = d + 1 := ⟨depth - 1, by omega⟩
    simp only [Phrase.source, quotedSource, List.cons_append, List.append_assoc, List.nil_append]
    rw [scanWithin, scanLiteral_source hw]
    rfl
  | .call key spaces [], hw, _, rest, _, depth, hd => by
    simp only [Phrase.source, List.length_append, List.length_cons] at hd
    obtain ⟨depth, rfl⟩ : ∃ d, depth = d + 1 := ⟨depth - 1, by omega⟩
    simp only [Phrase.source, argumentsSource, List.cons_append, List.append_assoc,
      List.nil_append]
    rw [scanWithin_call hw.1, skipSpaces_run hw.2.1 (by simp; decide)]
    rfl
  | .call key spaces (arg :: args), hw, hclear, rest, _, depth, hd => by
    obtain ⟨hkey, hspaces, hargs⟩ := hw
    -- the parenthesis pays for the level that the arguments are scanned at
    simp only [Phrase.source, List.length_append, List.length_cons] at hd
    obtain ⟨depth, rfl⟩ : ∃ d, depth = d + 1 := ⟨depth - 1, by omega⟩
    have hlen : (argumentsSource (arg :: args)).length ≤ depth := by omega
    have hscan := scanArguments_source (arg :: args) (by simp) hargs hclear rest depth hlen
    obtain ⟨depth, rfl⟩ : ∃ d, depth = d + 1 := by
      cases depth with
      | zero => simp [scanArguments] at hscan
      | succ depth => exact ⟨depth, rfl⟩
    simp only [Phrase.source, List.cons_append, List.append_assoc]
    rw [scanWithin_call hkey, skipSpaces_spaces hspaces]
    split
    · next h => exact absurd h (skipSpaces_ne_paren hscan)
    · rw [scanArguments_skipSpaces, hscan]
      rfl

/-- An argument is read back with what stands around it. -/
theorem scanArgument_source : (arg : Argument) → arg.Written → arg.expr.Clear →
    arg.expr.endsInHyphen = false → (before after rest : List Char) → arg.Margin before →
    arg.Margin after → (∀ c ∈ rest.head?, isBare c = false) → (depth : Nat) →
    arg.source.length ≤ depth →
    ∃ left, scanArgument depth (skipSpaces (before ++ (arg.source ++ (after ++ rest))))
      = .ok (arg.expr, left) ∧ skipSpaces left = rest
  | .quoted glyphs, hw, _, _, before, after, rest, hb, ha, hrest, depth, hd => by
    simp only [Argument.source, quotedSource, List.length_cons] at hd
    obtain ⟨depth, rfl⟩ : ∃ d, depth = d + 1 := ⟨depth - 1, by omega⟩
    refine ⟨after ++ rest, ?_, skipSpaces_run ha fun c hc => isSpace_of_not_isBare (hrest c hc)⟩
    simp only [Argument.source, quotedSource, List.cons_append, List.append_assoc,
      List.nil_append]
    rw [skipSpaces_run hb (by simp; decide), scanArgument, scanLiteral_source hw]
    rfl
  | .word chars, hw, _, _, before, after, rest, hb, ha, hrest, depth, hd => by
    -- blanks that are no spaces stay in front of the word, and may be what the scan looks at
    obtain ⟨c, cs, hcs⟩ : ∃ c cs, skipSpaces before ++ chars = c :: cs := by
      obtain ⟨c, hc, -⟩ := hw.head
      cases chars with
      | nil => simp at hc
      | cons d chars => exact exists_cons_of_append (skipSpaces before) d chars
    have hleft : Blanks (skipSpaces before) := fun d hd => hb d (List.dropWhile_sublist _ |>.mem hd)
    have hbare : isBare c = true := by
      have hmem : c ∈ skipSpaces before ++ chars := by
        rw [hcs]
        exact List.mem_cons_self
      rcases List.mem_append.1 hmem with h | h
      · exact isBare_of_isBlank (hleft c h)
      · exact hw.bare c h
    have hquote : c ≠ '"' := by
      rintro rfl
      exact absurd hbare (by decide)
    have hdollar : c ≠ '$' := by
      rintro rfl
      exact absurd hbare (by decide)
    cases depth with
    | zero =>
      obtain rfl : chars = [] := by simpa [Argument.source] using hd
      obtain ⟨c, hc, -⟩ := hw.head
      simp at hc
    | succ depth =>
      refine ⟨rest, ?_, skipSpaces_of_head fun c hc => isSpace_of_not_isBare (hrest c hc)⟩
      have hscan := scanBare_source hleft hw ha hrest
      rw [Argument.source, skipSpaces_word hw]
      rw [← List.append_assoc, hcs, List.cons_append] at hscan ⊢
      rw [scanArgument_of_head hquote hdollar, hscan]
      rfl
  | .nested phrase, hw, hclear, hhyphen, before, after, rest, hb, ha, hrest, depth, hd => by
    simp only [Argument.source, List.length_cons, List.length_append] at hd
    obtain ⟨depth, rfl⟩ : ∃ d, depth = d + 1 := ⟨depth - 1, by omega⟩
    have hends : phrase.Ends ('$' :: (after ++ rest)) := by
      cases phrase with
      -- a key in front of the dollar sign must not end in what would be its mark
      | ident key =>
        have hlast : key.getLast? ≠ some '-' := by
          simpa [Argument.expr, Phrase.expr, endsInHyphen] using hhyphen
        refine ⟨⟨by simp; decide, ?_, fun h => absurd h hlast⟩, by simp⟩
        rintro _ ⟨⟩
      | call | literal => trivial
    have hscan := scanWithin_source phrase hw hclear _ hends depth (by omega)
    refine ⟨after ++ rest, ?_, skipSpaces_run ha fun c hc => isSpace_of_not_isBare (hrest c hc)⟩
    simp only [Argument.source, List.cons_append, List.append_assoc, List.nil_append]
    rw [skipSpaces_run hb (by simp; decide), scanArgument, hscan]
    rfl

/-- Arguments are read back, up to the parenthesis that closes the call. -/
theorem scanArguments_source : (args : List (Spaced Argument)) → args ≠ [] →
    ArgumentsWritten args → ArgumentsClear (argumentExprs args) → (rest : List Char) →
    (depth : Nat) → (argumentsSource args).length ≤ depth →
    scanArguments depth (argumentsSource args ++ rest) = .ok (argumentExprs args, rest)
  | [], hne, _, _, _, _, _ => absurd rfl hne
  | [⟨before, arg, after⟩], _, hw, hclear, rest, depth, hd => by
    obtain ⟨hb, hw, ha, -⟩ := hw
    obtain ⟨hhyphen, hclear, -⟩ := hclear
    simp only [argumentsSource, List.length_append, List.length_cons] at hd
    obtain ⟨depth, rfl⟩ : ∃ d, depth = d + 1 := ⟨depth - 1, by omega⟩
    obtain ⟨left, hscan, hleft⟩ := scanArgument_source arg hw hclear hhyphen before after
      (')' :: rest) hb ha (by simp; decide) depth (by omega)
    simp only [argumentsSource, List.append_assoc, List.cons_append, List.nil_append]
    rw [scanArguments, hscan, Except.ok_bind]
    simp only [hleft]
    rfl
  | ⟨before, arg, after⟩ :: next :: args, _, hw, hclear, rest, depth, hd => by
    obtain ⟨hb, hw, ha, hws⟩ := hw
    obtain ⟨hhyphen, hclear, hclears⟩ := hclear
    simp only [argumentsSource, List.length_append, List.length_cons] at hd
    obtain ⟨depth, rfl⟩ : ∃ d, depth = d + 1 := ⟨depth - 1, by omega⟩
    obtain ⟨left, hscan, hleft⟩ := scanArgument_source arg hw hclear hhyphen before after
      (',' :: (argumentsSource (next :: args) ++ rest)) hb ha (by simp; decide) depth (by omega)
    have hscans := scanArguments_source (next :: args) (by simp) hws hclears rest depth (by omega)
    simp only [argumentsSource, List.append_assoc, List.cons_append]
    rw [scanArguments, hscan, Except.ok_bind]
    simp only [hleft]
    rw [hscans]
    rfl

end

/-! ## Nothing else is read -/

/-- What `skipSpaces` leaves out is a run of spaces. -/
theorem exists_spaces (cs : List Char) : ∃ spaces, Spaces spaces ∧ cs = spaces ++ skipSpaces cs :=
  ⟨cs.takeWhile isSpace, List.all_eq_true.1 List.all_takeWhile,
    List.takeWhile_append_dropWhile.symm⟩

mutual

/-- What the scan of an expression accepts begins with a phrase of it, which ends there. -/
theorem exists_phrase : (depth : Nat) → {cs rest : List Char} → {expr : Expr} →
    scanWithin depth cs = .ok (expr, rest) →
    ∃ phrase : Phrase, phrase.Written ∧ phrase.expr = expr ∧ expr.Clear ∧ phrase.Ends rest ∧
      cs = phrase.source ++ rest
  | 0, _, _, _, h => by simp [scanWithin] at h
  | depth + 1, cs, rest, expr, h => by
    rw [scanWithin.eq_def] at h
    dsimp only at h
    split at h
    · obtain ⟨glyphs, hw, rfl, rfl⟩ := exists_quoted h
      exact ⟨.literal glyphs, hw, rfl, trivial, trivial, by simp [Phrase.source, quotedSource]⟩
    split at h
    · simp at h
    · next name after hkey =>
      obtain ⟨key, hk, -, rfl, rfl⟩ := exists_key hkey
      split at h
      -- a call without arguments may have spaces between its parentheses
      · next left hleft =>
        simp only [Except.ok.injEq, Prod.mk.injEq] at h
        obtain ⟨rfl, rfl⟩ := h
        obtain ⟨spaces, hs, hafter⟩ := exists_spaces after
        refine ⟨.call key spaces [], ⟨hk, hs, trivial⟩, rfl, trivial, trivial, ?_⟩
        rw [hafter, hleft]
        simp [Phrase.source, argumentsSource]
      · obtain ⟨⟨exprs, left⟩, hargs, h⟩ := Except.bind_eq_ok.1 h
        simp only [Except.ok.injEq, Prod.mk.injEq] at h
        obtain ⟨rfl, rfl⟩ := h
        obtain ⟨args, -, hw, rfl, hclear, hleft⟩ := exists_arguments depth hargs
        obtain ⟨spaces, hs, hafter⟩ := exists_spaces after
        refine ⟨.call key spaces args, ⟨hk, hs, hw⟩, rfl, hclear, trivial, ?_⟩
        rw [hafter, hleft]
        simp [Phrase.source]
    · next name after hparen hkey =>
      -- without a parenthesis the key stands alone
      obtain ⟨key, hk, hends, rfl, rfl⟩ := exists_key hkey
      simp only [Except.ok.injEq, Prod.mk.injEq] at h
      obtain ⟨rfl, rfl⟩ := h
      refine ⟨.ident key, hk, rfl, trivial, ⟨hends, fun hhead => ?_⟩, rfl⟩
      obtain ⟨left, rfl⟩ := List.head?_eq_some_iff.1 hhead
      exact hparen left rfl

/-- What the scan of arguments accepts begins with written arguments. -/
theorem exists_arguments : (depth : Nat) → {cs rest : List Char} → {exprs : List Expr} →
    scanArguments depth cs = .ok (exprs, rest) →
    ∃ args, args ≠ [] ∧ ArgumentsWritten args ∧ argumentExprs args = exprs ∧
      ArgumentsClear exprs ∧ cs = argumentsSource args ++ rest
  | 0, _, _, _, h => by simp [scanArguments] at h
  | depth + 1, cs, rest, exprs, h => by
    rw [scanArguments] at h
    obtain ⟨⟨expr, after⟩, harg, h⟩ := Except.bind_eq_ok.1 h
    obtain ⟨left, arg, right, hw, rfl, hclear, hhyphen, hl, hr, hcs⟩ := exists_argument depth harg
    obtain ⟨before, hbefore, hskip⟩ := exists_spaces cs
    obtain ⟨behind, hbehind, hafter⟩ := exists_spaces after
    -- the spaces that the scan skips belong to the margins of the argument
    have hl := (Argument.Margin.of_spaces hbefore).append hl
    have hr := hr.append (Argument.Margin.of_spaces hbehind)
    dsimp only at h
    split at h
    · next more hmore =>
      obtain ⟨⟨exprs, left'⟩, hargs, h⟩ := Except.bind_eq_ok.1 h
      simp only [Except.ok.injEq, Prod.mk.injEq] at h
      obtain ⟨rfl, rfl⟩ := h
      obtain ⟨args, hne, hws, rfl, hclears, rfl⟩ := exists_arguments depth hargs
      obtain ⟨next, args, rfl⟩ := List.exists_cons_of_ne_nil hne
      refine ⟨⟨before ++ left, arg, right ++ behind⟩ :: next :: args, by simp,
        ⟨hl, hw, hr, hws⟩, rfl, ⟨hhyphen, hclear, hclears⟩, ?_⟩
      rw [hskip, hcs, hafter, hmore]
      simp [argumentsSource]
    · next more hmore =>
      simp only [Except.ok.injEq, Prod.mk.injEq] at h
      obtain ⟨rfl, rfl⟩ := h
      refine ⟨[⟨before ++ left, arg, right ++ behind⟩], by simp, ⟨hl, hw, hr, trivial⟩, rfl,
        ⟨hhyphen, hclear, trivial⟩, ?_⟩
      rw [hskip, hcs, hafter, hmore]
      simp [argumentsSource]
    · simp at h

/-- What the scan of an argument accepts begins with a written argument. -/
theorem exists_argument : (depth : Nat) → {cs rest : List Char} → {expr : Expr} →
    scanArgument depth cs = .ok (expr, rest) →
    ∃ (left : List Char) (arg : Argument) (right : List Char), arg.Written ∧ arg.expr = expr ∧
      expr.Clear ∧ expr.endsInHyphen = false ∧ arg.Margin left ∧ arg.Margin right ∧
      cs = left ++ (arg.source ++ (right ++ rest))
  | 0, _, _, _, h => by simp [scanArgument] at h
  | depth + 1, cs, rest, expr, h => by
    rw [scanArgument.eq_def] at h
    dsimp only at h
    split at h
    · obtain ⟨glyphs, hw, rfl, rfl⟩ := exists_quoted h
      refine ⟨[], .quoted glyphs, [], hw, rfl, trivial, rfl, by simp [Argument.Margin, Spaces],
        by simp [Argument.Margin, Spaces], by simp [Argument.source, quotedSource]⟩
    · next after =>
      obtain ⟨⟨found, left⟩, hphrase, hend⟩ := Except.bind_eq_ok.1 h
      obtain ⟨phrase, hw, rfl, hclear, hends, rfl⟩ := exists_phrase depth hphrase
      dsimp only at hend
      split at hend
      · simp only [Except.ok.injEq, Prod.mk.injEq] at hend
        obtain ⟨rfl, rfl⟩ := hend
        -- the dollar sign behind the phrase would have made a last hyphen a mark
        have hhyphen : phrase.expr.endsInHyphen = false := by
          cases phrase with
          | ident key => simpa [Phrase.expr, endsInHyphen] using fun h => hends.1.mark h rfl
          | call | literal => rfl
        refine ⟨[], .nested phrase, [], hw, rfl, hclear, hhyphen,
          by simp [Argument.Margin, Spaces], by simp [Argument.Margin, Spaces],
          by simp [Argument.source]⟩
      · simp at hend
    · obtain ⟨left, word, right, hl, hw, hr, rfl, rfl⟩ := exists_word h
      exact ⟨left, .word word, right, hw, rfl, trivial, rfl, hl, hr, rfl⟩

end

/-- A phrase is read back where it ends: its characters bound how deep it nests. -/
theorem scan_source {phrase : Phrase} {rest : List Char} (hw : phrase.Written)
    (hclear : phrase.expr.Clear) (hends : phrase.Ends rest) :
    scan (phrase.source ++ rest) = .ok (phrase.expr, rest) := by
  refine scanWithin_source phrase hw hclear rest hends _ ?_
  rw [List.length_append]
  omega

/-- Every scan that succeeds has read a well-written phrase that ends where the rest begins. -/
theorem exists_phrase_of_scan {cs rest : List Char} {expr : Expr}
    (h : scan cs = .ok (expr, rest)) :
    ∃ phrase : Phrase, phrase.Written ∧ phrase.expr = expr ∧ expr.Clear ∧ phrase.Ends rest ∧
      cs = phrase.source ++ rest :=
  exists_phrase _ h

end Expr

end Inlay.Template
