import Inlay.Proofs.Grammar.Phrase

/-!
# Keys, fixed texts and words

The smallest parts of a phrase. Each is read back from a source in which it ends, and what the scan
of each takes from a source is such a part.
-/

namespace Inlay.Template.Expr

/-! ## Fixed texts -/

/-- The characters between quotes are read back, up to the quote that closes them. -/
theorem scanQuoted?_source {glyphs : List Glyph} (hw : ∀ glyph ∈ glyphs, glyph.Written)
    (rest : List Char) :
    scanQuoted? (glyphs.flatMap Glyph.source ++ '"' :: rest)
      = some (glyphs.map Glyph.char, rest) := by
  induction glyphs with
  | nil => simp [scanQuoted?]
  | cons glyph glyphs ih =>
    have htail := ih fun g hg => hw g (List.mem_cons_of_mem _ hg)
    have hhead := hw glyph List.mem_cons_self
    cases glyph with
    | plain c =>
      obtain ⟨hquote, hslash⟩ := hhead
      simp only [List.flatMap_cons, Glyph.source, List.cons_append, List.nil_append]
      rw [scanQuoted?.eq_4 _ _ hquote fun _ _ h _ => hslash h, htail]
      rfl
    | escaped c =>
      simp only [List.flatMap_cons, Glyph.source, List.cons_append, List.nil_append]
      rw [scanQuoted?, htail]
      rfl

/-- Characters that are scanned up to a closing quote are written with glyphs. -/
theorem exists_glyphs {cs text rest : List Char} (h : scanQuoted? cs = some (text, rest)) :
    ∃ glyphs : List Glyph, (∀ glyph ∈ glyphs, glyph.Written) ∧ glyphs.map Glyph.char = text ∧
      cs = glyphs.flatMap Glyph.source ++ '"' :: rest := by
  fun_induction scanQuoted? cs generalizing text rest with
  | case1 => simp at h
  | case2 after =>
    simp only [Option.some.injEq, Prod.mk.injEq] at h
    obtain ⟨rfl, rfl⟩ := h
    exact ⟨[], by simp, rfl, rfl⟩
  | case3 c after ih =>
    obtain ⟨⟨inner, _⟩, hinner, heq⟩ := Option.map_eq_some_iff.1 h
    simp only [Prod.mk.injEq] at heq
    obtain ⟨rfl, rfl⟩ := heq
    obtain ⟨glyphs, hw, rfl, rfl⟩ := ih hinner
    refine ⟨.escaped c :: glyphs, ?_, rfl, by simp [Glyph.source]⟩
    simpa [Glyph.Written] using hw
  | case4 c after hquote hslash ih =>
    obtain ⟨⟨inner, left⟩, hinner, heq⟩ := Option.map_eq_some_iff.1 h
    simp only [Prod.mk.injEq] at heq
    obtain ⟨rfl, rfl⟩ := heq
    obtain ⟨glyphs, hw, rfl, rfl⟩ := ih hinner
    -- a quote closes the text, so a backslash would have had a character behind it
    have hplain : (Glyph.plain c).Written := by
      obtain ⟨b, t, hbt⟩ := exists_cons_of_append (glyphs.flatMap Glyph.source) '"' left
      exact ⟨hquote, fun hc => hslash b t hc hbt⟩
    refine ⟨.plain c :: glyphs, ?_, rfl, by simp [Glyph.source]⟩
    simpa [Glyph.Written] using ⟨hplain, hw⟩

/-- A fixed text is read back from behind its opening quote. -/
theorem scanLiteral_source {glyphs : List Glyph} (hw : ∀ glyph ∈ glyphs, glyph.Written)
    (start : Nat) (rest : List Char) :
    scanLiteral start (glyphs.flatMap Glyph.source ++ '"' :: rest)
      = .ok (.literal (glyphText glyphs), rest) := by
  rw [scanLiteral, scanQuoted?_source hw]
  rfl

/-- So is every fixed text that the scan of one returns. -/
theorem exists_quoted {start : Nat} {cs after : List Char} {expr : Expr}
    (h : scanLiteral start cs = .ok (expr, after)) :
    ∃ glyphs : List Glyph, (∀ glyph ∈ glyphs, glyph.Written) ∧ expr = .literal (glyphText glyphs) ∧
      cs = glyphs.flatMap Glyph.source ++ '"' :: after := by
  rw [scanLiteral] at h
  split at h
  · next text rest hscan =>
    obtain ⟨glyphs, hw, rfl, rfl⟩ := exists_glyphs hscan
    simp only [Except.ok.injEq, Prod.mk.injEq] at h
    obtain ⟨rfl, rfl⟩ := h
    exact ⟨glyphs, hw, rfl, rfl⟩
  · simp at h

/-! ## Keys -/

/-- The rest of a key is scanned up to where the key ends. -/
theorem scanKeyRest_source {key rest : List Char} (hk : ∀ c ∈ key, isKeyRest c = true ∨ c = '-')
    (hends : KeyEnds key rest) : scanKeyRest (key ++ rest) = (key, rest) := by
  induction key with
  | nil =>
    cases rest with
    | nil => rfl
    | cons c after =>
      have hc : isKeyRest c = false := hends.no_more c rfl
      have hmark : (c == '-' && after.head? != some '$') = false := by
        by_cases h : c = '-'
        · simp [hends.hyphen after (by rw [h])]
        · simp [h]
      simp [scanKeyRest, hc, hmark]
  | cons c key ih =>
    have htail := ih (fun d hd => hk d (List.mem_cons_of_mem c hd)) hends.tail
    have hc : isKeyRest c = true ∨ c = '-' ∧ (key ++ rest).head? ≠ some '$' := by
      refine (hk c List.mem_cons_self).imp_right fun hc => ⟨hc, ?_⟩
      subst hc
      -- behind a hyphen stands another character of the key, or what ends it
      cases key with
      | nil => exact hends.mark rfl
      | cons d key =>
        rintro ⟨⟩
        exact absurd (hk '$' (by simp)) (by decide)
    rw [List.cons_append, scanKeyRest, if_pos (by simpa using hc), htail]

/-- What is scanned as the rest of a key consists of its characters and ends as a key does. -/
theorem keyRest_of_scanKeyRest (cs : List Char) :
    cs = (scanKeyRest cs).1 ++ (scanKeyRest cs).2
      ∧ (∀ c ∈ (scanKeyRest cs).1, isKeyRest c = true ∨ c = '-')
      ∧ KeyEnds (scanKeyRest cs).1 (scanKeyRest cs).2 := by
  induction cs with
  | nil => exact ⟨rfl, by simp [scanKeyRest], by simp [scanKeyRest], by simp [scanKeyRest],
      by simp [scanKeyRest]⟩
  | cons c cs ih =>
    obtain ⟨hcs, hk, hends⟩ := ih
    rw [scanKeyRest]
    split
    · -- this character goes on with the key
      next hc =>
      have hc : isKeyRest c = true ∨ c = '-' ∧ cs.head? ≠ some '$' := by simpa using hc
      refine ⟨congrArg (c :: ·) hcs, ?_, hends.cons fun hnil hhyphen => ?_⟩
      · rintro d (_ | ⟨_, hd⟩)
        · exact hc.imp_right And.left
        · exact hk d hd
      · subst hhyphen
        rw [hnil] at hcs
        have : cs.head? ≠ some '$' := by simpa [isKeyRest] using hc
        rwa [hcs] at this
    · next hc =>
      have hc : isKeyRest c = false ∧ (c = '-' → cs.head? = some '$') := by simpa using hc
      refine ⟨rfl, by simp, by simpa using hc.1, ?_, by simp⟩
      rintro after hafter
      obtain ⟨rfl, rfl⟩ := List.cons.inj hafter
      exact hc.2 rfl

/-- A key is read back where it ends. -/
theorem scanKey?_source {key rest : List Char} (hk : IsKey key) (hends : KeyEnds key rest) :
    scanKey? (key ++ rest) = some (String.ofList key, rest) := by
  cases key with
  | nil => exact hk.elim
  | cons c key =>
    obtain ⟨hstart, htail⟩ := hk
    rw [List.cons_append, scanKey?, if_pos hstart, scanKeyRest_source htail hends.tail]

/-- What is scanned as a key is a key, and it ends where the rest begins. -/
theorem exists_key {cs rest : List Char} {name : String} (h : scanKey? cs = some (name, rest)) :
    ∃ key, IsKey key ∧ KeyEnds key rest ∧ name = String.ofList key ∧ cs = key ++ rest := by
  cases cs with
  | nil => simp [scanKey?] at h
  | cons c cs =>
    rw [scanKey?] at h
    split at h
    · next hstart =>
      obtain ⟨rfl, rfl⟩ : String.ofList (c :: (scanKeyRest cs).1) = name
          ∧ (scanKeyRest cs).2 = rest := by simpa using h
      obtain ⟨hcs, hk, hends⟩ := keyRest_of_scanKeyRest cs
      refine ⟨c :: (scanKeyRest cs).1, ⟨hstart, hk⟩, hends.cons ?_, rfl, congrArg (c :: ·) hcs⟩
      rintro - rfl
      exact absurd hstart (by decide)
    · simp at h

/-! ## Spaces and words -/

/-- A space is a blank. -/
theorem isBlank_of_isSpace {c : Char} (h : isSpace c = true) : Text.isBlank c = true := by
  simp only [isSpace, Bool.or_eq_true, beq_iff_eq] at h
  rcases h with ((rfl | rfl) | rfl) | rfl <;> decide

/-- Trimming a word with blanks around it leaves the word. -/
theorem trim_word {left word right : List Char} (hl : Blanks left) (hw : IsWord word)
    (hr : Blanks right) :
    Text.dropBlanksEnd (Text.dropBlanks (left ++ (word ++ right))) = word := by
  obtain ⟨c, hc, hcb⟩ := hw.head
  obtain ⟨d, hd, hdb⟩ := hw.last
  have hhead : ∀ a ∈ (word ++ right).head?, Text.isBlank a = false := by
    simp [List.head?_append, hc, hcb]
  have hlast : ∀ a ∈ word.reverse.head?, Text.isBlank a = false := by
    simp [List.head?_reverse, hd, hdb]
  rw [Text.dropBlanks, dropWhile_run hl hhead, Text.dropBlanksEnd, List.reverse_append,
    dropWhile_run (fun a ha => hr a (List.mem_reverse.1 ha)) hlast, List.reverse_reverse]

/-- No blank ends an argument that has no quotes. -/
theorem isBare_of_isBlank {c : Char} (h : Text.isBlank c = true) : isBare c = true := by
  simp only [isBare, Bool.not_eq_true', Bool.or_eq_false_iff, beq_eq_false_iff_ne]
  refine ⟨⟨⟨⟨?_, ?_⟩, ?_⟩, ?_⟩, ?_⟩ <;> rintro rfl <;> revert h <;> decide

/-- The characters that end such an argument are no spaces. -/
theorem isSpace_of_not_isBare {c : Char} (h : isBare c = false) : isSpace c = false := by
  refine Bool.eq_false_iff.2 fun hspace => ?_
  rw [isBare_of_isBlank (isBlank_of_isSpace hspace)] at h
  exact absurd h (by decide)

/-- A word is read back with the blanks around it. -/
theorem scanBare_source {left word right rest : List Char} (hl : Blanks left)
    (hw : IsWord word) (hr : Blanks right) (hrest : ∀ c ∈ rest.head?, isBare c = false) :
    scanBare (left ++ (word ++ (right ++ rest))) = .ok (.literal (String.ofList word), rest) := by
  have hbare : ∀ c ∈ left ++ (word ++ right), isBare c = true := by
    intro c hc
    rcases List.mem_append.1 hc with h | h
    · exact isBare_of_isBlank (hl c h)
    rcases List.mem_append.1 h with h | h
    · exact hw.bare c h
    · exact isBare_of_isBlank (hr c h)
  have hassoc : left ++ (word ++ (right ++ rest)) = (left ++ (word ++ right)) ++ rest := by simp
  have hne : word.isEmpty = false := by
    obtain ⟨c, hc, -⟩ := hw.head
    cases word with
    | nil => simp at hc
    | cons => rfl
  rw [hassoc, scanBare, takeWhile_run hbare hrest, trim_word hl hw hr, hne,
    dropWhile_run hbare hrest]
  rfl

/-- Bare characters are a word between blanks, if any are left when the blanks are trimmed. -/
theorem exists_trim_word {cs : List Char} (hbare : ∀ c ∈ cs, isBare c = true)
    (hne : Text.dropBlanksEnd (Text.dropBlanks cs) ≠ []) :
    ∃ left right, Blanks left ∧ IsWord (Text.dropBlanksEnd (Text.dropBlanks cs)) ∧ Blanks right ∧
      cs = left ++ (Text.dropBlanksEnd (Text.dropBlanks cs) ++ right) := by
  have hblanks : ∀ l : List Char, Blanks (l.takeWhile Text.isBlank) :=
    fun l => List.all_eq_true.1 List.all_takeWhile
  generalize hstart : Text.dropBlanks cs = start at hne ⊢
  generalize hword : Text.dropBlanksEnd start = word at hne ⊢
  have hright : start = word ++ (start.reverse.takeWhile Text.isBlank).reverse := by
    rw [← hword, Text.dropBlanksEnd, ← List.reverse_append, List.takeWhile_append_dropWhile,
      List.reverse_reverse]
  have hcs : cs = cs.takeWhile Text.isBlank ++ start := by
    rw [← hstart, Text.dropBlanks, List.takeWhile_append_dropWhile]
  refine ⟨cs.takeWhile Text.isBlank, (start.reverse.takeWhile Text.isBlank).reverse, hblanks cs,
    ?_, fun c hc => hblanks _ c (List.mem_reverse.1 hc), by rw [← hright, ← hcs]⟩
  refine ⟨fun c hc => hbare c ?_, ?_, ?_⟩
  · rw [hcs, hright]
    exact List.mem_append_right _ (List.mem_append_left _ hc)
  · -- the word begins where the blanks in front of it have been dropped
    cases word with
    | nil => exact absurd rfl hne
    | cons c rest =>
      refine ⟨c, rfl, head_dropWhile (p := Text.isBlank) cs c ?_⟩
      rw [← Text.dropBlanks, hstart, hright]
      rfl
  · -- and ends where those behind it have been
    cases hrev : word.reverse with
    | nil => exact absurd (List.reverse_eq_nil_iff.1 hrev) hne
    | cons d rest =>
      have hd : word.getLast? = some d := by rw [← List.head?_reverse, hrev]; rfl
      refine ⟨d, hd, head_dropWhile (p := Text.isBlank) start.reverse d ?_⟩
      rw [← hword, Text.dropBlanksEnd, List.reverse_reverse] at hrev
      rw [hrev]
      rfl

/-- An argument that is scanned without quotes is a word between blanks. -/
theorem exists_word {cs after : List Char} {expr : Expr} (h : scanBare cs = .ok (expr, after)) :
    ∃ left word right, Blanks left ∧ IsWord word ∧ Blanks right ∧
      expr = .literal (String.ofList word) ∧ cs = left ++ (word ++ (right ++ after)) := by
  simp only [scanBare] at h
  split at h
  · simp at h
  · next hne =>
    simp only [Except.ok.injEq, Prod.mk.injEq] at h
    obtain ⟨rfl, rfl⟩ := h
    obtain ⟨left, right, hl, hw, hr, hcs⟩ :=
      exists_trim_word (List.all_eq_true.1 List.all_takeWhile) (by simpa using hne)
    refine ⟨left, _, right, hl, hw, hr, rfl, ?_⟩
    calc cs = cs.takeWhile isBare ++ cs.dropWhile isBare := List.takeWhile_append_dropWhile.symm
      _ = left ++ (Text.dropBlanksEnd (Text.dropBlanks (cs.takeWhile isBare)) ++ right)
          ++ cs.dropWhile isBare := congrArg (· ++ cs.dropWhile isBare) hcs
      _ = _ := by simp only [List.append_assoc]

end Inlay.Template.Expr
