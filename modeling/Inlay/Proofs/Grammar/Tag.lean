import Inlay.Proofs.Grammar.Expression

/-!
# Written tags

What stands between two dollar signs, as it is written: an expression, a word that opens a block or
an inclusion with an expression in parentheses, or a word that closes or divides a block, each with
or without a mark at its ends. `scan_source` says that a tag is read back, and `exists_form` that
nothing else is read as one.

An expression is told from a word by what it begins with, so an expression that stands alone between
dollar signs must not look like a tag of its own. This is `Expr.StandsAlone`.
-/

namespace Inlay.Template

/-- The words that stand before an expression in parentheses. -/
inductive Opener where
  | cond
  | loop
  | inclusion

namespace Opener

/-- The word that is written between the dollar sign and the parenthesis. -/
def word : Opener → String
  | .cond => "if"
  | .loop => "for"
  | .inclusion => "partial"

/-- What the tag of the word says about its expression. -/
def body : Opener → Expr → TagBody
  | .cond => .openIf
  | .loop => .openFor
  | .inclusion => .inclusion

end Opener

/-- An expression that stands alone between dollar signs is read as itself: it is no closing word,
it is no call of a word that opens a tag, and if it ends in a hyphen, a mark follows it. -/
def Expr.StandsAlone (marked : Bool) : Expr → Prop
  | .ident key =>
    (∀ closer : Closer, key ≠ closer.word) ∧ (key.toList.getLast? = some '-' → marked = true)
  | .call key _ => ∀ opener : Opener, key ≠ opener.word
  | _ => True

/-- What stands between the marks of a tag, as it is written. -/
inductive TagForm where
  | value (phrase : Phrase)
  | headed (opener : Opener) (inside : Spaced Phrase)
  | close (closer : Closer)

namespace TagForm

/-- The text between the marks. -/
def source : TagForm → List Char
  | .value phrase => phrase.source
  | .headed opener ⟨before, phrase, after⟩ =>
    opener.word.toList ++ '(' :: (before ++ (phrase.source ++ (after ++ [')'])))
  | .close closer => closer.word.toList

/-- What the tag says. -/
def body : TagForm → TagBody
  | .value phrase => .value phrase.expr
  | .headed opener inside => opener.body inside.inner.expr
  | .close closer => .close closer

/-- The parts of a tag are what they are meant to be. -/
def Written : TagForm → Prop
  | .value phrase => phrase.Written
  | .headed _ inside => Spaces inside.before ∧ inside.inner.Written ∧ Spaces inside.after
  | .close _ => True

/-- The tag is read as itself, `marked` telling whether a mark ends it. -/
def Clear (marked : Bool) : TagForm → Prop
  | .value phrase => phrase.expr.Clear ∧ phrase.expr.StandsAlone marked
  | .headed _ inside => inside.inner.expr.Clear
  | .close _ => True

end TagForm

/-- The mark at an end of a tag. -/
def markSource (marked : Bool) : List Char := if marked then ['-'] else []

/-- The text of a tag between its dollar signs. -/
def tagSource (before : Bool) (form : TagForm) (after : Bool) : List Char :=
  '$' :: (markSource before ++ (form.source ++ (markSource after ++ ['$'])))

namespace Phrase

/-- A phrase begins with the first character of a key or with a quote. -/
theorem exists_source_eq_cons {phrase : Phrase} (hw : phrase.Written) :
    ∃ c cs, phrase.source = c :: cs ∧ (Expr.isKeyStart c = true ∨ c = '"') := by
  cases phrase with
  | ident key =>
    cases key with
    | nil => exact hw.elim
    | cons c key => exact ⟨c, key, rfl, .inl hw.1⟩
  | call key spaces args =>
    cases key with
    | nil => exact hw.1.elim
    | cons c key => exact ⟨c, _, rfl, .inl hw.1.1⟩
  | literal glyphs => exact ⟨'"', _, rfl, .inr rfl⟩

/-- A phrase ends before a character that neither goes on with a key nor is one that a key is read
differently before. -/
theorem ends_cons {c : Char} (hc : Expr.isKeyRest c = false) (hhyphen : c ≠ '-') (hdollar : c ≠ '$')
    (hparen : c ≠ '(') (phrase : Phrase) (rest : List Char) : phrase.Ends (c :: rest) := by
  cases phrase with
  | ident key => exact ⟨KeyEnds.of_head hc hhyphen hdollar key rest, by simpa using hparen⟩
  | call | literal => trivial

end Phrase

/-- A phrase starts with no space. -/
theorem isSpace_of_startsPhrase {c : Char} (h : Expr.isKeyStart c = true ∨ c = '"') :
    Expr.isSpace c = false := by
  refine Bool.eq_false_iff.2 fun hspace => ?_
  simp only [Expr.isSpace, Bool.or_eq_true, beq_iff_eq] at hspace
  rcases hspace with ((rfl | rfl) | rfl) | rfl <;> revert h <;> decide

namespace Tag

/-! ## Words -/

/-- Behind a word, the rest of the text is left. -/
theorem afterWord?_append (word : String) (rest : List Char) :
    afterWord? word (word.toList ++ rest) = some rest := by
  have hprefix : word.toList.isPrefixOf (word.toList ++ rest) = true :=
    List.isPrefixOf_iff_prefix.2 (List.prefix_append _ _)
  rw [afterWord?, if_pos hprefix, ← String.length_toList, List.drop_left]

/-- A word that is found is what the text starts with. -/
theorem eq_append_of_afterWord? {word : String} {cs rest : List Char}
    (h : afterWord? word cs = some rest) : cs = word.toList ++ rest := by
  rw [afterWord?] at h
  split at h
  · next hprefix =>
    obtain ⟨rest', rfl⟩ := List.isPrefixOf_iff_prefix.1 hprefix
    rw [← String.length_toList, List.drop_left, Option.some.injEq] at h
    rw [h]
  · simp at h

/-- A tag ends with a dollar sign, or with a mark and a dollar sign. -/
theorem atEnd_iff {cs : List Char} :
    atEnd cs = true ↔ ∃ marked rest, cs = markSource marked ++ '$' :: rest := by
  constructor
  · intro h
    rw [atEnd.eq_def] at h
    split at h
    · next rest => exact ⟨false, rest, rfl⟩
    · next rest => exact ⟨true, rest, rfl⟩
    · simp at h
  · rintro ⟨marked, rest, rfl⟩
    cases marked <;> rfl

/-- The end of a tag ends a key, unless the last hyphen of the key would be its mark. -/
theorem keyEnds_tagEnd {key : List Char} {marked : Bool}
    (hmark : key.getLast? = some '-' → marked = true) (rest : List Char) :
    KeyEnds key (markSource marked ++ '$' :: rest) := by
  cases marked with
  | false =>
    refine ⟨by simp [markSource]; decide, ?_, fun h => absurd (hmark h) (by decide)⟩
    rintro _ ⟨⟩
  | true =>
    refine ⟨by simp [markSource]; decide, ?_, fun _ => by simp [markSource]⟩
    rintro _ ⟨⟩
    rfl

/-- So it ends with no other character. -/
theorem head?_tagEnd_ne {c : Char} (hhyphen : c ≠ '-') (hdollar : c ≠ '$') (marked : Bool)
    (rest : List Char) : (markSource marked ++ '$' :: rest).head? ≠ some c := by
  cases marked with
  | false => simpa [markSource] using hdollar.symm
  | true => simpa [markSource] using hhyphen.symm

/-- An expression that stands alone ends where its tag does. -/
theorem ends_tagEnd {phrase : Phrase} {marked : Bool} (h : phrase.expr.StandsAlone marked)
    (rest : List Char) : phrase.Ends (markSource marked ++ '$' :: rest) := by
  cases phrase with
  | ident key =>
    refine ⟨keyEnds_tagEnd (fun hlast => h.2 ?_) rest, head?_tagEnd_ne (by decide) (by decide) _ _⟩
    rwa [String.toList_ofList]
  | call | literal => trivial

/-- What a phrase in front of the end of a tag begins with is told by the scan of a key: the
phrase begins with the key `word`, if it does with that word and something that ends it. -/
theorem eq_of_source_eq {phrase : Phrase} (hw : phrase.Written) {rest word after : List Char}
    (hends : phrase.Ends rest) (hword : IsKey word) (hafter : KeyEnds word after)
    (h : phrase.source ++ rest = word ++ after) :
    (phrase = .ident word ∧ rest = after) ∨
      ∃ spaces args, phrase = .call word spaces args ∧ after.head? = some '(' := by
  have hscan := Expr.scanKey?_source hword hafter
  rw [← h] at hscan
  cases phrase with
  | literal glyphs => simp [Phrase.source, quotedSource, Expr.scanKey?, Expr.isKeyStart] at hscan
  | ident key =>
    rw [Phrase.source, Expr.scanKey?_source hw hends.1] at hscan
    simp only [Option.some.injEq, Prod.mk.injEq, String.ofList_inj] at hscan
    obtain ⟨rfl, rfl⟩ := hscan
    exact .inl ⟨rfl, rfl⟩
  | call key spaces args =>
    have hkey := KeyEnds.of_head (c := '(') (by decide) (by decide) (by decide) key
      (spaces ++ argumentsSource args ++ rest)
    simp only [Phrase.source, List.append_assoc, List.cons_append] at hscan hkey
    rw [Expr.scanKey?_source hw.1 hkey] at hscan
    simp only [Option.some.injEq, Prod.mk.injEq, String.ofList_inj] at hscan
    obtain ⟨rfl, rfl⟩ := hscan
    exact .inr ⟨spaces, args, rfl, rfl⟩

/-- The words that open tags are keys. -/
theorem isKey_opener (opener : Opener) : IsKey opener.word.toList := by
  cases opener <;> simp [Opener.word, IsKey] <;> decide

/-- Every key ends before a parenthesis. -/
theorem keyEnds_paren {key rest : List Char} : KeyEnds key ('(' :: rest) :=
  KeyEnds.of_head (by decide) (by decide) (by decide) key rest

/-- The closing words look like keys, which is why the parser tries them first. -/
theorem isKey_closer (closer : Closer) : IsKey closer.word.toList := by
  cases closer <;> simp [Closer.word, IsKey] <;> decide

/-- A word that opens a tag is told by the parenthesis right behind it. -/
theorem afterWord?_opener (opener : Opener) {cs rest : List Char} :
    afterWord? (opener.word ++ "(") cs = some rest ↔ cs = opener.word.toList ++ '(' :: rest := by
  have hword : (opener.word ++ "(").toList = opener.word.toList ++ ['('] := by
    rw [String.toList_append]
    rfl
  constructor
  · intro h
    rw [eq_append_of_afterWord? h, hword, List.append_assoc]
    rfl
  · rintro rfl
    rw [← afterWord?_append (opener.word ++ "(") rest, hword, List.append_assoc]
    rfl

/-- Behind such a word, the body of a tag is its expression in parentheses. -/
theorem scanBody_opener (opener : Opener) (rest : List Char) :
    scanBody (opener.word.toList ++ '(' :: rest) = scanHead opener.body rest := by
  cases opener <;> rfl

/-- Where no word opens a tag, a closing word is looked for, and an expression otherwise. -/
theorem scanBody_of_forall_ne {cs : List Char}
    (h : ∀ (opener : Opener) (rest : List Char), cs ≠ opener.word.toList ++ '(' :: rest) :
    scanBody cs = match closer? cs with
      | some (closer, rest) => .ok (.close closer, rest)
      | none => Expr.scan cs >>= fun (expr, rest) => .ok (.value expr, rest) := by
  have hnone : ∀ opener : Opener, afterWord? (opener.word ++ "(") cs = none := by
    intro opener
    refine Option.eq_none_iff_forall_ne_some.2 fun rest hrest => ?_
    exact h opener rest ((afterWord?_opener opener).1 hrest)
  have hcond : afterWord? "if(" cs = none := hnone .cond
  have hloop : afterWord? "for(" cs = none := hnone .loop
  have hinclusion : afterWord? "partial(" cs = none := hnone .inclusion
  cases hcloser : closer? cs <;> simp only [scanBody, hcond, hloop, hinclusion, hcloser]

/-- A closing word is told by the end of the tag right behind it. -/
theorem closer?_append (closer : Closer) {rest : List Char} (h : atEnd rest = true) :
    closer? (closer.word.toList ++ rest) = some (closer, rest) := by
  obtain ⟨marked, after, rfl⟩ := atEnd_iff.1 h
  cases closer <;> cases marked <;> rfl

/-- What is told as a closing word is one, at the end of its tag. -/
theorem eq_append_of_closer? {cs rest : List Char} {closer : Closer}
    (h : closer? cs = some (closer, rest)) :
    cs = closer.word.toList ++ rest ∧ atEnd rest = true := by
  obtain ⟨found, -, hfound⟩ := List.exists_of_findSome?_eq_some h
  split at hfound
  · next after hafter =>
    split at hfound
    · next hend =>
      simp only [Option.some.injEq, Prod.mk.injEq] at hfound
      obtain ⟨rfl, rfl⟩ := hfound
      exact ⟨eq_append_of_afterWord? hafter, hend⟩
    · simp at hfound
  · simp at hfound

/-! ## Tags -/

/-- An expression in parentheses is read back, with any spaces around it. -/
theorem scanHead_source {inside : Spaced Phrase} {opener : Opener}
    (hw : (TagForm.headed opener inside).Written) (hclear : inside.inner.expr.Clear)
    (make : Expr → TagBody) (rest : List Char) :
    scanHead make (inside.before ++ (inside.inner.source ++ (inside.after ++ ')' :: rest)))
      = .ok (make inside.inner.expr, rest) := by
  obtain ⟨hbefore, hphrase, hafter⟩ := hw
  have hends : inside.inner.Ends (inside.after ++ ')' :: rest) := by
    cases hcs : inside.after with
    | nil => exact Phrase.ends_cons (by decide) (by decide) (by decide) (by decide) _ _
    | cons c cs =>
      have hc : Expr.isSpace c = true := hafter c (by rw [hcs]; exact List.mem_cons_self)
      simp only [Expr.isSpace, Bool.or_eq_true, beq_iff_eq] at hc
      rcases hc with ((rfl | rfl) | rfl) | rfl <;>
        exact Phrase.ends_cons (by decide) (by decide) (by decide) (by decide) _ _
  obtain ⟨c, cs, hsource, hc⟩ := Phrase.exists_source_eq_cons hphrase
  have hskip : Expr.skipSpaces
      (inside.before ++ (inside.inner.source ++ (inside.after ++ ')' :: rest)))
        = inside.inner.source ++ (inside.after ++ ')' :: rest) := by
    refine Expr.skipSpaces_run hbefore ?_
    rw [hsource]
    simpa using isSpace_of_startsPhrase hc
  rw [scanHead, hskip, Expr.scan_source hphrase hclear hends, Except.ok_bind]
  dsimp only
  rw [Expr.skipSpaces_run hafter (by simp; decide)]
  rfl

/-- Whatever is read in parentheses is a phrase with spaces around it. -/
theorem exists_headed {make : Expr → TagBody} {cs rest : List Char} {body : TagBody}
    (h : scanHead make cs = .ok (body, rest)) (opener : Opener) :
    ∃ inside : Spaced Phrase, (TagForm.headed opener inside).Written ∧ inside.inner.expr.Clear ∧
      body = make inside.inner.expr ∧
      cs = inside.before ++ (inside.inner.source ++ (inside.after ++ ')' :: rest)) := by
  obtain ⟨⟨expr, left⟩, hscan, hend⟩ := Except.bind_eq_ok.1 h
  obtain ⟨phrase, hw, rfl, hclear, -, hsource⟩ := Expr.exists_phrase_of_scan hscan
  obtain ⟨before, hbefore, hcs⟩ := Expr.exists_spaces cs
  obtain ⟨after, hafter, hleft⟩ := Expr.exists_spaces left
  dsimp only at hend
  split at hend
  · next hparen =>
    simp only [Except.ok.injEq, Prod.mk.injEq] at hend
    obtain ⟨rfl, rfl⟩ := hend
    refine ⟨⟨before, phrase, after⟩, ⟨hbefore, hw, hafter⟩, hclear, rfl, ?_⟩
    rw [hcs, hsource, hleft, hparen]
  · simp at hend

/-- What stands between the marks of a tag is read back, up to the mark or dollar sign. -/
theorem scanBody_source {form : TagForm} {marked : Bool} (hw : form.Written)
    (hclear : form.Clear marked) (rest : List Char) :
    scanBody (form.source ++ (markSource marked ++ '$' :: rest))
      = .ok (form.body, markSource marked ++ '$' :: rest) := by
  cases form with
  | headed opener inside =>
    have h := scanHead_source hw hclear opener.body (markSource marked ++ '$' :: rest)
    rw [← scanBody_opener] at h
    simpa [TagForm.source, TagForm.body] using h
  | close closer =>
    have hend : atEnd (markSource marked ++ '$' :: rest) = true := atEnd_iff.2 ⟨_, _, rfl⟩
    -- a closing word is no opening one
    rw [scanBody_of_forall_ne]
    · rw [TagForm.source, closer?_append closer hend]
      rfl
    · intro opener after h
      have hkey : Phrase.Written (.ident closer.word.toList) := isKey_closer closer
      have hends : Phrase.Ends (markSource marked ++ '$' :: rest) (.ident closer.word.toList) :=
        ⟨keyEnds_tagEnd (by cases closer <;> simp [Closer.word]) rest,
          head?_tagEnd_ne (by decide) (by decide) _ _⟩
      obtain ⟨-, htail⟩ | ⟨_, _, hcall, -⟩ :=
        eq_of_source_eq hkey hends (isKey_opener opener) keyEnds_paren h
      · exact hends.2 (by rw [htail]; rfl)
      · exact absurd hcall (by simp)
  | value phrase =>
    obtain ⟨hclear, halone⟩ := hclear
    have hends := ends_tagEnd halone rest
    rw [scanBody_of_forall_ne]
    · -- an expression that stands alone spells no closing word before the end of a tag
      have hnone : closer? (phrase.source ++ (markSource marked ++ '$' :: rest)) = none := by
        refine Option.eq_none_iff_forall_ne_some.2 ?_
        rintro ⟨closer, after⟩ hfound
        obtain ⟨hsource, hend⟩ := eq_append_of_closer? hfound
        obtain ⟨marked', after', rfl⟩ := atEnd_iff.1 hend
        have hafter : KeyEnds closer.word.toList (markSource marked' ++ '$' :: after') :=
          keyEnds_tagEnd (by cases closer <;> simp [Closer.word]) after'
        obtain ⟨rfl, -⟩ | ⟨_, _, -, hparen⟩ :=
          eq_of_source_eq hw hends (isKey_closer closer) hafter hsource
        · exact halone.1 closer String.ofList_toList
        · exact head?_tagEnd_ne (by decide) (by decide) _ _ hparen
      rw [TagForm.source, hnone]
      dsimp only
      rw [Expr.scan_source hw hclear hends]
      rfl
    · intro opener after h
      obtain ⟨rfl, htail⟩ | ⟨_, _, rfl, -⟩ :=
        eq_of_source_eq hw hends (isKey_opener opener) keyEnds_paren h
      · exact hends.2 (by rw [htail]; rfl)
      · exact halone opener String.ofList_toList

/-- A phrase that is read for lack of a word, up to the end of its tag, stands alone. -/
theorem standsAlone_of_ends {phrase : Phrase} {marked : Bool} {after : List Char}
    (hends : phrase.Ends (markSource marked ++ '$' :: after))
    (hopener : ∀ (opener : Opener) (cs : List Char),
      phrase.source ++ (markSource marked ++ '$' :: after) ≠ opener.word.toList ++ '(' :: cs)
    (hcloser : closer? (phrase.source ++ (markSource marked ++ '$' :: after)) = none) :
    phrase.expr.StandsAlone marked := by
  cases phrase with
  | literal => trivial
  | ident key =>
    refine ⟨fun closer hkey => ?_, fun hlast => ?_⟩
    · rw [Phrase.source, ← String.toList_ofList (l := key), hkey,
        closer?_append closer (atEnd_iff.2 ⟨_, _, rfl⟩)] at hcloser
      exact absurd hcloser (by simp)
    · rw [String.toList_ofList] at hlast
      cases marked with
      | false => exact absurd rfl (hends.1.mark hlast)
      | true => rfl
  | call key spaces args =>
    intro opener hkey
    refine hopener opener (spaces ++ argumentsSource args ++ (markSource marked ++ '$' :: after)) ?_
    rw [← hkey, String.toList_ofList]
    simp [Phrase.source]

/-- Whatever is read between the marks of a tag is a form that is read as itself. -/
theorem exists_form_of_scanBody {cs rest : List Char} {body : TagBody} {marked : Bool}
    {after : List Char} (h : scanBody cs = .ok (body, rest))
    (hrest : rest = markSource marked ++ '$' :: after) :
    ∃ form : TagForm, form.Written ∧ form.Clear marked ∧ body = form.body ∧
      cs = form.source ++ rest := by
  by_cases hopener : ∃ (opener : Opener) (cs' : List Char), cs = opener.word.toList ++ '(' :: cs'
  · obtain ⟨opener, cs', rfl⟩ := hopener
    rw [scanBody_opener] at h
    obtain ⟨inside, hw, hclear, rfl, rfl⟩ := exists_headed h opener
    exact ⟨.headed opener inside, hw, hclear, rfl, by simp [TagForm.source]⟩
  · have hne : ∀ (opener : Opener) (cs' : List Char), cs ≠ opener.word.toList ++ '(' :: cs' :=
      fun opener cs' heq => hopener ⟨opener, cs', heq⟩
    rw [scanBody_of_forall_ne hne] at h
    split at h
    · next closer left hcloser =>
      obtain ⟨hsource, -⟩ := eq_append_of_closer? hcloser
      simp only [Except.ok.injEq, Prod.mk.injEq] at h
      obtain ⟨rfl, rfl⟩ := h
      exact ⟨.close closer, trivial, trivial, rfl, hsource⟩
    · -- neither an opening nor a closing word was found, so the expression stands alone
      next hcloser =>
      obtain ⟨⟨expr, left⟩, hscan, hend⟩ := Except.bind_eq_ok.1 h
      simp only [Except.ok.injEq, Prod.mk.injEq] at hend
      obtain ⟨rfl, rfl⟩ := hend
      obtain ⟨phrase, hw, rfl, hclear, hends, rfl⟩ := Expr.exists_phrase_of_scan hscan
      subst hrest
      exact ⟨.value phrase, hw, ⟨hclear, standsAlone_of_ends hends hne hcloser⟩, rfl, rfl⟩

/-- No tag begins with a mark or a dollar sign of its own. -/
theorem exists_source_eq_cons {form : TagForm} (hw : form.Written) :
    ∃ c cs, form.source = c :: cs ∧ c ≠ '-' ∧ c ≠ '$' := by
  cases form with
  | value phrase =>
    obtain ⟨c, cs, hsource, hc⟩ := Phrase.exists_source_eq_cons hw
    refine ⟨c, cs, hsource, ?_, ?_⟩ <;> rintro rfl <;> revert hc <;> decide
  | headed opener inside => cases opener <;> exact ⟨_, _, rfl, by decide, by decide⟩
  | close closer => cases closer <;> exact ⟨_, _, rfl, by decide, by decide⟩

/-- A tag whose first mark has been read goes on with its body; without a mark, that begins with no
hyphen. -/
theorem scan_mark {before : Bool} {cs : List Char}
    (h : before = false → ∀ rest, cs ≠ '-' :: rest) (start : Nat) :
    scan start (markSource before ++ cs) = scanBody cs >>= fun (body, rest) =>
      match rest with
      | '$' :: rest => .ok (⟨body, before, false⟩, rest)
      | '-' :: '$' :: rest => .ok (⟨body, before, true⟩, rest)
      | rest => .error ⟨.openTag start, rest.length⟩ := by
  cases before with
  | true => rfl
  | false => exact scan.eq_2 start cs (h rfl)

/-- What stands behind the opening dollar sign of a tag begins with a mark, or with no hyphen. -/
theorem exists_marked (cs : List Char) : ∃ (before : Bool) (inner : List Char),
    cs = markSource before ++ inner ∧ (before = false → ∀ rest, inner ≠ '-' :: rest) := by
  by_cases hcs : ∃ inner, cs = '-' :: inner
  · obtain ⟨inner, rfl⟩ := hcs
    exact ⟨true, inner, rfl, by simp⟩
  · exact ⟨false, cs, rfl, fun _ rest heq => hcs ⟨rest, heq⟩⟩

/-- A tag is read back from behind its opening dollar sign. -/
theorem scan_source {form : TagForm} {before after : Bool} (hw : form.Written)
    (hclear : form.Clear after) (start : Nat) (rest : List Char) :
    scan start (markSource before ++ (form.source ++ (markSource after ++ '$' :: rest)))
      = .ok (⟨form.body, before, after⟩, rest) := by
  obtain ⟨c, cs, hsource, hhyphen, -⟩ := exists_source_eq_cons hw
  rw [scan_mark, scanBody_source hw hclear rest]
  · cases after <;> rfl
  · rintro - after heq
    rw [hsource] at heq
    exact hhyphen (List.cons.inj heq).1

/-- What the scan of a tag accepts is a written tag. -/
theorem exists_form {start : Nat} {cs rest : List Char} {tag : Tag}
    (h : scan start cs = .ok (tag, rest)) :
    ∃ form : TagForm, form.Written ∧ form.Clear tag.trimsAfter ∧ tag.body = form.body ∧
      cs = markSource tag.trimsBefore
        ++ (form.source ++ (markSource tag.trimsAfter ++ '$' :: rest)) := by
  obtain ⟨before, inner, rfl, hmark⟩ := exists_marked cs
  rw [scan_mark hmark] at h
  obtain ⟨⟨body, left⟩, hbody, hend⟩ := Except.bind_eq_ok.1 h
  obtain ⟨after, hleft, rfl⟩ : ∃ after, left = markSource after ++ '$' :: rest
      ∧ tag = ⟨body, before, after⟩ := by
    dsimp only at hend
    split at hend
    · simp only [Except.ok.injEq, Prod.mk.injEq] at hend
      obtain ⟨rfl, rfl⟩ := hend
      exact ⟨false, rfl, rfl⟩
    · simp only [Except.ok.injEq, Prod.mk.injEq] at hend
      obtain ⟨rfl, rfl⟩ := hend
      exact ⟨true, rfl, rfl⟩
    · simp at hend
  obtain ⟨form, hw, hclear, rfl, rfl⟩ := exists_form_of_scanBody hbody hleft
  exact ⟨form, hw, hclear, rfl, by rw [hleft]⟩

end Tag

end Inlay.Template
