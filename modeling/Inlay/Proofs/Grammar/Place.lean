import Inlay.Proofs.Grammar.Run
import Mathlib.Data.List.TakeWhile

/-!
# Places of mistakes

A scan tells the places of mistakes by what is left of the source from there on, so none of them can
lie in front of the characters that it was given. `StaysWithin` says this of a scan that may fail,
together with the bound on what the scan leaves; it is kept when scans are put one behind another.

Hence a mistake is the same mistake when other text stands in front of the source. Only the numbers
in its message move: `message_append` says by how much.
-/

namespace Inlay.Template

/-- The places that a mistake tells have at most so many characters from there to the end. -/
structure SyntaxError.Within (limit : Nat) (error : SyntaxError) : Prop where
  left_le : error.left ≤ limit
  openTag_le : ∀ left, error.cause = .openTag left → left ≤ limit

/-- Places within a source are within a longer one. -/
theorem SyntaxError.Within.mono {limit greater : Nat} {error : SyntaxError}
    (h : error.Within limit) (hle : limit ≤ greater) : error.Within greater :=
  ⟨h.left_le.trans hle, fun left hleft => (h.openTag_le left hleft).trans hle⟩

/-- A scan leaves at most so many characters, or tells places within them. -/
def StaysWithin {α : Type} (limit : Nat) : Except SyntaxError (α × List Char) → Prop
  | .ok (_, rest) => rest.length ≤ limit
  | .error error => error.Within limit

namespace StaysWithin

variable {α β : Type} {limit greater : Nat}

theorem mono {scan : Except SyntaxError (α × List Char)} (h : StaysWithin limit scan)
    (hle : limit ≤ greater) : StaysWithin greater scan := by
  cases scan with
  | error error => exact SyntaxError.Within.mono h hle
  | ok found => exact Nat.le_trans h hle

/-- A scan that goes on with what another one leaves. -/
theorem bind {scan : Except SyntaxError (α × List Char)}
    {next : α × List Char → Except SyntaxError (β × List Char)} (hscan : StaysWithin limit scan)
    (hnext : ∀ value rest, rest.length ≤ limit → StaysWithin limit (next (value, rest))) :
    StaysWithin limit (scan >>= next) := by
  cases scan with
  | error error => exact hscan
  | ok found => exact hnext found.1 found.2 hscan

end StaysWithin

namespace Expr

/-! ## Expressions -/

/-- Skipping spaces makes no source longer. -/
theorem length_skipSpaces_le (cs : List Char) : (skipSpaces cs).length ≤ cs.length :=
  (List.dropWhile_suffix _).length_le

/-- A fixed text ends within the source, or the place of its quote is told, from where it is read.
-/
theorem scanLiteral_within {start : Nat} {rest : List Char} (h : rest.length ≤ start) :
    StaysWithin start (scanLiteral start rest) := by
  cases hscan : scanLiteral start rest with
  | ok found =>
    obtain ⟨glyphs, -, -, hrest⟩ := exists_quoted hscan
    have hlength := congrArg List.length hrest
    simp only [List.length_append, List.length_cons] at hlength
    show found.2.length ≤ start
    omega
  | error error =>
    rw [scanLiteral] at hscan
    split at hscan
    · cases hscan
    · cases hscan
      exact ⟨Nat.le_refl _, by simp⟩

/-- A word leaves what stands behind it. -/
theorem scanBare_within (cs : List Char) : StaysWithin cs.length (scanBare cs) := by
  rw [scanBare]
  split
  · exact ⟨Nat.le_refl _, by simp⟩
  · exact (List.dropWhile_suffix _).length_le

mutual

/-- An expression is scanned within its source, whatever depth the scan may go to. -/
theorem scanWithin_within : (depth : Nat) → (cs : List Char) →
    StaysWithin cs.length (scanWithin depth cs)
  | 0, cs => ⟨Nat.le_refl _, by simp⟩
  | depth + 1, cs => by
    rw [scanWithin.eq_def]
    dsimp only
    split
    · exact scanLiteral_within (Nat.le_succ _)
    split
    · exact ⟨Nat.le_refl _, by simp⟩
    · next key rest hkey =>
      obtain ⟨name, -, -, -, rfl⟩ := exists_key hkey
      have hskip := length_skipSpaces_le rest
      have hrest : rest.length ≤ (name ++ '(' :: rest).length := by
        rw [List.length_append, List.length_cons]
        omega
      split
      · next after hafter =>
        rw [hafter, List.length_cons] at hskip
        show after.length ≤ _
        omega
      · exact ((scanArguments_within depth _).mono (hskip.trans hrest)).bind fun _ _ h => h
    · next key after _ hkey =>
      obtain ⟨name, -, -, -, rfl⟩ := exists_key hkey
      show after.length ≤ _
      rw [List.length_append]
      omega

/-- So are the arguments of a call. -/
theorem scanArguments_within : (depth : Nat) → (cs : List Char) →
    StaysWithin cs.length (scanArguments depth cs)
  | 0, cs => ⟨Nat.le_refl _, by simp⟩
  | depth + 1, cs => by
    rw [scanArguments]
    refine ((scanArgument_within depth _).mono (length_skipSpaces_le cs)).bind ?_
    intro arg after hafter
    have hskip : (skipSpaces after).length ≤ cs.length := (length_skipSpaces_le after).trans hafter
    dsimp only
    split
    · next rest hrest =>
      rw [hrest, List.length_cons] at hskip
      exact ((scanArguments_within depth rest).mono (Nat.le_of_succ_le hskip)).bind
        fun _ _ h => h
    · next rest hrest =>
      rw [hrest, List.length_cons] at hskip
      exact Nat.le_of_succ_le hskip
    · exact ⟨hskip, by simp⟩

/-- So is a single argument. -/
theorem scanArgument_within : (depth : Nat) → (cs : List Char) →
    StaysWithin cs.length (scanArgument depth cs)
  | 0, cs => ⟨Nat.le_refl _, by simp⟩
  | depth + 1, cs => by
    rw [scanArgument.eq_def]
    dsimp only
    split
    · exact scanLiteral_within (Nat.le_succ _)
    · refine ((scanWithin_within depth _).mono (Nat.le_succ _)).bind ?_
      intro expr after hafter
      dsimp only
      split
      · exact Nat.le_of_succ_le hafter
      · exact ⟨hafter, by simp⟩
    · exact scanBare_within cs

end

/-- In the same way the scan of a whole tag's expression stays within the tag. -/
theorem scan_within (cs : List Char) : StaysWithin cs.length (scan cs) := scanWithin_within _ cs

end Expr

namespace Tag

/-! ## Tags -/

/-- So does that of an expression in parentheses. -/
theorem scanHead_within (make : Expr → TagBody) (cs : List Char) :
    StaysWithin cs.length (scanHead make cs) := by
  refine ((Expr.scan_within _).mono (Expr.length_skipSpaces_le cs)).bind ?_
  intro expr rest hrest
  have hskip := (Expr.length_skipSpaces_le rest).trans hrest
  dsimp only
  split
  · next after hafter =>
    rw [hafter, List.length_cons] at hskip
    exact Nat.le_of_succ_le hskip
  · exact ⟨hskip, by simp⟩

/-- So does that of whatever stands between the marks of a tag. -/
theorem scanBody_within (cs : List Char) : StaysWithin cs.length (scanBody cs) := by
  have hword : ∀ {word : String} {rest : List Char}, afterWord? word cs = some rest →
      rest.length ≤ cs.length := by
    intro word rest hafter
    rw [eq_append_of_afterWord? hafter, List.length_append]
    omega
  rw [scanBody]
  split
  · next hcond => exact (scanHead_within _ _).mono (hword hcond)
  · next hloop _ => exact (scanHead_within _ _).mono (hword hloop)
  · next hinclusion _ _ => exact (scanHead_within _ _).mono (hword hinclusion)
  · split
    · next closer rest hcloser =>
      rw [(eq_append_of_closer? hcloser).1]
      show rest.length ≤ _
      rw [List.length_append]
      omega
    · exact (Expr.scan_within cs).bind fun _ _ h => h

/-- A tag that is not closed is told with the place where it starts, in front of what is scanned. -/
theorem scan_within {start : Nat} {cs : List Char} (h : cs.length ≤ start) :
    StaysWithin start (scan start cs) := by
  obtain ⟨before, inner, rfl, hmark⟩ := exists_marked cs
  rw [List.length_append] at h
  rw [scan_mark hmark start]
  refine ((scanBody_within inner).mono (Nat.le_of_add_left_le h)).bind ?_
  intro body rest hrest
  dsimp only
  split
  · exact Nat.le_of_succ_le hrest
  · exact Nat.le_of_succ_le (Nat.le_of_succ_le hrest)
  · refine ⟨hrest, fun left hleft => ?_⟩
    cases hleft
    exact Nat.le_refl _

end Tag

/-! ## Sources -/

/-- The next piece of a source, or the mistake in it, lies within the source. -/
theorem Piece.next_within (cs : List Char) : StaysWithin cs.length (Piece.next cs) := by
  rw [Piece.next.eq_def]
  split
  · next rest =>
    show rest.length ≤ _
    simp only [List.length_cons]
    omega
  · next rest _ =>
    exact (Tag.scan_within (Nat.le_succ _)).bind fun _ _ h => h
  · exact (List.dropWhile_suffix _).length_le

/-- A tag starts inside of the source that it is read from. -/
theorem Piece.left_le_of_next {cs rest : List Char} {tag : Tag} {left : Nat}
    (h : Piece.next cs = .ok (.tag tag left, rest)) : left ≤ cs.length := by
  rw [Piece.next.eq_def] at h
  split at h
  · cases h
  · obtain ⟨found, -, hend⟩ := Except.bind_eq_ok.1 h
    cases hend
    exact Nat.le_refl _
  · cases h

namespace Progress

/-- A piece that finds no place is a tag, and told with the place where that starts. -/
theorem read_within {progress : Progress} {piece : Piece} {limit : Nat} {error : SyntaxError}
    (hpiece : ∀ tag left, piece = .tag tag left → left ≤ limit)
    (h : progress.read piece = .error error) : error.Within limit := by
  cases piece with
  | text | dollar => cases h
  | tag tag left =>
    have hleft := hpiece tag left rfl
    simp only [read] at h
    split at h
    · cases h
    · cases h
    · cases h
    · cases h
    · rw [close] at h
      split at h
      · cases h
        exact ⟨hleft, by simp⟩
      · split at h
        · dsimp only at h
          split at h <;> cases h
        · cases h
          exact ⟨hleft, by simp⟩

/-- The mistake that a source is refused for is told with places inside of the source. -/
theorem run_within (count : Nat) (progress : Progress) (source : List Char)
    (hcount : source.length ≤ count) {error : SyntaxError}
    (h : progress.run source = .error error) : error.Within source.length := by
  induction count generalizing progress source with
  | zero =>
    obtain rfl : source = [] := List.length_eq_zero_iff.1 (by omega)
    rw [run_nil, finish] at h
    split at h
    · cases h
    · cases h
      exact ⟨Nat.le_refl _, by simp⟩
  | succ count ih =>
    by_cases hne : source = []
    · subst hne
      exact ih progress [] (Nat.zero_le _) h
    have hstays := Piece.next_within source
    cases hnext : Piece.next source with
    | error mistake =>
      rw [run_of_error hne hnext] at h
      cases h
      rwa [hnext] at hstays
    | ok found =>
      obtain ⟨piece, rest⟩ := found
      have hlt := Piece.length_lt_of_next hne hnext
      rw [run_of_next hne hnext] at h
      cases hread : progress.read piece with
      | error mistake =>
        rw [hread] at h
        cases h
        -- a tag that is read in the wrong place tells its own
        refine read_within ?_ hread
        rintro tag left rfl
        exact Piece.left_le_of_next hnext
      | ok behind =>
        rw [hread, Except.ok_bind] at h
        exact (ih behind rest (by omega) h).mono (by omega)

end Progress

/-- Whatever mistake a source has, its places are places of the source. -/
theorem Element.ofSource_within {source : List Char} {error : SyntaxError}
    (h : Element.ofSource source = .error error) : error.Within source.length := by
  rw [Progress.ofSource_eq_run] at h
  exact Progress.run_within source.length _ source (Nat.le_refl _) h

namespace SyntaxError

/-! ## Text in front -/

/-- The characters of a source behind its last line feed. -/
def lastLine (source : List Char) : List Char := (source.reverse.takeWhile (· != '\n')).reverse

/-- The column of a place in `second` when `first` stands in front: only the first line of `second`
is moved, behind the last line of `first`. -/
def columnBehind (first second : List Char) (left : Nat) : Nat :=
  if line second left = 1 then column second left + (lastLine first).length
  else column second left

/-- What a cause in `second` is called in messages when `first` stands in front. -/
def describeBehind (first second : List Char) : SyntaxCause → String
  | .openTag left =>
    "unterminated tag starting at column " ++ toString (columnBehind first second left)
  | cause => describe second cause

/-- The message of a mistake in `second` when `first` stands in front: the number of its line grows
by the line feeds of `first`. -/
def messageBehind (origin : String) (first second : List Char) (error : SyntaxError) : String :=
  origin ++ ":" ++ toString (line second error.left + first.count '\n') ++ ":" ++
    toString (columnBehind first second error.left) ++ ": " ++
      describeBehind first second error.cause

variable {first second : List Char} {left : Nat}

/-- Up to a place in the second of two texts, the first stands whole. -/
theorem take_append_of_left_le (h : left ≤ second.length) :
    (first ++ second).take ((first ++ second).length - left)
      = first ++ second.take (second.length - left) := by
  have hlength : (first ++ second).length - left = first.length + (second.length - left) := by
    rw [List.length_append]
    omega
  rw [hlength, List.take_length_add_append]

/-- The lines of a text in front are counted on. -/
theorem line_append (h : left ≤ second.length) :
    line (first ++ second) left = line second left + first.count '\n' := by
  rw [line, line, take_append_of_left_le h, List.count_append]
  omega

/-- A place is on the first line if no line feed stands before it. -/
theorem line_eq_one_iff :
    line second left = 1 ↔ ∀ c ∈ second.take (second.length - left), (c != '\n') = true := by
  rw [line, Nat.add_eq_right, List.count_eq_zero]
  constructor
  · intro hnone c hc
    rw [bne_iff_ne]
    rintro rfl
    exact hnone hc
  · intro hall hmem
    exact absurd (hall _ hmem) (by decide)

/-- The column is moved by the last line of the text in front, on the first line alone. -/
theorem column_append (h : left ≤ second.length) :
    column (first ++ second) left = columnBehind first second left := by
  rw [columnBehind, column, column, take_append_of_left_le h, List.reverse_append]
  generalize hread : second.take (second.length - left) = read
  split
  · next hline =>
    -- no line feed has been read in `second`, so the line reaches back into `first`
    have hall : ∀ c ∈ read.reverse, (c != '\n') = true := by
      rw [line_eq_one_iff, hread] at hline
      exact fun c hc => hline c (List.mem_reverse.1 hc)
    have hread : read.reverse.takeWhile (· != '\n') = read.reverse :=
      List.takeWhile_eq_self_iff.2 hall
    rw [List.takeWhile_append_of_pos hall, hread, lastLine, List.length_append]
    simp only [List.length_reverse]
    omega
  · next hline =>
    have hbreak : ¬ ∀ c ∈ read.reverse, (c != '\n') = true := by
      rw [line_eq_one_iff, hread] at hline
      exact fun hall => hline fun c hc => hall c (List.mem_reverse.2 hc)
    have hread : (read.reverse.takeWhile (· != '\n')).length ≠ read.reverse.length := by
      intro hlength
      exact hbreak (List.takeWhile_eq_self_iff.1
        ((List.takeWhile_prefix _).eq_of_length hlength))
    rw [List.takeWhile_append, if_neg hread]

/-- The message of a mistake moves with the text in front of the source. -/
theorem message_append {error : SyntaxError} (h : error.Within second.length) (origin : String) :
    message origin (first ++ second) error = messageBehind origin first second error := by
  have hcause : describe (first ++ second) error.cause
      = describeBehind first second error.cause := by
    cases hopen : error.cause with
    | openTag left =>
      exact congrArg (fun number : Nat => "unterminated tag starting at column " ++ toString number)
        (column_append (h.openTag_le left hopen))
    | _ => rfl
  rw [message, messageBehind, line_append h.left_le, column_append h.left_le, hcause]

end SyntaxError

end Inlay.Template
