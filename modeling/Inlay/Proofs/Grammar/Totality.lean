import Inlay.Proofs.Fault.Messages
import Inlay.Proofs.Grammar.Place
import Inlay.Proofs.Grammar.Reading

/-!
# Every source is read or refused

The scans work with a bound on the number of their steps. Each step takes a character, so a bound
that is greater than the number of characters is never met: a greater one gives the same
(`Expr.scanWithin_eq_scan`, `Piece.scanWithin_eq_scan`).

A mistake is told with the line and the column of a place in the source, its end included
(`SyntaxError.isAt`). So every source either is the text of a document, in which each block has
its closing tag, or is refused with such a place (`readElements_ends`).
-/

namespace Inlay.Template

namespace Expr

/-! ## Bounds of the scans -/

mutual

/-- A scan that may go deeper than its source has characters finds nothing more down there. -/
theorem scanWithin_succ : (depth : Nat) → (cs : List Char) → cs.length + 1 ≤ depth →
    scanWithin (depth + 1) cs = scanWithin depth cs
  | 0, cs, h => absurd h (by omega)
  | depth + 1, cs, h => by
    rw [scanWithin.eq_def (depth + 1 + 1), scanWithin.eq_def (depth + 1)]
    dsimp only
    split
    · rfl
    split
    · rfl
    · next key rest hkey =>
      obtain ⟨name, hname, -, -, rfl⟩ := exists_key hkey
      obtain ⟨c, name, rfl⟩ : ∃ c tail, name = c :: tail := by
        cases name with
        | nil => exact hname.elim
        | cons c tail => exact ⟨c, tail, rfl⟩
      have hskip := length_skipSpaces_le rest
      -- the key and the parenthesis leave enough depth for the arguments
      have hlength : (skipSpaces rest).length + 2 ≤ depth := by
        simp only [List.cons_append, List.length_cons, List.length_append] at h
        omega
      split
      · rfl
      · rw [scanArguments_succ depth _ hlength]
    · rfl

/-- Nor does the scan of arguments, of which each may go as deep as what is left. -/
theorem scanArguments_succ : (depth : Nat) → (cs : List Char) → cs.length + 2 ≤ depth →
    scanArguments (depth + 1) cs = scanArguments depth cs
  | 0, cs, h => absurd h (by omega)
  | depth + 1, cs, h => by
    have hskip := length_skipSpaces_le cs
    have hstays := scanArgument_within depth (skipSpaces cs)
    rw [scanArguments, scanArguments, scanArgument_succ depth (skipSpaces cs) (by omega)]
    cases hscan : scanArgument depth (skipSpaces cs) with
    | error error => rfl
    | ok found =>
      rw [hscan] at hstays
      have hafter : (skipSpaces found.2).length ≤ cs.length :=
        (length_skipSpaces_le found.2).trans (Nat.le_trans hstays hskip)
      rw [Except.ok_bind, Except.ok_bind]
      dsimp only
      split
      · next rest hrest =>
        rw [hrest, List.length_cons] at hafter
        rw [scanArguments_succ depth rest (by omega)]
      · rfl
      · rfl

/-- Nor does that of one argument. -/
theorem scanArgument_succ : (depth : Nat) → (cs : List Char) → cs.length + 1 ≤ depth →
    scanArgument (depth + 1) cs = scanArgument depth cs
  | 0, cs, h => absurd h (by omega)
  | depth + 1, cs, h => by
    rw [scanArgument.eq_def (depth + 1 + 1), scanArgument.eq_def (depth + 1)]
    dsimp only
    split
    · rfl
    · next rest =>
      rw [List.length_cons] at h
      rw [scanWithin_succ depth rest (by omega)]
    · rfl

end

/-- A greater bound on the nesting of an expression makes no difference. -/
theorem scanWithin_eq_scan {depth : Nat} {cs : List Char} (h : cs.length < depth) :
    scanWithin depth cs = scan cs := by
  induction depth, h using Nat.le_induction with
  | base => rfl
  | succ depth h ih => rw [scanWithin_succ depth cs h, ih]

end Expr

namespace Piece

/-- A source has no more pieces than characters, so a scan for more pieces than that finds no
others. -/
theorem scanWithin_succ (count : Nat) (cs : List Char) (h : cs.length ≤ count) :
    scanWithin (count + 1) cs = scanWithin count cs := by
  induction count generalizing cs with
  | zero =>
    obtain rfl : cs = [] := List.length_eq_zero_iff.1 (by omega)
    rfl
  | succ count ih =>
    by_cases hne : cs = []
    · subst hne
      rfl
    rw [scanWithin.eq_3 _ _ hne, scanWithin.eq_3 _ _ hne]
    cases hnext : next cs with
    | error error => rfl
    | ok found =>
      have hlt := length_lt_of_next hne hnext
      dsimp only
      rw [ih found.2 (by omega)]

/-- A greater bound on the number of pieces makes no difference. -/
theorem scanWithin_eq_scan {count : Nat} {cs : List Char} (h : cs.length ≤ count) :
    scanWithin count cs = scan cs := by
  induction count, h using Nat.le_induction with
  | base => rfl
  | succ count h ih => rw [scanWithin_succ count cs h, ih]

end Piece

namespace SyntaxError

/-! ## Lines and columns -/

/-- A line and a column are those of a place in a source: there are so many line feeds in front of
it, and so many characters between the last of them and it. -/
structure IsAt (source : List Char) (place line column : Nat) : Prop where
  place_le : place ≤ source.length
  line_eq : line = 1 + (source.take place).count '\n'
  column_eq : column = 1 + (lastLine (source.take place)).length
  line_le : line ≤ 1 + source.count '\n'
  column_le : ∃ text, (source.splitOn '\n')[line - 1]? = some text ∧ column ≤ 1 + text.length

/-- A line feed starts a new line, and every other character goes in front of the first one. -/
theorem splitOn_cons (c : Char) (source : List Char) :
    (c :: source).splitOn '\n'
      = if c = '\n' then [] :: source.splitOn '\n'
        else (source.splitOn '\n').modifyHead (c :: ·) := by
  unfold List.splitOn
  rw [List.splitOnP_cons_eq_if_modifyHead]
  simp only [beq_iff_eq]

/-- A character in front of what has been read stands in its last line if there is no line feed from
it on. -/
theorem length_lastLine_cons (c : Char) (read : List Char) :
    (lastLine (c :: read)).length
      = (lastLine read).length + if (c :: read).count '\n' = 0 then 1 else 0 := by
  rw [lastLine, lastLine, List.length_reverse, List.length_reverse, List.reverse_cons,
    List.takeWhile_append]
  by_cases hfeed : '\n' ∈ read
  · -- the last line is cut off by a line feed behind the character
    have hshort : (read.reverse.takeWhile (· != '\n')).length ≠ read.reverse.length := by
      intro hlength
      have hall := List.takeWhile_eq_self_iff.1
        ((List.takeWhile_prefix _).eq_of_length hlength)
      exact absurd (hall '\n' (List.mem_reverse.2 hfeed)) (by decide)
    rw [if_neg hshort, if_neg]
    · rfl
    · intro hcount
      exact List.count_eq_zero.1 hcount (List.mem_cons_of_mem c hfeed)
  · -- all that has been read is the last line, and the character is in it unless it ends a line
    have hwhole : read.reverse.takeWhile (· != '\n') = read.reverse := by
      rw [List.takeWhile_eq_self_iff]
      intro d hd
      rw [bne_iff_ne]
      rintro rfl
      exact hfeed (List.mem_reverse.1 hd)
    have hnone : read.count '\n' = 0 := List.count_eq_zero.2 hfeed
    rw [hwhole, if_pos rfl, List.length_append, List.count_cons, hnone]
    by_cases hc : c = '\n' <;> simp [hc]

/-- The last line of what has been read is the start of the line that is numbered by the line feeds
in it. -/
theorem exists_line_of_append (read rest : List Char) :
    ∃ text, ((read ++ rest).splitOn '\n')[read.count '\n']? = some text ∧
      (lastLine read).length ≤ text.length := by
  induction read with
  | nil =>
    obtain ⟨text, lines, hlines⟩ := List.exists_cons_of_ne_nil (List.splitOn_ne_nil '\n' rest)
    exact ⟨text, by simp [hlines], Nat.zero_le _⟩
  | cons c read ih =>
    obtain ⟨text, htext, hlength⟩ := ih
    rw [List.cons_append, splitOn_cons, length_lastLine_cons, List.count_cons]
    by_cases hc : c = '\n'
    · refine ⟨text, ?_, ?_⟩
      · simpa [hc] using htext
      · simpa [hc] using hlength
    · -- the character belongs to the first line, which is the one in question or not
      by_cases hnone : read.count '\n' = 0
      · rw [hnone] at htext
        refine ⟨c :: text, ?_, ?_⟩
        · simp [hc, hnone, htext]
        · simpa [hc, hnone] using hlength
      · refine ⟨text, ?_, ?_⟩
        · simpa [hc, hnone, List.getElem?_modifyHead] using htext
        · simpa [hc, hnone] using hlength

/-- The line and the column that are told for a place are those of the place. -/
theorem isAt (source : List Char) (left : Nat) :
    IsAt source (source.length - left) (line source left) (column source left) where
  place_le := Nat.sub_le _ _
  line_eq := Nat.add_comm _ _
  column_eq := by rw [column, lastLine, List.length_reverse, Nat.add_comm]
  line_le := by
    have hcount := (List.take_sublist (source.length - left) source).count_le '\n'
    rw [line]
    omega
  column_le := by
    obtain ⟨text, htext, hlength⟩ :=
      exists_line_of_append (source.take (source.length - left))
        (source.drop (source.length - left))
    rw [List.take_append_drop] at htext
    refine ⟨text, htext, ?_⟩
    rw [column]
    rw [lastLine, List.length_reverse] at hlength
    omega

end SyntaxError

/-! ## Sources -/

/-- With the codes that every registry starts with, every source of every origin is read as the
elements of a document whose text it is, so with a closing tag for each of its blocks, or reported
as malformed: with the origin, the line and the column of a place in the source, and what is wrong
there. Nothing else happens, and no bound of the scans is ever met. -/
theorem readElements_ends (reporter : Reporter) (hregistry : reporter.registry = .builtin)
    (origin source : String) :
    ((∃ document : Document, document.Clear ∧ document.source = source ∧
        readElements reporter (.text origin) source = .ok document.elements) ∨
      ∃ fault place line column cause,
        readElements reporter (.text origin) source = .error (.fault fault) ∧
        fault.code = Code.templateParseError ∧
        fault.detail = .text (origin ++ ":" ++ toString line ++ ":" ++ toString column ++ ": " ++
          SyntaxError.describe source.toList cause) ∧
        SyntaxError.IsAt source.toList place line column) ∧
    (∀ count, source.toList.length ≤ count →
      Piece.scanWithin count source.toList = Piece.scan source.toList) ∧
    ∀ depth cs, cs.length < depth → Expr.scanWithin depth cs = Expr.scan cs := by
  refine ⟨?_, fun _ h => Piece.scanWithin_eq_scan h, fun _ _ h => Expr.scanWithin_eq_scan h⟩
  cases hread : Element.ofSource source.toList with
  | ok elements =>
    obtain ⟨nodes, hwritten, hclear, hsource, rfl⟩ := Progress.exists_document hread
    refine .inl ⟨⟨nodes, hwritten⟩, hclear, ?_, readElements_eq_ok_iff.2 hread⟩
    rw [Document.source, ← hsource, String.ofList_toList]
  | error error =>
    obtain ⟨fault, hfault, hcode, hdetail⟩ :=
      Reporter.exists_templateParseError hregistry origin (error.message origin source.toList)
    refine .inr ⟨fault, source.toList.length - error.left,
      SyntaxError.line source.toList error.left, SyntaxError.column source.toList error.left,
      error.cause, ?_, hcode, hdetail, SyntaxError.isAt source.toList error.left⟩
    rw [readElements, hread]
    dsimp only
    rw [show Value.asText (.text origin) = origin from rfl, hfault]

/-- A block that the source ends inside of is reported at the end of the second line. -/
theorem readElements_ends_openBlock :
    ∃ fault, readElements ⟨.builtin, default⟩ (.text "page") "a\n$if(b)$c" = .error (.fault fault) ∧
      fault.code = Code.templateParseError ∧
      fault.detail = .text "page:2:9: expected $else$ or $endif$ before end of template" := by
  have hsource : "a\n$if(b)$c".toList = ['a', '\n', '$', 'i', 'f', '(', 'b', ')', '$', 'c'] := by
    decide
  have hrefused : readElements ⟨.builtin, default⟩ (.text "page") "a\n$if(b)$c"
      = .error (Reporter.stop ⟨.builtin, default⟩ Code.templateParseError
          [(.text "origin", .text "page"), (.text "detail",
            .text "page:2:9: expected $else$ or $endif$ before end of template")]) := by
    rw [readElements, hsource]
    rfl
  obtain ⟨hends, -, -⟩ := readElements_ends ⟨.builtin, default⟩ rfl "page" "a\n$if(b)$c"
  obtain ⟨document, -, -, hread⟩ | ⟨fault, -, -, -, -, hread, hcode, -, -⟩ := hends
  · rw [hrefused] at hread
    cases hread
  · refine ⟨fault, hread, hcode, ?_⟩
    rw [hrefused, Except.error.injEq] at hread
    exact Reporter.detail_of_stop rfl hread

end Inlay.Template
