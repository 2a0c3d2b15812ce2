import Inlay.Proofs.Grammar.Place
import Inlay.Proofs.Grammar.Reading

/-!
# Sources one behind another

A source that is read leaves no block open and no tag unfinished, so what stands behind it is read
as it is alone: `ofSource_append`. The only thing that the two share is text, which is one text
where it ends the first source and begins the second (`joinElements`).

Where both are read, the documents that they are the texts of are put together. Where the second is
refused, it is read behind the elements of the first, and these change nothing but the elements in
front (`run_prepend`).
-/

namespace Inlay.Template

/-- Elements one behind another, a text at the end of the first being one with a text at the start
of the second. -/
def joinElements : List Element → List Element → List Element
  | [], more => more
  | [.chunk first], .chunk second :: more => .chunk (first ++ second) :: more
  | element :: rest, more => element :: joinElements rest more

/-- Documents one behind another, with texts that meet as one. -/
def joinNodes : List Node → List Node → List Node
  | [], more => more
  | [.text first], .text second :: more => .text (first ++ second) :: more
  | node :: rest, more => node :: joinNodes rest more

/-! ## Elements -/

/-- Where two templates are joined, only the last element of the first one is looked at. -/
theorem joinElements_append (front : List Element) {rest : List Element} (hrest : rest ≠ [])
    (more : List Element) :
    joinElements (front ++ rest) more = front ++ joinElements rest more := by
  induction front with
  | nil => rfl
  | cons element front ih =>
    obtain ⟨next, behind, hbehind⟩ := List.exists_cons_of_ne_nil
      (List.append_ne_nil_of_right_ne_nil front hrest)
    rw [List.cons_append, List.cons_append, ← ih, hbehind]
    exact joinElements.eq_3 more element (next :: behind) (by simp)

/-- Where no two texts meet, nothing is put together. -/
theorem joinElements_of_ne {elements more : List Element}
    (h : ∀ first second, elements.getLast? = some (.chunk first) →
      more.head? ≠ some (.chunk second)) :
    joinElements elements more = elements ++ more := by
  fun_induction joinElements elements more with
  | case1 more => rfl
  | case2 first second more => exact absurd rfl (h first second rfl)
  | case3 element rest more _ ih =>
    rw [List.cons_append, ih]
    intro first second hlast
    refine h first second ?_
    rw [List.getLast?_cons, hlast]
    rfl

/-! ## Documents -/

/-- Only a text derives elements that end in a text. -/
theorem exists_text_of_getLast? {node : Node} {text : String}
    (h : node.elements.getLast? = some (.chunk text)) : ∃ chars, node = .text chars := by
  cases node with
  | text chars => exact ⟨chars, rfl⟩
  | dollar => cases h
  | value marks | inclusion marks =>
    obtain ⟨before, after⟩ := marks
    cases before <;> cases after <;> cases h
  | block kind opening head body closing =>
    obtain ⟨before, _⟩ := opening
    obtain ⟨_, after⟩ := closing
    cases kind <;> cases before <;> cases after <;> cases h
  | divided kind opening head first divider second closing =>
    obtain ⟨before, _⟩ := opening
    obtain ⟨_, after⟩ := closing
    cases kind <;> cases before <;> cases after <;> cases h

/-- Only a document that begins with a text derives elements that do. -/
theorem exists_text_of_head? {nodes : List Node} {text : String}
    (h : (documentElements nodes).head? = some (.chunk text)) :
    ∃ chars more, nodes = .text chars :: more := by
  cases nodes with
  | nil => cases h
  | cons node nodes =>
    cases node with
    | text chars => exact ⟨chars, nodes, rfl⟩
    | dollar => cases h
    | value marks | inclusion marks =>
      obtain ⟨before, after⟩ := marks
      cases before <;> cases h
    | block kind marks | divided kind marks =>
      obtain ⟨before, after⟩ := marks
      cases kind <;> cases before <;> cases h

/-- Every node derives an element. -/
theorem Node.elements_ne_nil (node : Node) : node.elements ≠ [] := by
  cases node <;> simp [Node.elements]

/-- Joined documents are written one behind the other, also where two texts become one. -/
theorem documentSource_joinNodes (nodes more : List Node) :
    documentSource (joinNodes nodes more) = documentSource nodes ++ documentSource more := by
  fun_induction joinNodes nodes more with
  | case1 more => rfl
  | case2 first second more => simp [documentSource, Node.source]
  | case3 node rest more _ ih => rw [documentSource, documentSource, ih, List.append_assoc]

/-- The tags of joined documents are read as themselves, since a text at the seam has no tag. -/
theorem documentClear_joinNodes {nodes more : List Node} (hnodes : DocumentClear nodes)
    (hmore : DocumentClear more) : DocumentClear (joinNodes nodes more) := by
  fun_induction joinNodes nodes more with
  | case1 more => exact hmore
  | case2 first second more => exact ⟨trivial, hmore.2⟩
  | case3 node rest more _ ih => exact ⟨hnodes.1, ih hnodes.2 hmore⟩

/-- What stands behind a node keeps apart from it when more is joined behind that. -/
theorem separate_joinNodes {node : Node} {rest more : List Node} (hrest : Separate node rest)
    (hmore : rest = [] → Separate node more) : Separate node (joinNodes rest more) := by
  cases rest with
  | nil => exact hmore rfl
  | cons next rest =>
    cases node with
    | dollar | value | inclusion | block | divided => trivial
    | text chars =>
      cases next with
      | text more => exact hrest.elim
      | dollar | value | inclusion | block | divided => trivial

/-- No two texts are in a row at the seam, as they are made one there. -/
theorem documentWritten_joinNodes {nodes more : List Node} (hnodes : DocumentWritten nodes)
    (hmore : DocumentWritten more) : DocumentWritten (joinNodes nodes more) := by
  fun_induction joinNodes nodes more with
  | case1 more => exact hmore
  | case2 first second more =>
    obtain ⟨⟨hne, hfirst⟩, -⟩ := hnodes
    obtain ⟨⟨-, hsecond⟩, hseparate, hwritten⟩ := hmore
    refine ⟨⟨List.append_ne_nil_of_left_ne_nil hne _, ?_⟩, ?_, hwritten⟩
    · rw [List.mem_append]
      exact fun hmem => hmem.elim hfirst hsecond
    · cases more with
      | nil => trivial
      | cons next more =>
        cases next with
        | text chars => exact hseparate.elim
        | dollar | value | inclusion | block | divided => trivial
  | case3 node rest more hmeet ih =>
    obtain ⟨hnode, hseparate, hwritten⟩ := hnodes
    refine ⟨hnode, separate_joinNodes hseparate ?_, ih hwritten hmore⟩
    rintro rfl
    -- two texts that meet have been put together before
    cases more with
    | nil => cases node <;> trivial
    | cons next more =>
      cases node with
      | dollar | value | inclusion | block | divided => trivial
      | text first =>
        cases next with
        | text second => exact (hmeet first second more rfl rfl rfl).elim
        | dollar | value | inclusion | block | divided => trivial

/-- Joined documents derive the joined elements. -/
theorem documentElements_joinNodes (nodes more : List Node) :
    documentElements (joinNodes nodes more)
      = joinElements (documentElements nodes) (documentElements more) := by
  fun_induction joinNodes nodes more with
  | case1 more => rfl
  | case2 first second more =>
    simp [documentElements, Node.elements, joinElements, String.ofList_append]
  | case3 node rest more hmeet ih =>
    rw [documentElements, documentElements, ih]
    cases rest with
    | cons next rest =>
      have hne : documentElements (next :: rest) ≠ [] :=
        List.append_ne_nil_of_left_ne_nil next.elements_ne_nil _
      rw [joinElements_append _ hne]
    | nil =>
      rw [documentElements, List.append_nil, joinElements, joinElements_of_ne]
      intro first second hlast hhead
      obtain ⟨chars, rfl⟩ := exists_text_of_getLast? hlast
      obtain ⟨chars', more, rfl⟩ := exists_text_of_head? hhead
      exact hmeet chars chars' more rfl rfl rfl

namespace Progress

/-! ## Elements in front -/

/-- The open blocks with elements in front of the outermost one. -/
def prependBlocks (front : List Element) : List OpenBlock → List OpenBlock
  | [] => []
  | [block] => [{ block with before := block.before ++ front.reverse }]
  | block :: outer => block :: prependBlocks front outer

/-- What has been read, with elements in front of all of it. -/
def prepend (front : List Element) (progress : Progress) : Progress :=
  match progress.blocks with
  | [] => ⟨[], progress.elements ++ front.reverse⟩
  | blocks => ⟨prependBlocks front blocks, progress.elements⟩

/-- Elements in front of everything read so far are out of reach of what is read next. -/
theorem push_prepend (front : List Element) (progress : Progress) (elements : List Element) :
    (progress.prepend front).push elements = (progress.push elements).prepend front := by
  obtain ⟨blocks, read⟩ := progress
  cases blocks with
  | nil => simp [prepend, push]
  | cons block outer => rfl

/-- An opening tag puts them in front of the block, as it does with what else stood before it. -/
theorem openBlock_prepend (front : List Element) (progress : Progress) (tag : Tag)
    (opening : Opening) :
    (progress.prepend front).openBlock tag opening
      = (progress.openBlock tag opening).prepend front := by
  obtain ⟨blocks, read⟩ := progress
  cases blocks with
  | nil => simp [prepend, openBlock, prependBlocks, markBefore_eq]
  | cons block outer => rfl

/-- A closing tag ends a block, or fails, without a look at what stands before the blocks. -/
theorem close_prepend (front : List Element) (progress : Progress) (tag : Tag) (closer : Closer)
    (left : Nat) :
    (progress.prepend front).close tag closer left
      = (progress.close tag closer left).map (prepend front) := by
  obtain ⟨blocks, read⟩ := progress
  cases blocks with
  | nil => rfl
  | cons block outer =>
    have hexpects : ∀ before, OpenBlock.expects { block with before } = block.expects :=
      fun _ => rfl
    have hfinish : ∀ before body, OpenBlock.finish { block with before } body = block.finish body :=
      fun _ _ => rfl
    by_cases htakes : closer ∈ block.expects
    · -- what the block leaves is put where the block was
      cases outer with
      | nil =>
        cases closer <;>
          simp [prepend, prependBlocks, close, hexpects, hfinish, htakes, markAfter_eq, Except.map]
      | cons next outer =>
        cases closer <;> simp [prepend, prependBlocks, close, htakes, Except.map]
    · cases outer <;> simp [prepend, prependBlocks, close, hexpects, htakes, Except.map]

/-- A piece finds its place whatever stands in front of all that has been read. -/
theorem read_prepend (front : List Element) (progress : Progress) (piece : Piece) :
    (progress.prepend front).read piece = (progress.read piece).map (prepend front) := by
  cases piece with
  | text text => exact congrArg Except.ok (push_prepend front progress [.chunk text])
  | dollar => exact congrArg Except.ok (push_prepend front progress [.dollar])
  | tag tag left =>
    simp only [read]
    split
    · rw [add_eq_push, add_eq_push, push_prepend]
      rfl
    · rw [add_eq_push, add_eq_push, push_prepend]
      rfl
    · rw [openBlock_prepend]
      rfl
    · rw [openBlock_prepend]
      rfl
    · exact close_prepend front progress tag _ left

/-- At the end of a source, elements in front are in front of the result. -/
theorem finish_prepend (front : List Element) (progress : Progress) :
    (progress.prepend front).finish = progress.finish.map (front ++ ·) := by
  obtain ⟨blocks, read⟩ := progress
  cases blocks with
  | nil => simp [prepend, finish, Except.map]
  | cons block outer => cases outer <;> rfl

/-- A source is read as it is behind nothing, with its elements behind those in front of it. -/
theorem run_prepend (front : List Element) (count : Nat) (progress : Progress)
    (source : List Char) (hcount : source.length ≤ count) :
    (progress.prepend front).run source = (progress.run source).map (front ++ ·) := by
  induction count generalizing progress source with
  | zero =>
    obtain rfl : source = [] := List.length_eq_zero_iff.1 (by omega)
    rw [run_nil, run_nil, finish_prepend]
  | succ count ih =>
    by_cases hne : source = []
    · rw [hne, run_nil, run_nil, finish_prepend]
    cases hnext : Piece.next source with
    | error error =>
      rw [run_of_error hne hnext, run_of_error hne hnext]
      rfl
    | ok found =>
      obtain ⟨piece, rest⟩ := found
      have hlt := Piece.length_lt_of_next hne hnext
      rw [run_of_next hne hnext, run_of_next hne hnext, read_prepend]
      cases progress.read piece with
      | error error => rfl
      | ok behind => exact ih behind rest (by omega)

/-- Reading on behind complete elements is reading anew, with those elements in front. -/
theorem run_push_start (elements : List Element) (source : List Char) :
    (start.push elements).run source = (start.run source).map (elements ++ ·) := by
  have hstart : start.push elements = start.prepend elements := by
    simp [push, prepend, start]
  rw [hstart, run_prepend elements source.length start source (Nat.le_refl _)]

end Progress

/-! ## Sources -/

/-- The text at the start of a source, as a document. -/
def textNodes (source : List Char) : List Node :=
  match source.takeWhile (· != '$') with
  | [] => []
  | chars => [.text chars]

/-- The text in front of the first tag is written as itself. -/
theorem documentSource_textNodes (source : List Char) :
    documentSource (textNodes source) = source.takeWhile (· != '$') := by
  rw [textNodes]
  split
  · next hnil => rw [hnil, documentSource]
  · rw [documentSource, documentSource, Node.source, List.append_nil]

/-- It has no dollar sign, and is no node at all if it is empty. -/
theorem documentWritten_textNodes (source : List Char) : DocumentWritten (textNodes source) := by
  rw [textNodes]
  split
  · trivial
  · next hne =>
    refine ⟨⟨fun hnil => hne hnil, fun hmem => ?_⟩, trivial, trivial⟩
    exact absurd (List.all_eq_true.1 List.all_takeWhile _ hmem) (by decide)

/-- It has no tag that could be misread. -/
theorem documentClear_textNodes (source : List Char) : DocumentClear (textNodes source) := by
  rw [textNodes]
  split <;> simp [DocumentClear, Node.Clear]

/-- What stands behind a source that is read is read as it is alone, or refused for the same mistake
at the same place, told from the end. -/
theorem ofSource_append {first : List Char} {elements : List Element}
    (h : Element.ofSource first = .ok elements) (second : List Char) :
    Element.ofSource (first ++ second)
      = (Element.ofSource second).map (joinElements elements) := by
  obtain ⟨nodes, hwritten, hclear, rfl, rfl⟩ := Progress.exists_document h
  cases hsecond : Element.ofSource second with
  | ok more =>
    obtain ⟨others, hothers, hothersClear, rfl, rfl⟩ := Progress.exists_document hsecond
    rw [← documentSource_joinNodes,
      Progress.ofSource_source (documentWritten_joinNodes hwritten hothers)
        (documentClear_joinNodes hclear hothersClear), documentElements_joinNodes]
    rfl
  | error error =>
    -- the text at the start of `second` is read with the first source
    have htext := documentWritten_textNodes second
    have htextClear := documentClear_textNodes second
    have hrest : ∀ c ∈ (second.dropWhile (· != '$')).head?, c = '$' := by
      intro c hc
      simpa using head_dropWhile _ c hc
    have hsplit : second = documentSource (textNodes second) ++ second.dropWhile (· != '$') := by
      rw [documentSource_textNodes, List.takeWhile_append_dropWhile]
    have halone := Progress.run_document _ htext htextClear .start _ hrest
    have hbehind := Progress.run_document _ (documentWritten_joinNodes hwritten htext)
      (documentClear_joinNodes hclear htextClear) .start _ hrest
    rw [← hsplit, Progress.run_push_start, ← Progress.ofSource_eq_run, hsecond] at halone
    rw [documentSource_joinNodes, List.append_assoc, ← hsplit, Progress.run_push_start,
      ← Progress.ofSource_eq_run] at hbehind
    rw [hbehind]
    cases hrun : Progress.start.run (second.dropWhile (· != '$')) with
    | ok others =>
      rw [hrun] at halone
      cases halone
    | error reason =>
      rw [hrun] at halone
      cases halone
      rfl

/-- The report of a malformed source. -/
def malformed (reporter : Reporter) (origin : Value) (message : String) : Stop :=
  reporter.stop Code.templateParseError [
    (.text "origin", origin), (.text "detail", .text message)]

/-- Behind a source that is read, another one is read exactly if it is read alone. Its elements come
behind those of the first, a text at the end of these being one with a text at its start; if it is
refused, it is for the mistake that it is refused for alone, with the numbers of its place moved by
the text in front. -/
theorem readElements_append {reporter : Reporter} {origin : Value} {first : String}
    {elements : List Element} (h : readElements reporter origin first = .ok elements)
    (second : String) :
    ((∃ whole, readElements reporter origin (first ++ second) = .ok whole)
      ↔ ∃ more, readElements reporter origin second = .ok more) ∧
    (∀ more, readElements reporter origin second = .ok more →
      readElements reporter origin (first ++ second) = .ok (joinElements elements more)) ∧
    ∀ error, Element.ofSource second.toList = .error error →
      readElements reporter origin second
        = .error (malformed reporter origin (error.message origin.asText second.toList)) ∧
      readElements reporter origin (first ++ second)
        = .error (malformed reporter origin
            (error.messageBehind origin.asText first.toList second.toList)) := by
  -- the run of the whole goes through the first source without a mistake
  have happend := ofSource_append (readElements_eq_ok_iff.1 h) second.toList
  rw [← String.toList_append] at happend
  have hread : ∀ more, readElements reporter origin second = .ok more →
      readElements reporter origin (first ++ second) = .ok (joinElements elements more) := by
    intro more hmore
    rw [readElements_eq_ok_iff] at hmore ⊢
    rw [happend, hmore]
    rfl
  refine ⟨⟨?_, fun ⟨more, hmore⟩ => ⟨_, hread more hmore⟩⟩, hread, ?_⟩
  · rintro ⟨whole, hwhole⟩
    rw [readElements_eq_ok_iff, happend] at hwhole
    cases hsecond : Element.ofSource second.toList with
    | ok more => exact ⟨more, readElements_eq_ok_iff.2 hsecond⟩
    | error error =>
      rw [hsecond] at hwhole
      cases hwhole
  · intro error herror
    have hbehind : Element.ofSource (first ++ second).toList = .error error := by
      rw [happend, herror]
      rfl
    constructor
    · rw [readElements, herror]
      rfl
    · rw [readElements, hbehind, String.toList_append]
      dsimp only
      rw [SyntaxError.message_append (Element.ofSource_within herror)]
      rfl

/-- A letter that goes on with a text and a tag, and one that goes on with a tag that is not closed:
both numbers of its message are moved behind the last line that was there. -/
theorem letter_goes_on :
    readElements ⟨.builtin, default⟩ (.text "letter") ("To $a$,\nwe" ++ " owe $b$")
        = .ok [.chunk "To ", .value (.ident "a"), .chunk ",\nwe owe ", .value (.ident "b")] ∧
      readElements ⟨.builtin, default⟩ (.text "letter") ("To $a$,\nwe" ++ " owe $b")
        = .error (malformed ⟨.builtin, default⟩ (.text "letter")
            "letter:2:10: unterminated tag starting at column 8") := by
  have hfirst : readElements ⟨.builtin, default⟩ (.text "letter") "To $a$,\nwe"
      = .ok [.chunk "To ", .value (.ident "a"), .chunk ",\nwe"] := by
    have hsource : "To $a$,\nwe".toList = ['T', 'o', ' ', '$', 'a', '$', ',', '\n', 'w', 'e'] := by
      decide
    rw [readElements_eq_ok_iff, hsource]
    rfl
  constructor
  · refine (readElements_append hfirst " owe $b$").2.1 [.chunk " owe ", .value (.ident "b")] ?_
    have hsource : " owe $b$".toList = [' ', 'o', 'w', 'e', ' ', '$', 'b', '$'] := by decide
    rw [readElements_eq_ok_iff, hsource]
    rfl
  · have hsource : " owe $b".toList = [' ', 'o', 'w', 'e', ' ', '$', 'b'] := by decide
    have herror : Element.ofSource " owe $b".toList = .error ⟨.openTag 2, 0⟩ := by
      rw [hsource]
      rfl
    rw [((readElements_append hfirst " owe $b").2.2 _ herror).2]
    have hmessage : SyntaxError.messageBehind "letter" "To $a$,\nwe".toList " owe $b".toList
        ⟨.openTag 2, 0⟩ = "letter:2:10: unterminated tag starting at column 8" := by
      decide +kernel
    rw [← hmessage]
    rfl

end Inlay.Template
