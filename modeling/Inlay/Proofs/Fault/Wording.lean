import Inlay.Proofs.Fault.Reports

/-!
# Wordings

Most patterns are simple: text, in which a brace is written twice, and fields that ask for a value
and for no part of it. A `Wording` is such a pattern by its segments, and `Wording.pattern` writes
it.

To fill it is one pass over the segments (`fill_pattern`): the text of a value stands in the place
of its field and is not read again, and a single field without a value undoes the rest. What ends
the pass for good is a value that has no text, met before any such field. Read for fields and not
filled, a text has none exactly if it is some text with its braces written twice
(`hasSlot_eq_false_iff`).

So each text of a fault is its wording filled, or the pattern as it is written, whatever becomes of
the others (`Reporter.report_worded`).
-/

namespace Inlay

namespace Pattern

/-! ## Wordings -/

/-- Does the character begin or end a field? -/
def isBrace (c : Char) : Bool := c == '{' || c == '}'

/-- A character as patterns write it. -/
def escape (c : Char) : List Char := if isBrace c then [c, c] else [c]

/-- A text as patterns write it: each brace stands twice. -/
def escaped (text : List Char) : List Char := text.flatMap escape

/-- A name that a field asks for a value by. -/
structure Name where
  chars : List Char
  word : Word chars

/-- The name as values have it. -/
def Name.text (name : Name) : String := String.ofList name.chars

/-- What a simple pattern is made of. -/
inductive Segment where
  | char (c : Char)
  | field (name : Name)

/-- A segment as patterns write it. -/
def Segment.written : Segment → List Char
  | .char c => escape c
  | .field name => '{' :: (name.chars ++ ['}'])

/-- What a segment stands for; a field without a value stands for nothing. -/
def Segment.filled? (values : Entries) : Segment → Option (List Char)
  | .char c => some [c]
  | .field name => (values.field? name.text).map fun value => value.asText.toList

end Pattern

/-- A simple pattern. -/
abbrev Wording := List Pattern.Segment

namespace Wording

open Pattern

/-- The characters of the pattern. -/
def written (wording : Wording) : List Char := wording.flatMap Segment.written

/-- The pattern itself. -/
def pattern (wording : Wording) : String := String.ofList wording.written

/-- The names of the values that are asked for. -/
def names (wording : Wording) : List String :=
  wording.filterMap fun
    | .char _ => none
    | .field name => some name.text

/-- The characters of the wording with every field filled; there are none if a field has no
value. -/
def chars? (values : Entries) : Wording → Option (List Char)
  | [] => some []
  | segment :: rest => do return (← segment.filled? values) ++ (← chars? values rest)

/-- Can the fields be gone through? The first that has no value ends it, and all values before that
have to have a text. -/
def isFillable (values : Entries) : Wording → Bool
  | [] => true
  | .char _ :: rest => isFillable values rest
  | .field name :: rest =>
    match values.field? name.text with
    | none => true
    | some value => value.hasText && isFillable values rest

/-- What the wording says if every field of it has a value. -/
def filled? (values : Entries) (wording : Wording) : Option String :=
  (wording.chars? values).map String.ofList

/-- What is said in the end: the filled wording, or the pattern if that cannot be had. -/
def told (values : Entries) (wording : Wording) : String :=
  (wording.filled? values).getD wording.pattern

section

variable {c : Char}

theorem written_plain (h : isBrace c = false) (rest : Wording) :
    written (.char c :: rest) = c :: written rest := by
  rw [written, List.flatMap_cons, Segment.written, escape, h]
  rfl

theorem written_brace (h : isBrace c = true) (rest : Wording) :
    written (.char c :: rest) = c :: c :: written rest := by
  rw [written, List.flatMap_cons, Segment.written, escape, h]
  rfl

theorem written_field (name : Name) (rest : Wording) :
    written (.field name :: rest) = '{' :: (name.chars ++ '}' :: written rest) := by
  rw [written, List.flatMap_cons, Segment.written, List.cons_append, List.append_assoc]
  rfl

end

/-- The pattern of a wording can be read with this bound on the number of its parts. Text goes on in
the same part, so it does not use up the bound. -/
inductive Within : Nat → Wording → Prop where
  | nil {count : Nat} : Within count []
  | plain {count : Nat} {c : Char} {rest : Wording} (hbrace : isBrace c = false)
      (behind : Within (count + 1) rest) : Within (count + 1) (.char c :: rest)
  | brace {count : Nat} {c : Char} {rest : Wording} (hbrace : isBrace c = true)
      (behind : Within count rest) : Within (count + 1) (.char c :: rest)
  | field {count : Nat} {name : Name} {rest : Wording}
      (behind : Within count rest) : Within (count + 1) (.field name :: rest)

/-- No pattern has more parts than characters. -/
theorem within_of_length_le {count : Nat} {wording : Wording} (h : wording.written.length ≤ count) :
    Within count wording := by
  induction wording generalizing count with
  | nil => exact .nil
  | cons segment rest ih =>
    cases segment with
    | char c =>
      cases hbrace : isBrace c with
      | false =>
        rw [written_plain hbrace, List.length_cons] at h
        obtain ⟨count, rfl⟩ : ∃ n, count = n + 1 := ⟨count - 1, by omega⟩
        exact .plain hbrace (ih (by omega))
      | true =>
        rw [written_brace hbrace, List.length_cons, List.length_cons] at h
        obtain ⟨count, rfl⟩ : ∃ n, count = n + 1 := ⟨count - 1, by omega⟩
        exact .brace hbrace (ih (by omega))
    | field name =>
      rw [written_field, List.length_cons, List.length_append, List.length_cons] at h
      obtain ⟨count, rfl⟩ : ∃ n, count = n + 1 := ⟨count - 1, by omega⟩
      exact .field (ih (by omega))

/-- A wording is filled if each of its fields has a value. -/
theorem isSome_filled?_iff {values : Entries} {wording : Wording} :
    (wording.filled? values).isSome = true ↔
      ∀ name ∈ wording.names, (values.field? name).isSome = true := by
  unfold filled? names
  rw [Option.isSome_map]
  induction wording with
  | nil => simp [chars?]
  | cons segment rest ih =>
    cases segment with
    | char c =>
      simp only [chars?, Segment.filled?, List.filterMap_cons]
      rw [← ih]
      cases chars? values rest <;> rfl
    | field name =>
      simp only [chars?, Segment.filled?, List.filterMap_cons, List.forall_mem_cons]
      rw [← ih]
      cases values.field? name.text with
      | none => simp
      | some value => cases chars? values rest <;> simp

/-- Where all values that are asked for have a text, the fields can be gone through. -/
theorem isFillable_of_hasText {values : Entries} {wording : Wording}
    (h : ∀ name ∈ wording.names, ∀ value, values.field? name = some value →
      value.hasText = true) : wording.isFillable values = true := by
  induction wording with
  | nil => rfl
  | cons segment rest ih =>
    cases segment with
    | char c => exact ih h
    | field name =>
      have hnames : names (.field name :: rest) = name.text :: names rest := rfl
      rw [hnames, List.forall_mem_cons] at h
      rw [isFillable]
      cases hvalue : values.field? name.text with
      | none => rfl
      | some value => exact Bool.and_eq_true_iff.2 ⟨h.1 value hvalue, ih h.2⟩

/-- A wording whose fields have values says what it is filled to. -/
theorem told_of_filled {values : Entries} {wording : Wording} {text : String}
    (h : wording.filled? values = some text) : wording.told values = text := by
  rw [told, h, Option.getD_some]

/-- Else it says its pattern, with the braces in it as they are. -/
theorem told_of_unfilled {values : Entries} {wording : Wording}
    (h : wording.filled? values = none) : wording.told values = wording.pattern := by
  rw [told, h, Option.getD_none]

end Wording

namespace Pattern

/-! ## The parts of a pattern -/

variable {c : Char} {cs rest : List Char} {name : Name} {values : Entries}
  {layout : List Char → Except Unfilled (List Char)} {count : Nat}

/-- A character that is no brace is put before the text of the part that it begins. -/
theorem next_cons (h : isBrace c = false) (cs : List Char) :
    next (c :: cs) = (next cs).map fun part => (c :: part.1, part.2) := by
  have hplain : (fun c => !isBrace c) c = true := by simp [h]
  have htake : (c :: cs).takeWhile (fun c => !isBrace c)
      = c :: cs.takeWhile fun c => !isBrace c := List.takeWhile_cons_of_pos hplain
  have hdrop : (c :: cs).dropWhile (fun c => !isBrace c)
      = cs.dropWhile fun c => !isBrace c := List.dropWhile_cons_of_pos hplain
  simp only [isBrace] at htake hdrop
  unfold next
  dsimp only
  rw [htake, hdrop]
  split <;> try rfl
  next d after _ _ => cases scanSlot (d :: after) <;> rfl

/-- A doubled brace is a part of its own. -/
theorem next_brace (h : isBrace c = true) (rest : List Char) :
    next (c :: c :: rest) = .ok ([c], none, rest) := by
  simp only [isBrace, Bool.or_eq_true, beq_iff_eq] at h
  rcases h with rfl | rfl <;> rfl

/-- A field at the start of a pattern is a part of its own. -/
theorem next_field (name : Name) (rest : List Char) :
    next ('{' :: (name.chars ++ '}' :: rest))
      = .ok ([], some ⟨name.chars, none, [], false⟩, rest) := by
  have hplain : Plain [] := nofun
  exact next_slot hplain name.word rest

/-- A brace that is not doubled is no text. -/
theorem next_lone (h : isBrace c = true) (hlone : cs.head? ≠ some c) (text rest : List Char) :
    next (c :: cs) ≠ .ok (text, none, rest) := by
  have hbrace : ¬ (fun c => !isBrace c) c = true := by simp [h]
  have hdrop : (c :: cs).dropWhile (fun c => !isBrace c) = c :: cs :=
    List.dropWhile_cons_of_neg hbrace
  simp only [isBrace] at hdrop
  unfold next
  dsimp only
  rw [hdrop]
  intro hnext
  split at hnext
  · next heq => cases heq
  · next heq =>
    cases heq
    exact hlone rfl
  · next heq =>
    cases heq
    exact hlone rfl
  · obtain ⟨⟨slot, after⟩, -, hfield⟩ := Except.bind_eq_ok.1 hnext
    cases hfield
  · cases hnext

/-- A text is empty, begins with a character that is no brace, or with a brace: one that is doubled,
or one that is not. -/
@[elab_as_elim]
theorem braces_induction {motive : List Char → Prop} (nil : motive [])
    (plain : ∀ c cs, isBrace c = false → motive cs → motive (c :: cs))
    (brace : ∀ c cs, isBrace c = true → motive cs → motive (c :: c :: cs))
    (lone : ∀ c cs, isBrace c = true → cs.head? ≠ some c → motive (c :: cs)) :
    ∀ cs, motive cs
  | [] => nil
  | [c] => by
    cases h : isBrace c with
    | false => exact plain c [] h nil
    | true => exact lone c [] h nofun
  | c :: d :: cs => by
    cases h : isBrace c with
    | false => exact plain c (d :: cs) h (braces_induction nil plain brace lone (d :: cs))
    | true =>
      by_cases hd : d = c
      · subst hd
        exact brace d cs h (braces_induction nil plain brace lone cs)
      · exact lone c (d :: cs) h (by simpa using hd)

/-! ## Filling -/

/-- A name asks for the value that stands under it. -/
theorem partNamed_found (name : Name) {value : Value} (h : values.field? name.text = some value) :
    partNamed values name.chars = .ok (.value value) := by
  obtain ⟨hne, hword, hnumber⟩ := name.word
  have hsteps : ∀ c ∈ name.chars, (!beginsStep c) = true := by
    intro c hc
    have hc' := hword c hc
    simp only [List.mem_cons, List.not_mem_nil, or_false, not_or] at hc'
    simp [beginsStep, hc']
  have hempty : name.chars.isEmpty = false := by simpa using hne
  have hvalue : values.field? (String.ofList name.chars) = some value := h
  unfold partNamed
  dsimp only
  rw [List.takeWhile_eq_self_iff.2 hsteps, List.dropWhile_eq_nil_iff.2 hsteps, hnumber, hempty,
    hvalue]
  cases name.chars.length <;> rfl

/-- A field is filled with the text of its value, which must have one. -/
theorem fillSlot_field (name : Name) :
    fillSlot values layout ⟨name.chars, none, [], false⟩
      = match values.field? name.text with
        | some value =>
          if value.hasText then .ok value.asText.toList else .error (.misuse .badForm)
        | none => .error .missing := by
  cases h : values.field? name.text with
  | none =>
    rw [fillSlot, partNamed_missing name.word h]
    rfl
  | some value =>
    rw [fillSlot, partNamed_found name h]
    show (orMisuse value.shown >>= fun text => .ok text.toList) = _
    rw [Value.shown]
    dsimp only
    split <;> rfl

theorem fillWithin_nil : fillWithin values layout count [] = .ok [] := by
  cases count <;> rfl

/-- A character that is no brace is taken as it is. -/
theorem fillWithin_plain (h : isBrace c = false) (cs : List Char) :
    fillWithin values layout (count + 1) (c :: cs)
      = (fillWithin values layout (count + 1) cs).map (c :: ·) := by
  rw [fillWithin, next_cons h]
  · cases cs with
    | nil => simp [fillWithin_nil, next, Except.map, orMisuse, bind, Except.bind, pure, Except.pure]
    | cons d cs =>
      rw [fillWithin]
      · cases next (d :: cs) with
        | error misuse => rfl
        | ok part =>
          obtain ⟨text, slot, rest⟩ := part
          cases slot with
          | none => cases hrest : fillWithin values layout count rest <;>
              simp [Except.map, orMisuse, bind, Except.bind, pure, Except.pure, hrest]
          | some slot =>
            cases hslot : fillSlot values layout slot with
            | error reason => simp [Except.map, orMisuse, bind, Except.bind, hslot]
            | ok filled => cases hrest : fillWithin values layout count rest <;>
                simp [Except.map, orMisuse, bind, Except.bind, hslot, hrest]
      · exact List.cons_ne_nil _ _
  · exact List.cons_ne_nil _ _

/-- A brace that stands twice is taken once. -/
theorem fillWithin_brace (h : isBrace c = true) (rest : List Char) :
    fillWithin values layout (count + 1) (c :: c :: rest)
      = (fillWithin values layout count rest).map (c :: ·) := by
  rw [fillWithin, next_brace h]
  · cases hrest : fillWithin values layout count rest <;>
      simp [Except.map, orMisuse, bind, Except.bind, pure, Except.pure, hrest]
  · exact List.cons_ne_nil _ _

/-- A field is filled with its value; the fill ends there if this has no text, or is missing. -/
theorem fillWithin_field (name : Name) (rest : List Char) :
    fillWithin values layout (count + 1) ('{' :: (name.chars ++ '}' :: rest))
      = match values.field? name.text with
        | some value =>
          if value.hasText then
            (fillWithin values layout count rest).map (value.asText.toList ++ ·)
          else .error (.misuse .badForm)
        | none => .error .missing := by
  rw [fillWithin, next_field]
  · simp only [orMisuse, Except.ok_bind, fillSlot_field]
    cases values.field? name.text with
    | none => rfl
    | some value =>
      dsimp only
      split
      · cases fillWithin values layout count rest <;> simp [Except.map, bind, Except.bind]
      · rfl
  · exact List.cons_ne_nil _ _

/-- The segments are filled one by one. The first field without a value ends it, and so does the
first value without a text. -/
theorem fillWithin_written {wording : Wording} (h : wording.Within count) :
    fillWithin values layout count wording.written
      = if wording.isFillable values then
          match wording.chars? values with
          | some text => .ok text
          | none => .error .missing
        else .error (.misuse .badForm) := by
  -- on the parts of the pattern, which use up the bound as the fill does
  induction h with
  | nil => exact fillWithin_nil
  | @plain count c rest hbrace _ ih =>
    rw [Wording.written_plain hbrace, fillWithin_plain hbrace, ih, Wording.chars?,
      Wording.isFillable]
    cases Wording.isFillable values rest <;> cases Wording.chars? values rest <;> rfl
  | @brace count c rest hbrace _ ih =>
    rw [Wording.written_brace hbrace, fillWithin_brace hbrace, ih, Wording.chars?,
      Wording.isFillable]
    cases Wording.isFillable values rest <;> cases Wording.chars? values rest <;> rfl
  | @field count name rest _ ih =>
    rw [Wording.written_field, fillWithin_field, ih, Wording.chars?, Segment.filled?,
      Wording.isFillable]
    cases values.field? name.text with
    | none => rfl
    | some value =>
      dsimp only
      by_cases htext : value.hasText = true
      · simp only [htext, if_true, Bool.true_and]
        cases Wording.isFillable values rest <;> cases Wording.chars? values rest <;> rfl
      · simp only [htext, Bool.false_and, Bool.false_eq_true, if_false]

/-- A simple pattern is filled all or nothing, if its fields can be gone through. -/
theorem fill_pattern (values : Entries) (wording : Wording) :
    fill values wording.pattern
      = if wording.isFillable values then
          match wording.filled? values with
          | some text => .ok text
          | none => .error .missing
        else .error (.misuse .badForm) := by
  rw [fill, Wording.pattern, String.toList_ofList, String.length_ofList,
    fillWithin_written (Wording.within_of_length_le (Nat.le_refl _)), Wording.filled?]
  cases wording.isFillable values <;> cases wording.chars? values <;> rfl

/-! ## Reading a text for fields -/

theorem hasSlotWithin_nil : hasSlotWithin count [] = .ok false := by
  cases count <;> rfl

theorem hasSlotWithin_plain (h : isBrace c = false) (cs : List Char) :
    hasSlotWithin (count + 1) (c :: cs) = hasSlotWithin (count + 1) cs := by
  rw [hasSlotWithin, next_cons h]
  · cases cs with
    | nil => simp [hasSlotWithin_nil, next, Except.map, bind, Except.bind]
    | cons d cs =>
      rw [hasSlotWithin]
      · cases next (d :: cs) with
        | error misuse => rfl
        | ok part =>
          obtain ⟨text, slot, rest⟩ := part
          cases slot <;> rfl
      · exact List.cons_ne_nil _ _
  · exact List.cons_ne_nil _ _

theorem hasSlotWithin_brace (h : isBrace c = true) (rest : List Char) :
    hasSlotWithin (count + 1) (c :: c :: rest) = hasSlotWithin count rest := by
  rw [hasSlotWithin, next_brace h]
  · rfl
  · exact List.cons_ne_nil _ _

theorem hasSlotWithin_field (name : Name) (rest : List Char) :
    hasSlotWithin (count + 1) ('{' :: (name.chars ++ '}' :: rest)) = .ok true := by
  rw [hasSlotWithin, next_field]
  · rfl
  · exact List.cons_ne_nil _ _

theorem hasSlotWithin_lone (h : isBrace c = true) (hlone : cs.head? ≠ some c) :
    hasSlotWithin (count + 1) (c :: cs) ≠ .ok false := by
  rw [hasSlotWithin]
  · cases hnext : next (c :: cs) with
    | error misuse =>
      intro hfound
      cases hfound
    | ok part =>
      obtain ⟨text, slot, rest⟩ := part
      cases slot with
      | none => exact absurd hnext (next_lone h hlone text rest)
      | some slot =>
        intro hfound
        cases hfound
  · exact List.cons_ne_nil _ _

theorem escaped_cons (c : Char) (text : List Char) :
    escaped (c :: text) = escape c ++ escaped text := List.flatMap_cons

/-- In an escaped text, a first character that is a brace stands there twice. -/
theorem exists_cons_eq_escaped_iff :
    (∃ plain, c :: cs = escaped plain) ↔
      ∃ more, cs = (if isBrace c then [c] else []) ++ escaped more := by
  constructor
  · rintro ⟨plain, htext⟩
    cases plain with
    | nil => cases htext
    | cons d more =>
      rw [escaped_cons, escape] at htext
      cases hbrace : isBrace d <;> simp only [hbrace, if_true, Bool.false_eq_true, if_false,
        List.cons_append, List.nil_append, List.cons.injEq] at htext
      all_goals
        obtain ⟨rfl, rfl⟩ := htext
        exact ⟨more, by simp [hbrace]⟩
  · rintro ⟨more, rfl⟩
    refine ⟨c :: more, ?_⟩
    rw [escaped_cons, escape]
    cases isBrace c <;> simp

/-- What is read as a pattern without a field is a text whose braces are written twice. -/
theorem hasSlotWithin_eq_false_iff {text : List Char} (h : text.length ≤ count) :
    hasSlotWithin count text = .ok false ↔ ∃ plain, text = escaped plain := by
  induction text using braces_induction generalizing count with
  | nil => exact iff_of_true hasSlotWithin_nil ⟨[], rfl⟩
  | plain c cs hbrace ih =>
    obtain ⟨count, rfl⟩ : ∃ n, count = n + 1 := ⟨count - 1, by simp at h; omega⟩
    rw [hasSlotWithin_plain hbrace, ih (by simp at h; omega)]
    simp [exists_cons_eq_escaped_iff, hbrace]
  | brace c cs hbrace ih =>
    obtain ⟨count, rfl⟩ : ∃ n, count = n + 1 := ⟨count - 1, by simp at h; omega⟩
    rw [hasSlotWithin_brace hbrace, ih (by simp at h; omega)]
    simp [exists_cons_eq_escaped_iff, hbrace]
  | lone c cs hbrace hlone =>
    obtain ⟨count, rfl⟩ : ∃ n, count = n + 1 := ⟨count - 1, by simp at h; omega⟩
    refine iff_of_false (hasSlotWithin_lone hbrace hlone) ?_
    rw [exists_cons_eq_escaped_iff]
    rintro ⟨more, rfl⟩
    simp [hbrace] at hlone

/-- The patterns that have no field are the texts with all braces doubled. -/
theorem hasSlot_eq_false_iff {text : String} :
    hasSlot text = .ok false ↔ ∃ plain, text.toList = escaped plain := by
  refine hasSlotWithin_eq_false_iff ?_
  rw [String.length_toList]
  exact Nat.le_succ _

/-- A pattern that asks for a value is read as one. -/
theorem hasSlotWithin_written {wording : Wording} (h : wording.Within count)
    (hfield : wording.names ≠ []) : hasSlotWithin count wording.written = .ok true := by
  induction h with
  | nil => exact absurd rfl hfield
  | plain hbrace _ ih =>
    rw [Wording.written_plain hbrace, hasSlotWithin_plain hbrace, ih hfield]
  | brace hbrace _ ih =>
    rw [Wording.written_brace hbrace, hasSlotWithin_brace hbrace, ih hfield]
  | field _ ih => rw [Wording.written_field, hasSlotWithin_field]

/-- A wording with a field has a pattern with one. -/
theorem hasSlot_pattern {wording : Wording} (hfield : wording.names ≠ []) :
    hasSlot wording.pattern = .ok true := by
  rw [hasSlot, Wording.pattern, String.toList_ofList, String.length_ofList]
  exact hasSlotWithin_written (Wording.within_of_length_le (Nat.le_succ _)) hfield

/-! ## Reading a wording -/

/-- Is this a text without braces but those around the names? The name that is being read comes
first. -/
def spells (names : List (List Char)) : Option (List Char) → List Char → Bool
  | none, [] => true
  | none, c :: rest =>
    if c = '{' then spells names (some []) rest else !isBrace c && spells names none rest
  | some _, [] => false
  | some name, c :: rest =>
    if c = '}' then names.contains name && spells names none rest
    else spells names (some (name ++ [c])) rest

/-- A text in which names stand between braces is the pattern of a wording, also from within a name
on. -/
theorem exists_written_of_spells {names : List (List Char)} (hnames : ∀ name ∈ names, Word name)
    {begun : Option (List Char)} {pattern : List Char} (h : spells names begun pattern = true) :
    match begun with
    | none => ∃ wording : Wording, wording.written = pattern
    | some name => ∃ (word : Name) (wording : Wording),
        word.chars ++ '}' :: wording.written = name ++ pattern := by
  induction pattern generalizing begun with
  | nil =>
    cases begun with
    | none => exact ⟨[], rfl⟩
    | some name => cases h
  | cons c rest ih =>
    cases begun with
    | none =>
      rw [spells] at h
      split at h
      · next hc =>
        obtain ⟨word, wording, hrest⟩ := ih h
        exact ⟨.field word :: wording, by rw [Wording.written_field, hrest, hc, List.nil_append]⟩
      · obtain ⟨hbrace, hrest⟩ := Bool.and_eq_true_iff.1 h
        obtain ⟨wording, rfl⟩ := ih hrest
        exact ⟨.char c :: wording, Wording.written_plain (by simpa using hbrace) wording⟩
    | some name =>
      rw [spells] at h
      split at h
      · next hc =>
        obtain ⟨hname, hrest⟩ := Bool.and_eq_true_iff.1 h
        obtain ⟨wording, rfl⟩ := ih hrest
        exact ⟨⟨name, hnames name (List.contains_iff_mem.1 hname)⟩, wording, by rw [hc]⟩
      · obtain ⟨word, wording, hrest⟩ := ih h
        exact ⟨word, wording, by rw [hrest, List.append_assoc, List.singleton_append]⟩

end Pattern

/-! ## Faults of worded forms -/

/-- The texts that faults of one code are reported with, by their wordings. -/
structure WordedForm where
  code : String
  category : Category
  message : Option Wording
  detail : Option Wording := none
  suggestion : Option Wording := none

/-- The form as it is registered. -/
def WordedForm.form (worded : WordedForm) : FaultForm where
  code := worded.code
  category := worded.category
  message := worded.message.map Wording.pattern
  detail := worded.detail.map Wording.pattern
  suggestion := worded.suggestion.map Wording.pattern

/-- Can the fields of all the texts be gone through? -/
def WordedForm.isFillable (worded : WordedForm) (values : Entries) : Bool :=
  worded.message.all (Wording.isFillable values) &&
    worded.detail.all (Wording.isFillable values) &&
    worded.suggestion.all (Wording.isFillable values)

namespace Reporter

/-- The names of the fields of registered patterns. -/
def fields : List (List Char) := firstFields ++ [
  ['a', 'c', 't', 'u', 'a', 'l'],
  ['s', 'u', 'b', 'j', 'e', 'c', 't'],
  ['r', 'e', 'a', 's', 'o', 'n']]

theorem word_fields : ∀ name ∈ fields, Pattern.Word name := by
  rw [fields, List.forall_mem_append]
  refine ⟨word_firstFields, ?_⟩
  simp only [List.forall_mem_cons, List.not_mem_nil, IsEmpty.forall_iff, implies_true, and_true]
  refine ⟨?_, ?_, ?_⟩ <;> exact ⟨by decide, by simp, Pattern.number?_cons (by decide +kernel) _⟩

/-- The pattern, if there is one, is that of a wording. -/
def Worded (pattern : Option String) : Prop :=
  ∃ wording : Option Wording, wording.map Wording.pattern = pattern

theorem Worded.none : Worded none := ⟨.none, rfl⟩

/-- A pattern is that of a wording if its characters spell one. -/
theorem Worded.of_chars {cs : List Char} (h : Pattern.spells fields .none cs = true) :
    Worded (some (String.ofList cs)) := by
  obtain ⟨wording, rfl⟩ := Pattern.exists_written_of_spells word_fields h
  exact ⟨some wording, rfl⟩

/-- All forms of the built-in registry are worded. -/
theorem exists_worded_of_builtin {form : FaultForm} (hform : form ∈ Registry.builtin.forms) :
    ∃ worded : WordedForm, worded.form = form := by
  have hworded : Worded form.message ∧ Worded form.detail ∧ Worded form.suggestion := by
    simp only [Registry.builtin, List.mem_cons, List.not_mem_nil, or_false] at hform
    rcases hform with rfl | rfl | rfl | rfl | rfl | rfl | rfl | rfl | rfl | rfl | rfl <;>
      refine ⟨?_, ?_, ?_⟩ <;> first | exact .none | exact .of_chars (by decide)
  obtain ⟨⟨message, hmessage⟩, ⟨detail, hdetail⟩, ⟨suggestion, hsuggestion⟩⟩ := hworded
  exact ⟨⟨form.code, form.category, message, detail, suggestion⟩, by
    rw [WordedForm.form, hmessage, hdetail, hsuggestion]⟩

section

variable {values : Entries}

/-- A pattern that may be absent is filled, or taken as it is written, if its fields can be gone
through. -/
theorem interpolate?_pattern (values : Entries) (wording : Option Wording) :
    interpolate? values (wording.map Wording.pattern)
      = if wording.all (Wording.isFillable values) then .ok (wording.map (Wording.told values))
        else .error .badForm := by
  cases wording with
  | none => rfl
  | some wording =>
    rw [Option.map_some, interpolate?, interpolate, Pattern.fill_pattern, Option.map_some,
      Option.all_some, Wording.told]
    cases wording.isFillable values <;> cases wording.filled? values <;> rfl

/-- The trail that the values give, if they give one, can be gone through. -/
def TrailListed (values : Entries) : Prop :=
  ∀ trail ∈ values.field? "trail", trail.members?.isSome = true

/-- A trail that is a list can be had, as can one that is not given. -/
theorem exists_trailOf (h : TrailListed values) : ∃ trail, trailOf values = .ok trail := by
  unfold trailOf
  cases htrail : values.field? "trail" with
  | none => exact ⟨[], rfl⟩
  | some value =>
    obtain ⟨members, hmembers⟩ := Option.isSome_iff_exists.1 (h value htrail)
    exact ⟨members, by dsimp only; rw [hmembers]⟩

/-- No other value can be gone through for its breadcrumbs. -/
theorem trailOf_of_not_listed (h : ¬ TrailListed values) : trailOf values = .error .wrongKind := by
  simp only [TrailListed, not_forall, Bool.not_eq_true, Option.isSome_eq_false_iff,
    Option.isNone_iff_eq_none] at h
  obtain ⟨value, htrail, hmembers⟩ := h
  rw [trailOf, htrail]
  dsimp only
  rw [hmembers]

/-- The fault of a worded form. Its trail may keep it from being made, and before that a value
without a text. -/
theorem report_form {reporter : Reporter} {worded : WordedForm}
    (hform : reporter.registry.find? worded.code = some worded.form) (values : Entries)
    (cause : Option Fault) :
    reporter.report worded.code values cause
      = if worded.isFillable values then
          (trailOf values).map fun trail => {
            code := worded.code
            category := worded.category
            message := (worded.message.map (Wording.told values)).getD ("Error " ++ worded.code)
            detail :=
              (values.field? "detail").getD (.ofText? (worded.detail.map (Wording.told values)))
            suggestion := worded.suggestion.map (Wording.told values)
            origin := (values.field? "template_origin").getD .null
            item := (values.field? "item_identifier").getD .null
            trail, cause
            reported := reporter.now }
        else .error .badForm := by
  unfold report
  rw [hform]
  dsimp only [WordedForm.form]
  rw [interpolate?_pattern, interpolate?_pattern, interpolate?_pattern, WordedForm.isFillable]
  -- the texts are filled one after the other, before the trail is looked at
  cases worded.message.all (Wording.isFillable values) with
  | false => rfl
  | true =>
    cases worded.detail.all (Wording.isFillable values) with
    | false => rfl
    | true =>
      cases worded.suggestion.all (Wording.isFillable values) with
      | false => rfl
      | true => cases trailOf values <;> rfl

end

/-- Each text of a fault is its wording filled, or the pattern as it is written if a field of it has
no value, whatever becomes of the others; and a value named `detail` stands in the place of the
detail. All this is so if the values that come into the texts can be written and the trail can be
gone through; else no fault is made. -/
theorem report_worded {reporter : Reporter} {worded : WordedForm}
    (hform : reporter.registry.find? worded.code = some worded.form) (values : Entries)
    (cause : Option Fault) :
    (worded.isFillable values = true → TrailListed values →
      ∃ fault, reporter.report worded.code values cause = .ok fault ∧
        fault.message
          = (worded.message.map (Wording.told values)).getD ("Error " ++ worded.code) ∧
        fault.detail = (values.field? "detail").getD
          (.ofText? (worded.detail.map (Wording.told values))) ∧
        fault.suggestion = worded.suggestion.map (Wording.told values)) ∧
    (worded.isFillable values = false →
      reporter.report worded.code values cause = .error .badForm) ∧
    (worded.isFillable values = true → ¬ TrailListed values →
      reporter.report worded.code values cause = .error .wrongKind) := by
  rw [report_form hform]
  refine ⟨fun hfillable hlisted => ?_, fun hfillable => ?_, fun hfillable hlisted => ?_⟩
  · obtain ⟨trail, htrail⟩ := exists_trailOf hlisted
    rw [if_pos hfillable, htrail]
    exact ⟨_, rfl, rfl, rfl, rfl⟩
  · rw [hfillable]
    rfl
  · rw [if_pos hfillable, trailOf_of_not_listed hlisted]
    rfl

/-- A trail that is given as nothing keeps a fault from being made, though its message could be
filled; and so does an integer of too many digits, which its message asks for. -/
theorem null_trail_refused : ∃ worded : WordedForm,
    Registry.builtin.find? worded.code = some worded.form ∧
      (⟨.builtin, default⟩ : Reporter).report worded.code
        [(.text "key", .text "title"), (.text "trail", .null)] = .error .wrongKind ∧
      (⟨.builtin, default⟩ : Reporter).report worded.code
        [(.text "key", .int (.ofNat Value.tooLong))] = .error .badForm := by
  have hmissing : 4 < Registry.builtin.forms.length := by decide
  obtain ⟨worded, hworded⟩ := exists_worded_of_builtin (List.getElem_mem hmissing)
  have hcode : worded.code = Code.fieldNotFound := congrArg FaultForm.code hworded
  refine ⟨worded, ?_, ?_, ?_⟩
  · rw [hcode, hworded]
    rfl
  · rw [hcode]
    rfl
  · rw [hcode]
    rfl

/-- A form whose message has braces of its own. -/
def unsetField : WordedForm where
  code := "UNSET_FIELD"
  category := .context
  message := some [.char '{', .field ⟨['k', 'e', 'y'], word_fields _ (by decide)⟩, .char '}']
  detail := some [.char '?']
  suggestion := some
    [.field ⟨['k', 'e', 'y'], word_fields _ (by decide)⟩, .char '{',
      .field ⟨['o', 'r', 'i', 'g', 'i', 'n'], word_fields _ (by decide)⟩]

/-- Of two fields one is missing, so the pattern is told, and the value of the other is not put in.
-/
theorem unsetField_told :
    let reporter : Reporter := ⟨Registry.builtin.register unsetField.form, default⟩
    let values : Entries := [(.text "key", .text "{origin}"), (.text "detail", .list [])]
    reporter.registry.find? unsetField.code = some unsetField.form ∧
      unsetField.isFillable values = true ∧ TrailListed values ∧
      ∃ fault, reporter.report unsetField.code values = .ok fault ∧
        fault.message = "\x7b{origin}\x7d" ∧ fault.detail = .list [] ∧
        fault.suggestion = some "{key}\x7b\x7b{origin}" := by
  intro reporter values
  have hform : reporter.registry.find? unsetField.code = some unsetField.form := rfl
  have hfillable : unsetField.isFillable values = true := rfl
  have hlisted : TrailListed values := nofun
  exact ⟨hform, hfillable, hlisted, (report_worded hform values none).1 hfillable hlisted⟩

end Reporter

end Inlay
