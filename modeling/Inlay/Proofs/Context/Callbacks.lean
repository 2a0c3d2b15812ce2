import Inlay.Proofs.Context.Lookup

/-!
# What becomes of computations

A field may be computed when it is asked for, and the computation may report a fault. In a context
that is put together from such fields, at most one of them decides the answer to a question: the
first whose key is asked for and whose computation does not decline. What its computation says is
then the answer, by one rule for texts and lists: a fault becomes a failure, and the lookup goes on
(`lookup_contained`).

Two things are not kept to this rule: the test of a flag, and running through the members of a
computed list, which may be made only then. A fault that is reported there stops the lookup
(`troubled_callbacks_stop`).
-/

namespace Inlay.Context

/-- A field that is computed when it is asked for. -/
inductive Computed where
  | field (key : String) (compute : Computation Value)
  | function (key : String) (compute : List String → Computation Value)
  | flag (key : String) (test : Value → Except Stop Bool)
  | items (key : String) (inner : Context) (compute : Computation Iterable)
  | values (key : String) (build : Value → Except Stop Context) (compute : Computation Iterable)

/-- A context put together from computed fields. -/
inductive Recipe where
  | of (computed : Computed)
  | chain (recipes : List Recipe)
  | append (first second : Recipe)
  | map (f : String → String) (recipe : Recipe)

namespace Computed

def key : Computed → String
  | .field key _ => key
  | .function key _ => key
  | .flag key _ => key
  | .items key _ _ => key
  | .values key _ _ => key

def context : Computed → Context
  | .field key compute => Context.field key compute
  | .function key compute => Context.function key compute
  | .flag key test => Context.flag key test
  | .items key inner compute => itemsWith key inner compute
  | .values key build compute => valuesWith key build compute

/-- What comes of the field. Its computation says nothing, or has a reason to stop, which is kept to
the rule. Of what it says otherwise the field is made, and a reason to stop that comes up there is
not kept to the rule. The test of a flag counts as a part of the making. -/
def run : Computed → List String → Value → Except Stop (Option (Except Stop Field))
  | .field _ compute, _, subject => (compute subject).map (Option.map textField)
  | .function _ compute, args, subject => (compute args subject).map (Option.map textField)
  | .flag _ test, _, subject =>
    match test subject with
    | .ok true => .ok (some (.ok .present))
    | .ok false => .ok none
    | .error reason => .ok (some (.error reason))
  | .items _ inner compute, _, subject =>
    (compute subject).map (Option.map fun iterable => iterable.members.map (.items inner))
  | .values _ build compute, _, subject =>
    (compute subject).map (Option.map fun iterable => iterable.members.map fun members =>
      .values (members.map fun value => (value, build value)))

/-- The answer of the field to its key. -/
def answer : Except Stop (Option (Except Stop Field)) → Reply (Outcome Field)
  | .error reason => outcomeOf (.error reason)
  | .ok none => pure (.notFound [])
  | .ok (some (.ok made)) => pure (.found made)
  | .ok (some (.error reason)) => Reply.stop reason

/-- The field is asked for and its computation does not decline. -/
def decides (asked : String) (args : List String) (subject : Value) (computed : Computed) : Bool :=
  computed.key == asked &&
    match computed.run args subject with
    | .ok none => false
    | _ => true

/-- How a field stops the lookup that it decides. -/
inductive Stops (args : List String) (subject : Value) (computed : Computed) : Stop → Prop where
  /-- There is a reason to stop outside of the rule. -/
  | loose {reason : Stop} (hrun : computed.run args subject = .ok (some (.error reason))) :
    Stops args subject computed reason
  /-- The rule is for faults alone. -/
  | misuse {misuse : Misuse} (hrun : computed.run args subject = .error (.misuse misuse)) :
    Stops args subject computed (.misuse misuse)
  /-- By the rule a fault is told, and its detail has no text. -/
  | untold {fault : Fault} (hrun : computed.run args subject = .error (.fault fault))
    (huntold : fault.detail.hasText = false) : Stops args subject computed (.misuse .badForm)

/-- What reports a fault outside of the rule: the test of a flag, or the making of the members of a
list. -/
inductive Escapes (subject : Value) (fault : Fault) : Computed → Prop where
  | flag {key : String} {test : Value → Except Stop Bool}
    (htest : test subject = .error (.fault fault)) : Escapes subject fault (.flag key test)
  | items {key : String} {inner : Context} {compute : Computation Iterable} {made : List Value}
    (hcompute : compute subject = .ok (some (.made made (.error (.fault fault))))) :
    Escapes subject fault (.items key inner compute)
  | values {key : String} {build : Value → Except Stop Context} {compute : Computation Iterable}
    {made : List Value}
    (hcompute : compute subject = .ok (some (.made made (.error (.fault fault))))) :
    Escapes subject fault (.values key build compute)

end Computed

namespace Recipe

mutual

/-- The context that the recipe is for. -/
def context : Recipe → Context
  | .of computed => computed.context
  | .chain recipes => Context.chain (contexts recipes)
  | .append first second => first.context ++ second.context
  | .map f recipe => Context.map f recipe.context

def contexts : List Recipe → List Context
  | [] => []
  | recipe :: rest => recipe.context :: contexts rest

end

mutual

/-- The fields that it is put together from, the first to be asked first. -/
def fields : Recipe → List Computed
  | .of computed => [computed]
  | .chain recipes => allFields recipes
  | .append first second => first.fields ++ second.fields
  | .map _ recipe => recipe.fields

def allFields : List Recipe → List Computed
  | [] => []
  | recipe :: rest => recipe.fields ++ allFields rest

end

mutual

/-- The recipe without the fields of other keys. -/
def only (key : String) : Recipe → Recipe
  | .of computed => if computed.key = key then .of computed else .chain []
  | .chain recipes => .chain (allOnly key recipes)
  | .append first second => .append (first.only key) (second.only key)
  | .map f recipe => .map f (recipe.only key)

def allOnly (key : String) : List Recipe → List Recipe
  | [] => []
  | recipe :: rest => recipe.only key :: allOnly key rest

end

/-- The field that decides the answer to a question. -/
def deciding (recipe : Recipe) (key : String) (args : List String) (subject : Value) :
    Option Computed :=
  recipe.fields.find? (Computed.decides key args subject)

end Recipe

/-! ## Answers of contexts that are put together -/

section

variable (key : String) (args : List String) (subject : Value)

/-- The answer of what stands behind, where the first one declines. -/
def behind (reply : Reply (Outcome Field)) : Outcome Field → Reply (Outcome Field)
  | .notFound _ => reply
  | outcome => pure outcome

/-- The second of two contexts is asked where the first one declines. -/
theorem lookup_append (first second : Context) :
    (first ++ second).lookup key args subject
      = first.lookup key args subject >>= behind (second.lookup key args subject) := by
  have hproviders : (first ++ second).providers = first.providers ++ second.providers := rfl
  rw [lookup, hproviders, ask_append]
  rfl

/-- So are the further contexts of a chain. -/
theorem lookup_chain_cons (context : Context) (rest : List Context) :
    (chain (context :: rest)).lookup key args subject
      = context.lookup key args subject >>= behind ((chain rest).lookup key args subject) := by
  have hproviders : chain (context :: rest) = context ++ chain rest := by
    obtain ⟨providers⟩ := context
    rw [chain, List.flatMap_cons]
    rfl
  rw [hproviders, lookup_append]

/-- A context of one provider asks this one, and drops its messages if it declines. -/
theorem lookup_single (provider : Provider) :
    (single provider).lookup key args subject
      = provider key args subject >>= behind (pure (.notFound [])) := by
  show ask [provider] key args subject = _
  rw [ask]
  rfl

/-- The answer of a context is put through a function; what declines goes on to do so. -/
theorem lookup_map (f : String → String) (context : Context) :
    (map f context).lookup key args subject
      = context.lookup key args subject >>= fun outcome =>
        behind (pure (.notFound [])) (mapOutcome f key outcome) := by
  rw [map, lookup_single, Reply.bind_assoc]
  rfl

end

/-! ## One field -/

section

variable {args : List String} {subject : Value}

/-- A field for one key declines every other. -/
theorem lookup_onKey_other {key asked : String} (h : asked ≠ key)
    (answer : List String → Value → Reply (Outcome Field)) :
    (onKey key answer).lookup asked args subject = pure (.notFound []) := by
  rw [onKey, lookup_single, if_neg h]
  rfl

/-- A computed field answers its key with what comes of the computation. -/
theorem lookup_computed {α : Type} (key : String) (make : α → Except Stop Field)
    (compute : List String → Computation α) :
    (computed key make compute).lookup key args subject
      = Computed.answer ((compute args subject).map (Option.map make)) := by
  rw [computed, onKey, lookup_single, if_pos rfl]
  rcases compute args subject with (fault | misuse) | _ | value
  · simp only [Computed.answer, Except.map, outcomeOf]
    cases fault.detail.hasText <;> rfl
  · rfl
  · rfl
  · rw [outcomeOf, Reply.pure_bind]
    dsimp only [Except.map, Option.map]
    cases make value <;> rfl

namespace Computed

/-- Asked for another key, a field declines, whatever its computation would say. -/
theorem lookup_other {computed : Computed} {asked : String} (h : asked ≠ computed.key) :
    computed.context.lookup asked args subject = pure (.notFound []) := by
  cases computed with
  | field key compute | function key compute | flag key test | items key inner compute
  | values key build compute => exact lookup_onKey_other h _

/-- Asked for its own key, a field answers by what comes of it. -/
theorem lookup_own (computed : Computed) :
    computed.context.lookup computed.key args subject = answer (computed.run args subject) := by
  cases computed with
  | field key compute => exact lookup_computed key _ fun _ => compute
  | function key compute => exact lookup_computed key _ compute
  | items key inner compute => exact lookup_computed key _ fun _ => compute
  | values key build compute => exact lookup_computed key _ fun _ => compute
  | flag key test =>
    show (Context.flag key test).lookup key args subject = _
    rw [Context.flag, onKey, lookup_single, if_pos rfl, run]
    rcases test subject with reason | _ | _ <;> rfl

/-- A field is made of a text without a fault. -/
theorem textField_ne_fault {value : Value} {fault : Fault} :
    textField value ≠ .error (.fault fault) := by
  unfold textField
  cases value.shown <;> nofun

/-- A fault comes up while the members of a list are run through exactly where it ends their
making. -/
theorem members_eq_fault {iterable : Iterable} {fieldOf : List Value → Field} {fault : Fault} :
    iterable.members.map fieldOf = .error (.fault fault) ↔
      ∃ made, iterable = .made made (.error (.fault fault)) := by
  constructor
  · intro hmembers
    cases iterable with
    | whole value =>
      rw [Iterable.members] at hmembers
      cases hvalue : membersOf value <;> rw [hvalue] at hmembers <;> cases hmembers
    | made members ended =>
      rw [Iterable.members] at hmembers
      cases ended <;> cases hmembers
      exact ⟨members, rfl⟩
  · rintro ⟨made, rfl⟩
    rfl

/-- A reason to stop outside of the rule comes up in the making of a field from a value. -/
theorem exists_value_of_run {α : Type} {said : Except Stop (Option α)}
    {make : α → Except Stop Field}
    {reason : Stop} (h : said.map (Option.map make) = .ok (some (.error reason))) :
    ∃ value, said = .ok (some value) ∧ make value = .error reason := by
  rcases said with reason | _ | value
  · cases h
  · cases h
  · exact ⟨value, rfl, Option.some.inj (Except.ok.inj h)⟩

/-- The faults that are reported outside of the rule are those of flags and of the making of
lists. -/
theorem run_eq_fault_iff {computed : Computed} {fault : Fault} :
    computed.run args subject = .ok (some (.error (.fault fault))) ↔
      computed.Escapes subject fault := by
  constructor
  · intro hrun
    cases computed with
    | field key compute =>
      -- a text is made without a fault, so only the computation could report one
      obtain ⟨value, -, hmade⟩ := exists_value_of_run hrun
      exact absurd hmade textField_ne_fault
    | function key compute =>
      obtain ⟨value, -, hmade⟩ := exists_value_of_run hrun
      exact absurd hmade textField_ne_fault
    | flag key test =>
      rw [run] at hrun
      rcases htest : test subject with reason | _ | _ <;> rw [htest] at hrun <;> cases hrun
      exact .flag htest
    | items key inner compute =>
      obtain ⟨iterable, hcompute, hmade⟩ := exists_value_of_run hrun
      obtain ⟨made, rfl⟩ := members_eq_fault.1 hmade
      exact .items hcompute
    | values key build compute =>
      obtain ⟨iterable, hcompute, hmade⟩ := exists_value_of_run hrun
      obtain ⟨made, rfl⟩ := members_eq_fault.1 hmade
      exact .values hcompute
  · intro hescapes
    cases hescapes with
    | flag htest => rw [run, htest]
    | items hcompute | values hcompute =>
      rw [run, hcompute]
      rfl

/-- By the rule no fault stops a lookup. -/
theorem stops_fault_iff {computed : Computed} {fault : Fault} :
    computed.Stops args subject (.fault fault) ↔ computed.Escapes subject fault := by
  constructor
  · intro hstops
    cases hstops with
    | loose hrun => exact run_eq_fault_iff.1 hrun
  · exact fun hescapes => .loose (run_eq_fault_iff.2 hescapes)

/-- A field stops the lookup that it decides exactly where it does not answer. -/
theorem stops_iff {computed : Computed} {reason : Stop} :
    computed.Stops args subject reason ↔
      (answer (computed.run args subject)).answer = .error reason := by
  constructor
  · intro hstops
    cases hstops with
    | loose hrun | misuse hrun =>
      rw [hrun]
      rfl
    | untold hrun huntold =>
      rw [hrun, answer, outcomeOf, huntold]
      rfl
  · intro hanswer
    -- an answer that stops comes of one of three ends of the computation
    rcases hrun : computed.run args subject with (fault | misuse) | _ | (reason' | made) <;>
      rw [hrun] at hanswer
    · rw [answer, outcomeOf] at hanswer
      cases huntold : fault.detail.hasText <;> rw [huntold] at hanswer <;> cases hanswer
      exact .untold hrun huntold
    · cases hanswer
      exact .misuse hrun
    · cases hanswer
    · cases hanswer
      exact .loose hrun
    · cases hanswer

end Computed

end

/-! ## The field that decides -/

/-- A lookup ends by what comes of the deciding field, if there is one. Nothing is recorded on the
way. -/
inductive Decided (args : List String) (subject : Value) :
    Option Computed → Reply (Outcome Field) → Prop where
  | declined : Decided args subject none (pure (.notFound []))
  | answered {computed : Computed} {field : Field} {outcome : Outcome Field}
    (hrun : computed.run args subject = .ok (some (.ok field)))
    (hdecided : ∀ messages, outcome ≠ .notFound messages) :
    Decided args subject (some computed) (pure outcome)
  | contained {computed : Computed} {fault : Fault}
    (hrun : computed.run args subject = .error (.fault fault))
    (htold : fault.detail.hasText = true) :
    Decided args subject (some computed) (pure (.failed (failureOf fault)))
  | stopped {computed : Computed} {reason : Stop} (hstops : computed.Stops args subject reason) :
    Decided args subject (some computed) (Reply.stop reason)

namespace Decided

variable {args : List String} {subject : Value} {first second : Option Computed}
  {reply reply' : Reply (Outcome Field)}

/-- Of two contexts one behind the other, the first one decides if it can. -/
theorem or (h : Decided args subject first reply) (h' : Decided args subject second reply') :
    Decided args subject (first.or second) (reply >>= behind reply') := by
  cases h with
  | declined =>
    rw [Reply.pure_bind]
    exact h'
  | @answered computed field outcome hrun hdecided =>
    rw [Reply.pure_bind]
    cases outcome with
    | notFound messages => exact absurd rfl (hdecided messages)
    | found _ | failed _ => exact .answered hrun hdecided
  | contained hrun htold =>
    rw [Reply.pure_bind]
    exact .contained hrun htold
  | stopped hstops => exact .stopped hstops

/-- Putting the texts through a function does not change which field decides. -/
theorem map (h : Decided args subject first reply) (f : String → String) (key : String) :
    Decided args subject first
      (reply >>= fun outcome => behind (pure (.notFound [])) (mapOutcome f key outcome)) := by
  cases h with
  | declined =>
    rw [Reply.pure_bind]
    exact .declined
  | @answered computed field outcome hrun hdecided =>
    rw [Reply.pure_bind]
    match outcome with
    | .notFound messages => exact absurd rfl (hdecided messages)
    | .failed failure => exact .answered hrun hdecided
    | .found (.text text) | .found .present | .found (.items ..) | .found (.values ..) =>
      exact .answered hrun nofun
  | contained hrun htold =>
    rw [Reply.pure_bind]
    exact .contained hrun htold
  | stopped hstops => exact .stopped hstops

/-- A lookup stops exactly as the field stops that decides it. -/
theorem stop_iff {deciding : Option Computed} (h : Decided args subject deciding reply)
    (reason : Stop) :
    reply.answer = .error reason ↔
      ∃ computed, deciding = some computed ∧ computed.Stops args subject reason := by
  constructor
  · intro hstopped
    cases h with
    | declined | answered | contained => cases hstopped
    | stopped hstops =>
      cases hstopped
      exact ⟨_, rfl, hstops⟩
  · rintro ⟨computed, rfl, hstops⟩
    have hanswer := Computed.stops_iff.1 hstops
    cases h with
    | answered hrun =>
      rw [hrun] at hanswer
      cases hanswer
    | contained hrun htold =>
      rw [hrun, Computed.answer, outcomeOf, htold] at hanswer
      cases hanswer
    | stopped hstops' =>
      exact (Computed.stops_iff.1 hstops').symm.trans hanswer

/-- Where the deciding field can be made, the lookup has an answer. -/
theorem exists_answer {computed : Computed} {field : Field}
    (h : Decided args subject (some computed) reply)
    (hrun : computed.run args subject = .ok (some (.ok field))) :
    ∃ outcome, reply = pure outcome ∧ ∀ messages, outcome ≠ .notFound messages := by
  cases h with
  | answered _ hdecided => exact ⟨_, rfl, hdecided⟩
  | contained hrun' => cases hrun.symm.trans hrun'
  | stopped hstops =>
    have hanswer := Computed.stops_iff.1 hstops
    rw [hrun] at hanswer
    cases hanswer

/-- Where its computation reports a fault that can be told, the answer is the failure of this fault.
-/
theorem eq_failed {computed : Computed} {fault : Fault}
    (h : Decided args subject (some computed) reply)
    (hrun : computed.run args subject = .error (.fault fault))
    (htold : fault.detail.hasText = true) : reply = pure (.failed (failureOf fault)) := by
  cases h with
  | answered hrun' => cases hrun.symm.trans hrun'
  | contained hrun' =>
    cases hrun.symm.trans hrun'
    rfl
  | stopped hstops =>
    have hanswer := Computed.stops_iff.1 hstops
    rw [hrun, Computed.answer, outcomeOf, htold] at hanswer
    cases hanswer

end Decided

section

variable (key : String) (args : List String) (subject : Value)

/-- A field alone decides its own lookup, if its computation does not decline. -/
theorem Computed.decided (computed : Computed) :
    Decided args subject ([computed].find? (Computed.decides key args subject))
      (computed.context.lookup key args subject) := by
  rw [List.find?_singleton]
  by_cases hkey : computed.key = key
  · subst hkey
    have hdecides : computed.decides computed.key args subject
        = match computed.run args subject with
          | .ok none => false
          | _ => true := by simp [Computed.decides]
    rw [hdecides, lookup_own]
    -- by what comes of the computation: a fault, misuse, nothing, a reason to stop, or a field
    rcases hrun : computed.run args subject with (fault | misuse) | _ | (reason | field)
    · cases htold : fault.detail.hasText with
      | true =>
        rw [answer, outcomeOf, htold]
        exact .contained hrun htold
      | false =>
        rw [answer, outcomeOf, htold]
        exact .stopped (.untold hrun htold)
    · exact .stopped (.misuse hrun)
    · exact .declined
    · exact .stopped (.loose hrun)
    · exact .answered hrun nofun
  · have hdecides : computed.decides key args subject = false := by
      simp [Computed.decides, hkey]
    rw [hdecides, lookup_other (Ne.symm hkey)]
    exact .declined

mutual

/-- Every lookup is decided by the field that its recipe names. -/
theorem Recipe.decided (recipe : Recipe) :
    Decided args subject (recipe.deciding key args subject)
      (recipe.context.lookup key args subject) := by
  cases recipe with
  | of computed => exact computed.decided key args subject
  | chain recipes => exact Recipe.decided_chain recipes
  | append first second =>
    rw [Recipe.deciding, Recipe.fields, List.find?_append, Recipe.context, lookup_append]
    exact (Recipe.decided first).or (Recipe.decided second)
  | map f recipe =>
    rw [Recipe.context, lookup_map]
    exact (Recipe.decided recipe).map f key

/-- In a chain, the first field decides that does not decline. -/
theorem Recipe.decided_chain (recipes : List Recipe) :
    Decided args subject ((Recipe.allFields recipes).find? (Computed.decides key args subject))
      ((Context.chain (Recipe.contexts recipes)).lookup key args subject) := by
  cases recipes with
  | nil => exact .declined
  | cons recipe rest =>
    rw [Recipe.allFields, List.find?_append, Recipe.contexts, lookup_chain_cons]
    exact (Recipe.decided recipe).or (Recipe.decided_chain rest)

end

mutual

/-- Fields of other keys can be left out. -/
theorem Recipe.lookup_only (recipe : Recipe) :
    (recipe.only key).context.lookup key args subject
      = recipe.context.lookup key args subject := by
  cases recipe with
  | of computed =>
    rw [Recipe.only]
    split
    · rfl
    · next hkey => exact (Computed.lookup_other (Ne.symm hkey)).symm
  | chain recipes => exact Recipe.lookup_allOnly recipes
  | append first second =>
    rw [Recipe.only, Recipe.context, Recipe.context, lookup_append, lookup_append,
      Recipe.lookup_only first, Recipe.lookup_only second]
  | map f recipe =>
    rw [Recipe.only, Recipe.context, Recipe.context, lookup_map, lookup_map,
      Recipe.lookup_only recipe]

/-- Fields of other keys may be left out of a chain. -/
theorem Recipe.lookup_allOnly (recipes : List Recipe) :
    (Context.chain (Recipe.contexts (Recipe.allOnly key recipes))).lookup key args subject
      = (Context.chain (Recipe.contexts recipes)).lookup key args subject := by
  cases recipes with
  | nil => rfl
  | cons recipe rest =>
    rw [Recipe.allOnly, Recipe.contexts, Recipe.contexts, lookup_chain_cons, lookup_chain_cons,
      Recipe.lookup_only recipe, Recipe.lookup_allOnly rest]

end

/-- In a context put together from computed fields, a lookup stops exactly where the deciding field
stops it. With a fault it does so only outside of the rule for computations: where the test of a
flag reports it, or the making of the members of a list. If all fields of the key have nothing to
say, the lookup declines; if the deciding field holds something, the lookup does not. A fault that
the deciding computation itself reports becomes a failure with its message, its detail and its
trail, unless the detail has no text. The computations of fields of other keys have no part in
this. -/
theorem Recipe.lookup_contained (recipe : Recipe) :
    (∀ reason, (recipe.context.lookup key args subject).answer = .error reason ↔
      ∃ computed, recipe.deciding key args subject = some computed ∧
        computed.Stops args subject reason) ∧
    (∀ fault, (recipe.context.lookup key args subject).answer = .error (.fault fault) ↔
      ∃ computed, recipe.deciding key args subject = some computed ∧
        computed.Escapes subject fault) ∧
    ((∀ computed ∈ recipe.fields, computed.key = key → computed.run args subject = .ok none) →
      recipe.context.lookup key args subject = pure (.notFound [])) ∧
    (∀ computed field, recipe.deciding key args subject = some computed →
      computed.run args subject = .ok (some (.ok field)) →
      ∃ outcome, recipe.context.lookup key args subject = pure outcome ∧
        ∀ messages, outcome ≠ .notFound messages) ∧
    (∀ computed fault, recipe.deciding key args subject = some computed →
      computed.run args subject = .error (.fault fault) → fault.detail.hasText = true →
      recipe.context.lookup key args subject = pure (.failed
        ⟨.text (if fault.detail.isTruthy then fault.message ++ ": " ++ fault.detail.asText
            else fault.message) :: fault.trail,
          if fault.code = Code.fieldNotFound then Code.fieldNotFound else Code.contextFailure⟩)) ∧
    (recipe.only key).context.lookup key args subject
      = recipe.context.lookup key args subject := by
  have hdecided := recipe.decided key args subject
  refine ⟨hdecided.stop_iff, fun fault => ?_, fun hnone => ?_,
    fun computed field hdeciding hrun => ?_, fun computed fault hdeciding hrun htold => ?_,
    recipe.lookup_only key args subject⟩
  · rw [hdecided.stop_iff]
    simp only [Computed.stops_fault_iff]
  · have hdeciding : recipe.deciding key args subject = none := by
      refine List.find?_eq_none.2 fun computed hmem => ?_
      by_cases hkey : computed.key = key
      · simp [Computed.decides, hnone computed hmem hkey]
      · simp [Computed.decides, hkey]
    rw [hdeciding] at hdecided
    generalize recipe.context.lookup key args subject = reply at hdecided ⊢
    cases hdecided
    rfl
  · rw [hdeciding] at hdecided
    exact hdecided.exists_answer hrun
  · rw [hdeciding] at hdecided
    rw [hdecided.eq_failed hrun htold]
    simp only [failureOf, Fault.headline, beq_iff_eq]

end

/-- A fault that says that a post has no date. -/
def noDate : Fault where
  code := Code.fieldNotFound
  category := .context
  message := "Missing field 'date' in context"
  detail := .text "no date in the header"
  suggestion := none
  origin := .null
  item := .null
  trail := [.text "posts/a.md"]
  cause := none
  reported := default

/-- A post without a header. -/
def undated : Item := ⟨"posts/a.md", .text "", []⟩

/-- A date in brackets and, of the same key, a flag, both of which report the fault. -/
def datedPosts : Recipe :=
  .append (.map (fun text => "(" ++ text ++ ")")
    (.chain [.of (.field "date" fun _ => .error (.fault noDate))]))
    (.of (.flag "date" fun _ => .error (.fault noDate)))

/-- The detail of the fault is told behind its message, and its trail behind both. -/
theorem datedPosts_contained :
    datedPosts.context.lookup "date" [] undated.asValue = pure (.failed
      ⟨[.text "Missing field 'date' in context: no date in the header", .text "posts/a.md"],
        Code.fieldNotFound⟩) :=
  (datedPosts.lookup_contained "date" [] undated.asValue).2.2.2.2.1 _ _ rfl rfl rfl

/-- Posts that are made one after the other: the post without a header, and then the fault. -/
def troubledPosts : Computation Iterable := fun _ =>
  .ok (some (.made [undated.asValue] (.error (.fault noDate))))

/-- The test of a flag reports the fault, or the making of the members of a list, and the lookup
stops where that of a text fails. -/
theorem troubled_callbacks_stop :
    (flag "date" fun _ => .error (.fault noDate)).lookup "date" [] undated.asValue
        = Reply.stop (.fault noDate) ∧
      (itemsWith "posts" empty troubledPosts).lookup "posts" [] undated.asValue
        = Reply.stop (.fault noDate) ∧
      (valuesWith "posts" (fun _ => .ok empty) troubledPosts).lookup "posts" [] undated.asValue
        = Reply.stop (.fault noDate) ∧
      (field "date" fun _ => .error (.fault noDate)).lookup "date" [] undated.asValue
        = pure (.failed
          ⟨[.text "Missing field 'date' in context: no date in the header", .text "posts/a.md"],
            Code.fieldNotFound⟩) :=
  ⟨rfl, rfl, rfl, rfl⟩

end Inlay.Context
