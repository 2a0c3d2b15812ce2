import Inlay.Proofs.Value.Key
import Mathlib.Data.List.Find

/-!
# Laying one mapping over another

`Entries.overlay` is told by what the result holds at the end of a path of keys, followed through
mappings inside of mappings (`Value.at?`). What it does to one key is `get?_overlay`; along a path
this is `at?_overlayValue`, in which the upper value either reaches the end of the path, or has
nothing there, or ends on the way with something that is no mapping.

A key of a mapping is known by the entry that it names, so the statements are about mappings in
which no two keys name the same entry (`Entries.Keyed`), at any depth. They are put together in
`overlay_along`. A mapping is a value, so the two that go in stay what they are.
-/

namespace Inlay

namespace Value

/-- The value at the end of a path of keys, followed through mappings. -/
def at? : Value → List Value → Option Value
  | value, [] => some value
  | .map entries, key :: path => (Entries.get? entries key).bind (·.at? path)
  | _, _ :: _ => none

/-- Is the value a mapping? -/
def isMap : Value → Bool
  | .map _ => true
  | _ => false

/-- The keys of a mapping, in order, if there is one. -/
def keysOf : Option Value → List Value
  | some (.map entries) => entries.map Prod.fst
  | _ => []

/-- The keys, in order, of the mapping at the end of a path. -/
def keysAt (value : Value) (path : List Value) : List Value := keysOf (value.at? path)

/-- Somewhere on the way along a path stands something that is no mapping. -/
def EndsBefore (value : Value) (path : List Value) : Prop :=
  ∃ front last, front ++ last = path ∧ last ≠ [] ∧
    ∃ held, value.at? front = some held ∧ held.isMap = false

@[simp] theorem at?_nil (value : Value) : value.at? [] = some value := by
  cases value <;> rfl

@[simp] theorem at?_map_cons (entries : Entries) (key : Value) (path : List Value) :
    (map entries).at? (key :: path) = (Entries.get? entries key).bind (·.at? path) := rfl

/-- Nothing stands below a value that is no mapping. -/
theorem at?_cons_of_not_isMap {value : Value} (h : value.isMap = false) (key : Value)
    (path : List Value) : value.at? (key :: path) = none := by
  cases value <;> first | rfl | cases h

/-- A path is followed in parts. -/
theorem at?_append (value : Value) (path rest : List Value) :
    value.at? (path ++ rest) = (value.at? path).bind (·.at? rest) := by
  induction path generalizing value with
  | nil => simp
  | cons key path ih =>
    rw [List.cons_append]
    cases value
    case map entries =>
      rw [at?_map_cons, at?_map_cons]
      cases Entries.get? entries key with
      | none => rfl
      | some inner => exact ih inner
    all_goals rfl

/-- A mapping has its entries. -/
theorem exists_entries_of_isMap {value : Value} (h : value.isMap = true) :
    ∃ entries, value = .map entries := by
  cases value <;> first | exact ⟨_, rfl⟩ | cases h

theorem not_endsBefore_nil (value : Value) : ¬ value.EndsBefore [] := by
  rintro ⟨front, last, hpath, hlast, -⟩
  exact hlast (List.append_eq_nil_iff.1 hpath).2

/-- What is no mapping ends on the way along every path. -/
theorem endsBefore_of_not_isMap {value : Value} (h : value.isMap = false) (key : Value)
    (path : List Value) : value.EndsBefore (key :: path) :=
  ⟨[], key :: path, rfl, List.cons_ne_nil _ _, value, at?_nil value, h⟩

/-- A mapping ends on the way along a path if the value of the first key does behind it. -/
theorem endsBefore_map_cons_iff (entries : Entries) (key : Value) (path : List Value) :
    (map entries).EndsBefore (key :: path) ↔
      ∃ value, Entries.get? entries key = some value ∧ value.EndsBefore path := by
  constructor
  · rintro ⟨front, last, hpath, hlast, held, hheld, hmap⟩
    cases front with
    | nil =>
      rw [at?_nil] at hheld
      cases hheld
      cases hmap
    | cons first front =>
      obtain ⟨rfl, rfl⟩ := List.cons.inj hpath
      rw [at?_map_cons, Option.bind_eq_some_iff] at hheld
      obtain ⟨value, hvalue, hheld⟩ := hheld
      exact ⟨value, hvalue, front, last, rfl, hlast, held, hheld, hmap⟩
  · rintro ⟨value, hvalue, front, last, rfl, hlast, held, hheld, hmap⟩
    refine ⟨key :: front, last, rfl, hlast, held, ?_, hmap⟩
    rw [at?_map_cons, hvalue]
    exact hheld

end Value

namespace Entries

open Value

/-- At every depth the keys of a mapping are good ones, and no two of them name the same entry. -/
inductive Keyed (good : Value → Prop) : Entries → Prop where
  | nil : Keyed good []
  | cons {key value : Value} {rest : Entries} (hkey : good key)
      (hnew : ∀ entry ∈ rest, key.sameKey entry.1 = false)
      (hinner : ∀ inner, value = .map inner → Keyed good inner) (hrest : Keyed good rest) :
      Keyed good ((key, value) :: rest)

variable {good : Value → Prop} {base upper : Entries} {key : Value}

namespace Keyed

/-- In a keyed mapping all keys are good. -/
theorem good_of_mem (h : Keyed good base) : ∀ entry ∈ base, good entry.1 := by
  induction h with
  | nil => exact nofun
  | cons hkey _ _ _ _ ih => exact List.forall_mem_cons.2 ⟨hkey, ih⟩

/-- So they are in each mapping within it. -/
theorem of_mem (h : Keyed good base) {inner : Entries} (hmem : (key, .map inner) ∈ base) :
    Keyed good inner := by
  induction h with
  | nil => cases hmem
  | cons _ _ hinner _ _ ih =>
    rcases List.mem_cons.1 hmem with heq | hrest
    · cases heq
      exact hinner inner rfl
    · exact ih hrest

end Keyed

/-! ## One key -/

theorem get?_cons (name value : Value) (rest : Entries) (key : Value) :
    get? ((name, value) :: rest) key = if name.sameKey key then some value else get? rest key := by
  unfold get?
  rw [List.find?_cons]
  cases name.sameKey key <;> rfl

theorem get?_eq_none_iff : get? base key = none ↔ ∀ entry ∈ base, entry.1.sameKey key = false := by
  simp [get?]

/-- A value that is found is that of an entry with this key. -/
theorem exists_mem_of_get? {value : Value} (h : get? base key = some value) :
    ∃ name, (name, value) ∈ base ∧ name.sameKey key = true := by
  obtain ⟨⟨name, held⟩, hfind, rfl⟩ := Option.map_eq_some_iff.1 h
  have hsame := List.find?_some hfind
  exact ⟨name, List.mem_of_find?_eq_some hfind, hsame⟩

/-- A mapping that is found in a keyed one is keyed. -/
theorem Keyed.of_get? {inner : Entries} (h : Keyed good base)
    (hget : get? base key = some (.map inner)) : Keyed good inner := by
  obtain ⟨name, hmem, -⟩ := exists_mem_of_get? hget
  exact h.of_mem hmem

/-- Keys that name the same entry have the same value. -/
theorem get?_congr {name : Value} (hbase : ∀ entry ∈ base, entry.1.Standard)
    (hname : name.Standard) (hkey : key.Standard) (h : name.sameKey key = true) :
    get? base name = get? base key := by
  have hsame : ∀ entry ∈ base, entry.1.sameKey name = entry.1.sameKey key := by
    intro entry hentry
    rw [sameKey_comm (hbase entry hentry) hname, sameKey_comm (hbase entry hentry) hkey]
    exact sameKey_congr_left hname hkey (hbase entry hentry) h
  unfold get?
  rw [List.find?_congr hsame]

/-- Setting the value of a key sets it for the keys that name the same entry, and no other. -/
theorem get?_put {name : Value} (value : Value) (hbase : ∀ entry ∈ base, entry.1.Standard)
    (hname : name.Standard) (hkey : key.Standard) :
    get? (put name value base) key = if name.sameKey key then some value else get? base key := by
  induction base with
  | nil => rw [put, get?_cons]
  | cons entry rest ih =>
    obtain ⟨first, held⟩ := entry
    obtain ⟨hfirst, hrest⟩ := List.forall_mem_cons.1 hbase
    rw [put]
    split
    · next hput =>
      rw [get?_cons, get?_cons, sameKey_congr_left hfirst hname hkey hput]
      split <;> rfl
    · next hput =>
      rw [get?_cons, get?_cons, ih hrest]
      split
      · next hfound =>
        -- the key names the entry in front, which the name does not
        have hother : ¬ name.sameKey key = true := by
          intro hsame
          rw [sameKey_comm hfirst hname] at hput
          rw [sameKey_congr_left hname hkey hfirst hsame, sameKey_comm hkey hfirst] at hput
          exact hput hfound
        rw [if_neg hother]
      · rfl

/-- An entry with a standard key keeps all keys standard. -/
theorem standard_put {name : Value} (value : Value) (hname : name.Standard)
    (hbase : ∀ entry ∈ base, entry.1.Standard) :
    ∀ entry ∈ put name value base, entry.1.Standard := by
  induction base with
  | nil => simpa [put] using hname
  | cons entry rest ih =>
    obtain ⟨hentry, hrest⟩ := List.forall_mem_cons.1 hbase
    rw [put]
    split
    · exact List.forall_mem_cons.2 ⟨hentry, hrest⟩
    · exact List.forall_mem_cons.2 ⟨hentry, ih hrest⟩

theorem overlayValue_none (value : Value) : overlayValue none value = value := by
  cases value <;> simp [overlayValue]

theorem overlayValue_map_map (lower upper : Entries) :
    overlayValue (some (.map lower)) (.map upper) = .map (overlay lower upper) := by
  rw [overlayValue]

/-- A value that is no mapping covers whatever stood there. -/
theorem overlayValue_of_not_isMap (before : Option Value) {value : Value}
    (h : value.isMap = false) : overlayValue before value = value := by
  cases value <;> first | rfl | cases h

/-- A mapping over what is no mapping takes its place. -/
theorem overlayValue_of_forall_ne {before : Option Value}
    (h : ∀ lower, before ≠ some (.map lower)) (value : Value) :
    overlayValue before value = value := by
  cases value
  case map upper =>
    rw [overlayValue]
    exact h
  all_goals rfl

/-- What a mapping laid over another has under a key. -/
theorem get?_overlay (hbase : ∀ entry ∈ base, entry.1.Standard) (hupper : Keyed Standard upper)
    (hkey : key.Standard) :
    get? (overlay base upper) key
      = match get? upper key with
        | none => get? base key
        | some value => some (overlayValue (get? base key) value) := by
  induction hupper generalizing base with
  | nil =>
    rw [overlay]
    rfl
  | @cons name value rest hname hnew _ hrest _ ih =>
    have hput := standard_put (overlayValue (get? base name) value) hname hbase
    rw [overlay, ih hput, get?_put _ hbase hname hkey, get?_cons]
    cases hsame : name.sameKey key with
    | false => rfl
    | true =>
      have hlater : get? rest key = none := by
        rw [get?_eq_none_iff]
        intro entry hentry
        have hentry' := hrest.good_of_mem entry hentry
        rw [sameKey_comm hentry' hkey, ← sameKey_congr_left hname hkey hentry' hsame]
        exact hnew entry hentry
      rw [hlater, get?_congr hbase hname hkey hsame]
      rfl

/-! ## A path of keys -/

/-- What was there before, seen from the first key of a path on. -/
theorem bind_at?_cons (before : Option Value) (key : Value) (path : List Value) :
    before.bind (·.at? (key :: path)) = (before.bind (·.at? [key])).bind (·.at? path) := by
  cases before with
  | none => rfl
  | some value => exact at?_append value [key] path

/-- A mapping laid over a value, seen from the first key of a path on. -/
theorem at?_overlayValue_cons {before : Option Value} (hkey : key.Standard)
    (hbefore : ∀ lower, before = some (.map lower) → Keyed Standard lower)
    (hupper : Keyed Standard upper) (path : List Value) :
    (overlayValue before (.map upper)).at? (key :: path)
      = match get? upper key with
        | none => before.bind (·.at? (key :: path))
        | some value => (overlayValue (before.bind (·.at? [key])) value).at? path := by
  by_cases hmap : ∃ lower, before = some (.map lower)
  · obtain ⟨lower, rfl⟩ := hmap
    have hlower := (hbefore lower rfl).good_of_mem
    have hinside : (some (map lower)).bind (·.at? [key]) = get? lower key := by simp
    rw [overlayValue_map_map, at?_map_cons, get?_overlay hlower hupper hkey, hinside]
    cases get? upper key <;> rfl
  · have hne : ∀ lower, before ≠ some (.map lower) := not_exists.1 hmap
    have hinside (path : List Value) : before.bind (·.at? (key :: path)) = none := by
      cases before with
      | none => rfl
      | some value =>
        have hvalue : value.isMap = false := by
          cases value <;> first | rfl | exact absurd rfl (hne _)
        exact at?_cons_of_not_isMap hvalue key path
    -- what is no mapping is covered as a whole, so nothing comes from below
    rw [overlayValue_of_forall_ne hne, at?_map_cons, hinside, hinside]
    cases get? upper key with
    | none => rfl
    | some value =>
      dsimp only
      rw [overlayValue_none]
      rfl

/-- A mapping at the end of a path is keyed as the one that the path starts at. -/
theorem keyed_of_at? {value : Value} {path : List Value} {inner : Entries}
    (h : ∀ entries, value = .map entries → Keyed good entries)
    (hinner : value.at? path = some (.map inner)) : Keyed good inner := by
  induction path generalizing value with
  | nil =>
    rw [at?_nil, Option.some.injEq] at hinner
    exact h inner hinner
  | cons key path ih =>
    cases value
    case map entries =>
      rw [at?_map_cons, Option.bind_eq_some_iff] at hinner
      obtain ⟨next, hnext, hinner⟩ := hinner
      refine ih ?_ hinner
      rintro held rfl
      exact (h entries rfl).of_get? hnext
    all_goals cases hinner

/-- What a value laid over another one has at the end of a path: where the upper one reaches the
end, what it has there is laid over what was there; else what was there is left, unless the upper
one ends on the way. -/
theorem at?_overlayValue {path : List Value} (hpath : ∀ key ∈ path, key.Standard)
    {before : Option Value} {value : Value}
    (hbefore : ∀ lower, before = some (.map lower) → Keyed Standard lower)
    (hvalue : ∀ inner, value = .map inner → Keyed Standard inner) :
    (∀ found, value.at? path = some found →
      (overlayValue before value).at? path
        = some (overlayValue (before.bind (·.at? path)) found)) ∧
    (value.at? path = none → ¬ value.EndsBefore path →
      (overlayValue before value).at? path = before.bind (·.at? path)) ∧
    (value.EndsBefore path → (overlayValue before value).at? path = none) := by
  -- each key of the path leads one mapping further on both sides
  induction path generalizing before value with
  | nil =>
    refine ⟨?_, ?_, fun h => absurd h (not_endsBefore_nil value)⟩
    · intro found hfound
      rw [at?_nil] at hfound ⊢
      cases hfound
      cases before <;> simp
    · intro hnone
      rw [at?_nil] at hnone
      cases hnone
  | cons key path ih =>
    obtain ⟨hkey, hrest⟩ := List.forall_mem_cons.1 hpath
    cases hmap : value.isMap with
    | false =>
      -- a value that is no mapping hides everything below it
      rw [overlayValue_of_not_isMap before hmap, at?_cons_of_not_isMap hmap]
      have hends := endsBefore_of_not_isMap hmap key path
      exact ⟨nofun, fun _ h => absurd hends h, fun _ => rfl⟩
    | true =>
      obtain ⟨upper, rfl⟩ := exists_entries_of_isMap hmap
      have hupper := hvalue upper rfl
      rw [at?_overlayValue_cons hkey hbefore hupper, at?_map_cons, endsBefore_map_cons_iff,
        bind_at?_cons]
      cases hget : get? upper key with
      | none => exact ⟨nofun, fun _ _ => rfl, by simp⟩
      | some value =>
        have hinside : ∀ lower, before.bind (·.at? [key]) = some (.map lower) →
            Keyed Standard lower := by
          intro lower hlower
          obtain ⟨held, rfl, hheld⟩ := Option.bind_eq_some_iff.1 hlower
          exact keyed_of_at? (fun entries heq => hbefore entries (congrArg some heq)) hheld
        have hfound : ∀ inner, value = .map inner → Keyed Standard inner := by
          rintro inner rfl
          exact hupper.of_get? hget
        simpa using ih hrest hinside hfound

/-! ## The order of the keys -/

/-- A new key comes last. -/
theorem put_of_get?_eq_none (value : Value) (h : get? base key = none) :
    put key value base = base ++ [(key, value)] := by
  rw [get?_eq_none_iff] at h
  induction base with
  | nil => rfl
  | cons entry rest ih =>
    obtain ⟨hentry, hrest⟩ := List.forall_mem_cons.1 h
    rw [put, hentry, if_neg Bool.false_ne_true, ih hrest]
    rfl

/-- A key that is there keeps its place. -/
theorem map_fst_put_of_get? {held : Value} (value : Value) (h : get? base key = some held) :
    (put key value base).map Prod.fst = base.map Prod.fst := by
  induction base with
  | nil => cases h
  | cons entry rest ih =>
    rw [get?_cons] at h
    rw [put]
    split
    · rfl
    · next hother =>
      rw [if_neg hother] at h
      rw [List.map_cons, List.map_cons, ih h]

/-- Does one of the keys name the entry that another key names? -/
def names (keys : List Value) (key : Value) : Bool := keys.any (·.sameKey key)

/-- A key names an entry if one is found for it. -/
theorem names_map_fst (base : Entries) (key : Value) :
    names (base.map Prod.fst) key = (get? base key).isSome := by
  rw [Bool.eq_iff_iff]
  simp [names, get?]

/-- The keys of a mapping laid over another: those that were there, in their order, and then the new
ones in theirs. -/
theorem map_fst_overlay (hupper : Keyed good upper) :
    (overlay base upper).map Prod.fst
      = base.map Prod.fst ++ (upper.map Prod.fst).filter fun key =>
          !names (base.map Prod.fst) key := by
  induction hupper generalizing base with
  | nil => simp [overlay]
  | @cons key value rest _ hnew _ _ _ ih =>
    rw [overlay, ih, List.map_cons, List.filter_cons, names_map_fst]
    cases hget : get? base key with
    | some held =>
      rw [map_fst_put_of_get? _ hget]
      rfl
    | none =>
      -- the keys behind name other entries than the one that is put
      have hbehind : ∀ other ∈ rest.map Prod.fst,
          (!names (base.map Prod.fst ++ [key]) other) = !names (base.map Prod.fst) other := by
        intro other hother
        obtain ⟨entry, hentry, rfl⟩ := List.mem_map.1 hother
        simp [names, hnew entry hentry]
      rw [put_of_get?_eq_none _ hget, List.map_append, List.map_cons, List.map_nil,
        List.filter_congr hbehind, List.append_assoc]
      rfl

/-- What is no mapping has no keys. -/
theorem keysOf_of_forall_ne {before : Option Value} (h : ∀ lower, before ≠ some (.map lower)) :
    keysOf before = [] := by
  rw [keysOf.eq_def]
  split
  · next lower => exact absurd rfl (h lower)
  · rfl

/-- An overlay has the keys of the base in their order, and behind them those that are new. -/
theorem map_fst_overlayValue {before : Option Value} {value : Value} {entries : Entries}
    (hvalue : ∀ inner, value = .map inner → Keyed good inner)
    (h : overlayValue before value = .map entries) :
    entries.map Prod.fst
      = keysOf before ++ (keysOf (some value)).filter fun key => !names (keysOf before) key := by
  cases hmap : value.isMap with
  | false =>
    rw [overlayValue_of_not_isMap before hmap] at h
    rw [h] at hmap
    cases hmap
  | true =>
    obtain ⟨inner, rfl⟩ := exists_entries_of_isMap hmap
    by_cases hlower : ∃ lower, before = some (.map lower)
    · obtain ⟨lower, rfl⟩ := hlower
      rw [overlayValue_map_map] at h
      cases h
      exact map_fst_overlay (hvalue inner rfl)
    · rw [overlayValue_of_forall_ne (not_exists.1 hlower)] at h
      cases h
      rw [keysOf_of_forall_ne (not_exists.1 hlower), List.nil_append]
      exact (List.filter_eq_self.2 fun _ _ => rfl).symm

/-! ## Laying the same mapping over again -/

/-- A value that names an entry, and does so as itself: everything that names one but what is no
number. -/
def Names (key : Value) : Prop := key.Standard ∧ key.sameKey key = true

/-- What holds of a mapping if it holds of the mappings in it, holds of every mapping. -/
theorem Keyed.induction {motive : Entries → Prop}
    (step : ∀ entries, Keyed good entries →
      (∀ key inner, (key, .map inner) ∈ entries → motive inner) → motive entries)
    (h : Keyed good base) : motive base := by
  have hinner : ∀ key inner, (key, .map inner) ∈ base → motive inner := by
    induction h with
    | nil => exact nofun
    | cons _ _ hvalue _ hinside ih =>
      intro key inner hmem
      rcases List.mem_cons.1 hmem with heq | hrest
      · cases heq
        exact step inner (hvalue inner rfl) (hinside inner rfl)
      · exact ih key inner hrest
  exact step base h hinner

/-- A keyed mapping has whatever follows from its keys being good. -/
theorem Keyed.mono {other : Value → Prop} (h : Keyed good base)
    (hle : ∀ key, good key → other key) :
    Keyed other base := by
  induction h with
  | nil => exact .nil
  | cons hkey hnew _ _ hinner hrest => exact .cons (hle _ hkey) hnew hinner hrest

/-- Where keys name entries, each entry is found by its key. -/
theorem get?_of_mem (h : Keyed Names base) {value : Value} (hmem : (key, value) ∈ base) :
    get? base key = some value := by
  induction h with
  | nil => cases hmem
  | @cons name held rest hname hnew _ _ _ ih =>
    rw [get?_cons]
    rcases List.mem_cons.1 hmem with heq | hrest
    · cases heq
      rw [hname.2, if_pos rfl]
    · rw [hnew _ hrest, if_neg Bool.false_ne_true, ih hrest]

/-- To put in what is there changes nothing. -/
theorem put_eq_self {value : Value} (h : get? base key = some value) :
    put key value base = base := by
  induction base with
  | nil => cases h
  | cons entry rest ih =>
    rw [get?_cons] at h
    rw [put]
    split
    · next hfirst =>
      rw [if_pos hfirst] at h
      cases h
      rfl
    · next hother =>
      rw [if_neg hother] at h
      rw [ih h]

/-- A mapping whose values are all laid over already changes nothing. -/
theorem overlay_eq_self (h : ∀ entry ∈ upper, ∃ value, get? base entry.1 = some value ∧
      overlayValue (some value) entry.2 = value) : overlay base upper = base := by
  induction upper with
  | nil => rw [overlay]
  | cons entry rest ih =>
    obtain ⟨⟨value, hget, hvalue⟩, hrest⟩ := List.forall_mem_cons.1 h
    rw [overlay, hget, hvalue, put_eq_self hget, ih hrest]

/-- Over nothing, a mapping is laid as it is. -/
theorem overlay_nil (hupper : Keyed good upper) : overlay [] upper = upper := by
  have hdisjoint : ∀ base : Entries, (∀ entry ∈ upper, get? base entry.1 = none) →
      overlay base upper = base ++ upper := by
    induction hupper with
    | nil => simp [overlay]
    | @cons key value rest _ hnew _ _ _ ih =>
      intro base hbase
      obtain ⟨hkey, hrest⟩ := List.forall_mem_cons.1 hbase
      rw [overlay, hkey, overlayValue_none, put_of_get?_eq_none _ hkey, ih, List.append_assoc]
      · rfl
      · intro entry hentry
        rw [get?_eq_none_iff]
        intro other hother
        rcases List.mem_append.1 hother with hold | hlast
        · exact get?_eq_none_iff.1 (hrest entry hentry) other hold
        · obtain rfl := List.mem_singleton.1 hlast
          exact hnew entry hentry
  exact hdisjoint [] fun _ _ => rfl

/-- A value that is laid over already, laid over again, changes nothing. -/
theorem overlayValue_overlayValue {value : Value} {before : Option Value}
    (hbefore : ∀ lower, before = some (.map lower) → Keyed Standard lower)
    (hvalue : ∀ inner, value = .map inner → Keyed Names inner ∧
      ∀ lower, Keyed Standard lower → overlay (overlay lower inner) inner = overlay lower inner) :
    overlayValue (some (overlayValue before value)) value = overlayValue before value := by
  cases hmap : value.isMap with
  | false => rw [overlayValue_of_not_isMap _ hmap, overlayValue_of_not_isMap _ hmap]
  | true =>
    obtain ⟨inner, rfl⟩ := exists_entries_of_isMap hmap
    obtain ⟨hkeyed, hagain⟩ := hvalue inner rfl
    by_cases hlower : ∃ lower, before = some (.map lower)
    · obtain ⟨lower, rfl⟩ := hlower
      rw [overlayValue_map_map, overlayValue_map_map, hagain lower (hbefore lower rfl)]
    · have hself : overlay inner inner = inner := by
        have hempty := hagain [] .nil
        rwa [overlay_nil hkeyed] at hempty
      rw [overlayValue_of_forall_ne (not_exists.1 hlower), overlayValue_map_map, hself]

/-- To lay the same mapping over a base twice is to do it once. -/
theorem overlay_overlay (hupper : Keyed Names upper) (base : Entries)
    (hbase : Keyed Standard base) :
    overlay (overlay base upper) upper = overlay base upper := by
  refine Keyed.induction (motive := fun upper => ∀ base, Keyed Standard base →
    overlay (overlay base upper) upper = overlay base upper) ?_ hupper base hbase
  intro upper hupper ih base hbase
  apply overlay_eq_self
  rintro ⟨key, value⟩ hmem
  have hkey : key.Standard := (hupper.good_of_mem _ hmem).1
  refine ⟨overlayValue (get? base key) value, ?_, ?_⟩
  · rw [get?_overlay hbase.good_of_mem (hupper.mono fun _ h => h.1) hkey,
      get?_of_mem hupper hmem]
  · apply overlayValue_overlayValue
    · exact fun lower hlower => hbase.of_get? hlower
    · rintro inner rfl
      exact ⟨hupper.of_mem hmem, ih key inner hmem⟩

/-! ## The whole -/

/-- What the result of laying one value over another has at the end of a path. -/
structure Overlaid (base upper result : Value) (path : List Value) : Prop where
  /-- What is no mapping above is taken. -/
  value : ∀ found, upper.at? path = some found → found.isMap = false →
    result.at? path = some found
  /-- Where both have a mapping, the one is laid over the other. -/
  merged : ∀ lower inner, upper.at? path = some (.map inner) →
    base.at? path = some (.map lower) → result.at? path = some (.map (overlay lower inner))
  /-- A mapping over anything else, or over nothing, is taken as it is. -/
  taken : ∀ inner, upper.at? path = some (.map inner) →
    (∀ lower, base.at? path ≠ some (.map lower)) → result.at? path = some (.map inner)
  /-- Where nothing is above, what was there is kept. -/
  kept : upper.at? path = none → ¬ upper.EndsBefore path → result.at? path = base.at? path
  /-- Behind what is no mapping above, there is nothing. -/
  hidden : upper.EndsBefore path → result.at? path = none
  /-- The keys that were there come first, in their order, and then the new ones in theirs. -/
  keys : ∀ entries, result.at? path = some (.map entries) →
    entries.map Prod.fst
      = base.keysAt path ++ (upper.keysAt path).filter fun key => !names (base.keysAt path) key

/-- One mapping laid over another, told path by path. Laying the same mapping over the result
changes nothing. -/
theorem overlay_along (hbase : base.Keyed Standard) (hupper : upper.Keyed Standard) :
    (∀ path : List Value, (∀ key ∈ path, key.Standard) →
      Overlaid (.map base) (.map upper) (.map (base.overlay upper)) path) ∧
    (upper.Keyed Names → (base.overlay upper).overlay upper = base.overlay upper) := by
  refine ⟨?_, fun hnames => overlay_overlay hnames base hbase⟩
  intro path hpath
  have hbefore : ∀ lower, some (map base) = some (.map lower) → Keyed Standard lower := by
    rintro lower ⟨⟩
    exact hbase
  have hvalue : ∀ inner, map upper = .map inner → Keyed Standard inner := by
    rintro inner ⟨⟩
    exact hupper
  -- the mappings are taken as the values at the empty path
  obtain ⟨hreach, hkept, hhidden⟩ := at?_overlayValue hpath hbefore hvalue
  rw [overlayValue_map_map] at hreach hkept hhidden
  rw [Option.bind_some] at hreach hkept
  have hmerged : ∀ lower inner, (map upper).at? path = some (.map inner) →
      (map base).at? path = some (.map lower) →
      (map (base.overlay upper)).at? path = some (.map (overlay lower inner)) := by
    intro lower inner hinner hlower
    rw [hreach _ hinner, hlower, overlayValue_map_map]
  have htaken : ∀ inner, (map upper).at? path = some (.map inner) →
      (∀ lower, (map base).at? path ≠ some (.map lower)) →
      (map (base.overlay upper)).at? path = some (.map inner) := by
    intro inner hinner hne
    rw [hreach _ hinner, overlayValue_of_forall_ne hne]
  refine ⟨?_, hmerged, htaken, hkept, hhidden, ?_⟩
  · intro found hfound hmap
    rw [hreach _ hfound, overlayValue_of_not_isMap _ hmap]
  · intro entries hentries
    -- a mapping that is there came from the base, or from the overlay
    cases hfound : (map upper).at? path with
    | none =>
      by_cases hends : (map upper).EndsBefore path
      · rw [hhidden hends] at hentries
        cases hentries
      · rw [hkept hfound hends] at hentries
        simp [keysAt, keysOf, hentries, hfound]
    | some found =>
      rw [hreach _ hfound, Option.some.injEq] at hentries
      rw [keysAt, keysAt, hfound]
      have hinner : ∀ inner, found = .map inner → Keyed Standard inner := by
        rintro inner rfl
        exact keyed_of_at? hvalue hfound
      exact map_fst_overlayValue hinner hentries

/-- A book, and over it what another edition says: it names another author and the year, and has no
parts. -/
theorem overlay_along_title :
    let base : Entries :=
      [(.text "title", .text "Dawn"), (.text "author", .map [(.text "name", .text "Ada")]),
        (.text "parts", .map [(.int 1, .text "Morning")])]
    let upper : Entries :=
      [(.text "parts", .null), (.text "year", .int 1900),
        (.text "author", .map [(.text "city", .text "Oslo"), (.text "name", .text "Eve")])]
    (map (base.overlay upper)).at? [.text "author", .text "name"] = some (.text "Eve") ∧
    (map (base.overlay upper)).at? [.text "title"] = some (.text "Dawn") ∧
    (map (base.overlay upper)).at? [.text "parts", .int 1] = none ∧
    (base.overlay upper).map Prod.fst
      = [.text "title", .text "author", .text "parts", .text "year"] ∧
    (base.overlay upper).overlay upper = base.overlay upper := by
  intro base upper
  -- the base has a whole number among its keys, so its keys are standard and no more
  have hbase : base.Keyed Standard := by
    refine .cons trivial ?_ (by simp) (.cons trivial ?_ ?_ (.cons trivial ?_ ?_ .nil))
    · simp [sameKey]
    · simp [sameKey]
    · rintro inner ⟨⟩
      exact .cons trivial (by simp) (by simp) .nil
    · simp
    · rintro inner ⟨⟩
      exact .cons trivial (by simp) (by simp) .nil
  have htext (s : String) : Names (.text s) := ⟨trivial, by simp [sameKey]⟩
  have hupper : upper.Keyed Names := by
    refine .cons (htext _) ?_ (by simp) (.cons (htext _) ?_ (by simp) (.cons (htext _) ?_ ?_ .nil))
    · simp [sameKey]
    · simp [sameKey]
    · simp
    · rintro inner ⟨⟩
      refine .cons (htext _) ?_ (by simp) (.cons (htext _) ?_ (by simp) .nil)
      · simp [sameKey]
      · simp
  obtain ⟨hpaths, hagain⟩ := overlay_along hbase (hupper.mono fun _ h => h.1)
  have hname := hpaths [.text "author", .text "name"] (by simp [Standard])
  have htitle := hpaths [.text "title"] (by simp [Standard])
  have hpart := hpaths [.text "parts", .int 1] (by simp [Standard])
  have hwhole := hpaths [] (by simp)
  refine ⟨hname.value _ rfl rfl, htitle.kept rfl ?_, hpart.hidden ?_, hwhole.keys _ rfl,
    hagain hupper⟩
  · rw [endsBefore_map_cons_iff]
    rintro ⟨value, -, hends⟩
    exact not_endsBefore_nil value hends
  · rw [endsBefore_map_cons_iff]
    exact ⟨.null, rfl, endsBefore_of_not_isMap rfl _ _⟩

end Entries

end Inlay
