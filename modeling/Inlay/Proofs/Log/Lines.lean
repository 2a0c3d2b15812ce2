import Inlay.Proofs.Basic
import Inlay.Render.Basic

/-!
# Lines of the log

What is written of an entry, and what a store of templates logs. A logger that cuts its contexts at
a whole number of characters can write every entry (`Logger.exists_write`). Whatever the logger cuts
at, it can write an entry if it can write one of its level and component with a context that is no
shorter (`Logger.exists_write_of_le`).
-/

namespace Inlay

open Log

/-- The logger cuts contexts at a whole number of characters. -/
def Logger.CutsAtInteger (logger : Logger) : Prop := logger.truncateAt.asInt?.isSome

/-- A logger that cuts contexts at a whole number writes whatever it is given. -/
theorem Logger.exists_write {logger : Logger} (h : logger.CutsAtInteger) (entry : Entry) :
    ∃ lines, logger.write entry = .ok lines := by
  have htruncate : ∀ text, ∃ cut, truncate logger.truncateAt text = .ok cut := by
    intro text
    unfold CutsAtInteger at h
    unfold truncate
    cases hlimit : logger.truncateAt <;> rw [hlimit] at h <;> cases h <;> exact ⟨_, rfl⟩
  have hline : ∃ text, logger.line entry = .ok text := by
    unfold line
    cases logger.format with
    | json => exact ⟨_, rfl⟩
    | colored =>
      unfold coloredLine
      dsimp only
      split
      · exact ⟨_, rfl⟩
      · obtain ⟨cut, hcut⟩ := htruncate (Value.map entry.context).literal.toList
        rw [hcut]
        exact ⟨_, rfl⟩
  unfold write
  split
  · obtain ⟨text, htext⟩ := hline
    rw [htext]
    exact ⟨_, rfl⟩
  · exact ⟨_, rfl⟩

/-- The logger can write whatever it is told. -/
def Logger.NeverStops (logger : Logger) : Prop :=
  ∀ entry, ∃ lines, logger.write entry = .ok lines

/-- So it never stops what is logged about. -/
theorem Logger.CutsAtInteger.neverStops {logger : Logger} (h : logger.CutsAtInteger) :
    logger.NeverStops := fun entry => exists_write h entry

/-- Each line that is written tells of the entry it was written for. -/
theorem Logger.entry_of_write {logger : Logger} {entry : Entry} {lines : List Line}
    (h : logger.write entry = .ok lines) : ∀ line ∈ lines, line.entry = entry := by
  intro line hline
  unfold Logger.write at h
  split at h
  · obtain ⟨text, -, hlines⟩ := Except.bind_eq_ok.1 h
    cases hlines
    cases List.mem_singleton.1 hline
    rfl
  · cases h
    cases hline

/-- To add no lines is to do nothing. -/
theorem Render.addLines_nil : Render.addLines [] = Pure.pure () := by
  funext session
  show (Ending.value (), { session with lines := session.lines ++ [] }) = (.value (), session)
  rw [List.append_nil]

/-- Where nothing stops the logger, an event of a render is logged by adding lines. -/
theorem RenderLogger.exists_note_of_neverStops {log : RenderLogger} (h : log.logger.NeverStops)
    (event : RenderEvent) : ∃ lines, note (some log) event = Render.addLines lines := by
  obtain ⟨lines, hlines⟩ := h (event.entry log.origin log.item)
  refine ⟨lines, ?_⟩
  unfold note linesOf
  dsimp only
  rw [hlines]
  rfl

/-- With a logger that cuts at a whole number of characters, if there is one, events of a render can
be logged. -/
theorem RenderLogger.exists_note {log : Option RenderLogger}
    (h : ∀ logger ∈ log, logger.logger.CutsAtInteger) (event : RenderEvent) :
    ∃ lines, note log event = Render.addLines lines := by
  cases log with
  | none => exact ⟨[], Render.addLines_nil.symm⟩
  | some log => exact exists_note_of_neverStops (h log rfl).neverStops event

/-! ## Loggers that are tuned otherwise -/

/-- A logger at the lowest level writes the entries of every component that is on. -/
theorem Logger.accepts_of_debug {logger : Logger} {entry : Entry} (hlevel : logger.level = .debug)
    (hcomponent : (logger.components.lookup entry.component).getD true = true) :
    logger.accepts entry = true := by
  rw [accepts, hlevel, hcomponent, Bool.and_true]
  exact decide_eq_true (Nat.zero_le _)

/-- With all components on, it writes everything. -/
theorem Logger.accepts_of_all {logger : Logger} (hlevel : logger.level = .debug)
    (hcomponents : ∀ component, (logger.components.lookup component).getD true = true)
    (entry : Entry) : logger.accepts entry = true :=
  accepts_of_debug hlevel (hcomponents entry.component)

/-- The logger at another level, with other switches. -/
def Logger.tuned (logger : Logger) (level : Level) (components : List (String × Bool)) : Logger :=
  { logger with level, components }

/-- What a logger that is tuned otherwise writes of an entry is what it accepts of the lines of one
that writes the entry. -/
theorem Logger.write_tuned {logger : Logger} {entry : Entry} {lines : List Line}
    (haccepts : logger.accepts entry = true) (hwrite : logger.write entry = .ok lines)
    (level : Level) (components : List (String × Bool)) :
    (logger.tuned level components).write entry
      = .ok (lines.filter fun line => (logger.tuned level components).accepts line.entry) := by
  have hline : (logger.tuned level components).line entry = logger.line entry := rfl
  unfold Logger.write at hwrite ⊢
  rw [if_pos haccepts] at hwrite
  obtain ⟨text, htext, hlines⟩ := Except.bind_eq_ok.1 hwrite
  cases hlines
  rw [hline, htext, List.filter_cons, List.filter_nil]
  cases (logger.tuned level components).accepts entry <;> rfl

/-! ## Shorter entries -/

/-- What is at least an integer is at least every smaller one. -/
theorem Binary64.ltInt_of_le {x : Binary64} {m n : Int} (hle : m ≤ n) (h : x.ltInt n = false) :
    x.ltInt m = false := by
  cases x with
  | finite negative mantissa exponent =>
    simp only [ltInt, decide_eq_false_iff_not, Int.not_lt] at h ⊢
    exact Int.le_trans (Int.mul_le_mul_of_nonneg_right hle (Int.natCast_nonneg _)) h
  | infinite negative => exact h
  | nan => rfl

/-- A text that is no longer than one that can be cut can be cut. -/
theorem Logger.exists_truncate_of_le {limit : Value} {text shorter cut : List Char}
    (hle : shorter.length ≤ text.length) (h : Logger.truncate limit text = .ok cut) :
    ∃ cut, Logger.truncate limit shorter = .ok cut := by
  unfold truncate at h ⊢
  split at h
  · next x =>
    split at h
    · cases h
    · next hlt =>
      have hshorter : x.ltInt shorter.length = false :=
        Binary64.ltInt_of_le (Int.ofNat_le.2 hle) (Bool.eq_false_iff.2 hlt)
      exact ⟨shorter, by simp [hshorter]⟩
  · split at h
    · cases h
    · exact ⟨_, rfl⟩

/-- The line of an entry can be had if that of one can whose context is no shorter. -/
theorem Logger.exists_line_of_le {logger : Logger} {entry other : Entry} {text : String}
    (hcontext : entry.context.isEmpty = false)
    (hle : (Value.map other.context).literal.toList.length
      ≤ (Value.map entry.context).literal.toList.length)
    (h : logger.line entry = .ok text) : ∃ text, logger.line other = .ok text := by
  unfold line at h ⊢
  cases hformat : logger.format with
  | json => exact ⟨_, rfl⟩
  | colored =>
    simp only [hformat] at h
    unfold coloredLine at h ⊢
    dsimp only at h ⊢
    split
    · exact ⟨_, rfl⟩
    · next hshown =>
      have hshow : logger.showParams = true := by
        simp only [Bool.or_eq_true, not_or, Bool.not_eq_true, Bool.not_eq_false'] at hshown
        exact hshown.2
      rw [if_neg (by simp [hcontext, hshow])] at h
      obtain ⟨cut, hcut, -⟩ := Except.bind_eq_ok.1 h
      obtain ⟨cut', hcut'⟩ := exists_truncate_of_le hle hcut
      rw [hcut']
      exact ⟨_, rfl⟩

/-- An entry is written if another one is whose context takes at least as many characters. -/
theorem Logger.exists_write_of_le {logger : Logger} {entry other : Entry} {lines : List Line}
    (hlevel : other.level = entry.level) (hcomponent : other.component = entry.component)
    (hcontext : entry.context.isEmpty = false)
    (hle : (Value.map other.context).literal.toList.length
      ≤ (Value.map entry.context).literal.toList.length)
    (h : logger.write entry = .ok lines) : ∃ lines, logger.write other = .ok lines := by
  have haccepts : logger.accepts other = logger.accepts entry := by
    rw [accepts, accepts, hlevel, hcomponent]
  unfold write at h ⊢
  rw [haccepts]
  split at h
  · next hyes =>
    obtain ⟨text, htext, -⟩ := Except.bind_eq_ok.1 h
    obtain ⟨text', htext'⟩ := exists_line_of_le hcontext hle htext
    rw [if_pos hyes, htext']
    exact ⟨_, rfl⟩
  · next hno =>
    rw [if_neg hno]
    exact ⟨_, rfl⟩

/-- Where it can be told that a template was loaded, it can be told that it is in the cache. -/
theorem DirectoryStore.exists_note_cacheHit {store : DirectoryStore} {identifier source : String}
    {lines : List Line} (h : store.note (.loaded identifier source) = .ok lines) :
    ∃ lines, store.note (.cacheHit identifier) = .ok lines := by
  have htwo : ∀ a b : Value × Value, (Value.map [a, b]).literal
      = "\x7b" ++ (a.1.literal ++ ": " ++ a.2.literal ++ ", " ++ (b.1.literal ++ ": "
          ++ b.2.literal)) ++ "\x7d" := fun _ _ => rfl
  have hthree : ∀ a b c : Value × Value, (Value.map [a, b, c]).literal
      = "\x7b" ++ (a.1.literal ++ ": " ++ a.2.literal ++ ", " ++ (b.1.literal ++ ": "
          ++ b.2.literal) ++ ", " ++ (c.1.literal ++ ": " ++ c.2.literal)) ++ "\x7d" :=
    fun _ _ _ => rfl
  have htext : ∀ text : String, (Value.text text).literal = Text.quoted text := fun _ => rfl
  -- the name of the event is longer by three characters, but no file is named
  have hhit : (Text.quoted "template_cache_hit").length = 20 := by decide +kernel
  have hloaded : (Text.quoted "template_loaded").length = 17 := by decide +kernel
  have hsource : (Text.quoted "source").length = 8 := by decide +kernel
  have hle : (Value.map (StoreEvent.cacheHit identifier).entry.context).literal.toList.length
      ≤ (Value.map (StoreEvent.loaded identifier source).entry.context).literal.toList.length := by
    rw [StoreEvent.entry, StoreEvent.entry, htwo, hthree]
    simp only [String.length_toList, String.length_append, named, htext]
    omega
  unfold note at h ⊢
  cases hlogger : store.logger with
  | none => exact ⟨_, rfl⟩
  | some logger =>
    rw [hlogger] at h
    exact @Logger.exists_write_of_le logger (StoreEvent.loaded identifier source).entry
      (StoreEvent.cacheHit identifier).entry lines rfl rfl rfl hle h

/-! ## Lines of a directory -/

/-- The lines that a directory of templates logs are about events of the store. -/
theorem DirectoryStore.load_lines (reporter : Reporter) (workspace : File.Workspace)
    (store : DirectoryStore) (identifier : String) :
    ∀ line ∈ (store.load reporter workspace identifier).lines,
      ∃ event : StoreEvent, line.entry = event.entry := by
  have hlogged : ∀ event result after, ∀ line ∈ (store.logged event result after).lines,
      line.entry = event.entry := by
    intro event result after line hline
    unfold DirectoryStore.logged at hline
    split at hline
    next lines hnote =>
      unfold DirectoryStore.note at hnote
      split at hnote
      · cases hnote
        cases hline
      · exact Logger.entry_of_write hnote line hline
    next => cases hline
  -- every way through a load logs one event, or none
  intro line hline
  unfold DirectoryStore.load at hline
  split at hline
  · exact ⟨_, hlogged _ _ _ line hline⟩
  · unfold DirectoryStore.loadFile at hline
    split at hline
    · cases hline
    · cases hline
    · exact ⟨_, hlogged _ _ _ line hline⟩
    · split at hline
      · cases hline
      · exact ⟨_, hlogged _ _ _ line hline⟩

end Inlay
