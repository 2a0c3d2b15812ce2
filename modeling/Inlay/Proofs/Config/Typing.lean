import Inlay.Proofs.Config.Validation
import Inlay.Render.Engine
import Inlay.Value.Kind

/-!
# Kinds of settings

A configuration that was read holds what the mapping gives, and the defaults elsewhere
(`dump_eq_filled`). Some of what is given is checked; the rest is held whatever kind it has. So a
configuration that was loaded has settings of their declared kinds (`WellTyped`) exactly if what the
checks leave out was given in those kinds (`Fits`).

An engine, with the directory that its configuration names, asks for less: the extensions must be
there, and the groups below the logging must be groups (`starts_iff`).
-/

namespace Inlay

open Log

/-! ## Defaults and what is given in their place -/

namespace Value

mutual

/-- A default with what is given in its place; a mapping is filled entry by entry. -/
def filled : Value → Option Value → Value
  | .map defaults, some (.map given) => .map (filledEntries defaults given)
  | default, none => default
  | _, some value => value

/-- The entries of a default, each filled with what is given under its key. -/
def filledEntries : Entries → Entries → Entries
  | [], _ => []
  | (key, default) :: rest, given =>
    (key, filled default (given.get? key)) :: filledEntries rest given

end

/-- Where nothing is given, the default is left. -/
@[simp] theorem filled_none (default : Value) : filled default none = default := by
  cases default <;> rfl

/-- So it is in all entries of an empty mapping. -/
@[simp] theorem filledEntries_nil (defaults : Entries) : filledEntries defaults [] = defaults := by
  induction defaults with
  | nil => rfl
  | cons entry rest ih =>
    obtain ⟨key, default⟩ := entry
    have hget : Entries.get? [] key = none := rfl
    rw [filledEntries, ih, hget, filled_none]

end Value

namespace Config

variable {data entries : Entries} {config : Config}

/-- A group that is given as a mapping, if it is given, is filled from its entries. -/
theorem filled_group {name : String} (defaults : Entries)
    (h : notMapping (data.field? name) = false) :
    Value.filled (.map defaults) (data.field? name)
      = .filled (.map defaults) (some (.map (sectionEntries data name))) := by
  unfold sectionEntries
  generalize data.field? name = given at h ⊢
  cases given with
  | none => simp [Value.filled]
  | some value =>
    cases value with
    | map given => rfl
    | _ => cases h

/-- A setting that is taken as it is fills its default, unless that is a group. -/
theorem setting_eq_filled (entries : Entries) (name : String) (default : Value)
    (hleaf : ∀ defaults, default ≠ .map defaults) :
    setting entries name default = .filled default (entries.field? name) := by
  unfold setting
  cases entries.field? name with
  | none => rw [Option.getD_none, Value.filled_none]
  | some value =>
    cases default with
    | map defaults => exact absurd rfl (hleaf defaults)
    | _ => rfl

/-- A list of texts alone is read with all of its members. -/
theorem textsOf_eq {members : List Value} (h : members.all isText = true) :
    (textsOf members).map Value.text = members := by
  induction members with
  | nil => rfl
  | cons member rest ih =>
    rw [List.all_cons, Bool.and_eq_true] at h
    cases member with
    | text name => exact congrArg (Value.text name :: ·) (ih h.2)
    | _ => cases h.1

section

/-! A group that is read without its checks failing is its default, filled. -/

/-- The template group is written out with its four settings. -/
theorem Templates.dump_eq (templates : Templates) :
    templates.dump = .map [named "directory" (.text templates.directory),
      named "encoding" templates.encoding,
      named "extensions" (templates.extensions.elim .null fun names => .list (names.map .text)),
      named "cache" templates.cache] := by
  unfold dump
  cases templates.extensions <;> rfl

/-- The template group that passes its checks is its default, filled with what is given. -/
theorem Templates.dump_read (hdirectory : wrongDirectory (entries.field? "directory") = false)
    (hextensions : wrongExtensions (entries.field? "extensions") = false) :
    (Templates.read entries).dump = .filled ({} : Templates).dump (some (.map entries)) := by
  let plain : Templates := {}
  have hpath : Value.text (Templates.read entries).directory
      = .filled (.text plain.directory) (entries.field? "directory") := by
    unfold Templates.read
    cases hfield : entries.field? "directory" with
    | none => simp [plain]
    | some value =>
      rw [hfield] at hdirectory
      cases value with
      | text directory => rfl
      | _ => cases hdirectory
  -- the extensions are read text by text, so it matters that no member is anything else
  have hlist : (Templates.read entries).extensions.elim .null (fun names => .list (names.map .text))
      = Value.filled (.list [.text ".html", .text ".xml", .text ".txt"])
          (entries.field? "extensions") := by
    unfold Templates.read
    cases hfield : entries.field? "extensions" with
    | none => rfl
    | some value =>
      rw [hfield] at hextensions
      cases value with
      | null => rfl
      | list members =>
        have htexts : members.all isText = true := by simpa [wrongExtensions] using hextensions
        exact congrArg Value.list (textsOf_eq htexts)
      | _ => cases hextensions
  have hencoding : (Templates.read entries).encoding
      = .filled plain.encoding (entries.field? "encoding") :=
    setting_eq_filled entries "encoding" _ (by simp)
  have hcache : (Templates.read entries).cache = .filled plain.cache (entries.field? "cache") :=
    setting_eq_filled entries "cache" _ (by simp)
  rw [Templates.dump_eq, hpath, hencoding, hlist, hcache]
  rfl

/-- The render group is written out with its two settings. -/
theorem Rendering.dump_eq (render : Rendering) :
    render.dump = .map [
      named "max_include_depth" (render.maxIncludeDepth.elim .null fun depth => .int depth),
      named "literal_origin" render.literalOrigin] := by
  unfold dump
  cases render.maxIncludeDepth <;> rfl

/-- A render group with a proper limit is its default, filled. -/
theorem Rendering.dump_read (hdepth : wrongDepth (entries.field? "max_include_depth") = false) :
    (Rendering.read entries).dump = .filled ({} : Rendering).dump (some (.map entries)) := by
  let plain : Rendering := {}
  have hlimit : (Rendering.read entries).maxIncludeDepth.elim .null (fun depth => .int depth)
      = Value.filled (.int 32) (entries.field? "max_include_depth") := by
    unfold Rendering.read
    cases hfield : entries.field? "max_include_depth" with
    | none => rfl
    | some value =>
      rw [hfield] at hdepth
      cases value with
      | null => rfl
      | int depth =>
        have hpositive : 0 < depth := by simpa [wrongDepth] using hdepth
        exact congrArg Value.int (Int.toNat_of_nonneg (by omega))
      | _ => cases hdepth
  have horigin : (Rendering.read entries).literalOrigin
      = .filled plain.literalOrigin (entries.field? "literal_origin") :=
    setting_eq_filled entries "literal_origin" _ (by simp)
  rw [Rendering.dump_eq, hlimit, horigin]
  rfl

/-- The switches are taken as they are given, so they are their defaults, filled. -/
theorem Components.dump_read (entries : Entries) :
    (Components.read entries).dump = .filled ({} : Components).dump (some (.map entries)) := by
  let plain : Components := {}
  have hrender : (Components.read entries).render
      = .filled plain.render (entries.field? "render") :=
    setting_eq_filled entries "render" _ (by simp)
  have hstore : (Components.read entries).store = .filled plain.store (entries.field? "store") :=
    setting_eq_filled entries "store" _ (by simp)
  have hconfig : (Components.read entries).config
      = .filled plain.config (entries.field? "config") :=
    setting_eq_filled entries "config" _ (by simp)
  rw [Components.dump, hrender, hstore, hconfig]
  rfl

/-- So are the options. -/
theorem LogOptions.dump_read (entries : Entries) :
    (LogOptions.read entries).dump = .filled ({} : LogOptions).dump (some (.map entries)) := by
  let plain : LogOptions := {}
  have hshown : (LogOptions.read entries).showParams
      = .filled plain.showParams (entries.field? "show_params") :=
    setting_eq_filled entries "show_params" _ (by simp)
  have hcut : (LogOptions.read entries).truncateAt
      = .filled plain.truncateAt (entries.field? "truncate_at") :=
    setting_eq_filled entries "truncate_at" _ (by simp)
  rw [LogOptions.dump, hshown, hcut]
  rfl

/-- A group within a group fills its default, also if another value is given in its place. -/
theorem Section.dump_read {α : Type} {readFields : Entries → α} {dumpFields : α → Value}
    {defaults : Entries}
    (h : ∀ entries, dumpFields (readFields entries) = .map (Value.filledEntries defaults entries))
    (given : Option Value) :
    (Section.read readFields given).dump dumpFields = .filled (.map defaults) given := by
  cases given with
  | none => exact (h []).trans (by simp)
  | some value =>
    cases value with
    | map entries => exact h entries
    | _ => rfl

/-- A format is written out as it was given, or as the default. -/
theorem FormatSetting.dump_read {given : Option Value} {format : FormatSetting}
    (h : FormatSetting.read given = .ok format) :
    format.dump = .filled (.text "colored") given := by
  unfold FormatSetting.read at h
  split at h
  · cases h
    rfl
  · next name =>
    split at h
    · next known hknown =>
      cases h
      rw [Format.ofName?_eq_some_iff.1 hknown]
      rfl
    · cases h
  · cases h
    rfl

/-- A log group with a known level is its default, filled. -/
theorem Logging.dump_read {logging : Logging} (h : Logging.read entries = .ok logging)
    (hlevel : ∀ value ∈ entries.field? "level", ∃ level : Level, value = .text level.name) :
    logging.dump = .filled ({} : Logging).dump (some (.map entries)) := by
  obtain ⟨format, hformat, hlogging⟩ := Except.bind_eq_ok.1 h
  have hname : Value.text logging.level.name
      = .filled (.text "INFO") (entries.field? "level") := by
    cases hlogging
    cases hfield : entries.field? "level" with
    | none => rfl
    | some value =>
      obtain ⟨level, rfl⟩ := hlevel value hfield
      simp only [Level.ofName?_eq_some_iff.2 rfl, Option.getD_some]
      rfl
  cases hlogging
  rw [Logging.dump, FormatSetting.dump_read hformat, Section.dump_read Components.dump_read,
    Section.dump_read LogOptions.dump_read]
  exact congrArg (fun level => Value.map [named "level" level, named "format" _,
    named "components" _, named "options" _]) hname

end

/-- A configuration that is read holds what the mapping gives, and the defaults elsewhere. -/
theorem dump_eq_filled (h : read data = .ok config) (hdata : Admissible data) :
    config.dump = .filled ({} : Config).dump (some (.map data)) := by
  have htemplates : Value.filled ({} : Templates).dump (data.field? "templates")
      = .filled ({} : Templates).dump (some (.map (sectionEntries data "templates"))) :=
    filled_group _ (hdata.groups _ (by simp [sections]))
  have hrender : Value.filled ({} : Rendering).dump (data.field? "render")
      = .filled ({} : Rendering).dump (some (.map (sectionEntries data "render"))) :=
    filled_group _ (hdata.groups _ (by simp [sections]))
  have hlogging : Value.filled ({} : Logging).dump (data.field? "logging")
      = .filled ({} : Logging).dump (some (.map (sectionEntries data "logging"))) :=
    filled_group _ (hdata.groups _ (by simp [sections]))
  obtain ⟨logging, hread, hconfig⟩ := Except.bind_eq_ok.1 h
  cases hconfig
  rw [dump, Templates.dump_read hdata.directory hdata.extensions,
    Rendering.dump_read hdata.maxIncludeDepth, Logging.dump_read hread hdata.level,
    ← htemplates, ← hrender, ← hlogging]
  rfl

/-! ## Settings of their declared kinds -/

structure Templates.WellTyped (templates : Templates) : Prop where
  encoding : ValueKind.of? templates.encoding = some .text
  extensions : templates.extensions.isSome = true
  cache : ValueKind.of? templates.cache = some .truth

structure Rendering.WellTyped (render : Rendering) : Prop where
  maxIncludeDepth : ∀ depth ∈ render.maxIncludeDepth, 0 < depth
  literalOrigin : ValueKind.of? render.literalOrigin = some .text

structure Components.WellTyped (components : Components) : Prop where
  render : ValueKind.of? components.render = some .truth
  store : ValueKind.of? components.store = some .truth
  config : ValueKind.of? components.config = some .truth

structure LogOptions.WellTyped (options : LogOptions) : Prop where
  showParams : ValueKind.of? options.showParams = some .truth
  truncateAt : ValueKind.of? options.truncateAt = some .integer

/-- A group is there, and its settings are as they should be. -/
def Section.WellTyped {α : Type} (fields : α → Prop) : Section α → Prop
  | .given settings => fields settings
  | .other _ => False

structure Logging.WellTyped (logging : Logging) : Prop where
  format : ∃ format, logging.format = .known format
  components : logging.components.WellTyped Components.WellTyped
  options : logging.options.WellTyped LogOptions.WellTyped

/-- Every setting has the kind that it is declared with. The directory, the level and each of the
extensions cannot have another. -/
structure WellTyped (config : Config) : Prop where
  templates : config.templates.WellTyped
  render : config.render.WellTyped
  logging : config.logging.WellTyped

/-! ## Settings that are given in their declared kinds -/

/-- What is given under a name, if anything is, is of a kind. -/
def Given (kind : ValueKind) (entries : Entries) (name : String) : Prop :=
  ∀ value ∈ entries.field? name, ValueKind.of? value = some kind

theorem given_nil (kind : ValueKind) (name : String) : Given kind [] name :=
  fun value hvalue => by cases hvalue

structure Templates.Fits (entries : Entries) : Prop where
  encoding : Given .text entries "encoding"
  extensions : Given .list entries "extensions"
  cache : Given .truth entries "cache"

structure Components.Fits (entries : Entries) : Prop where
  render : Given .truth entries "render"
  store : Given .truth entries "store"
  config : Given .truth entries "config"

structure LogOptions.Fits (entries : Entries) : Prop where
  showParams : Given .truth entries "show_params"
  truncateAt : Given .integer entries "truncate_at"

/-- A group, if it is given, is a mapping, and what that gives is as it should be. -/
def Section.Fits (fields : Entries → Prop) : Option Value → Prop
  | none => True
  | some (.map entries) => fields entries
  | some _ => False

structure Logging.Fits (entries : Entries) : Prop where
  format : Given .text entries "format"
  components : Section.Fits Components.Fits (entries.field? "components")
  options : Section.Fits LogOptions.Fits (entries.field? "options")

/-- Where nothing is checked, what is given has the kind that it is declared with. -/
structure Fits (data : Entries) : Prop where
  templates : Templates.Fits (sectionEntries data "templates")
  literalOrigin : Given .text (sectionEntries data "render") "literal_origin"
  logging : Logging.Fits (sectionEntries data "logging")

/-! ## From what is given to what is held -/

/-- A setting is of the kind of its default exactly if what is given for it is. -/
theorem kind_setting_iff {kind : ValueKind} {name : String} {default : Value}
    (hdefault : ValueKind.of? default = some kind) :
    ValueKind.of? (setting entries name default) = some kind ↔ Given kind entries name := by
  unfold setting Given
  cases entries.field? name with
  | none => simpa using hdefault
  | some value => simp

/-- There are extensions exactly if a list is given, or nothing. -/
theorem Templates.isSome_extensions_read_iff :
    (Templates.read entries).extensions.isSome = true ↔ Given .list entries "extensions" := by
  unfold Templates.read Given
  cases entries.field? "extensions" with
  | none => simp
  | some value => cases value <;> simp [ValueKind.of?]

/-- A template group has its settings in their kinds exactly if they are given so. -/
theorem Templates.wellTyped_read_iff :
    (Templates.read entries).WellTyped ↔ Templates.Fits entries := by
  constructor
  · rintro ⟨hencoding, hextensions, hcache⟩
    exact ⟨(kind_setting_iff rfl).1 hencoding, isSome_extensions_read_iff.1 hextensions,
      (kind_setting_iff rfl).1 hcache⟩
  · rintro ⟨hencoding, hextensions, hcache⟩
    exact ⟨(kind_setting_iff rfl).2 hencoding, isSome_extensions_read_iff.2 hextensions,
      (kind_setting_iff rfl).2 hcache⟩

/-- A limit that was checked is positive. -/
theorem Rendering.pos_of_mem_maxIncludeDepth
    (hdepth : wrongDepth (entries.field? "max_include_depth") = false) :
    ∀ depth ∈ (Rendering.read entries).maxIncludeDepth, 0 < depth := by
  unfold Rendering.read
  cases hfield : entries.field? "max_include_depth" with
  | none => simp
  | some value =>
    rw [hfield] at hdepth
    cases value with
    | int limit =>
      have hlimit : 0 < limit := by simpa [wrongDepth] using hdepth
      simp
      omega
    | _ => simp

/-- So has a render group, whose limit is checked and whose origin is not. -/
theorem Rendering.wellTyped_read_iff
    (hdepth : wrongDepth (entries.field? "max_include_depth") = false) :
    (Rendering.read entries).WellTyped ↔ Given .text entries "literal_origin" := by
  constructor
  · rintro ⟨-, horigin⟩
    exact (kind_setting_iff rfl).1 horigin
  · intro horigin
    exact ⟨pos_of_mem_maxIncludeDepth hdepth, (kind_setting_iff rfl).2 horigin⟩

/-- So have the switches. -/
theorem Components.wellTyped_read_iff (entries : Entries) :
    (Components.read entries).WellTyped ↔ Components.Fits entries := by
  constructor
  · rintro ⟨hrender, hstore, hconfig⟩
    exact ⟨(kind_setting_iff rfl).1 hrender, (kind_setting_iff rfl).1 hstore,
      (kind_setting_iff rfl).1 hconfig⟩
  · rintro ⟨hrender, hstore, hconfig⟩
    exact ⟨(kind_setting_iff rfl).2 hrender, (kind_setting_iff rfl).2 hstore,
      (kind_setting_iff rfl).2 hconfig⟩

/-- So have the options. -/
theorem LogOptions.wellTyped_read_iff (entries : Entries) :
    (LogOptions.read entries).WellTyped ↔ LogOptions.Fits entries := by
  constructor
  · rintro ⟨hshown, hcut⟩
    exact ⟨(kind_setting_iff rfl).1 hshown, (kind_setting_iff rfl).1 hcut⟩
  · rintro ⟨hshown, hcut⟩
    exact ⟨(kind_setting_iff rfl).2 hshown, (kind_setting_iff rfl).2 hcut⟩

/-- A group within a group is as it should be exactly if a proper mapping is given for it, or
nothing. -/
theorem Section.wellTyped_read_iff {α : Type} {readFields : Entries → α} {typed : α → Prop}
    {fits : Entries → Prop} (h : ∀ entries, typed (readFields entries) ↔ fits entries)
    (hdefault : fits []) (given : Option Value) :
    (Section.read readFields given).WellTyped typed ↔ Section.Fits fits given := by
  cases given with
  | none => exact iff_of_true ((h []).2 hdefault) trivial
  | some value =>
    cases value with
    | map entries => exact h entries
    | _ => exact Iff.rfl

/-- A group of any settings is read where a mapping is given, or nothing. -/
theorem Section.isGroup_read_iff {α : Type} {readFields : Entries → α} {name : String} :
    ((Section.read readFields (entries.field? name)).WellTyped fun _ => True) ↔
      Given .mapping entries name := by
  unfold Given
  cases entries.field? name with
  | none => simp [Section.read, Section.WellTyped]
  | some value => cases value <;> simp [Section.read, Section.WellTyped, ValueKind.of?]

/-- A format is known exactly if a text is given for it, or nothing: unknown texts are not read. -/
theorem FormatSetting.known_iff {name : String} {format : FormatSetting}
    (h : FormatSetting.read (entries.field? name) = .ok format) :
    (∃ known, format = .known known) ↔ Given .text entries name := by
  unfold Given
  cases hgiven : entries.field? name with
  | none =>
    rw [hgiven] at h
    cases h
    simp
  | some value =>
    rw [hgiven] at h
    cases value with
    | text name =>
      unfold FormatSetting.read at h
      dsimp only at h
      split at h
      · cases h
        simp [ValueKind.of?]
      · cases h
    | _ =>
      cases h
      simp [ValueKind.of?]

/-- A log group is as it should be exactly if its format and its groups are given so. -/
theorem Logging.wellTyped_iff {logging : Logging} (h : Logging.read entries = .ok logging) :
    logging.WellTyped ↔ Logging.Fits entries := by
  obtain ⟨format, hformat, hlogging⟩ := Except.bind_eq_ok.1 h
  cases hlogging
  have hknown := FormatSetting.known_iff hformat
  have hcomponents := Section.wellTyped_read_iff Components.wellTyped_read_iff
    ⟨given_nil _ _, given_nil _ _, given_nil _ _⟩ (entries.field? "components")
  have hoptions := Section.wellTyped_read_iff LogOptions.wellTyped_read_iff
    ⟨given_nil _ _, given_nil _ _⟩ (entries.field? "options")
  constructor
  · rintro ⟨hformat, hgroup, hshown⟩
    exact ⟨hknown.1 hformat, hcomponents.1 hgroup, hoptions.1 hshown⟩
  · rintro ⟨hformat, hgroup, hshown⟩
    exact ⟨hknown.2 hformat, hcomponents.2 hgroup, hoptions.2 hshown⟩

/-- A configuration that is read from a mapping with what the checks ask for is well typed exactly
if the mapping fits. -/
theorem wellTyped_iff (h : read data = .ok config) (hdata : Admissible data) :
    config.WellTyped ↔ Fits data := by
  obtain ⟨logging, hread, hconfig⟩ := Except.bind_eq_ok.1 h
  cases hconfig
  constructor
  · rintro ⟨htemplates, hrender, hlogging⟩
    exact ⟨Templates.wellTyped_read_iff.1 htemplates,
      (Rendering.wellTyped_read_iff hdata.maxIncludeDepth).1 hrender,
      (Logging.wellTyped_iff hread).1 hlogging⟩
  · rintro ⟨htemplates, horigin, hlogging⟩
    exact ⟨Templates.wellTyped_read_iff.2 htemplates,
      (Rendering.wellTyped_read_iff hdata.maxIncludeDepth).2 horigin,
      (Logging.wellTyped_iff hread).2 hlogging⟩

/-! ## Engines -/

/-- A configuration starts an engine that has no other logger, with the directory that it names. -/
def Starts (reporter : Reporter) (workspace : File.Workspace) (config : Config) : Prop :=
  ∃ engine store, Engine.ofConfig reporter workspace config none = .ok engine ∧
    engine.store = .ok store

variable {reporter : Reporter} {workspace : File.Workspace}

/-- The logger that a configuration describes can be had if its groups of settings are groups. -/
theorem exists_logger_iff (now : Moment) :
    (∃ logger, config.logger now = .ok logger) ↔
      (config.logging.components.WellTyped fun _ => True) ∧
        (config.logging.options.WellTyped fun _ => True) := by
  unfold logger
  cases config.logging.options with
  | other value => simp [Section.WellTyped]
  | given options =>
    cases config.logging.components with
    | other value => simp [Section.WellTyped]
    | given components => simp [Section.WellTyped]

/-- The directory that a configuration names can be had if the extensions are there. -/
theorem exists_directory_iff {templates : Templates} {logger : Option Logger} :
    (∃ store, DirectoryStore.ofConfig templates logger = .ok store) ↔
      templates.extensions.isSome = true := by
  unfold DirectoryStore.ofConfig
  cases templates.extensions <;> simp

/-- An engine starts if there are extensions and both groups of the log are groups. -/
theorem starts_iff :
    config.Starts reporter workspace ↔ config.templates.extensions.isSome = true ∧
      (config.logging.components.WellTyped fun _ => True) ∧
      (config.logging.options.WellTyped fun _ => True) := by
  rw [← exists_logger_iff reporter.now]
  constructor
  · rintro ⟨engine, store, hengine, hstore⟩
    obtain ⟨logger, hlogger, hmade⟩ := Except.bind_eq_ok.1 hengine
    cases hmade
    obtain ⟨directory, hdirectory, -⟩ := Except.bind_eq_ok.1 hstore
    exact ⟨exists_directory_iff.1 ⟨directory, hdirectory⟩, logger, hlogger⟩
  · rintro ⟨hextensions, logger, hlogger⟩
    obtain ⟨directory, hdirectory⟩ := exists_directory_iff.2 hextensions
    refine ⟨⟨reporter, workspace, config, logger⟩, .directory directory, ?_, ?_⟩
    · exact Except.bind_eq_ok.2 ⟨logger, hlogger, rfl⟩
    · exact Except.bind_eq_ok.2 ⟨directory, hdirectory, rfl⟩

/-- A group has whatever follows from its settings. -/
theorem Section.WellTyped.mono {α : Type} {fields others : α → Prop} {group : Section α}
    (h : group.WellTyped fields) (hmono : ∀ settings, fields settings → others settings) :
    group.WellTyped others := by
  cases group with
  | given settings => exact hmono settings h
  | other value => exact h

/-- So an engine starts with every configuration whose settings are of their kinds. -/
theorem WellTyped.starts (h : config.WellTyped) : config.Starts reporter workspace :=
  starts_iff.2 ⟨h.templates.extensions, h.logging.components.mono fun _ _ => trivial,
    h.logging.options.mono fun _ _ => trivial⟩

/-! ## What a loaded configuration holds -/

/-- A configuration that was loaded holds what the mapping gives and the defaults elsewhere. Its
settings have the kinds that they are declared with exactly if the mapping gives those in their
kinds that are not checked, and then it starts an engine. It starts one in any case if the
extensions are a list and the groups below the logging are mappings, and only then. -/
theorem Loader.loaded_wellTyped_iff (around : Surroundings) (loader : Loader)
    (path : Option File.Path)
    (hload : (loader.loadEntries around data path).result = .ok config) :
    config.dump = .filled ({} : Config).dump (some (.map data)) ∧
    (config.WellTyped ↔ Fits data) ∧
    (config.WellTyped → config.Starts around.reporter around.workspace) ∧
    (config.Starts around.reporter around.workspace ↔
      Given .list (sectionEntries data "templates") "extensions" ∧
      Given .mapping (sectionEntries data "logging") "components" ∧
      Given .mapping (sectionEntries data "logging") "options") := by
  obtain ⟨warnings, hread, -⟩ := result_loadEntries_eq_ok_iff.1 hload
  obtain ⟨verdict, hverdict, hvalid, hconfig, -⟩ := ofEntries_eq_ok_iff.1 hread
  have hdata := (isValid_iff hverdict).1 hvalid
  refine ⟨dump_eq_filled hconfig hdata, wellTyped_iff hconfig hdata, fun h => h.starts, ?_⟩
  obtain ⟨logging, hlogging, hmade⟩ := Except.bind_eq_ok.1 hconfig
  obtain ⟨format, -, hgroups⟩ := Except.bind_eq_ok.1 hlogging
  cases hmade
  cases hgroups
  rw [starts_iff, Templates.isSome_extensions_read_iff, Section.isGroup_read_iff,
    Section.isGroup_read_iff]

/-- Settings of many kinds, with an empty list of extensions, no limit and one switch turned off. -/
def fullSettings : Entries := [
  named "templates" (.map [named "directory" (.text "site"), named "extensions" (.list [])]),
  named "render" (.map [named "max_include_depth" .null]),
  named "logging" (.map [named "level" (.text "WARN"), named "format" (.text "json"),
    named "components" (.map [named "store" (.bool false)])])]

/-- These settings are all of their kinds, so they start an engine. -/
theorem fullSettings_start :
    ∃ config, (({} : Loader).loadEntries bareSurroundings fullSettings).result = .ok config ∧
      config.WellTyped ∧ config.Starts bareSurroundings.reporter bareSurroundings.workspace := by
  obtain ⟨config, hload⟩ : ∃ config,
      (({} : Loader).loadEntries bareSurroundings fullSettings).result = .ok config := ⟨_, rfl⟩
  have hfits : Fits fullSettings := by
    refine ⟨⟨?_, ?_, ?_⟩, ?_, ⟨?_, ⟨?_, ?_, ?_⟩, trivial⟩⟩ <;> intro value hvalue <;>
      cases hvalue <;> rfl
  obtain ⟨-, htyped, hstarts, -⟩ :=
    Loader.loaded_wellTyped_iff bareSurroundings {} none hload
  exact ⟨config, hload, htyped.2 hfits, hstarts (htyped.2 hfits)⟩

/-- A number as the encoding, and nothing as the extensions. -/
def looseTemplates : Entries :=
  [named "templates" (.map [named "encoding" (.int 5), named "extensions" .null])]

/-- These are loaded, but they are not of their kinds, and start no engine. -/
theorem looseTemplates_loaded :
    ∃ config, (({} : Loader).loadEntries bareSurroundings looseTemplates).result = .ok config ∧
      ¬ config.WellTyped ∧
      ¬ config.Starts bareSurroundings.reporter bareSurroundings.workspace := by
  refine ⟨_, rfl, fun htyped => ?_, fun hstarts => ?_⟩
  · cases htyped.templates.encoding
  · cases (starts_iff.1 hstarts).1

end Config

end Inlay
