import AuditTrail.Config.Encode
import AuditTrail.Proofs.Config.Checking
import AuditTrail.Proofs.Config.Formed
import AuditTrail.Proofs.Time.Notation

/-
  A configuration survives being written as a structured value. Every section that is as it is read
  is read back from its value (`Decoder.config_reads` from those of the sections); its patterns and
  ages pass the look that is taken at them first (`Config.check_toJson`). `Config.read_back` puts
  this together with what reading gives.
-/
namespace AuditTrail

/-! ## Members in the order of their keys -/

theorem RequestExclude.toJson_eq (e : RequestExclude) : e.toJson = .object [
    ("applications", .patterns e.applications),
    ("methods", .texts e.methods),
    ("status", .array (e.status.map .nat)),
    ("unknown", .bool e.unknown)] := rfl

theorem CaptureConfig.toJson_eq (c : CaptureConfig) : c.toJson = .object [
    ("content_types", .texts (c.contentTypes.map (·.name))),
    ("enabled", .texts (c.enabled.map (·.name))),
    ("ignore", .texts c.ignore),
    ("mask", .texts c.mask),
    ("query", .bool c.query)] := rfl

theorem RequestConfig.toJson_eq (c : RequestConfig) : c.toJson = .object [
    ("data", c.data.toJson),
    ("exclude", c.exclude.toJson),
    ("ip", .bool c.ip),
    ("log_request_was_not_recorded", .bool c.logNotRecorded),
    ("loglevel", .level c.loglevel),
    ("max_age", .maxAge c.maxAge)] := rfl

theorem ModelExclude.toJson_eq (e : ModelExclude) : e.toJson = .object [
    ("applications", .patterns e.applications),
    ("fields", .patterns e.fields),
    ("models", .patterns e.models),
    ("unknown", .bool e.unknown)] := rfl

theorem ModelConfig.toJson_eq (c : ModelConfig) : c.toJson = .object [
    ("detailed_message", .bool c.detailedMessage),
    ("exclude", c.exclude.toJson),
    ("loglevel", .level c.loglevel),
    ("max_age", .maxAge c.maxAge),
    ("performance", .bool c.performance),
    ("snapshot", .bool c.snapshot)] := rfl

theorem UnspecifiedExclude.toJson_eq (e : UnspecifiedExclude) : e.toJson = .object [
    ("applications", .patterns e.applications),
    ("files", .patterns e.files),
    ("unknown", .bool e.unknown)] := rfl

theorem UnspecifiedConfig.toJson_eq (c : UnspecifiedConfig) : c.toJson = .object [
    ("exclude", c.exclude.toJson),
    ("loglevel", .level c.loglevel),
    ("max_age", .maxAge c.maxAge)] := rfl

theorem LoggingConfig.toJson_eq (c : LoggingConfig) : c.toJson = .object [
    ("capture_events", .bool c.captureEvents),
    ("file_line", .bool c.fileLine),
    ("filter", .text? c.filter),
    ("format", .string c.format.name),
    ("level", .string c.level.directive),
    ("timestamps", .bool c.timestamps)] := rfl

theorem Config.toJson_eq (c : Config) : c.toJson = .object [
    ("globals", c.globals.toJson),
    ("handler", c.handler.toJson),
    ("logging", c.logging.toJson),
    ("model", c.model.toJson),
    ("modules", .texts (c.modules.map (·.name))),
    ("request", c.request.toJson),
    ("unspecified", c.unspecified.toJson)] := rfl

namespace Decoder

/-! ## Single values -/

theorem pattern_reads {p : Pattern} (hp : p.Formed) : pattern.Reads (.string p.toText) p := by
  intro w
  rw [pattern, hp.parse_toText]
  rfl

theorem patterns_reads {ps : List Pattern} (hps : ∀ p ∈ ps, p.Formed) :
    (list pattern).Reads (.patterns ps) ps :=
  list_reads fun p hp => pattern_reads (hps p hp)

theorem texts_reads (ss : List String) : (list string).Reads (.texts ss) ss :=
  list_reads fun s _ => string_reads s

/-- Choices are written by their names. -/
theorem names_reads {α : Type} {d : Decoder α} {name : α → String}
    (hd : ∀ a, d.Reads (.string (name a)) a) (as : List α) :
    (list d).Reads (.texts (as.map name)) as := by
  rw [Json.texts, List.map_map]
  exact list_reads fun a _ => hd a

theorem category_reads (c : Category) : category.Reads (.string c.name) c := by
  intro w
  cases c <;> rfl

theorem direction_reads (d : Direction) : direction.Reads (.string d.name) d := by
  intro w
  cases d <;> rfl

theorem contentType_reads (t : ContentType) : contentType.Reads (.string t.name) t := by
  intro w
  cases t
  rfl

theorem severity_reads (s : Severity) : severity.Reads (.string s.directive) s := by
  intro w
  cases s <;> rfl

theorem logFormat_reads (f : LogFormat) : logFormat.Reads (.string f.name) f := by
  intro w
  cases f <;> rfl

theorem level_reads (l : Level) : level.Reads (.level l) l := by
  intro w
  have hl := l.value.isLt
  rw [Json.level, Json.nat, level, if_pos ⟨by omega, by omega⟩, Level.ofInt?, if_neg (by omega),
    Level.ofNat?, Int.toNat_natCast, dif_pos hl]

theorem maxAge_reads {age : Option Duration} (hage : ∀ d, age = some d → d.nanos = 0) :
    maxAge.Reads (.maxAge age) age := by
  intro w
  cases age with
  | none => rfl
  | some d =>
    rw [Json.maxAge, maxAge, Duration.parse_format (hage d rfl)]
    rfl

/-! ## Sections -/

/-- The members come in the order of their keys, each is read by its own field. -/
theorem requestExclude_reads {e : RequestExclude} (he : e.Formed) :
    requestExclude.Reads e.toJson e := by
  have hmethods : e.methods.map Text.lower = e.methods :=
    (List.map_congr_left he.methods).trans (List.map_id _)
  have hstatus : (list (below 0x10000)).Reads (.array (e.status.map .nat)) e.status :=
    list_reads fun n hn => below_reads (he.status n hn)
  intro w
  rw [e.toJson_eq, requestExclude, record,
    readMembers_cons rfl (by decide) (field_reads (patterns_reads he.applications) _ _ w _),
    readMembers_cons rfl (by decide) (field_reads (texts_reads e.methods) _ _ w _),
    readMembers_cons rfl (by decide) (field_reads hstatus _ _ w _),
    readMembers_cons rfl (by decide) (field_reads (bool_reads e.unknown) _ _ w _), hmethods]
  rfl

theorem capture_reads (c : CaptureConfig) : capture.Reads c.toJson c := by
  intro w
  rw [c.toJson_eq, capture, record,
    readMembers_cons rfl (by decide)
      (field_reads (names_reads contentType_reads c.contentTypes) _ _ w _),
    readMembers_cons rfl (by decide) (field_reads (names_reads direction_reads c.enabled) _ _ w _),
    readMembers_cons rfl (by decide) (field_reads (texts_reads c.ignore) _ _ w _),
    readMembers_cons rfl (by decide) (field_reads (texts_reads c.mask) _ _ w _),
    readMembers_cons rfl (by decide) (field_reads (bool_reads c.query) _ _ w _)]
  rfl

theorem request_reads {c : RequestConfig} (hc : c.exclude.Formed)
    (hage : ∀ d, c.maxAge = some d → d.nanos = 0) : request.Reads c.toJson c := by
  intro w
  rw [c.toJson_eq, request, record,
    readMembers_cons rfl (by decide) (field_reads (capture_reads c.data) _ _ w _),
    readMembers_cons rfl (by decide) (field_reads (requestExclude_reads hc) _ _ w _),
    readMembers_cons rfl (by decide) (field_reads (bool_reads c.ip) _ _ w _),
    readMembers_cons rfl (by decide) (field_reads (bool_reads c.logNotRecorded) _ _ w _),
    readMembers_cons rfl (by decide) (field_reads (level_reads c.loglevel) _ _ w _),
    readMembers_cons rfl (by decide) (field_reads (maxAge_reads hage) _ _ w _)]
  rfl

theorem modelExclude_reads {e : ModelExclude} (he : e.Formed) :
    modelExclude.Reads e.toJson e := by
  intro w
  rw [e.toJson_eq, modelExclude, record,
    readMembers_cons rfl (by decide) (field_reads (patterns_reads he.applications) _ _ w _),
    readMembers_cons rfl (by decide) (field_reads (patterns_reads he.fields) _ _ w _),
    readMembers_cons rfl (by decide) (field_reads (patterns_reads he.models) _ _ w _),
    readMembers_cons rfl (by decide) (field_reads (bool_reads e.unknown) _ _ w _)]
  rfl

theorem model_reads {c : ModelConfig} (hc : c.exclude.Formed)
    (hage : ∀ d, c.maxAge = some d → d.nanos = 0) : model.Reads c.toJson c := by
  intro w
  rw [c.toJson_eq, model, record,
    readMembers_cons rfl (by decide) (field_reads (bool_reads c.detailedMessage) _ _ w _),
    readMembers_cons rfl (by decide) (field_reads (modelExclude_reads hc) _ _ w _),
    readMembers_cons rfl (by decide) (field_reads (level_reads c.loglevel) _ _ w _),
    readMembers_cons rfl (by decide) (field_reads (maxAge_reads hage) _ _ w _),
    readMembers_cons rfl (by decide) (field_reads (bool_reads c.performance) _ _ w _),
    readMembers_cons rfl (by decide) (field_reads (bool_reads c.snapshot) _ _ w _)]
  rfl

theorem unspecifiedExclude_reads {e : UnspecifiedExclude} (he : e.Formed) :
    unspecifiedExclude.Reads e.toJson e := by
  intro w
  rw [e.toJson_eq, unspecifiedExclude, record,
    readMembers_cons rfl (by decide) (field_reads (patterns_reads he.applications) _ _ w _),
    readMembers_cons rfl (by decide) (field_reads (patterns_reads he.files) _ _ w _),
    readMembers_cons rfl (by decide) (field_reads (bool_reads e.unknown) _ _ w _)]
  rfl

theorem unspecified_reads {c : UnspecifiedConfig} (hc : c.exclude.Formed)
    (hage : ∀ d, c.maxAge = some d → d.nanos = 0) : unspecified.Reads c.toJson c := by
  intro w
  rw [c.toJson_eq, unspecified, record,
    readMembers_cons rfl (by decide) (field_reads (unspecifiedExclude_reads hc) _ _ w _),
    readMembers_cons rfl (by decide) (field_reads (level_reads c.loglevel) _ _ w _),
    readMembers_cons rfl (by decide) (field_reads (maxAge_reads hage) _ _ w _)]
  rfl

theorem globals_reads {g : GlobalsConfig} (hg : ∀ p ∈ g.applications, p.Formed) :
    globals.Reads g.toJson g := by
  have hexclude : (record [field "applications" (list pattern) fun v (_ : GlobalsConfig) => ⟨v⟩]
      {}).Reads (.record [("applications", .patterns g.applications)]) g := by
    intro w
    have hmember : Json.record [("applications", .patterns g.applications)]
        = .object [("applications", .patterns g.applications)] := rfl
    rw [hmember, record, readMembers_cons rfl (by decide) (field_reads (patterns_reads hg) _ _ w _)]
    rfl
  intro w
  have hmember : g.toJson
      = .object [("exclude", .record [("applications", .patterns g.applications)])] := rfl
  rw [hmember, globals, record, readMembers_cons rfl (by decide) (field_reads hexclude _ _ w _)]
  rfl

theorem handler_reads {c : HandlerConfig} (hbatch : c.batch < 0x10000000000000000) :
    handler.Reads c.toJson c := by
  intro w
  have hmembers : c.toJson
      = .object [("background", .bool c.background), ("batch", .nat c.batch)] := rfl
  rw [hmembers, handler, record,
    readMembers_cons rfl (by decide) (renamed_reads (bool_reads c.background) _ _ _ w _),
    readMembers_cons rfl (by decide) (field_reads (below_reads hbatch) _ _ w _)]
  rfl

theorem logging_reads (c : LoggingConfig) : logging.Reads c.toJson c := by
  intro w
  rw [c.toJson_eq, logging, record,
    readMembers_cons rfl (by decide) (field_reads (bool_reads c.captureEvents) _ _ w _),
    readMembers_cons rfl (by decide) (field_reads (bool_reads c.fileLine) _ _ w _),
    readMembers_cons rfl (by decide) (field_reads (text?_reads c.filter) _ _ w _),
    readMembers_cons rfl (by decide) (field_reads (logFormat_reads c.format) _ _ w _),
    readMembers_cons rfl (by decide) (field_reads (severity_reads c.level) _ _ w _),
    readMembers_cons rfl (by decide) (field_reads (bool_reads c.timestamps) _ _ w _)]
  rfl

theorem config_reads {c : Config} (hc : c.Formed)
    (hages : ∀ k d, c.maxAge k = some d → d.nanos = 0) : config.Reads c.toJson c := by
  intro w
  rw [c.toJson_eq, config, record,
    readMembers_cons rfl (by decide) (field_reads (globals_reads hc.globals) _ _ w _),
    readMembers_cons rfl (by decide) (field_reads (handler_reads hc.batch) _ _ w _),
    readMembers_cons rfl (by decide) (field_reads (logging_reads c.logging) _ _ w _),
    readMembers_cons rfl (by decide) (field_reads (model_reads hc.model (hages .model)) _ _ w _),
    readMembers_cons rfl (by decide) (field_reads (names_reads category_reads c.modules) _ _ w _),
    readMembers_cons rfl (by decide)
      (field_reads (request_reads hc.request (hages .request)) _ _ w _),
    readMembers_cons rfl (by decide)
      (field_reads (unspecified_reads hc.unspecified (hages .unspecified)) _ _ w _)]
  rfl

end Decoder

/-! ## The look taken first -/

namespace Config

theorem badPattern?_patterns {ps : List Pattern} (hps : ∀ p ∈ ps, p.Formed) :
    badPattern? (ps.map fun p => .string p.toText) = none := by
  induction ps with
  | nil => rfl
  | cons p ps ih =>
    rw [List.forall_mem_cons] at hps
    rw [List.map_cons, badPattern?]
    simp only [patternText?, hps.1.parse_toText, ih hps.2]

theorem badAge?_maxAge {age : Option Duration} (hage : ∀ d, age = some d → d.nanos = 0) :
    badAge? (.maxAge age) = none := by
  cases age with
  | none => rfl
  | some d => rw [Json.maxAge, badAge?, Duration.parse_format (hage d rfl)]

/-- The patterns and ages of a written configuration are found in order. -/
theorem check_toJson {c : Config} (hc : c.Formed)
    (hages : ∀ k d, c.maxAge k = some d → d.nanos = 0) : check c.toJson = .ok () := by
  refine check_eq_ok (fun path hpath items hitems => ?_) fun k age hage => ?_
  -- Each of the paths leads to one of the lists.
  · obtain ⟨ps, hps, hat⟩ : ∃ ps : List Pattern, (∀ p ∈ ps, p.Formed) ∧
        valueAt? c.toJson path = some (.patterns ps) := by
      simp only [patternLists, List.mem_cons, List.not_mem_nil, or_false] at hpath
      rcases hpath with rfl | rfl | rfl | rfl | rfl | rfl | rfl
      · exact ⟨_, hc.globals, rfl⟩
      · exact ⟨_, hc.request.applications, rfl⟩
      · exact ⟨_, hc.model.applications, rfl⟩
      · exact ⟨_, hc.model.models, rfl⟩
      · exact ⟨_, hc.model.fields, rfl⟩
      · exact ⟨_, hc.unspecified.applications, rfl⟩
      · exact ⟨_, hc.unspecified.files, rfl⟩
    cases hitems.symm.trans hat
    exact badPattern?_patterns hps
  · have hat : valueAt? c.toJson [k.name, "max_age"] = some (.maxAge (c.maxAge k)) := by
      cases k <;> rfl
    cases hage.symm.trans hat
    exact badAge?_maxAge (hages k)

/-! ## The whole configuration -/

theorem ofJson_toJson {c : Config} (hc : c.Formed) (hrules : c.broken? = none)
    (hages : ∀ k d, c.maxAge k = some d → d.nanos = 0) : ofJson c.toJson = .ok c := by
  have hsections : readSections .json c.toJson = .ok c := by
    refine Decoder.bind_eq_ok.mpr ⟨c, ?_, ?_⟩
    · rw [Decoder.config_reads hc hages]
      rfl
    · rw [hrules]
  exact Decoder.bind_eq_ok.mpr ⟨⟨⟩, check_toJson hc hages, hsections⟩

/-- What the sections are read as keeps the rules. -/
theorem of_readSections {w : Notation} {v : Json} {c : Config} (h : readSections w v = .ok c) :
    c.Formed ∧ c.broken? = none := by
  rw [readSections, Decoder.bind_eq_ok] at h
  obtain ⟨d, hd, h⟩ := h
  have hformed := Decoder.config_yields w v d (Decoder.mapError_eq_ok.mp hd)
  cases hrule : d.broken? with
  | some rule =>
    rw [hrule] at h
    cases h
  | none =>
    rw [hrule] at h
    cases h
    exact ⟨hformed, hrule⟩

/-- A configuration is what a structured value or a document is read as. -/
inductive Accepted (c : Config) : Prop
  | value (v : Json) (h : ofJson v = .ok c)
  | document (text : String) (h : ofText text = .ok c)

theorem Accepted.formed {c : Config} (h : c.Accepted) : c.Formed ∧ c.broken? = none := by
  cases h with
  | value v h =>
    rw [ofJson, Decoder.bind_eq_ok] at h
    obtain ⟨-, -, h⟩ := h
    exact of_readSections h
  | document text h =>
    rw [ofText] at h
    split at h
    · cases h
    · split at h
      · obtain ⟨-, -, h⟩ := Decoder.bind_eq_ok.mp h
        exact of_readSections h
      · cases h

/-- An accepted configuration whose ages are whole seconds is read back from its value, and so is
its resolution. -/
theorem read_back {c : Config} (h : c.Accepted)
    (hages : ∀ k d, c.maxAge k = some d → d.nanos = 0) :
    ofJson c.toJson = .ok c ∧ ofJson c.resolved.toJson = .ok c.resolved := by
  obtain ⟨hformed, hrules⟩ := h.formed
  refine ⟨ofJson_toJson hformed hrules hages, ofJson_toJson hformed.resolved hrules ?_⟩
  intro k d hd
  refine hages k d ?_
  cases k <;> exact hd

/-- A configuration with a pattern of each kind, capital methods and ages in several forms. -/
def spelledValue : Json := .record [
  ("globals", .record [
    ("exclude", .record [("applications", .texts ["PLAIN:Admin", "Sess*", "RE:Ab+"])])]),
  ("request", .record [
    ("exclude", .record [("methods", .texts ["GET", "Head"]), ("status", .array [.nat 404])]),
    ("max_age", .string "p1dt90m")]),
  ("model", .record [("max_age", .nat 0)]),
  ("handler", .record [("threading", .bool true), ("batch", .nat 20)])]

def spelledConfig : Config where
  globals := ⟨[⟨.plain, "admin"⟩, ⟨.glob, "sess*"⟩, ⟨.regex, "Ab+"⟩]⟩
  request := {
    exclude := { methods := ["get", "head"], status := [404] }
    maxAge := some (.ofSecs 91800) }
  model := { maxAge := some (.ofSecs 0) }
  handler := ⟨20, true⟩

theorem read_back_spelled :
    spelledConfig.Accepted ∧ (∀ k d, spelledConfig.maxAge k = some d → d.nanos = 0) ∧
      ofJson spelledConfig.toJson = .ok spelledConfig ∧
      ofJson spelledConfig.resolved.toJson = .ok spelledConfig.resolved := by
  have haccepted : spelledConfig.Accepted := .value spelledValue (by decide +kernel)
  have hages : ∀ k d, spelledConfig.maxAge k = some d → d.nanos = 0 := by
    intro k d hd
    cases k <;> cases hd <;> rfl
  exact ⟨haccepted, hages, read_back haccepted hages⟩

end Config

end AuditTrail
