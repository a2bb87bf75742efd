import AuditTrail.Config.Decode
import AuditTrail.Proofs.Config.Resolution
import AuditTrail.Proofs.Json.Records
import AuditTrail.Proofs.Pattern.Notation
import AuditTrail.Proofs.Text.Stable

/-
  The form in which configurations are read. A pattern is formed if its kind and its value give it
  again, which is so for whatever is read as a pattern (`Pattern.formed_of_parse`) and is all that
  reading its written form needs (`Pattern.Formed.parse_toText`). Decoded configurations have formed
  patterns, methods in small letters and numbers within their bounds (`Decoder.config_yields`), and
  keep that when they are resolved (`Config.Formed.resolved`).
-/
namespace AuditTrail

/-! ## Patterns -/

namespace Pattern

/-- The kind and the value of a pattern give it again. -/
def Formed (p : Pattern) : Prop := ofKind p.kind p.value = .ok p

theorem formed_of_ofKind (kind : PatternKind) {value : String} {p : Pattern}
    (h : ofKind kind value = .ok p) : p.Formed := by
  cases kind with
  | glob =>
    rw [ofKind, glob] at h
    split at h
    · rename_i hglob
      cases h
      rw [Formed, ofKind, glob, Text.lower_lower, if_pos hglob]
    · cases h
  | plain =>
    cases h
    rw [Formed, plain, ofKind, plain, Text.lower_lower]
  | regex =>
    rw [ofKind, regex] at h
    split at h
    · rename_i hregex
      cases h
      rw [Formed, ofKind, regex, if_pos hregex]
    · cases h

theorem formed_of_parse {text : String} {p : Pattern} (h : parse text = .ok p) : p.Formed := by
  rcases ofKind_of_parse h with hwhole | ⟨_, _, kind, -, -, hvalue⟩
  · exact formed_of_ofKind .glob hwhole
  · exact formed_of_ofKind kind hvalue

/-- The full name of a kind is recognised, and the value is what follows the first colon. -/
theorem parse_name (kind : PatternKind) (value : String) :
    parse (kind.name ++ ":" ++ value) = ofKind kind value := by
  have hword : kind.name.toList.all isKindChar = true := by
    cases kind <;> decide +kernel
  have hnamed : kind.NamedBy kind.name := by
    cases kind <;> decide +kernel
  exact parse_of_namedBy (List.all_eq_true.mp hword) hnamed value

theorem Formed.parse_toText {p : Pattern} (h : p.Formed) : parse p.toText = .ok p := by
  rw [toText, parse_name, h]

theorem formed_union {left right : List Pattern} (hleft : ∀ p ∈ left, p.Formed)
    (hright : ∀ p ∈ right, p.Formed) : ∀ p ∈ union left right, p.Formed :=
  fun p hp => (mem_union.mp hp).elim (hleft p) (hright p)

end Pattern

/-! ## Sections -/

/-- The exclusions of requests are as they are read. -/
structure RequestExclude.Formed (e : RequestExclude) : Prop where
  applications : ∀ p ∈ e.applications, p.Formed
  methods : ∀ m ∈ e.methods, Text.lower m = m
  status : ∀ n ∈ e.status, n < 0x10000

/-- The exclusions of changes are as they are read. -/
structure ModelExclude.Formed (e : ModelExclude) : Prop where
  fields : ∀ p ∈ e.fields, p.Formed
  models : ∀ p ∈ e.models, p.Formed
  applications : ∀ p ∈ e.applications, p.Formed

/-- The exclusions of log records are as they are read. -/
structure UnspecifiedExclude.Formed (e : UnspecifiedExclude) : Prop where
  files : ∀ p ∈ e.files, p.Formed
  applications : ∀ p ∈ e.applications, p.Formed

/-- A configuration is as it is read. -/
structure Config.Formed (c : Config) : Prop where
  globals : ∀ p ∈ c.globals.applications, p.Formed
  request : c.request.exclude.Formed
  model : c.model.exclude.Formed
  unspecified : c.unspecified.exclude.Formed
  batch : c.handler.batch < 0x10000000000000000

theorem RequestExclude.formed_default : ({} : RequestExclude).Formed where
  applications := nofun
  methods := by decide +kernel
  status := by decide

theorem ModelExclude.formed_default : ({} : ModelExclude).Formed := ⟨nofun, nofun, nofun⟩

theorem UnspecifiedExclude.formed_default : ({} : UnspecifiedExclude).Formed := ⟨nofun, nofun⟩

theorem formed_defaultExcludedApplications : ∀ p ∈ defaultExcludedApplications, p.Formed := by
  have hformed : ∀ p ∈ defaultExcludedApplications, Pattern.ofKind p.kind p.value = .ok p := by
    decide +kernel
  exact hformed

theorem Config.formed_default : ({} : Config).Formed where
  globals := formed_defaultExcludedApplications
  request := RequestExclude.formed_default
  model := ModelExclude.formed_default
  unspecified := UnspecifiedExclude.formed_default
  batch := by decide

theorem Config.Formed.resolved {c : Config} (h : c.Formed) : c.resolved.Formed where
  globals := h.globals
  request := { h.request with
    applications := Pattern.formed_union h.request.applications h.globals }
  model := { h.model with
    applications := Pattern.formed_union h.model.applications h.globals }
  unspecified := { h.unspecified with
    applications := Pattern.formed_union h.unspecified.applications h.globals }
  batch := h.batch

/-! ## Decoding -/

namespace Decoder

theorem pattern_yields : pattern.Yields Pattern.Formed := by
  intro w v p h
  cases v with
  | string s => exact Pattern.formed_of_parse (mapError_eq_ok.mp h)
  | object ms =>
    rw [pattern] at h
    split at h
    · exact Pattern.formed_of_parse (mapError_eq_ok.mp h)
    · cases h
  | _ => cases h

theorem requestExclude_yields : requestExclude.Yields RequestExclude.Formed := by
  refine record_yields ?_ RequestExclude.formed_default
  simp only [List.forall_mem_cons, List.not_mem_nil, false_implies, implies_true, and_true]
  refine ⟨field_keeps_any ?unknown _ _, field_keeps (list_yields pattern_yields) ?applications _,
    field_keeps_any ?methods _ _, field_keeps (list_yields (below_yields _)) ?status _⟩
  case unknown => exact fun _ _ he => { he with }
  case applications => exact fun _ _ hv he => { he with applications := hv }
  case methods =>
    intro ms e he
    refine { he with methods := fun m hm => ?_ }
    obtain ⟨text, -, rfl⟩ := List.mem_map.mp hm
    exact Text.lower_lower text
  case status => exact fun _ _ hv he => { he with status := hv }

theorem modelExclude_yields : modelExclude.Yields ModelExclude.Formed := by
  refine record_yields ?_ ModelExclude.formed_default
  simp only [List.forall_mem_cons, List.not_mem_nil, false_implies, implies_true, and_true]
  have hpatterns := list_yields pattern_yields
  exact ⟨field_keeps_any (fun _ _ he => { he with }) _ _,
    field_keeps hpatterns (fun _ _ hv he => { he with fields := hv }) _,
    field_keeps hpatterns (fun _ _ hv he => { he with models := hv }) _,
    field_keeps hpatterns (fun _ _ hv he => { he with applications := hv }) _⟩

theorem unspecifiedExclude_yields : unspecifiedExclude.Yields UnspecifiedExclude.Formed := by
  refine record_yields ?_ UnspecifiedExclude.formed_default
  simp only [List.forall_mem_cons, List.not_mem_nil, false_implies, implies_true, and_true]
  have hpatterns := list_yields pattern_yields
  exact ⟨field_keeps_any (fun _ _ he => { he with }) _ _,
    field_keeps hpatterns (fun _ _ hv he => { he with files := hv }) _,
    field_keeps hpatterns (fun _ _ hv he => { he with applications := hv }) _⟩

theorem request_yields : request.Yields (·.exclude.Formed) := by
  refine record_yields ?_ RequestExclude.formed_default
  simp only [ageField, List.forall_mem_cons, List.not_mem_nil, false_implies, implies_true,
    and_true]
  refine ⟨?_, field_keeps requestExclude_yields ?exclude _, ?_, ?_, ?_, ?_⟩
  case exclude => exact fun _ _ hv _ => hv
  all_goals
    refine field_keeps_any ?_ _ _
    exact fun _ _ h => h

theorem model_yields : model.Yields (·.exclude.Formed) := by
  refine record_yields ?_ ModelExclude.formed_default
  simp only [ageField, List.forall_mem_cons, List.not_mem_nil, false_implies, implies_true,
    and_true]
  refine ⟨?_, field_keeps modelExclude_yields ?exclude _, ?_, ?_, ?_, ?_⟩
  case exclude => exact fun _ _ hv _ => hv
  all_goals
    refine field_keeps_any ?_ _ _
    exact fun _ _ h => h

theorem unspecified_yields : unspecified.Yields (·.exclude.Formed) := by
  refine record_yields ?_ UnspecifiedExclude.formed_default
  simp only [ageField, List.forall_mem_cons, List.not_mem_nil, false_implies, implies_true,
    and_true]
  refine ⟨?_, field_keeps unspecifiedExclude_yields ?exclude _, ?_⟩
  case exclude => exact fun _ _ hv _ => hv
  all_goals
    refine field_keeps_any ?_ _ _
    exact fun _ _ h => h

theorem globals_yields : globals.Yields fun g => ∀ p ∈ g.applications, p.Formed := by
  refine record_yields ?_ formed_defaultExcludedApplications
  simp only [List.forall_mem_cons, List.not_mem_nil, false_implies, implies_true, and_true]
  refine field_keeps (record_yields ?_ formed_defaultExcludedApplications) (fun _ _ hv _ => hv) _
  simp only [List.forall_mem_cons, List.not_mem_nil, false_implies, implies_true, and_true]
  exact field_keeps (list_yields pattern_yields) (fun _ _ hv _ => hv) _

theorem handler_yields : handler.Yields (·.batch < 0x10000000000000000) := by
  refine record_yields ?_ (by decide)
  simp only [List.forall_mem_cons, List.not_mem_nil, false_implies, implies_true, and_true]
  refine ⟨field_keeps (below_yields _) ?batch _, (field_keeps_any ?background _ _).rename _⟩
  case batch => exact fun _ _ hv _ => hv
  case background => exact fun _ _ h => h

theorem config_yields : config.Yields Config.Formed := by
  refine record_yields ?_ Config.formed_default
  simp only [List.forall_mem_cons, List.not_mem_nil, false_implies, implies_true, and_true]
  exact ⟨field_keeps_any (fun _ _ h => { h with }) _ _,
    field_keeps globals_yields (fun _ _ hv h => { h with globals := hv }) _,
    field_keeps request_yields (fun _ _ hv h => { h with request := hv }) _,
    field_keeps model_yields (fun _ _ hv h => { h with model := hv }) _,
    field_keeps unspecified_yields (fun _ _ hv h => { h with unspecified := hv }) _,
    field_keeps handler_yields (fun _ _ hv h => { h with batch := hv }) _,
    field_keeps_any (fun _ _ h => { h with }) _ _⟩

end Decoder

end AuditTrail
