import AuditTrail.Proofs.Json.Ordered
import AuditTrail.Proofs.Lookup
import AuditTrail.Request.Basic

/-
  What is captured of a body that is a record. Ignored keys are gone, the values under masked keys
  are replaced where there were any, and every other key keeps its value (`CaptureConfig.Cleans`,
  `CaptureConfig.clean_record`), however often a key was configured or stood in the text. These
  properties leave only one record, since members are in order. So two bodies that agree outside of
  the ignored and masked keys and have the same masked keys are captured alike.

  Main statement: `CaptureConfig.hidden_values_uncaptured`.
-/
namespace AuditTrail

/-! ## One key -/

theorem Json.lookup_eraseMember (key k : String) (ms : List (String × Json)) :
    (eraseMember key ms).lookup k = if k = key then none else ms.lookup k := by
  rw [eraseMember, lookup_filter_key (· != key)]
  by_cases hk : k = key
  · rw [if_pos hk, hk, bne_self_eq_false, if_neg Bool.false_ne_true]
  · rw [if_neg hk, bne_iff_ne.mpr hk, if_pos rfl]

theorem maskMember_eq (key : String) (ms : List (String × Json)) :
    maskMember key ms = ms.map fun m => (m.1, if m.1 = key then maskedValue else m.2) := by
  refine List.map_congr_left fun m _ => ?_
  split <;> rfl

theorem lookup_maskMember (key k : String) (ms : List (String × Json)) :
    (maskMember key ms).lookup k =
      (ms.lookup k).map fun v => if k = key then maskedValue else v := by
  rw [maskMember_eq, lookup_map_entry fun k v => if k = key then maskedValue else v]

theorem Json.Ordered.eraseMember {ms : List (String × Json)} (h : Json.Ordered ms)
    (key : String) : Json.Ordered (Json.eraseMember key ms) :=
  h.filter _

theorem Json.Ordered.maskMember {ms : List (String × Json)} (h : Json.Ordered ms)
    (key : String) : Json.Ordered (maskMember key ms) := by
  rw [maskMember_eq]
  exact List.pairwise_map.mpr h

/-! ## All keys -/

/-- What is left of a record by a capture. -/
structure CaptureConfig.Cleans (c : CaptureConfig) (ms kept : List (String × Json)) : Prop where
  ordered : Json.Ordered kept
  /-- An ignored key is gone, also if it is masked too. -/
  ignored : ∀ k ∈ c.ignore, kept.lookup k = none
  /-- A masked key is there as it was, and has nothing but the replacement for its value. -/
  masked : ∀ k ∈ c.mask, k ∉ c.ignore → kept.lookup k = (ms.lookup k).map fun _ => maskedValue
  /-- Every other key keeps its value, or is missing as it was. -/
  others : ∀ k, k ∉ c.ignore → k ∉ c.mask → kept.lookup k = ms.lookup k

/-- Two records have the same values under all keys that are neither ignored nor masked, and the
same of the keys that are masked and not ignored. -/
structure CaptureConfig.Alike (c : CaptureConfig) (ms ms' : List (String × Json)) : Prop where
  masked : ∀ k ∈ c.mask, k ∉ c.ignore → (ms.lookup k).isSome = (ms'.lookup k).isSome
  others : ∀ k, k ∉ c.ignore → k ∉ c.mask → ms.lookup k = ms'.lookup k

theorem lookup_eraseMembers (keys : List String) (k : String) (ms : List (String × Json)) :
    (keys.foldl (fun ms key => Json.eraseMember key ms) ms).lookup k =
      if k ∈ keys then none else ms.lookup k := by
  induction keys generalizing ms with
  | nil => rfl
  | cons key keys ih =>
    rw [List.foldl_cons, ih, Json.lookup_eraseMember]
    by_cases hk : k = key <;> simp [hk]

theorem lookup_maskMembers (keys : List String) (k : String) (ms : List (String × Json)) :
    (keys.foldl (fun ms key => maskMember key ms) ms).lookup k =
      (ms.lookup k).map fun v => if k ∈ keys then maskedValue else v := by
  induction keys generalizing ms with
  | nil => exact Option.map_id'.symm
  | cons key keys ih =>
    rw [List.foldl_cons, ih, lookup_maskMember, Option.map_map]
    refine congrArg (Option.map · (ms.lookup k)) (funext fun v => ?_)
    by_cases hk : k = key <;> simp [hk]

theorem Json.Ordered.foldl {ms : List (String × Json)} (h : Json.Ordered ms) (keys : List String)
    {f : List (String × Json) → String → List (String × Json)}
    (hf : ∀ ms key, Json.Ordered ms → Json.Ordered (f ms key)) :
    Json.Ordered (keys.foldl f ms) :=
  List.foldlRecOn keys f h fun ms hms key _ => hf ms key hms

namespace CaptureConfig

/-- A record with ordered members is cleaned as it should be. -/
theorem clean_record (c : CaptureConfig) {ms : List (String × Json)} (h : Json.Ordered ms) :
    ∃ kept, c.clean (.object ms) = .object kept ∧ c.Cleans ms kept := by
  have hlookup : ∀ k, (c.mask.foldl (fun ms key => maskMember key ms)
      (c.ignore.foldl (fun ms key => Json.eraseMember key ms) ms)).lookup k =
        (if k ∈ c.ignore then none else ms.lookup k).map
          fun v => if k ∈ c.mask then maskedValue else v := fun k => by
    rw [lookup_maskMembers, lookup_eraseMembers]
  refine ⟨_, rfl, ?_, fun k hk => ?_, fun k hk hnot => ?_, fun k hnot hplain => ?_⟩
  · exact (h.foldl c.ignore fun ms key hms => hms.eraseMember key).foldl c.mask
      fun ms key hms => hms.maskMember key
  · rw [hlookup, if_pos hk]
    rfl
  · rw [hlookup, if_neg hnot]
    simp only [if_pos hk]
  · rw [hlookup, if_neg hnot]
    simp only [if_neg hplain, Option.map_id']

/-- What is left does not tell alike records apart. -/
theorem Cleans.eq_of_alike {c : CaptureConfig} {ms ms' kept kept' : List (String × Json)}
    (h : c.Cleans ms kept) (h' : c.Cleans ms' kept') (halike : c.Alike ms ms') : kept = kept' := by
  refine h.ordered.ext h'.ordered fun k => ?_
  by_cases hignored : k ∈ c.ignore
  · rw [h.ignored k hignored, h'.ignored k hignored]
  by_cases hmasked : k ∈ c.mask
  · rw [h.masked k hmasked hignored, h'.masked k hmasked hignored]
    exact map_const_eq (halike.masked k hmasked hignored) maskedValue
  · rw [h.others k hignored hmasked, h'.others k hignored hmasked,
      halike.others k hignored hmasked]

/-- A body that is a record is captured if its side and its content type are wanted, and what is
kept of it is the written form of the cleaned record. -/
theorem capture_record (c : CaptureConfig) (d : Direction) {body : Body}
    {ms : List (String × Json)} (hbody : Json.parseBytes body.content = some (.object ms)) :
    ∃ kept, c.Cleans ms kept ∧ c.capture d (some body) =
      if c.captures d && c.accepts body.contentType then
        some ⟨(Json.object kept).render, body.contentType⟩
      else none := by
  obtain ⟨kept, hclean, hcleans⟩ := c.clean_record (Json.parseBytes_ordered hbody)
  refine ⟨kept, hcleans, ?_⟩
  rw [capture, hbody, Option.map_some, hclean]

/-- **Hidden values are not captured.** Two bodies with the same content type that both are records
are captured alike, or both not at all, if the records have the same values under all keys that are
neither ignored nor masked and the same of the keys that are masked and not ignored. And what is
captured of a body that is a record is the compact written form of the record without the ignored
keys, with the replacement under every masked key that was there, and with its value under every
other key. -/
theorem hidden_values_uncaptured (c : CaptureConfig) (d : Direction) :
    (∀ (a b : Body) (ms ms' : List (String × Json)), a.contentType = b.contentType →
      Json.parseBytes a.content = some (.object ms) →
      Json.parseBytes b.content = some (.object ms') → c.Alike ms ms' →
        c.capture d (some a) = c.capture d (some b)) ∧
    ∀ (body : Body) (ms : List (String × Json)),
      Json.parseBytes body.content = some (.object ms) →
        ∃ kept, c.Cleans ms kept ∧ c.capture d (some body) =
          if c.captures d && c.accepts body.contentType then
            some ⟨(Json.object kept).render, body.contentType⟩
          else none := by
  refine ⟨fun a b ms ms' htype ha hb halike => ?_, fun body ms => c.capture_record d⟩
  obtain ⟨kept, hkept, hcapture⟩ := c.capture_record d ha
  obtain ⟨kept', hkept', hcapture'⟩ := c.capture_record d hb
  rw [hcapture, hcapture', htype, hkept.eq_of_alike hkept' halike]

/-- A body of text is read as the text. -/
theorem parseBytes_ofText (text contentType : String) :
    Json.parseBytes (Body.ofText text contentType).content = Json.parse text := by
  have htext : String.fromUTF8? (Body.ofText text contentType).content = some text := by
    unfold String.fromUTF8?
    exact dif_pos text.isValidUTF8
  rw [Json.parseBytes, htext]
  rfl

/-- Tokens are left out, and passwords (named twice) and hints are masked. -/
def secretive : CaptureConfig :=
  { enabled := [.request], ignore := ["csrf"], mask := ["password", "hint", "password"] }

/-- A record with a password that is a record itself, and with a token given twice. -/
def signUp : Body := .ofText
  "\x7b\"user\":\"a\",\"csrf\":true,\"password\":\x7b\"new\":[\"b\"]\x7d,\"csrf\":null\x7d"
  "Application/JSON; charset=utf-8"

/-- The same without a token, and with another password. -/
def signIn : Body := .ofText
  "\x7b \"password\": \"s\", \"user\": \"a\" \x7d" "Application/JSON; charset=utf-8"

theorem hidden_values_uncaptured_signUp :
    let ms := [("csrf", .null), ("password", .object [("new", .array [.string "b"])]),
      ("user", .string "a")]
    let ms' := [("password", .string "s"), ("user", .string "a")]
    Json.parseBytes signUp.content = some (.object ms) ∧
      Json.parseBytes signIn.content = some (.object ms') ∧ secretive.Alike ms ms' ∧
      secretive.capture .request (some signUp) =
        some ⟨"\x7b\"password\":\"<REDACTED>\",\"user\":\"a\"\x7d",
          "Application/JSON; charset=utf-8"⟩ ∧
      secretive.capture .request (some signUp) = secretive.capture .request (some signIn) := by
  intro ms ms'
  have hsignUp : Json.parseBytes signUp.content = some (.object ms) := by
    rw [signUp, parseBytes_ofText]
    cbv
  have hsignIn : Json.parseBytes signIn.content = some (.object ms') := by
    rw [signIn, parseBytes_ofText]
    cbv
  have halike : secretive.Alike ms ms' := by
    refine ⟨by decide, fun k hignored hmasked => ?_⟩
    have hcsrf : k ≠ "csrf" := fun h => hignored (h ▸ by decide)
    have hpassword : k ≠ "password" := fun h => hmasked (h ▸ by decide)
    simp only [ms, ms', List.lookup_cons, beq_eq_false_iff_ne.mpr hcsrf,
      beq_eq_false_iff_ne.mpr hpassword]
  refine ⟨hsignUp, hsignIn, halike, ?_,
    (hidden_values_uncaptured secretive .request).1 signUp signIn ms ms' rfl hsignUp hsignIn halike⟩
  have hwanted : (secretive.captures .request && secretive.accepts signUp.contentType) = true := by
    decide +kernel
  have hrendered : (secretive.clean (.object ms)).render =
      "\x7b\"password\":\"<REDACTED>\",\"user\":\"a\"\x7d" := by cbv
  rw [capture, hsignUp, if_pos hwanted, Option.map_some, hrendered]
  rfl

end CaptureConfig

end AuditTrail
