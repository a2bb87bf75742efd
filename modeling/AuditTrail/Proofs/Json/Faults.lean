import AuditTrail.Proofs.Json.Records
import Mathlib.Data.List.Nodup

/-
  Which fault a record is refused for. A record is read from its first value to its last, so a fault
  that lies in a value is met exactly if everything before it is taken and it belongs to a field
  that has not been read (`record_error_iff`): a member stands under the name of its field
  (`readMembers_error`), an item at the place of its field (`readItems_error_iff`). A record of
  which no field has a fault does not have it either (`record_spares`).
-/
namespace AuditTrail.Decoder

section

variable {σ α : Type}

/-- A decoder takes a value. -/
def Accepts (d : Decoder α) (w : Notation) (v : Json) : Prop := ∃ a, d w v = .ok a

theorem not_accepts_of_error {d : Decoder α} {w : Notation} {v : Json} {e : DecodeError}
    (h : d w v = .error e) : ¬ d.Accepts w v := by
  rintro ⟨a, ha⟩
  exact error_ne_ok e a (h.symm.trans ha)

/-- No value is refused by a decoder for a certain fault. -/
def Spares (d : Decoder α) (e : DecodeError) : Prop := ∀ w v, d w v ≠ .error e

namespace Field

/-- The name a field goes by. -/
def name (f : Field σ) : String := f.names.headD ""

/-- A field refuses a value for a fault, whatever was read before. -/
def Fails (f : Field σ) (w : Notation) (v : Json) (e : DecodeError) : Prop :=
  ∀ s, f.read w v s = .error e

/-- No value is refused by a field for a certain fault. -/
def Spares (f : Field σ) (e : DecodeError) : Prop := ∀ w v s, f.read w v s ≠ .error e

/-- A field has one name, may be left out, and refuses a value for what it is alone. -/
structure Plain (f : Field σ) : Prop where
  single : f.names = [f.name]
  optional : f.need = .never
  alone : ∀ {w v e s}, f.read w v s = .error e → f.Fails w v e

end Field

theorem map_eq_error {ε β : Type} {x : Except ε α} {f : α → β} {e : ε} :
    x.map f = .error e ↔ x = .error e := by
  cases x with
  | error e' =>
    exact ⟨fun h => congrArg Except.error (Except.error.inj h),
      fun h => congrArg Except.error (Except.error.inj h)⟩
  | ok a => exact ⟨nofun, nofun⟩

theorem field_plain (name : String) (d : Decoder α) (put : α → σ → σ) :
    (field name d put).Plain where
  single := rfl
  optional := rfl
  alone := fun h _ => map_eq_error.mpr (map_eq_error.mp h)

theorem field_name (name : String) (d : Decoder α) (put : α → σ → σ) :
    (field name d put).name = name := rfl

/-- A field refuses what its decoder refuses. -/
theorem field_fails_iff [Nonempty σ] {name : String} {d : Decoder α} {put : α → σ → σ}
    {w : Notation} {v : Json} {e : DecodeError} :
    (field name d put).Fails w v e ↔ d w v = .error e := by
  constructor
  · intro h
    obtain ⟨s⟩ := ‹Nonempty σ›
    exact map_eq_error.mp (h s)
  · exact fun h _ => map_eq_error.mpr h

theorem Spares.iff_false {d : Decoder α} {e : DecodeError} (h : d.Spares e) (w : Notation)
    (v : Json) : d w v = .error e ↔ False :=
  iff_of_false (h w v) id

theorem Field.Spares.rename {f : Field σ} {e : DecodeError} (h : f.Spares e)
    (names : List String) : { f with names := names }.Spares e := h

theorem field_spares {d : Decoder α} {e : DecodeError} (hd : d.Spares e) (name : String)
    (put : α → σ → σ) : (field name d put).Spares e :=
  fun w v _ h => hd w v (map_eq_error.mp h)

/-! ## Members -/

/-- Members are read one after another. -/
theorem readMembers_append (fields : List (Field σ)) (w : Notation) (s : σ) (seen : List String)
    (before after : List (String × Json)) :
    readMembers fields w s seen (before ++ after) = readMembers fields w s seen before >>=
      fun r => readMembers fields w r.1 r.2 after := by
  induction before generalizing s seen with
  | nil => rfl
  | cons m before ih =>
    obtain ⟨k, v⟩ := m
    rw [List.cons_append, readMembers, readMembers]
    cases fields.find? (·.names.contains k) with
    | none => exact ih s seen
    | some f =>
      dsimp only
      split
      · rfl
      · cases f.read w v s with
        | error e => rfl
        | ok s' => exact ih s' _

/-- A member of a field that has not been read is handed to it. -/
theorem readMembers_step {fields : List (Field σ)} {f : Field σ} {k : String}
    (hfind : fields.find? (·.names.contains k) = some f) {seen : List String}
    (hnew : f.name ∉ seen) (w : Notation) (s : σ) (v : Json) (rest : List (String × Json)) :
    readMembers fields w s seen ((k, v) :: rest) =
      f.read w v s >>= fun s' => readMembers fields w s' (f.name :: seen) rest := by
  have hunseen : seen.contains f.name = false := by simpa using hnew
  rw [readMembers, hfind]
  exact if_neg (ne_true_of_eq_false hunseen)

/-- A fault is that of the first member that has one. -/
theorem readMembers_error {fields : List (Field σ)} {w : Notation} {s : σ} {seen : List String}
    {ms : List (String × Json)} {e : DecodeError} (he : e ≠ .mismatch)
    (h : readMembers fields w s seen ms = .error e) :
    ∃ before k v after s' seen' f, ms = before ++ (k, v) :: after ∧
      readMembers fields w s seen before = .ok (s', seen') ∧
      fields.find? (·.names.contains k) = some f ∧ f.name ∉ seen' ∧ f.read w v s' = .error e := by
  induction ms generalizing s seen with
  | nil => cases h
  | cons m ms ih =>
    obtain ⟨k, v⟩ := m
    cases hfind : fields.find? (·.names.contains k) with
    | none =>
      rw [readMembers_skip hfind] at h
      obtain ⟨before, k', v', after, s', seen', f, rfl, hbefore, hrest⟩ := ih h
      refine ⟨(k, v) :: before, k', v', after, s', seen', f, rfl, ?_, hrest⟩
      rw [readMembers_skip hfind, hbefore]
    | some f =>
      by_cases hnew : f.name ∈ seen
      · have hseen : seen.contains f.name = true := List.contains_iff_mem.mpr hnew
        rw [readMembers, hfind] at h
        exact absurd (Except.error.inj ((if_pos hseen).symm.trans h)).symm he
      · rw [readMembers_step hfind hnew, bind_eq_error] at h
        rcases h with hread | ⟨t, hread, h⟩
        · exact ⟨[], k, v, ms, s, seen, f, rfl, rfl, hfind, hnew, hread⟩
        · obtain ⟨before, k', v', after, s', seen', f', rfl, hbefore, hrest⟩ := ih h
          refine ⟨(k, v) :: before, k', v', after, s', seen', f', rfl, ?_, hrest⟩
          rw [readMembers_step hfind hnew, hread, ok_bind, hbefore]

/-- The first field under a name is the only one. -/
theorem find?_name {fields : List (Field σ)} (hplain : ∀ f ∈ fields, f.Plain)
    {k : String} {f : Field σ} (hfind : fields.find? (·.names.contains k) = some f) :
    f ∈ fields ∧ f.name = k := by
  have hmem := List.mem_of_find?_eq_some hfind
  have hname := List.find?_some hfind
  rw [(hplain f hmem).single, List.contains_iff_mem, List.mem_singleton] at hname
  exact ⟨hmem, hname.symm⟩

/-- What has been read are the fields whose names have occurred. -/
theorem name_mem_seen {fields : List (Field σ)} (hplain : ∀ f ∈ fields, f.Plain) {w : Notation}
    {s s' : σ} {seen seen' : List String} {ms : List (String × Json)}
    (h : readMembers fields w s seen ms = .ok (s', seen')) {f : Field σ} (hf : f ∈ fields) :
    f.name ∈ seen' ↔ f.name ∈ seen ∨ ∃ m ∈ ms, m.1 = f.name := by
  induction ms generalizing s seen with
  | nil =>
    cases h
    simp
  | cons m ms ih =>
    obtain ⟨k, v⟩ := m
    cases hfind : fields.find? (·.names.contains k) with
    | none =>
      rw [readMembers_skip hfind] at h
      have hne : k ≠ f.name := by
        rintro rfl
        have hnone := List.find?_eq_none.mp hfind f hf
        rw [(hplain f hf).single] at hnone
        simp at hnone
      rw [ih h]
      simp [hne]
    | some g =>
      obtain ⟨-, hname⟩ := find?_name hplain hfind
      rw [readMembers, hfind] at h
      dsimp only at h
      split at h
      · cases h
      · obtain ⟨t, -, h⟩ := bind_eq_ok.mp h
        rw [ih h]
        have hg : g.names.headD "" = k := hname
        rw [hg, List.mem_cons]
        simp only [List.exists_mem_cons_iff]
        tauto

/-- A field is found under its name. -/
theorem find?_eq_some {fields : List (Field σ)} (hplain : ∀ f ∈ fields, f.Plain)
    (hnodup : (fields.map Field.name).Nodup) {f : Field σ} (hf : f ∈ fields) :
    fields.find? (·.names.contains f.name) = some f := by
  cases hfind : fields.find? (·.names.contains f.name) with
  | none =>
    have hnone := List.find?_eq_none.mp hfind f hf
    rw [(hplain f hf).single] at hnone
    simp at hnone
  | some g =>
    obtain ⟨hg, hname⟩ := find?_name hplain hfind
    rw [List.inj_on_of_nodup_map hnodup hg hf hname]

/-! ## Items -/

/-- A list may end before any field that may be left out. -/
theorem readItems_nil {fields : List (Field σ)} (hplain : ∀ f ∈ fields, f.Plain) (w : Notation)
    (s : σ) : readItems w s fields [] = .ok s := by
  cases fields with
  | nil => rfl
  | cons f fields =>
    rw [readItems]
    · exact if_pos (List.all_eq_true.mpr fun g hg => by rw [(hplain g hg).optional]; rfl)
    · exact fun h => List.cons_ne_nil f fields h

/-- A fault is that of the first item that has one. -/
theorem readItems_error_iff {fields : List (Field σ)} (hplain : ∀ f ∈ fields, f.Plain)
    {w : Notation} {s : σ} {items : List Json} {e : DecodeError} (he : e ≠ .mismatch) :
    readItems w s fields items = .error e ↔
      ∃ before v after f, items = before ++ v :: after ∧ fields[before.length]? = some f ∧
        (∃ s', readItems w s fields before = .ok s') ∧ f.Fails w v e := by
  induction fields generalizing s items with
  | nil =>
    refine iff_of_false (fun h => ?_) ?_
    · cases items with
      | nil => cases h
      | cons v items =>
        rw [readItems] at h
        split at h
        · cases h
        · exact he (Except.error.inj h).symm
    · rintro ⟨before, v, after, f, -, hplace, -⟩
      cases hplace
  | cons f fields ih =>
    have hrest := (List.forall_mem_cons.mp hplain).2
    cases items with
    | nil =>
      rw [readItems_nil hplain]
      refine iff_of_false (error_ne_ok e s).symm ?_
      rintro ⟨before, v, after, g, hitems, -⟩
      exact List.append_ne_nil_of_right_ne_nil before (List.cons_ne_nil v after) hitems.symm
    | cons v items =>
      rw [readItems, bind_eq_error]
      constructor
      · rintro (hread | ⟨t, hread, h⟩)
        · exact ⟨[], v, items, f, rfl, rfl, ⟨s, readItems_nil hplain w s⟩,
            (hplain f List.mem_cons_self).alone hread⟩
        · obtain ⟨before, v', after, g, rfl, hplace, ⟨s', hbefore⟩, hfails⟩ := (ih hrest).mp h
          refine ⟨v :: before, v', after, g, rfl, hplace, ⟨s', ?_⟩, hfails⟩
          rw [readItems, hread, ok_bind, hbefore]
      · rintro ⟨before, v', after, g, hitems, hplace, ⟨s', hbefore⟩, hfails⟩
        cases before with
        | nil =>
          cases hitems
          cases hplace
          exact .inl (hfails s)
        | cons b before =>
          cases hitems
          rw [readItems, bind_eq_ok] at hbefore
          obtain ⟨t, hread, hbefore⟩ := hbefore
          exact .inr ⟨t, hread,
            (ih hrest).mpr ⟨before, v', after, g, rfl, hplace, ⟨s', hbefore⟩, hfails⟩⟩

/-! ## Records -/

/-- A record hands a value to one of its fields, going by what it takes: the value is its first
member under the name of the field, or the item at the place of the field, and what stands before
is taken. -/
inductive Reaches (taken : Json → Prop) (name : String) (place : Nat) : Json → Json → Prop
  | member {before after : List (String × Json)} {v : Json} (hbefore : taken (.object before))
      (hnew : ∀ m ∈ before, m.1 ≠ name) :
      Reaches taken name place (.object (before ++ (name, v) :: after)) v
  | item {before after : List Json} {v : Json} (hbefore : taken (.array before))
      (hplace : before.length = place) : Reaches taken name place (.array (before ++ v :: after)) v

theorem record_object {fields : List (Field σ)} (hplain : ∀ f ∈ fields, f.Plain) (start : σ)
    (w : Notation) (ms : List (String × Json)) :
    record fields start w (.object ms) = (readMembers fields w start [] ms).map Prod.fst := by
  have hneed : ∀ seen : List String,
      (fields.all fun f => f.need != .always || seen.contains (f.names.headD "")) = true :=
    fun seen => List.all_eq_true.mpr fun f hf => by
      rw [(hplain f hf).optional]
      rfl
  rw [record]
  cases readMembers fields w start [] ms with
  | error e => rfl
  | ok r => exact if_pos (hneed r.2)

/-- A record of plain fields is refused for a fault exactly if it hands a value that has the fault
to the field that refuses it. -/
theorem record_error_iff {fields : List (Field σ)} (hplain : ∀ f ∈ fields, f.Plain)
    (hnodup : (fields.map Field.name).Nodup) {start : σ} {w : Notation} {v : Json}
    {e : DecodeError} (he : e ≠ .mismatch) :
    record fields start w v = .error e ↔
      ∃ place f, fields[place]? = some f ∧
        ∃ x, Reaches ((record fields start).Accepts w) f.name place v x ∧ f.Fails w x e := by
  constructor
  · intro h
    cases v with
    | object ms =>
      rw [record_object hplain, map_eq_error] at h
      obtain ⟨before, k, x, after, s, seen, f, rfl, hbefore, hfind, hnew, hread⟩ :=
        readMembers_error he h
      obtain ⟨hf, rfl⟩ := find?_name hplain hfind
      obtain ⟨place, hplace⟩ := List.mem_iff_getElem?.mp hf
      refine ⟨place, f, hplace, x, .member ⟨s, ?_⟩ ?_, (hplain f hf).alone hread⟩
      · rw [record_object hplain, hbefore]
        rfl
      · intro m hm hname
        exact hnew ((name_mem_seen hplain hbefore hf).mpr (.inr ⟨m, hm, hname⟩))
    | array items =>
      obtain ⟨before, x, after, f, rfl, hplace, hbefore, hfails⟩ :=
        (readItems_error_iff hplain he).mp h
      exact ⟨before.length, f, hplace, x, .item hbefore rfl, hfails⟩
    | _ => exact absurd (Except.error.inj h).symm he
  · rintro ⟨place, f, hplace, x, hreaches, hfails⟩
    have hf : f ∈ fields := List.mem_of_getElem? hplace
    cases hreaches with
    | member hbefore hnew =>
      obtain ⟨s, hbefore⟩ := hbefore
      rw [record_object hplain, map_eq_ok] at hbefore
      obtain ⟨⟨t, seen⟩, hbefore, -⟩ := hbefore
      have hunseen : f.name ∉ seen := by
        rw [name_mem_seen hplain hbefore hf]
        rintro (hmem | ⟨m, hm, hname⟩)
        · exact absurd hmem List.not_mem_nil
        · exact hnew m hm hname
      rw [record_object hplain, readMembers_append, hbefore, ok_bind,
        readMembers_step (find?_eq_some hplain hnodup hf) hunseen, hfails]
      rfl
    | item hbefore hlength =>
      exact (readItems_error_iff hplain he).mpr ⟨_, x, _, f, rfl, hlength ▸ hplace, hbefore, hfails⟩

/-- The places of a list are the first one and those of the rest. -/
theorem exists_getElem?_cons {β : Type} {b : β} {bs : List β} {P : Nat → β → Prop} :
    (∃ i a, (b :: bs)[i]? = some a ∧ P i a) ↔ P 0 b ∨ ∃ i a, bs[i]? = some a ∧ P (i + 1) a := by
  constructor
  · rintro ⟨i, a, hi, h⟩
    cases i with
    | zero =>
      cases hi
      exact .inl h
    | succ i => exact .inr ⟨i, a, hi, h⟩
  · rintro (h | ⟨i, a, hi, h⟩)
    · exact ⟨0, b, rfl, h⟩
    · exact ⟨i + 1, a, hi, h⟩

theorem not_exists_getElem?_nil {β : Type} {P : Nat → β → Prop} :
    ¬ ∃ i a, ([] : List β)[i]? = some a ∧ P i a := by
  rintro ⟨i, a, hi, -⟩
  cases hi

/-! ## Faults that do not occur -/

theorem bool_spares {e : DecodeError} (he : e ≠ .mismatch) : bool.Spares e := by
  intro w v h
  cases v with
  | bool b => cases h
  | _ => exact he (Except.error.inj h).symm

theorem string_spares {e : DecodeError} (he : e ≠ .mismatch) : string.Spares e := by
  intro w v h
  cases v with
  | string s => cases h
  | _ => exact he (Except.error.inj h).symm

theorem below_spares {e : DecodeError} (he : e ≠ .mismatch) (bound : Nat) :
    (below bound).Spares e := by
  intro w v h
  cases v with
  | int n =>
    rw [below] at h
    split at h
    · cases h
    · exact he (Except.error.inj h).symm
  | _ => exact he (Except.error.inj h).symm

theorem choice_spares {e : DecodeError} (he : e ≠ .mismatch) (names : List (String × α)) :
    (choice names).Spares e := by
  intro w v h
  unfold choice at h
  split at h
  · split at h
    · cases h
    · exact he (Except.error.inj h).symm
  · split at h
    · split at h
      · cases h
      · exact he (Except.error.inj h).symm
    · exact he (Except.error.inj h).symm
  · exact he (Except.error.inj h).symm

theorem optional_spares {d : Decoder α} {e : DecodeError} (hd : d.Spares e) :
    (optional d).Spares e := by
  intro w v h
  cases v with
  | null => cases h
  | _ => exact hd w _ (map_eq_error.mp h)

theorem list_spares {d : Decoder α} {e : DecodeError} (he : e ≠ .mismatch) (hd : d.Spares e) :
    (list d).Spares e := by
  intro w v h
  cases v with
  | array items =>
    rw [list] at h
    induction items with
    | nil => cases h
    | cons x items ih =>
      rw [List.mapM_cons, bind_eq_error] at h
      rcases h with h | ⟨a, -, h⟩
      · exact hd w x h
      · rcases bind_eq_error.mp h with h | ⟨as, -, h⟩
        · exact ih h
        · cases h
  | _ => exact he (Except.error.inj h).symm

theorem readItems_spares {fields : List (Field σ)} {e : DecodeError} (he : e ≠ .mismatch)
    (hfields : ∀ f ∈ fields, f.Spares e) (w : Notation) (s : σ) (items : List Json) :
    readItems w s fields items ≠ .error e := by
  intro h
  induction fields generalizing s items with
  | nil =>
    cases items with
    | nil => cases h
    | cons v items =>
      rw [readItems] at h
      split at h
      · cases h
      · exact he (Except.error.inj h).symm
  | cons f fields ih =>
    cases items with
    | nil =>
      rw [readItems] at h
      · split at h
        · cases h
        · exact he (Except.error.inj h).symm
      · exact fun h => List.cons_ne_nil f fields h
    | cons v items =>
      rw [List.forall_mem_cons] at hfields
      rw [readItems, bind_eq_error] at h
      rcases h with h | ⟨t, -, h⟩
      · exact hfields.1 w v s h
      · exact ih hfields.2 t items h

theorem record_spares {fields : List (Field σ)} {start : σ} {e : DecodeError} (he : e ≠ .mismatch)
    (hfields : ∀ f ∈ fields, f.Spares e) : (record fields start).Spares e := by
  intro w v h
  cases v with
  | object ms =>
    rw [record, bind_eq_error] at h
    rcases h with h | ⟨r, -, h⟩
    · obtain ⟨_, k, x, _, s, _, f, -, -, hfind, -, hread⟩ := readMembers_error he h
      exact hfields f (List.mem_of_find?_eq_some hfind) w x s hread
    · dsimp only at h
      split at h
      · cases h
      · exact he (Except.error.inj h).symm
  | array items => exact readItems_spares he hfields w start items h
  | _ => exact he (Except.error.inj h).symm

end

end AuditTrail.Decoder
