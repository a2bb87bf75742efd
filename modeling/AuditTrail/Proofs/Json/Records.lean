import AuditTrail.Json.Decoder

/-
  What decoders give and what they take back. A decoder yields a property if everything it takes
  has it; a record yields what its defaults have and each of its fields keeps (`record_yields`). A
  decoder reads a value as something in either notation; a list does so item by item
  (`list_reads`), a record member by member (`readMembers_cons`).
-/
namespace AuditTrail.Decoder

section

variable {σ α β : Type}

theorem bind_eq_ok {ε : Type} {x : Except ε α} {f : α → Except ε β} {b : β} :
    x >>= f = .ok b ↔ ∃ a, x = .ok a ∧ f a = .ok b := by
  cases x with
  | error e => exact ⟨nofun, nofun⟩
  | ok a => exact ⟨fun h => ⟨a, rfl, h⟩, fun ⟨_, ha, h⟩ => Except.ok.inj ha ▸ h⟩

theorem bind_eq_error {ε : Type} {x : Except ε α} {f : α → Except ε β} {e : ε} :
    x >>= f = .error e ↔ x = .error e ∨ ∃ a, x = .ok a ∧ f a = .error e := by
  cases x with
  | error e' =>
    refine ⟨fun h => .inl (congrArg Except.error (Except.error.inj h)), ?_⟩
    rintro (h | ⟨_, h, -⟩)
    · exact congrArg Except.error (Except.error.inj h)
    · cases h
  | ok a =>
    refine ⟨fun h => .inr ⟨a, rfl, h⟩, ?_⟩
    rintro (h | ⟨_, ha, h⟩)
    · cases h
    · exact Except.ok.inj ha ▸ h

theorem error_ne_ok {ε : Type} (e : ε) (a : α) : (.error e : Except ε α) ≠ .ok a := by
  intro h
  cases h

theorem ok_bind {ε : Type} (a : α) (f : α → Except ε β) : ((.ok a : Except ε α) >>= f) = f a := rfl

theorem map_eq_ok {ε : Type} {x : Except ε α} {f : α → β} {b : β} :
    x.map f = .ok b ↔ ∃ a, x = .ok a ∧ f a = b := by
  cases x with
  | error e => exact ⟨nofun, nofun⟩
  | ok a => exact ⟨fun h => ⟨a, rfl, Except.ok.inj h⟩,
      fun ⟨_, ha, h⟩ => congrArg Except.ok (Except.ok.inj ha ▸ h)⟩

theorem mapError_eq_ok {ε ε' : Type} {x : Except ε α} {f : ε → ε'} {a : α} :
    x.mapError f = .ok a ↔ x = .ok a := by
  cases x with
  | error e => exact ⟨nofun, nofun⟩
  | ok b => exact ⟨fun h => congrArg Except.ok (Except.ok.inj h),
      fun h => congrArg Except.ok (Except.ok.inj h)⟩

/-! ## What is taken -/

/-- Everything that a decoder takes has a property. -/
def Yields (d : Decoder α) (P : α → Prop) : Prop := ∀ w v a, d w v = .ok a → P a

/-- Reading a field keeps a property of the record. -/
def Field.Keeps (f : Field σ) (P : σ → Prop) : Prop :=
  ∀ w v s s', P s → f.read w v s = .ok s' → P s'

theorem below_yields (bound : Nat) : (below bound).Yields (· < bound) := by
  intro w v a h
  cases v with
  | int n =>
    rw [below] at h
    split at h
    · rename_i hn
      cases h
      show n.toNat < bound
      omega
    · cases h
  | _ => cases h

theorem list_yields {d : Decoder α} {P : α → Prop} (hd : d.Yields P) :
    (list d).Yields fun as => ∀ a ∈ as, P a := by
  intro w v as h
  cases v with
  | array items =>
    rw [list] at h
    induction items generalizing as with
    | nil =>
      cases h
      exact nofun
    | cons v items ih =>
      rw [List.mapM_cons, bind_eq_ok] at h
      obtain ⟨a, ha, h⟩ := h
      obtain ⟨rest, hrest, h⟩ := bind_eq_ok.mp h
      cases h
      exact List.forall_mem_cons.mpr ⟨hd w v a ha, ih rest hrest⟩
  | _ => cases h

theorem field_keeps {d : Decoder α} {Q : α → Prop} (hd : d.Yields Q) {P : σ → Prop}
    {put : α → σ → σ} (hput : ∀ a s, Q a → P s → P (put a s)) (name : String) :
    (field name d put).Keeps P := by
  intro w v s s' hs h
  obtain ⟨a, ha, rfl⟩ := map_eq_ok.mp h
  exact hput a s (hd w v a ha) hs

/-- A field that a property does not speak of keeps it. -/
theorem field_keeps_any {P : σ → Prop} {put : α → σ → σ} (hput : ∀ a s, P s → P (put a s))
    (name : String) (d : Decoder α) : (field name d put).Keeps P :=
  field_keeps (Q := fun _ => True) (fun _ _ _ _ => trivial) (fun a s _ hs => hput a s hs) name

theorem Field.Keeps.rename {f : Field σ} {P : σ → Prop} (h : f.Keeps P) (names : List String) :
    { f with names := names }.Keeps P := h

theorem readMembers_keeps {fields : List (Field σ)} {P : σ → Prop}
    (hfields : ∀ f ∈ fields, f.Keeps P) (w : Notation) (ms : List (String × Json)) {s s' : σ}
    {seen seen' : List String} (hs : P s)
    (h : readMembers fields w s seen ms = .ok (s', seen')) : P s' := by
  induction ms generalizing s seen with
  | nil =>
    cases h
    exact hs
  | cons m ms ih =>
    obtain ⟨k, v⟩ := m
    rw [readMembers] at h
    cases hfind : fields.find? (·.names.contains k) with
    | none =>
      rw [hfind] at h
      exact ih hs h
    | some f =>
      rw [hfind] at h
      dsimp only at h
      split at h
      · cases h
      · obtain ⟨t, hread, h⟩ := bind_eq_ok.mp h
        exact ih (hfields f (List.mem_of_find?_eq_some hfind) w v s t hs hread) h

theorem readItems_keeps {fields : List (Field σ)} {P : σ → Prop}
    (hfields : ∀ f ∈ fields, f.Keeps P) (w : Notation) (items : List Json) {s s' : σ} (hs : P s)
    (h : readItems w s fields items = .ok s') : P s' := by
  induction fields generalizing s items with
  | nil =>
    cases items with
    | nil =>
      cases h
      exact hs
    | cons v items =>
      rw [readItems] at h
      split at h
      · cases h
        exact hs
      · cases h
  | cons f fields ih =>
    cases items with
    | nil =>
      rw [readItems] at h
      split at h
      · cases h
        exact hs
      · cases h
      · exact nofun
    | cons v items =>
      rw [readItems, bind_eq_ok] at h
      obtain ⟨t, hread, h⟩ := h
      rw [List.forall_mem_cons] at hfields
      exact ih hfields.2 items (hfields.1 w v s t hs hread) h

theorem record_yields {fields : List (Field σ)} {start : σ} {P : σ → Prop}
    (hfields : ∀ f ∈ fields, f.Keeps P) (hstart : P start) : (record fields start).Yields P := by
  intro w v s h
  cases v with
  | object ms =>
    rw [record, bind_eq_ok] at h
    obtain ⟨⟨t, seen⟩, hread, h⟩ := h
    dsimp only at h
    split at h
    · cases h
      exact readMembers_keeps hfields w ms hstart hread
    · cases h
  | array items =>
    rw [record] at h
    exact readItems_keeps hfields w items hstart h
  | _ => cases h

/-! ## What is read back -/

/-- A decoder takes a value for `a` in either notation. -/
def Reads (d : Decoder α) (v : Json) (a : α) : Prop := ∀ w, d w v = .ok a

theorem bool_reads (b : Bool) : bool.Reads (.bool b) b := fun _ => rfl

theorem string_reads (s : String) : string.Reads (.string s) s := fun _ => rfl

theorem below_reads {bound n : Nat} (hn : n < bound) : (below bound).Reads (.nat n) n := by
  intro w
  rw [Json.nat, below, if_pos ⟨by omega, by omega⟩]
  rfl

theorem text?_reads (s : Option String) : (optional string).Reads (.text? s) s := by
  intro w
  cases s <;> rfl

theorem list_reads {d : Decoder α} {write : α → Json} {as : List α}
    (hd : ∀ a ∈ as, d.Reads (write a) a) : (list d).Reads (.array (as.map write)) as := by
  intro w
  rw [list]
  induction as with
  | nil => rfl
  | cons a as ih =>
    rw [List.forall_mem_cons] at hd
    rw [List.map_cons, List.mapM_cons, hd.1 w, ih hd.2]
    rfl

theorem field_reads {d : Decoder α} {v : Json} {a : α} (hd : d.Reads v a) (name : String)
    (put : α → σ → σ) (w : Notation) (s : σ) :
    (field name d put).read w v s = .ok (put a s) :=
  map_eq_ok.mpr ⟨a, hd w, rfl⟩

/-- So does a field with further names. -/
theorem renamed_reads {d : Decoder α} {v : Json} {a : α} (hd : d.Reads v a) (name : String)
    (put : α → σ → σ) (names : List String) (w : Notation) (s : σ) :
    { field name d put with names := names }.read w v s = .ok (put a s) :=
  field_reads hd name put w s

/-- The next member belongs to a field that has not been read. -/
theorem readMembers_cons {fields : List (Field σ)} {f : Field σ} {w : Notation} {k : String}
    {v : Json} {s s' : σ} {seen : List String}
    (hfind : fields.find? (·.names.contains k) = some f) (hnew : f.names.headD "" ∉ seen)
    (hread : f.read w v s = .ok s') (rest : List (String × Json)) :
    readMembers fields w s seen ((k, v) :: rest)
      = readMembers fields w s' (f.names.headD "" :: seen) rest := by
  have hunseen : seen.contains (f.names.headD "") = false := by simpa using hnew
  simp only [readMembers, hfind, hunseen, hread]
  rfl

/-- A member that no field has the name of is passed over. -/
theorem readMembers_skip {fields : List (Field σ)} {k : String}
    (hfind : fields.find? (·.names.contains k) = none) (w : Notation) (s : σ) (seen : List String)
    (v : Json) (rest : List (String × Json)) :
    readMembers fields w s seen ((k, v) :: rest) = readMembers fields w s seen rest := by
  rw [readMembers, hfind]

end

end AuditTrail.Decoder
