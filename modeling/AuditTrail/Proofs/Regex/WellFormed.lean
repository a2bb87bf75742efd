import AuditTrail.Proofs.Regex.Branches
import AuditTrail.Proofs.Regex.Matching

/-
  Expressions that are read are well-formed: a count with the least number above the greatest is
  refused (`ordered_readCount`), and no other repetition has a greatest number below its least.
-/
namespace AuditTrail.Regex

variable {f : Flags} {items : List (Option Deep)} {branches : List Deep}

/-! ## Tokens -/

theorem ordered_readCount {range : Nat × Option Nat} {cs rest : List Char}
    (h : readCount f cs = some (range, rest)) : ∀ m ∈ range.2, range.1 ≤ m := by
  cases hcs : f.skip cs with
  | nil =>
    rw [readCount_end hcs] at h
    cases h
  | cons c cs' =>
    rw [readCount_cons hcs] at h
    obtain ⟨⟨number, rest'⟩, -, hrest⟩ := Option.bind_eq_some_iff.mp h
    obtain ⟨low, -, hrest⟩ := Option.bind_eq_some_iff.mp hrest
    obtain ⟨⟨range', rest''⟩, -, hclose⟩ := Option.bind_eq_some_iff.mp hrest
    rw [closeCount] at hclose
    split at hclose
    next =>
      split at hclose
      next => cases hclose
      next horder =>
        cases hclose
        intro m hm
        rw [Option.mem_def] at hm
        rw [hm, Option.any_some, decide_eq_true_iff] at horder
        exact Nat.le_of_not_lt horder
    next => cases hclose

/-- What a token adds to the expression is well-formed. -/
def Token.WellFormed : Token → Prop
  | .close => True
  | .bar => True
  | .opening _ => True
  | .item d => d.regex.WellFormed
  | .times min max => ∀ m ∈ max, min ≤ m

theorem wellFormed_atom {a : Atom} {r : Regex} (h : a.regex f = some r) : r.WellFormed := by
  cases a with
  | literal c byte =>
    rw [Atom.regex] at h
    split at h
    next => cases h
    next =>
      split at h
      next => cases h; trivial
      next => cases h; trivial
  | set s => cases h; trivial
  | look l => cases h; trivial

theorem wellFormed_tokenAt {c : Char} {cs rest : List Char} {token : Token}
    (h : tokenAt f c cs = some (token, rest)) : token.WellFormed := by
  cases hoperator : isOperator c with
  | true =>
    rcases isOperator_cases hoperator with
      rfl | rfl | rfl | rfl | rfl | rfl | rfl | rfl | rfl | rfl | rfl | rfl
    · cases h
      trivial
    · cases h
      trivial
    · obtain ⟨p, -, heq⟩ := Option.map_eq_some_iff.mp (tokenAt_group cs ▸ h)
      cases heq
      trivial
    · obtain ⟨p, -, heq⟩ := Option.map_eq_some_iff.mp (tokenAt_set cs ▸ h)
      cases heq
      trivial
    · cases h
      exact fun m _ => Nat.zero_le m
    · cases h
      exact nofun
    · cases h
      exact nofun
    · obtain ⟨⟨range, rest'⟩, hcount, heq⟩ := Option.map_eq_some_iff.mp (tokenAt_count cs ▸ h)
      cases heq
      exact ordered_readCount hcount
    · obtain ⟨s, -, heq⟩ := Option.map_eq_some_iff.mp (tokenAt_dot cs ▸ h)
      cases heq
      trivial
    · cases h
      trivial
    · cases h
      trivial
    · obtain ⟨⟨a, rest'⟩, -, hregex⟩ := Option.bind_eq_some_iff.mp (tokenAt_backslash cs ▸ h)
      obtain ⟨r, hr, heq⟩ := Option.map_eq_some_iff.mp hregex
      cases heq
      exact wellFormed_atom hr
  | false =>
    rw [tokenAt_literal hoperator] at h
    obtain ⟨r, hr, heq⟩ := Option.map_eq_some_iff.mp h
    cases heq
    exact wellFormed_atom hr

/-! ## Branches -/

/-- All items are well-formed. -/
def ItemsFormed (items : List (Option Deep)) : Prop :=
  ∀ item ∈ items, ∀ d ∈ item, d.regex.WellFormed

theorem ItemsFormed.cons {item : Option Deep} (h : ItemsFormed items)
    (hitem : ∀ d ∈ item, d.regex.WellFormed) : ItemsFormed (item :: items) :=
  List.forall_mem_cons.mpr ⟨hitem, h⟩

theorem wellFormed_getD {item : Option Deep} (h : ∀ d ∈ item, d.regex.WellFormed) :
    (item.getD ⟨.empty, 0⟩).regex.WellFormed := by
  cases item with
  | none => trivial
  | some d => exact h d rfl

theorem wellFormed_concatenate (h : ItemsFormed items) :
    (concatenate items).regex.WellFormed := by
  unfold concatenate
  split
  next => trivial
  next item => exact wellFormed_getD (h item (List.mem_singleton_self item))
  next =>
    refine List.foldlRecOn (motive := fun d : Deep => d.regex.WellFormed) _ _ trivial ?_
    intro acc hacc item hitem
    dsimp only
    split
    next => exact wellFormed_getD (h item hitem)
    next => exact ⟨wellFormed_getD (h item hitem), hacc⟩

theorem wellFormed_alternate (h : ∀ b ∈ branches, b.regex.WellFormed) :
    (alternate branches).regex.WellFormed := by
  unfold alternate
  split
  next => trivial
  next b => exact h b (List.mem_singleton_self b)
  next b rest =>
    rw [List.forall_mem_cons] at h
    exact List.foldlRecOn (motive := fun d : Deep => d.regex.WellFormed) _ _ h.1
      fun acc hacc b hb => ⟨h.2 b hb, hacc⟩

theorem ItemsFormed.repeatLast {items' : List (Option Deep)} {min : Nat} {max : Option Nat}
    (h : ItemsFormed items) (horder : ∀ m ∈ max, min ≤ m)
    (hlast : Regex.repeatLast items min max = some items') : ItemsFormed items' := by
  unfold Regex.repeatLast at hlast
  split at hlast
  next d rest =>
    cases hlast
    rw [ItemsFormed, List.forall_mem_cons] at h ⊢
    refine ⟨fun d' hd' => ?_, h.2⟩
    cases hd'
    exact ⟨h.1 d rfl, horder⟩
  next => cases hlast

/-- Texts below some length are read as well-formed expressions. -/
def ReadsFormed (n : Nat) : Prop :=
  ∀ inGroup f names branches items cs d names' rest, cs.length < n → ItemsFormed items →
    (∀ b ∈ branches, Regex.WellFormed b.regex) →
    readAll inGroup f names branches items cs = some (d, names', rest) → d.regex.WellFormed

theorem ReadsFormed.afterToken {n : Nat} (h : ReadsFormed n) {inGroup : Bool}
    {names names' : List String} {token : Token} {cs rest : List Char} {d : Deep}
    (hcs : cs.length < n) (htoken : token.WellFormed) (hitems : ItemsFormed items)
    (hbranches : ∀ b ∈ branches, b.regex.WellFormed)
    (hread : afterToken readAll inGroup f names branches items token cs = some (d, names', rest)) :
    d.regex.WellFormed := by
  have hdone : ∀ b ∈ concatenate items :: branches, b.regex.WellFormed :=
    List.forall_mem_cons.mpr ⟨wellFormed_concatenate hitems, hbranches⟩
  cases token with
  | close =>
    cases inGroup with
    | true =>
      cases hread
      exact wellFormed_alternate hdone
    | false => cases hread
  | bar => exact h _ _ _ _ _ _ _ _ _ hcs (fun _ hmem => absurd hmem List.not_mem_nil) hdone hread
  | item d' =>
    refine h _ _ _ _ _ _ _ _ _ hcs (hitems.cons fun d'' hd'' => ?_) hbranches hread
    cases hd''
    exact htoken
  | times min max =>
    obtain ⟨items', hlast, hread⟩ := Option.bind_eq_some_iff.mp hread
    exact h _ _ _ _ _ _ _ _ _ hcs (hitems.repeatLast htoken hlast) hbranches hread
  | opening o =>
    cases o with
    | flags change =>
      exact h _ _ _ _ _ _ _ _ _ hcs (hitems.cons fun _ hmem => absurd hmem (Option.not_mem_none _))
        hbranches hread
    | group name change =>
      dsimp only [Regex.afterToken] at hread
      split at hread
      next => cases hread
      next =>
        obtain ⟨⟨d', names'', rest'⟩, hinner, houter⟩ := Option.bind_eq_some_iff.mp hread
        have hle := (ends_readAll _ _ _ _ _ _ _ _ _ hinner).suffix.length_le
        have hgroup := h _ _ _ _ _ _ _ _ _ hcs (fun _ hmem => absurd hmem List.not_mem_nil)
          (fun _ hmem => absurd hmem List.not_mem_nil) hinner
        refine h _ _ _ _ _ _ _ _ _ (Nat.lt_of_le_of_lt hle hcs) (hitems.cons fun d'' hd'' => ?_)
          hbranches houter
        cases hd''
        exact hgroup

theorem reads_formed (n : Nat) : ReadsFormed n := by
  induction n with
  | zero => exact fun _ _ _ _ _ _ _ _ _ h => absurd h (Nat.not_lt_zero _)
  | succ n ih =>
    intro inGroup f names branches items cs d names' rest hcs hitems hbranches hread
    cases hskip : f.skip cs with
    | nil =>
      rw [readAll_end hskip] at hread
      cases inGroup with
      | true => cases hread
      | false =>
        cases hread
        exact wellFormed_alternate
          (List.forall_mem_cons.mpr ⟨wellFormed_concatenate hitems, hbranches⟩)
    | cons c cs' =>
      rw [readAll_cons hskip] at hread
      obtain ⟨⟨token, rest'⟩, htoken, hafter⟩ := Option.bind_eq_some_iff.mp hread
      have hle := (rest_of_tokenAt htoken).1.length_le
      have hlength := length_skip_le f cs
      rw [hskip, List.length_cons] at hlength
      have hrest : rest'.length < n := by omega
      exact ih.afterToken hrest (wellFormed_tokenAt htoken) hitems hbranches hafter

/-- What is read is well-formed. -/
theorem wellFormed_read {text : String} {d : Deep} (h : read text = some d) :
    d.regex.WellFormed := by
  obtain ⟨⟨d', names, rest⟩, hread, rfl⟩ := Option.map_eq_some_iff.mp h
  exact reads_formed _ _ _ _ _ _ _ _ _ _ (Nat.lt_succ_self _)
    (fun _ hmem => absurd hmem List.not_mem_nil) (fun _ hmem => absurd hmem List.not_mem_nil) hread

end AuditTrail.Regex
