import AuditTrail.Text.Case
import Mathlib.Data.List.TakeWhile

/-
  Texts that are left alone: those without blanks by `trim` (`trim_of_no_blank`), and those in small
  letters by `lower` (`lower_lower`). For the latter, the map of small letters sends no character to
  one that it maps itself; this is a fact about its runs, taken two at a time
  (`images_apart_sources`). So every character of a text in small letters is settled
  (`settled_of_mem_lowerFrom`), and settled characters stay whatever stands around them
  (`lowerFrom_of_settled`). Signs are settled, and nothing else becomes one
  (`eq_of_mem_lowerChar`).
-/
namespace AuditTrail.Text

/-- What holds of the first 128 code points holds of every ASCII character. -/
theorem forall_ascii (P : Char → Prop) (h : ∀ n < 128, P (Char.ofNat n)) {c : Char}
    (hc : c.toNat < 128) : P c := by
  have hp := h c.toNat hc
  rwa [Char.ofNat_toNat] at hp

theorem trim_of_no_blank {s : String} (h : ∀ c ∈ s.toList, isBlank c = false) : trim s = s := by
  have hkeep : ∀ cs : List Char, (∀ c ∈ cs, isBlank c = false) → cs.dropWhile isBlank = cs := by
    intro cs hcs
    rw [List.dropWhile_eq_self_iff]
    intro hlength
    rw [hcs _ (List.getElem_mem hlength)]
    exact Bool.false_ne_true
  rw [trim, hkeep _ h, hkeep, List.reverse_reverse, String.ofList_toList]
  intro c hc
  exact h c (List.mem_reverse.mp hc)

/-! ## Small letters -/

/-- Every `step`-th code point from `first` to `last`. -/
structure Stretch where
  first : Nat
  last : Nat
  step : Nat

namespace Stretch

/-- A code point lies on a stretch. -/
def Has (s : Stretch) (n : Nat) : Prop := s.first ≤ n ∧ n ≤ s.last ∧ (n - s.first) % s.step = 0

instance (s : Stretch) : DecidablePred s.Has := fun _ => inferInstanceAs (Decidable (_ ∧ _ ∧ _))

/-- One stretch ends before the other begins, or one has the even and the other the odd code
points. -/
def apart (a b : Stretch) : Bool :=
  Nat.blt a.last b.first || Nat.blt b.last a.first ||
    (b.step == 2 && (a.first + b.first) % 2 == 1 && (a.step == 2 || a.first == a.last))

theorem not_has_of_apart {a b : Stretch} (hapart : a.apart b = true) {n : Nat} (ha : a.Has n) :
    ¬ b.Has n := by
  rintro ⟨hfirst, hlast, hstep⟩
  obtain ⟨hfirst', hlast', hstep'⟩ := ha
  simp only [apart, Bool.or_eq_true, Bool.and_eq_true, Nat.blt_eq, beq_iff_eq] at hapart
  rcases hapart with (h | h) | ⟨⟨hb, hodd⟩, ha | ha⟩
  · omega
  · omega
  · rw [hb] at hstep
    rw [ha] at hstep'
    omega
  · rw [hb] at hstep
    omega

end Stretch

namespace CaseRun

/-- The code points that a run maps. -/
def sources (r : CaseRun) : Stretch := ⟨r.first, r.last, r.step⟩

/-- The code points that a run maps to. -/
def images (r : CaseRun) : List Stretch :=
  match r.target with
  | [t] => [⟨t, t + (r.last - r.first), r.step⟩]
  | ts => ts.map fun t => ⟨t, t, 1⟩

theorem image?_eq_none_iff {r : CaseRun} {n : Nat} : r.image? n = none ↔ ¬ r.sources.Has n := by
  rw [image?]
  split
  · rename_i hhas
    have himage : ∀ ts : List Nat, (match ts with
        | [t] => some [t + (n - r.first)]
        | ts => some ts) ≠ none := by
      intro ts
      split <;> exact nofun
    exact ⟨fun h => absurd h (himage r.target), fun h => absurd hhas h⟩
  · rename_i hhas
    exact ⟨fun _ => hhas, fun _ => rfl⟩

/-- What a run maps to lies on its images. -/
theorem has_of_image? {r : CaseRun} {n : Nat} {ns : List Nat} (h : r.image? n = some ns) {m : Nat}
    (hm : m ∈ ns) : ∃ i ∈ r.images, i.Has m := by
  rw [image?] at h
  rw [images]
  split at h
  · rename_i hhas
    obtain ⟨hfirst, hlast, hstep⟩ := hhas
    rcases htarget : r.target with _ | ⟨t, _ | ⟨t', ts⟩⟩
    · rw [htarget] at h
      cases h
      cases hm
    · rw [htarget] at h
      cases h
      rw [List.mem_singleton] at hm
      subst hm
      refine ⟨⟨t, t + (r.last - r.first), r.step⟩, List.mem_singleton_self _, ?_⟩
      refine ⟨Nat.le_add_right _ _, by dsimp only; omega, ?_⟩
      rw [Nat.add_sub_cancel_left]
      exact hstep
    · rw [htarget] at h
      cases h
      exact ⟨⟨m, m, 1⟩, List.mem_map_of_mem hm, Nat.le_refl m, Nat.le_refl m, Nat.mod_one _⟩
  · cases h

end CaseRun

/-- The map of small letters leaves a code point alone. -/
def Settled (n : Nat) : Prop := ∀ r ∈ lowerMap, ¬ r.sources.Has n

instance : DecidablePred Settled := fun n =>
  decidable_of_iff (lowerMap.all fun r => !decide (r.sources.Has n)) (by simp [Settled])

/-- No run maps to what a run maps. Run is held against run, which is far less than to ask every
code point for itself. -/
theorem images_apart_sources : (lowerMap.all fun r =>
    r.images.all fun i => lowerMap.all fun s => i.apart s.sources) = true := by
  decide +kernel

/-- Of the ASCII characters only the capitals are mapped. -/
theorem settled_ascii_iff {n : Nat} (hn : n < 128) : Settled n ↔ ¬ (0x41 ≤ n ∧ n ≤ 0x5A) := by
  have hruns : (lowerMap.all fun r =>
      (r.first == 0x41 && r.last == 0x5A) || Nat.ble 128 r.first) = true := by decide +kernel
  have hcapitals : ⟨0x41, 0x5A, 1, [0x61]⟩ ∈ lowerMap := List.mem_cons_self
  constructor
  · intro hsettled hcapital
    exact hsettled _ hcapitals ⟨hcapital.1, hcapital.2, Nat.mod_one _⟩
  · rintro hsmall r hr ⟨hfirst, hlast, -⟩
    have hrun := List.all_eq_true.mp hruns r hr
    simp only [Bool.or_eq_true, Bool.and_eq_true, beq_iff_eq, Nat.ble_eq] at hrun
    simp only [CaseRun.sources] at hfirst hlast
    omega

/-- A number that is no code point stands for the character zero. -/
theorem settled_ofNat {n : Nat} (h : Settled n) : Settled (Char.ofNat n).toNat := by
  by_cases hn : n.isValidChar
  · have hchar : Char.ofNat n = Char.ofNatAux n hn := dif_pos hn
    rw [hchar]
    exact h
  · have hzero : Char.ofNat n = Char.ofNatAux 0 (by decide) := dif_neg hn
    rw [hzero]
    exact (settled_ascii_iff (by decide)).mpr (by decide)

theorem settled_of_mem_lowerChar {c d : Char} (h : d ∈ lowerChar c) : Settled d.toNat := by
  rw [lowerChar] at h
  by_cases hc : c.toNat < 128
  · rw [if_pos hc, List.mem_singleton] at h
    subst h
    have hsmall := forall_ascii
      (fun c => c.toLower.toNat < 128 ∧ ¬ (0x41 ≤ c.toLower.toNat ∧ c.toLower.toNat ≤ 0x5A))
      (by decide +kernel) hc
    exact (settled_ascii_iff hsmall.1).mpr hsmall.2
  · rw [if_neg hc, mapCase] at h
    cases hfind : lowerMap.findSome? (·.image? c.toNat) with
    | none =>
      rw [hfind, List.mem_singleton] at h
      subst h
      rw [List.findSome?_eq_none_iff] at hfind
      exact fun r hr => CaseRun.image?_eq_none_iff.mp (hfind r hr)
    | some ns =>
      rw [hfind, List.mem_map] at h
      obtain ⟨m, hm, rfl⟩ := h
      -- An image is settled whichever run it comes from: no run maps it again.
      obtain ⟨r, hr, himage⟩ := List.exists_of_findSome?_eq_some hfind
      obtain ⟨i, hi, hhas⟩ := CaseRun.has_of_image? himage hm
      have hapart := images_apart_sources
      simp only [List.all_eq_true] at hapart
      exact settled_ofNat fun s hs => Stretch.not_has_of_apart (hapart r hr i hi s hs) hhas

theorem lowerChar_of_settled {c : Char} (h : Settled c.toNat) : lowerChar c = [c] := by
  rw [lowerChar]
  split
  · rename_i hc
    have hsame := forall_ascii (fun c => ¬ (0x41 ≤ c.toNat ∧ c.toNat ≤ 0x5A) → c.toLower = c)
      (by decide +kernel) hc
    rw [hsame ((settled_ascii_iff hc).mp h)]
  · have hfind : lowerMap.findSome? (·.image? c.toNat) = none := by
      rw [List.findSome?_eq_none_iff]
      exact fun r hr => CaseRun.image?_eq_none_iff.mpr (h r hr)
    rw [mapCase, hfind]

/-- Also a sigma, which depends on its context, becomes a settled character. -/
theorem settled_of_mem_lowerFrom {cs before : List Char} {d : Char}
    (h : d ∈ lowerFrom before cs) : Settled d.toNat := by
  induction cs generalizing before with
  | nil => cases h
  | cons c rest ih =>
    rw [lowerFrom, List.mem_append] at h
    rcases h with h | h
    · by_cases hc : c = 'Σ'
      · rw [if_pos hc, List.mem_singleton] at h
        subst h
        cases isFinalSigma before rest <;> decide +kernel
      · rw [if_neg hc] at h
        exact settled_of_mem_lowerChar h
    · exact ih h

theorem lowerFrom_of_settled {cs : List Char} (h : ∀ c ∈ cs, Settled c.toNat) (before : List Char) :
    lowerFrom before cs = cs := by
  induction cs generalizing before with
  | nil => rfl
  | cons c rest ih =>
    have hc := h c List.mem_cons_self
    have hsigma : c ≠ 'Σ' := by
      rintro rfl
      revert hc
      decide +kernel
    rw [lowerFrom, if_neg hsigma, lowerChar_of_settled hc, List.singleton_append,
      ih fun d hd => h d (List.mem_cons_of_mem c hd)]

/-- A text in small letters stays as it is. -/
theorem lower_lower (s : String) : lower (lower s) = lower s := by
  rw [lower, lower, String.toList_ofList, lowerFrom_of_settled fun _ => settled_of_mem_lowerFrom]

/-! ## Signs -/

/-- An ASCII character that is neither a letter nor the character zero. -/
def isSign (c : Char) : Bool :=
  c.toNat != 0 && c.toNat < 128 && !(0x41 ≤ c.toNat && c.toNat ≤ 0x5A) &&
    !(0x61 ≤ c.toNat && c.toNat ≤ 0x7A)

/-- No run of the map of small letters leads to an ASCII character other than a small letter. -/
theorem images_apart_signs : (lowerMap.all fun r => r.images.all fun i =>
    Nat.ble 128 i.first || (Nat.ble 0x61 i.first && Nat.ble i.last 0x7A)) = true := by
  decide +kernel

theorem isSign_iff {c : Char} : isSign c = true ↔
    c.toNat ≠ 0 ∧ c.toNat < 128 ∧ ¬ (0x41 ≤ c.toNat ∧ c.toNat ≤ 0x5A) ∧
      ¬ (0x61 ≤ c.toNat ∧ c.toNat ≤ 0x7A) := by
  simp only [isSign, Bool.and_eq_true, bne_iff_ne, decide_eq_true_eq, Bool.not_eq_true',
    ← Bool.not_eq_true, and_assoc]

theorem settled_of_isSign {c : Char} (h : isSign c = true) : Settled c.toNat := by
  obtain ⟨-, hascii, hcapital, -⟩ := isSign_iff.mp h
  exact (settled_ascii_iff hascii).mpr hcapital

/-- A sign comes from itself only. -/
theorem eq_of_mem_lowerChar {c d : Char} (hd : isSign d = true) (h : d ∈ lowerChar c) : c = d := by
  obtain ⟨hzero, hascii, -, hsmall⟩ := isSign_iff.mp hd
  rw [lowerChar] at h
  by_cases hc : c.toNat < 128
  · rw [if_pos hc, List.mem_singleton] at h
    have hsame := forall_ascii
      (fun c => ¬ (0x61 ≤ c.toLower.toNat ∧ c.toLower.toNat ≤ 0x7A) → c = c.toLower)
      (by decide +kernel) hc
    rw [h] at hsmall ⊢
    exact hsame hsmall
  · rw [if_neg hc, mapCase] at h
    cases hfind : lowerMap.findSome? (·.image? c.toNat) with
    | none =>
      rw [hfind, List.mem_singleton] at h
      exact h.symm
    | some ns =>
      rw [hfind, List.mem_map] at h
      obtain ⟨m, hm, rfl⟩ := h
      obtain ⟨r, hr, himage⟩ := List.exists_of_findSome?_eq_some hfind
      obtain ⟨i, hi, hfirst, hlast, -⟩ := CaseRun.has_of_image? himage hm
      have hapart := images_apart_signs
      simp only [List.all_eq_true, Bool.or_eq_true, Bool.and_eq_true, Nat.ble_eq] at hapart
      by_cases hvalid : m.isValidChar
      · have hchar : (Char.ofNat m).toNat = m := by
          rw [show Char.ofNat m = Char.ofNatAux m hvalid from dif_pos hvalid]
          rfl
        rw [hchar] at hascii hsmall
        rcases hapart r hr i hi with hfar | ⟨hfrom, hto⟩
        · omega
        · omega
      · have hchar : Char.ofNat m = Char.ofNatAux 0 (by decide) := dif_neg hvalid
        rw [hchar] at hzero
        exact absurd rfl hzero

end AuditTrail.Text
