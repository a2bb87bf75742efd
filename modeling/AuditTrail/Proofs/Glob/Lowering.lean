import AuditTrail.Proofs.Glob.Brackets
import AuditTrail.Proofs.Text.Stable

/-
  Small letters leave bracket expressions where they are. The characters with a meaning between
  brackets stay what they are, and every other character becomes one or more others
  (`respelled_lowerFrom`). Texts that are respelled in this way have their bracket expressions at
  the same places (`Closed.respelled`), so each bracket expression of a text in small letters comes
  from one of the text as it was given (`HasSet.of_lower`).
-/
namespace AuditTrail

namespace Glob

/-- A character with a meaning in bracket expressions. -/
def isMark (c : Char) : Bool := ['[', ']', '!', '-'].contains c

/-- Two texts have the same marks in the same order, with something else between two of them in one
where there is in the other. -/
inductive Respelled : List Char → List Char → Prop
  | nil : Respelled [] []
  | mark {c : Char} {s t : List Char} :
      isMark c = true → Respelled s t → Respelled (c :: s) (c :: t)
  | other {cs ds s t : List Char} : cs ≠ [] → (∀ c ∈ cs, isMark c = false) →
      ds ≠ [] → (∀ d ∈ ds, isMark d = false) → Respelled s t → Respelled (cs ++ s) (ds ++ t)

namespace Respelled

variable {s t : List Char}

theorem symm (h : Respelled s t) : Respelled t s := by
  induction h with
  | nil => exact .nil
  | mark hc _ ih => exact .mark hc ih
  | other hcs hcsOther hds hdsOther _ ih => exact .other hds hdsOther hcs hcsOther ih

theorem ne_nil (h : Respelled s t) (ht : t ≠ []) : s ≠ [] := by
  cases h with
  | nil => exact absurd rfl ht
  | mark => exact List.cons_ne_nil _ _
  | other hcs => exact List.append_ne_nil_of_left_ne_nil hcs _

/-- A mark splits both texts. -/
theorem split {c : Char} (hc : isMark c = true) {before after : List Char}
    (h : Respelled s (before ++ c :: after)) :
    ∃ before' after', s = before' ++ c :: after' ∧ Respelled before' before ∧
      Respelled after' after := by
  generalize ht : before ++ c :: after = t at h
  induction h generalizing before with
  | nil => exact absurd ht (List.append_ne_nil_of_right_ne_nil _ (List.cons_ne_nil _ _))
  | @mark d s t hd hrest ih =>
    cases before with
    | nil =>
      obtain ⟨rfl, rfl⟩ := List.cons_eq_cons.mp ht
      exact ⟨[], s, rfl, .nil, hrest⟩
    | cons b before =>
      obtain ⟨rfl, htail⟩ := List.cons_eq_cons.mp ht
      obtain ⟨before', after', rfl, hbefore, hafter⟩ := ih htail
      exact ⟨b :: before', after', rfl, .mark hd hbefore, hafter⟩
  | @other cs ds s t hcs hcsOther hds hdsOther hrest ih =>
    have hbehind : ∃ inner, before = ds ++ inner ∧ inner ++ c :: after = t := by
      rcases List.append_eq_append_iff.mp ht with ⟨inner, hds', htail⟩ | ⟨inner, hbefore, htail⟩
      · cases inner with
        | nil => exact ⟨[], by rw [hds', List.append_nil, List.append_nil], htail⟩
        | cons d inner =>
          -- Otherwise the mark were among what is no mark.
          obtain ⟨rfl, -⟩ := List.cons_eq_cons.mp htail
          have hother := hdsOther c (hds' ▸ List.mem_append_right _ List.mem_cons_self)
          rw [hc] at hother
          cases hother
      · exact ⟨inner, hbefore, htail.symm⟩
    obtain ⟨inner, rfl, htail⟩ := hbehind
    obtain ⟨before', after', rfl, hbefore, hafter⟩ := ih htail
    exact ⟨cs ++ before', after', (List.append_assoc _ _ _).symm,
      .other hcs hcsOther hds hdsOther hbefore, hafter⟩

theorem eq_nil (h : Respelled s []) : s = [] := by
  by_contra hs
  exact h.symm.ne_nil hs rfl

theorem cons_mark {c : Char} (hc : isMark c = true) (h : Respelled s (c :: t)) :
    ∃ s', s = c :: s' ∧ Respelled s' t := by
  have hsplit : Respelled s ([] ++ c :: t) := h
  obtain ⟨before, after, rfl, hbefore, hafter⟩ := split hc hsplit
  rw [hbefore.eq_nil]
  exact ⟨after, rfl, hafter⟩

theorem mem_mark {c : Char} (hc : isMark c = true) (h : Respelled s t) (ht : c ∈ t) : c ∈ s := by
  obtain ⟨before, after, rfl⟩ := List.append_of_mem ht
  obtain ⟨before', after', rfl, -⟩ := split hc h
  exact List.mem_append_right _ List.mem_cons_self

theorem head?_mark {c : Char} (hc : isMark c = true) (h : Respelled s t)
    (ht : t.head? = some c) : s.head? = some c := by
  obtain ⟨t, rfl⟩ := List.head?_eq_some_iff.mp ht
  obtain ⟨s, rfl, -⟩ := cons_mark hc h
  rfl

theorem mem_tail_mark {c : Char} (hc : isMark c = true) (h : Respelled s t) (ht : c ∈ t.tail) :
    c ∈ s.tail := by
  have hne := List.ne_nil_of_mem (List.mem_of_mem_tail ht)
  obtain ⟨first, t, rfl⟩ := List.exists_cons_of_ne_nil hne
  obtain ⟨before, after, rfl⟩ := List.append_of_mem ht
  have hsplit : Respelled s ((first :: before) ++ c :: after) := h
  obtain ⟨before', after', rfl, hbefore, -⟩ := split hc hsplit
  have hne' := hbefore.ne_nil (List.cons_ne_nil _ _)
  obtain ⟨first', before', rfl⟩ := List.exists_cons_of_ne_nil hne'
  exact List.mem_append_right _ List.mem_cons_self

end Respelled

/-- Texts that are respelled have bracket expressions in the same places. -/
theorem Closed.respelled {text text' body rest : List Char} {negated : Bool}
    (h : Closed text' negated body rest) (htext : Respelled text text') :
    ∃ body' rest', Closed text negated body' rest' ∧ Respelled body' body ∧
      Respelled rest' rest := by
  obtain ⟨rfl, hne, hcloses, hunsigned⟩ := h
  have hsign : ∃ unsigned, text = (if negated then ['!'] else []) ++ unsigned ∧
      Respelled unsigned (body ++ ']' :: rest) := by
    cases negated with
    | true => exact Respelled.cons_mark rfl htext
    | false => exact ⟨text, rfl, htext⟩
  obtain ⟨unsigned, rfl, hunsigned'⟩ := hsign
  obtain ⟨body', rest', rfl, hbody, hrest⟩ := Respelled.split rfl hunsigned'
  refine ⟨body', rest', ⟨rfl, hbody.ne_nil hne, fun hmem => ?_, fun hnot hhead => ?_⟩, hbody, hrest⟩
  · exact hcloses (hbody.symm.mem_tail_mark rfl hmem)
  · exact hunsigned hnot (hbody.symm.head?_mark rfl hhead)

/-- What holds no mark can be put in front of a text. -/
theorem HasSet.behind_others {body text others : List Char} (h : HasSet body text)
    (hothers : ∀ c ∈ others, isMark c = false) : HasSet body (others ++ text) := by
  induction others with
  | nil => exact h
  | cons c others ih =>
    have hc : c ≠ '[' := by
      rintro rfl
      have := hothers _ List.mem_cons_self
      cases this
    exact .later hc (ih fun d hd => hothers d (List.mem_cons_of_mem _ hd))

theorem HasSet.respelled {body text text' : List Char} (h : HasSet body text')
    (htext : Respelled text text') : ∃ body', HasSet body' text ∧ Respelled body' body := by
  induction h generalizing text with
  | here hclosed =>
    obtain ⟨text, rfl, hrest⟩ := htext.cons_mark rfl
    obtain ⟨body', rest', hclosed', hbody, -⟩ := hclosed.respelled hrest
    exact ⟨body', .here hclosed', hbody⟩
  | behind hclosed _ ih =>
    obtain ⟨text, rfl, hrest⟩ := htext.cons_mark rfl
    obtain ⟨members', rest', hclosed', -, hbehind⟩ := hclosed.respelled hrest
    obtain ⟨body', hset, hbody⟩ := ih hbehind
    exact ⟨body', .behind hclosed' hset, hbody⟩
  | unclosed hopen _ ih =>
    obtain ⟨text, rfl, hrest⟩ := htext.cons_mark rfl
    obtain ⟨body', hset, hbody⟩ := ih hrest
    refine ⟨body', .unclosed (fun negated members rest hclosed => ?_) hset, hbody⟩
    obtain ⟨members', rest', hclosed', -⟩ := hclosed.respelled hrest.symm
    exact hopen negated members' rest' hclosed'
  | @later c text' hc _ ih =>
    generalize hcons : c :: text' = whole at htext
    cases htext with
    | nil => cases hcons
    | mark hmark hrest =>
      obtain ⟨rfl, rfl⟩ := List.cons_eq_cons.mp hcons
      obtain ⟨body', hset, hbody⟩ := ih hrest
      exact ⟨body', .later hc hset, hbody⟩
    | @other cs ds s t hcs hcsOther hds hdsOther hrest =>
      obtain ⟨d, ds, rfl⟩ := List.exists_cons_of_ne_nil hds
      obtain ⟨rfl, rfl⟩ := List.cons_eq_cons.mp hcons
      by_cases hmore : ds = []
      · subst hmore
        obtain ⟨body', hset, hbody⟩ := ih hrest
        exact ⟨body', hset.behind_others hcsOther, hbody⟩
      · exact ih (.other hcs hcsOther hmore
          (fun d hd => hdsOther d (List.mem_cons_of_mem _ hd)) hrest)

end Glob

/-! ## Small letters -/

namespace Text

open Glob (isMark Respelled HasSet)

/-- No run of the map of small letters leads nowhere. -/
theorem targets_nonempty : (lowerMap.all fun r => !r.target.isEmpty) = true := by decide +kernel

theorem CaseRun.image?_ne_nil {r : CaseRun} (h : r.target ≠ []) {n : Nat} {ns : List Nat}
    (hns : r.image? n = some ns) : ns ≠ [] := by
  rw [image?] at hns
  split at hns
  · split at hns
    · cases hns
      exact List.cons_ne_nil _ _
    · cases hns
      exact h
  · cases hns

theorem lowerChar_ne_nil (c : Char) : lowerChar c ≠ [] := by
  rw [lowerChar]
  split
  · exact List.cons_ne_nil _ _
  · rw [mapCase]
    cases hfind : lowerMap.findSome? (·.image? c.toNat) with
    | none => exact List.cons_ne_nil _ _
    | some ns =>
      obtain ⟨r, hr, himage⟩ := List.exists_of_findSome?_eq_some hfind
      have htarget := List.all_eq_true.mp targets_nonempty r hr
      rw [Bool.not_eq_true', List.isEmpty_eq_false_iff] at htarget
      exact fun hnil => CaseRun.image?_ne_nil htarget himage (List.map_eq_nil_iff.mp hnil)

theorem isSign_of_isMark {c : Char} (h : isMark c = true) : isSign c = true := by
  have hmem := List.contains_iff_mem.mp h
  simp only [List.mem_cons, List.not_mem_nil, or_false] at hmem
  rcases hmem with rfl | rfl | rfl | rfl <;> decide

theorem isMark_of_mem_lowerChar {c d : Char} (h : isMark c = false) (hd : d ∈ lowerChar c) :
    isMark d = false := by
  rw [← Bool.not_eq_true] at h ⊢
  intro hmark
  rw [← eq_of_mem_lowerChar (isSign_of_isMark hmark) hd] at hmark
  exact h hmark

/-- Small letters are a respelling. -/
theorem respelled_lowerFrom (before cs : List Char) : Respelled cs (lowerFrom before cs) := by
  induction cs generalizing before with
  | nil => exact .nil
  | cons c rest ih =>
    rw [lowerFrom]
    cases hc : isMark c with
    | true =>
      have hsigma : c ≠ 'Σ' := by
        rintro rfl
        revert hc
        decide
      rw [if_neg hsigma, lowerChar_of_settled (settled_of_isSign (isSign_of_isMark hc))]
      exact .mark hc (ih _)
    | false =>
      have hother : ∀ d ∈ [c], isMark d = false := fun d hd => by rwa [List.mem_singleton.mp hd]
      have hlower : ∀ ds : List Char, ds ≠ [] → (∀ d ∈ ds, isMark d = false) →
          Respelled (c :: rest) (ds ++ lowerFrom (c :: before) rest) :=
        fun ds hds hdsOther => .other (List.cons_ne_nil c []) hother hds hdsOther (ih _)
      by_cases hsigma : c = 'Σ'
      · rw [if_pos hsigma]
        refine hlower _ (List.cons_ne_nil _ _) fun d hd => ?_
        rw [List.mem_singleton.mp hd]
        cases isFinalSigma before rest <;> decide
      · rw [if_neg hsigma]
        exact hlower _ (lowerChar_ne_nil c) fun d hd => isMark_of_mem_lowerChar hc hd

end Text

/-- A bracket expression of a text in small letters comes from one of the text. -/
theorem Glob.HasSet.of_lower {body : List Char} {s : String}
    (h : HasSet body (Text.lower s).toList) :
    ∃ body', HasSet body' s.toList ∧ Respelled body' body := by
  rw [Text.lower, String.toList_ofList] at h
  exact h.respelled (Text.respelled_lowerFrom [] s.toList)

end AuditTrail
