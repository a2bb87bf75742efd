import AuditTrail.Identity.Uuid
import AuditTrail.Proofs.Number.Digits

/-
  An identifier is read back from its written form (`parse_toText`): what stands between the
  hyphens are all of its digits. So different identifiers are written differently
  (`toText_injective`), and all are written at the same length.
-/
namespace AuditTrail.Uuid

/-- The five groups of digits with hyphens between them. -/
theorem toList_toText (u : Uuid) : u.toText.toList =
    let ds := Digits.hexPadded 32 u.toNat
    ds.take 8 ++ '-' :: (ds.drop 8).take 4 ++ '-' :: (ds.drop 12).take 4 ++
      '-' :: (ds.drop 16).take 4 ++ '-' :: ds.drop 20 := by
  rw [toText, String.toList_ofList]

theorem length_toText (u : Uuid) : u.toText.toList.length = 36 := by
  have hlength := Digits.length_hexPadded 32 u.toNat
  rw [toList_toText]
  simp [hlength]

theorem isGrouped_toText (u : Uuid) : isGrouped u.toText.toList = true := by
  have hlength := Digits.length_hexPadded 32 u.toNat
  rw [isGrouped, length_toText, toList_toText]
  simp [List.getElem?_append, hlength]

/-- The digits without the hyphens. -/
theorem filter_toText (u : Uuid) :
    u.toText.toList.filter (· ≠ '-') = Digits.hexPadded 32 u.toNat := by
  obtain ⟨ds, hds⟩ : ∃ ds, ds = Digits.hexPadded 32 u.toNat := ⟨_, rfl⟩
  have hdigits : ∀ c ∈ ds, decide (c ≠ '-') = true := by
    intro c hc
    obtain ⟨d, hd, rfl⟩ := Digits.mem_hexPadded (hds ▸ hc)
    have hall : ∀ d : Fin 16, Digits.hexDigit d.val ≠ '-' := by decide
    exact decide_eq_true (hall ⟨d, hd⟩)
  have htake : ∀ m n, ((ds.drop m).take n).filter (· ≠ '-') = (ds.drop m).take n :=
    fun m n => List.filter_eq_self.mpr fun c hc =>
      hdigits c (List.mem_of_mem_drop (List.mem_of_mem_take hc))
  have hfirst : (ds.take 8).filter (· ≠ '-') = ds.take 8 :=
    List.filter_eq_self.mpr fun c hc => hdigits c (List.mem_of_mem_take hc)
  have hlast : (ds.drop 20).filter (· ≠ '-') = ds.drop 20 :=
    List.filter_eq_self.mpr fun c hc => hdigits c (List.mem_of_mem_drop hc)
  have hhyphen : ∀ cs : List Char, ('-' :: cs).filter (· ≠ '-') = cs.filter (· ≠ '-') :=
    fun cs => List.filter_cons_of_neg (by decide)
  rw [toList_toText, ← hds]
  dsimp only
  rw [List.filter_append, List.filter_append, List.filter_append, List.filter_append, hhyphen,
    hhyphen, hhyphen, hhyphen, htake, htake, htake, hfirst, hlast]
  calc ds.take 8 ++ (ds.drop 8).take 4 ++ (ds.drop 12).take 4 ++ (ds.drop 16).take 4 ++ ds.drop 20
      = ds.take 20 ++ ds.drop 20 := by
        rw [← List.take_add, ← List.take_add, ← List.take_add]
    _ = ds := List.take_append_drop 20 ds

theorem readDigits_hexPadded (u : Uuid) : readDigits (Digits.hexPadded 32 u.toNat) = some u := by
  have hhex : (Digits.hexPadded 32 u.toNat).all (fun c => (Digits.hexValue c).isSome) = true := by
    rw [List.all_eq_true]
    intro c hc
    obtain ⟨d, hd, rfl⟩ := Digits.mem_hexPadded hc
    rw [Digits.hexValue_hexDigit hd]
    rfl
  have hnumber : Digits.hexNumber (Digits.hexPadded 32 u.toNat) = u.toNat := by
    rw [Digits.hexNumber_hexPadded]
    exact Nat.mod_eq_of_lt u.value.isLt
  rw [readDigits, if_pos ⟨Digits.length_hexPadded 32 u.toNat, hhex⟩, hnumber, ofNat, toNat,
    BitVec.ofNat_toNat, BitVec.setWidth_eq]

/-- An identifier is read back from its written form. -/
theorem parse_toText (u : Uuid) : parse u.toText = some u := by
  have hgroups : parse u.toText = readGroups u.toText.toList := by
    rw [parse, length_toText]
    rfl
  rw [hgroups, readGroups, if_pos (isGrouped_toText u), filter_toText, readDigits_hexPadded]

theorem toText_injective {u v : Uuid} (h : u.toText = v.toText) : u = v := by
  have hparse : parse u.toText = parse v.toText := congrArg parse h
  rw [parse_toText, parse_toText] at hparse
  exact Option.some.inj hparse

end AuditTrail.Uuid
