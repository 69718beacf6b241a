import BooleanSearch.Text.Basic

/-!
This module contains the theorems on where a text is cut at a mark. A mark whose first character stands
nowhere else in it cannot begin in one text and end in the next one, so that a text without the mark
may be put in front of a text that begins with it.
-/

namespace BooleanSearch.Text

theorem dropMark?_append (mark rest : Text) : dropMark? mark (mark ++ rest) = some rest :=
  dropMark?_eq_some_iff.mpr rfl

theorem cutAt?_mark {mark : Text} (hmark : mark ≠ []) (behind : Text) :
    cutAt? mark (mark ++ behind) = some ([], behind) := by
  cases mark with
  | nil => exact absurd rfl hmark
  | cons m mark =>
    have hdrop := dropMark?_append (m :: mark) behind
    rw [List.cons_append] at hdrop ⊢
    rw [cutAt?, hdrop]

theorem cutAt?_eq_none {mark text : Text} (h : ¬ mark <:+: text) :
    cutAt? mark text = none := by
  cases hcut : cutAt? mark text with
  | none => rfl
  | some cut =>
    obtain ⟨before, behind⟩ := cut
    exact absurd ⟨before, behind, (eq_append_of_cutAt? hcut).symm⟩ h

theorem not_infix_of_cutAt?_eq_none {mark text : Text} (h : cutAt? mark text = none) :
    ¬ mark <:+: text := by
  induction text with
  | nil =>
    rw [List.infix_nil]
    rintro rfl
    cases h
  | cons c text ih =>
    unfold cutAt? at h
    split at h
    next => cases h
    next hdrop =>
      split at h
      next => cases h
      next hcut =>
        rw [List.infix_cons_iff, not_or]
        refine ⟨?_, ih hcut⟩
        rintro ⟨rest, hrest⟩
        rw [← hrest, dropMark?_append] at hdrop
        cases hdrop

theorem not_infix_of_cutAt? {mark text before behind : Text} (hmark : mark ≠ [])
    (h : cutAt? mark text = some (before, behind)) : ¬ mark <:+: before := by
  have hempty : ¬ mark <:+: [] := fun hinfix => hmark (List.infix_nil.mp hinfix)
  induction text generalizing before with
  | nil =>
    unfold cutAt? at h
    split at h
    next =>
      cases h
      exact hempty
    next => cases h
  | cons c text ih =>
    have htext := eq_append_of_cutAt? h
    unfold cutAt? at h
    split at h
    next =>
      cases h
      exact hempty
    next hdrop =>
      split at h
      next front _ hcut =>
        cases h
        rw [List.infix_cons_iff, not_or]
        refine ⟨?_, ih hcut⟩
        rintro ⟨rest, hrest⟩
        have hfront := dropMark?_append mark (rest ++ (mark ++ behind))
        rw [← List.append_assoc, hrest, ← List.append_assoc, ← htext, hdrop] at hfront
        cases hfront
      next => cases h

theorem dropMark?_append_eq_none {mark text : Text} (h : dropMark? mark text = none) {rest : Text}
    (hrest : ∀ begun left, mark = text ++ begun → rest = begun ++ left → begun = []) :
    dropMark? mark (text ++ rest) = none := by
  cases hdrop : dropMark? mark (text ++ rest) with
  | none => rfl
  | some behind =>
    exfalso
    rw [dropMark?_eq_some_iff, List.append_eq_append_iff] at hdrop
    have hwithin (tail : Text) (htext : text = mark ++ tail) : False := by
      rw [dropMark?_eq_some_iff.mpr htext] at h
      cases h
    rcases hdrop with ⟨begun, hmark, hbegun⟩ | ⟨tail, htext, -⟩
    · obtain rfl := hrest begun behind hmark hbegun
      exact hwithin [] (by simpa using hmark.symm)
    · exact hwithin tail htext

theorem cutAt?_append_of_some {mark text before behind : Text}
    (h : cutAt? mark text = some (before, behind)) (rest : Text) :
    cutAt? mark (text ++ rest) = some (before, behind ++ rest) := by
  induction text generalizing before with
  | nil =>
    cases mark with
    | nil =>
      cases h
      cases rest <;> rfl
    | cons m mark => cases h
  | cons c text ih =>
    rw [cutAt?] at h
    cases hdrop : dropMark? mark (c :: text) with
    | some dropped =>
      rw [hdrop] at h
      cases h
      have hdrop' : dropMark? mark (c :: text ++ rest) = some (behind ++ rest) := by
        rw [dropMark?_eq_some_iff] at hdrop ⊢
        rw [hdrop, List.append_assoc]
      rw [List.cons_append] at hdrop' ⊢
      rw [cutAt?, hdrop']
    | none =>
      rw [hdrop] at h
      cases hcut : cutAt? mark text with
      | none => simp [hcut] at h
      | some cut =>
        obtain ⟨front, back⟩ := cut
        simp only [hcut, Option.some.injEq, Prod.mk.injEq] at h
        obtain ⟨rfl, rfl⟩ := h
        -- The text is at least as long as the mark, which is found in it.
        have hlength := congrArg List.length (eq_append_of_cutAt? hcut)
        have hdrop' : dropMark? mark (c :: text ++ rest) = none := by
          apply dropMark?_append_eq_none hdrop
          intro begun left hmark _
          have hmark := congrArg List.length hmark
          simp only [List.length_append, List.length_cons] at hlength hmark
          omega
        rw [List.cons_append] at hdrop' ⊢
        rw [cutAt?, hdrop', ih hcut]

theorem cutAt?_append_of_none {m : Char} {mark : Text} (hm : m ∉ mark) {text rest : Text}
    (h : cutAt? (m :: mark) text = none) (hrest : ∀ c ∈ rest.head?, c = m) :
    cutAt? (m :: mark) (text ++ rest) =
      (cutAt? (m :: mark) rest).map fun cut => (text ++ cut.1, cut.2) := by
  induction text with
  | nil => simp
  | cons c text ih =>
    rw [cutAt?] at h
    cases hdrop : dropMark? (m :: mark) (c :: text) with
    | some dropped => simp [hdrop] at h
    | none =>
      rw [hdrop] at h
      cases hcut : cutAt? (m :: mark) text with
      | some cut => simp [hcut] at h
      | none =>
        have hdrop' : dropMark? (m :: mark) (c :: text ++ rest) = none := by
          apply dropMark?_append_eq_none hdrop
          intro begun left hmark hbegun
          cases begun with
          | nil => rfl
          | cons d begun =>
            rw [List.cons_append, List.cons.injEq] at hmark
            have hd : d = m := hrest d (by simp [hbegun])
            exact absurd (by simp [hmark.2, hd]) hm
        rw [List.cons_append] at hdrop' ⊢
        rw [cutAt?, hdrop', ih hcut]
        cases cutAt? (m :: mark) rest <;> rfl

theorem cutAt?_before_mark {m : Char} {mark : Text} (hm : m ∉ mark) {text : Text}
    (h : ¬ (m :: mark) <:+: text) (behind : Text) :
    cutAt? (m :: mark) (text ++ (m :: mark ++ behind)) = some (text, behind) := by
  have hmark := cutAt?_mark (List.cons_ne_nil m mark) behind
  rw [cutAt?_append_of_none hm (cutAt?_eq_none h) (by simp), hmark]
  simp

end BooleanSearch.Text
