import FragmentFeed.Http.Target
import FragmentFeed.Proofs.Url.UserInfo

/-!
# Request targets and user information

A URL that can be written as a request URI can be so without its user name and password
(`isUri_withoutUserInfo`).
-/

namespace FragmentFeed.Http

open Text

variable {a : Authority} {u : Url}

/-! ## Authorities -/

/-- What stands before an `@` is forgotten behind it, if there are no brackets in it. -/
theorem authorityFrom_of_append {text rest : List Char} {colons : Nat} {percent bare : Bool}
    (htext : ∀ c ∈ text, c ≠ '[' ∧ c ≠ ']')
    (h : authorityFrom ⟨colons, percent, false, false, bare⟩ (text ++ '@' :: rest) = true) :
    authorityFrom ⟨0, false, false, false, true⟩ rest = true := by
  induction text generalizing colons percent bare with
  | nil => simpa [authorityFrom] using h
  | cons c text ih =>
    have hc := htext c (by simp)
    have hmore : ∀ d ∈ text, d ≠ '[' ∧ d ≠ ']' := fun d hd => htext d (by simp [hd])
    rw [List.cons_append, authorityFrom] at h
    split at h
    · exact ih hmore h
    · rw [if_neg hc.1, if_neg hc.2] at h
      split at h
      · exact ih hmore h
      · split at h
        · exact ih hmore h
        · exact ih hmore (Bool.and_eq_true_iff.mp h).2

/-- Whether an `@` was the last character counts only at the end. -/
theorem authorityFrom_cons_of_bare {c : Char} {rest : List Char}
    (h : authorityFrom ⟨0, false, false, false, true⟩ (c :: rest) = true) :
    authorityFrom ⟨0, false, false, false, false⟩ (c :: rest) = true := by
  simpa only [authorityFrom] using h

/-- An authority stays one without its user information. -/
theorem isAuthority_of_append {text rest : List Char} (htext : ∀ c ∈ text, c ≠ '[' ∧ c ≠ ']')
    (h : isAuthority (text ++ '@' :: rest) = true) : isAuthority rest = true := by
  have hrest := authorityFrom_of_append htext (Bool.and_eq_true_iff.mp h).2
  cases rest with
  | nil => simp [authorityFrom] at hrest
  | cons c rest => exact authorityFrom_cons_of_bare hrest

theorem exists_of_userInfo_ne_nil (h : a.userInfo ≠ []) : ∃ text, a.userInfo = text ++ ['@'] := by
  unfold Authority.userInfo at h ⊢
  split
  · rename_i hp
    rw [hp] at h
    dsimp only at h
    split at h
    · exact absurd rfl h
    · rename_i hempty
      rw [if_neg hempty]
      exact ⟨_, rfl⟩
  · rename_i p hp
    exact ⟨a.username ++ ':' :: p, rfl⟩

theorem isAuthority_withoutUserInfo (hplain : Url.PlainUserInfo a)
    (h : isAuthority a.toText = true) : isAuthority (a.hostText ++ a.portText) = true := by
  unfold Authority.toText at h
  by_cases hempty : a.userInfo = []
  · rw [hempty] at h
    exact h
  · obtain ⟨text, htext⟩ := exists_of_userInfo_ne_nil hempty
    rw [htext, List.append_assoc, List.append_assoc] at h
    have hbefore : ∀ c ∈ text, c ≠ '[' ∧ c ≠ ']' := by
      intro c hc
      refine hplain c ?_
      rw [htext]
      exact List.mem_append_left _ hc
    exact isAuthority_of_append hbefore h

/-! ## URLs -/

theorem withoutUserInfo_of_none (ha : u.authority = none) : u.withoutUserInfo = u := by
  obtain ⟨scheme, authority, path, query, fragment⟩ := u
  cases ha
  rfl

/-- **A URL that can be written as a request URI can be so without its user information.** -/
theorem isUri_withoutUserInfo (hplain : u.HasPlainUserInfo) (h : isUri u = true) :
    isUri u.withoutUserInfo = true := by
  cases ha : u.authority with
  | none =>
    rw [withoutUserInfo_of_none ha]
    exact h
  | some a =>
    have hwithout : u.withoutUserInfo.authority
        = some { a with username := [], password := none } := by
      unfold Url.withoutUserInfo
      rw [ha]
      rfl
    unfold isUri at h ⊢
    rw [ha] at h
    rw [hwithout]
    obtain ⟨hlength, hauthority⟩ := Bool.and_eq_true_iff.mp h
    have hrest : isAuthority (a.hostText ++ a.portText) = true :=
      isAuthority_withoutUserInfo (hplain a ha) hauthority
    refine Bool.and_eq_true_iff.mpr ⟨?_, hrest⟩
    have hle : u.withoutUserInfo.toText.length ≤ u.toText.length := by
      rw [Url.toText_withoutUserInfo_of_some ha, Url.toText_of_some ha, Authority.toText]
      simp only [List.length_append, List.length_cons]
      omega
    have hbound : u.toText.length ≤ longestUrl := of_decide_eq_true hlength
    exact decide_eq_true (Nat.le_trans hle hbound)

end FragmentFeed.Http
