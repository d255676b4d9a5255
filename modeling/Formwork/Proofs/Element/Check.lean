/-
  Formwork.Proofs.Element.Check: what the defects of an element are.

  A defect has the code of the condition that it was reported for. A report that is put together of
  others is valid when all of them are.
-/

import Formwork.Element.Check

namespace Formwork

variable {d : Defect}

theorem Defect.mem_when {bad : Bool} {field message code : String} :
    d ∈ Defect.when bad field message code ↔ bad = true ∧ d = ⟨field, message, code⟩ := by
  cases bad <;> simp [Defect.when]

theorem Defect.code_of_mem_when {bad : Bool} {field message code : String}
    (h : d ∈ Defect.when bad field message code) : d.code = code := by
  rw [(Defect.mem_when.mp h).2]

theorem Defect.when_eq_nil {bad : Bool} {field message code : String} :
    Defect.when bad field message code = [] ↔ bad = false := by
  cases bad <;> simp [Defect.when]

namespace Report

@[simp] theorem defects_append (a b : Report) : (a ++ b).defects = a.defects ++ b.defects := rfl

theorem isValid_iff {r : Report} : r.isValid = true ↔ r.defects = [] := List.isEmpty_iff

theorem isValid_append {a b : Report} : (a ++ b).isValid = true ↔ a.isValid = true ∧ b.isValid = true := by
  simp only [isValid_iff, defects_append, List.append_eq_nil_iff]

theorem isValid_merge {reports : List Report} : (merge reports).isValid = true ↔ ∀ r ∈ reports, r.isValid = true := by
  induction reports with
  | nil => simp [merge, isValid]
  | cons r reports ih =>
    have hmerge : merge (r :: reports) = r ++ merge reports := rfl
    rw [hmerge, isValid_append, ih, List.forall_mem_cons]

end Report

namespace Element

def codes : List String :=
  ["MISSING_ID", "MISSING_TITLE", "MISSING_WEBSITE_ID", "LEAD_CAPTURE_NO_FIELDS", "MISSING_REDIRECT_URL",
    "MISSING_DOWNLOAD_URL"]

theorem mem_codes_of_identity {e : Element} (h : d ∈ e.checkIdentity.defects) : d.code ∈ codes := by
  simp only [checkIdentity, List.mem_append] at h
  rcases h with (h | h) | h <;> rw [Defect.code_of_mem_when h] <;> decide

theorem mem_codes_of_leadCapture {l : LeadCapture} (h : d ∈ l.check.defects) : d.code ∈ codes := by
  rw [Defect.code_of_mem_when h]
  decide

theorem mem_codes_of_followUp {f : FollowUp} (h : d ∈ f.check.defects) : d.code ∈ codes := by
  simp only [FollowUp.check, List.mem_append] at h
  rcases h with h | h <;> rw [Defect.code_of_mem_when h] <;> decide

theorem mem_codes {e : Element} (h : d ∈ e.check.defects) : d.code ∈ codes := by
  simp only [check, Report.defects_append, List.mem_append] at h
  rcases h with (h | h) | h
  · exact mem_codes_of_identity h
  · cases hl : e.activeLeadCapture with
    | none => simp [hl] at h
    | some l => rw [hl] at h; exact mem_codes_of_leadCapture h
  · cases hf : e.followUp with
    | none => simp [hf] at h
    | some f => rw [hf] at h; exact mem_codes_of_followUp h

end Element

end Formwork
