/-
  Formwork.Proofs.Element.Contact: which entries pass for mail addresses.

  The pattern for mail addresses takes a text apart in three runs of characters that are neither blank nor
  an `@`, and tries every place for the point between the last two. All of it comes to a simple form of the
  text (`IsAddress`), but for the end: the pattern may stop in front of a line feed that ends the text.

  - `isEmail_iff`: the entries that match.
  - `checkContact_email_iff`: the defect of a field for mail addresses, in its own check and in the report.
-/

import Formwork.Element.Contact
import Formwork.Proofs.Bind
import Formwork.Proofs.Element.Check
import Formwork.Proofs.Pattern.Matching

namespace Formwork

namespace Contact

open Pattern

variable {cs user a b : List Char} {c : Char}

/-! ## The patterns -/

theorem read_emailPattern : Pattern.read "^[^\\s@]+@[^\\s@]+\\.[^\\s@]+$" = .ok emailPattern := rfl

theorem read_phonePattern : Pattern.read "^[\\d\\s\\-+()]\x7b7,20\x7d$" = .ok phonePattern := rfl

/-! ## Addresses -/

/-- No blanks and one `@`, with something before it and a part behind it that has a point within. -/
structure IsAddress (cs : List Char) : Prop where
  unspaced : ∀ c ∈ cs, Text.isBlank c = false
  single : cs.count '@' = 1
  parts : ∃ user domain, cs = user ++ '@' :: domain ∧ user ≠ [] ∧
    ∃ i, 0 < i ∧ i + 1 < domain.length ∧ domain[i]? = some '.'

theorem has_addressChar : addressChar.has c = true ↔ Text.isBlank c = false ∧ c ≠ '@' := by
  have hset : addressChar = ⟨true, [.ofClass .blank false false, .single 64], .exact⟩ := rfl
  have hat : 64 = c.toNat ↔ c = '@' := by rw [eq_comm, ← Char.toNat_inj]; rfl
  rw [hset]
  simp [CharSet.has, SetItem.covers, CharClass.has, Folding.lower, Folding.variants, planeEnd, hat]

theorem has_single {d : Char} : (CharSet.of .exact false [.single d.toNat]).has c = true ↔ c = d := by
  have hset : CharSet.of .exact false [.single d.toNat] = ⟨false, [.single d.toNat], .exact⟩ := rfl
  rw [hset, ← Char.toNat_inj]
  simp [CharSet.has, Folding.lower, Folding.variants, eq_comm]

/-- An address in its three parts. -/
theorem isAddress_iff : IsAddress cs ↔ ∃ user a b, cs = user ++ '@' :: (a ++ '.' :: b) ∧ user ≠ [] ∧ a ≠ [] ∧ b ≠ [] ∧
    (∀ c ∈ user, addressChar.has c = true) ∧ (∀ c ∈ a, addressChar.has c = true) ∧
      ∀ c ∈ b, addressChar.has c = true := by
  constructor
  · rintro ⟨hunspaced, hsingle, user, domain, rfl, huser, i, hpos, hlt, hpoint⟩
    obtain ⟨a, b, rfl, rfl⟩ : ∃ a b, domain = a ++ '.' :: b ∧ i = a.length := by
      obtain ⟨hi, hget⟩ := List.getElem?_eq_some_iff.mp hpoint
      refine ⟨domain.take i, domain.drop (i + 1), ?_, by simp; omega⟩
      rw [← hget, List.getElem_cons_drop hi, List.take_append_drop]
    have hcount : user.count '@' = 0 ∧ a.count '@' = 0 ∧ b.count '@' = 0 := by
      simp only [List.count_append, List.count_cons_self, List.count_cons_of_ne (show '.' ≠ '@' by decide)] at hsingle
      omega
    simp only [List.count_eq_zero] at hcount
    have hhas : ∀ part : List Char, '@' ∉ part → (∀ c ∈ part, c ∈ user ++ '@' :: (a ++ '.' :: b)) →
        ∀ c ∈ part, addressChar.has c = true := by
      intro part hpart hmem c hc
      exact has_addressChar.mpr ⟨hunspaced c (hmem c hc), fun heq => hpart (heq ▸ hc)⟩
    refine ⟨user, a, b, rfl, huser, List.ne_nil_of_length_pos hpos, ?_, hhas user hcount.1 ?_, hhas a hcount.2.1 ?_,
      hhas b hcount.2.2 ?_⟩
    · rintro rfl
      simp at hlt
    · exact fun c hc => by simp [hc]
    · exact fun c hc => by simp [hc]
    · exact fun c hc => by simp [hc]
  · rintro ⟨user, a, b, rfl, huser, ha, hb, huserset, haset, hbset⟩
    have hcount : ∀ {part : List Char}, (∀ c ∈ part, addressChar.has c = true) → part.count '@' = 0 := fun hset =>
      List.count_eq_zero.mpr fun hmem => (has_addressChar.mp (hset _ hmem)).2 rfl
    refine ⟨?_, ?_, user, a ++ '.' :: b, rfl, huser, a.length, List.length_pos_iff.mpr ha, ?_, by simp⟩
    · intro c hc
      simp only [List.mem_append, List.mem_cons] at hc
      rcases hc with hc | rfl | hc | rfl | hc
      · exact (has_addressChar.mp (huserset c hc)).1
      · decide
      · exact (has_addressChar.mp (haset c hc)).1
      · decide
      · exact (has_addressChar.mp (hbset c hc)).1
    · simp [List.count_append, hcount huserset, hcount haset, hcount hbset]
    · have := List.length_pos_iff.mpr hb
      simp only [List.length_append, List.length_cons]
      omega

/-! ## Matching -/

/-- A text passes when it is an address, or an address and a line feed. -/
theorem isEmail_iff {s : String} : isEmail s = true ↔
    IsAddress s.toList ∨ ∃ cs, s.toList = cs ++ ['\n'] ∧ IsAddress cs := by
  have hreads := startsIn_iff (s := s) <|
    reads_repeated addressChar 1 none (by simp) <| reads_one (.of .exact false [.single '@'.toNat]) <|
      reads_repeated addressChar 1 none (by simp) <| reads_one (.of .exact false [.single '.'.toNat]) <|
        reads_repeated addressChar 1 none (by simp) reads_lineEnd
  refine hreads.trans ?_
  simp only [has_single, isAddress_iff]
  constructor
  · rintro ⟨user, _, hsplit, ⟨huser, -⟩, huserset, _, _, rfl, rfl, a, _, rfl, ⟨ha, -⟩, haset, _, _, rfl, rfl, b, rest,
      rfl, ⟨hb, -⟩, hbset, hend⟩
    have huser := List.ne_nil_of_length_pos huser
    have ha := List.ne_nil_of_length_pos ha
    have hb := List.ne_nil_of_length_pos hb
    rcases hend with rfl | rfl
    · exact Or.inl ⟨user, a, b, by rw [hsplit, List.append_nil], huser, ha, hb, huserset, haset, hbset⟩
    · exact Or.inr ⟨user ++ '@' :: (a ++ '.' :: b), by simp [hsplit], user, a, b, rfl, huser, ha, hb, huserset, haset,
        hbset⟩
  · intro h
    obtain ⟨user, a, b, rest, hsplit, hend, huser, ha, hb, huserset, haset, hbset⟩ : ∃ user a b rest,
        s.toList = user ++ '@' :: (a ++ '.' :: (b ++ rest)) ∧ (rest = [] ∨ rest = ['\n']) ∧
          user ≠ [] ∧ a ≠ [] ∧ b ≠ [] ∧ (∀ c ∈ user, addressChar.has c = true) ∧
            (∀ c ∈ a, addressChar.has c = true) ∧ ∀ c ∈ b, addressChar.has c = true := by
      rcases h with ⟨user, a, b, hsplit, hparts⟩ | ⟨cs, hcs, user, a, b, rfl, hparts⟩
      · exact ⟨user, a, b, [], by rw [hsplit, List.append_nil], Or.inl rfl, hparts⟩
      · exact ⟨user, a, b, ['\n'], by rw [hcs]; simp, Or.inr rfl, hparts⟩
    exact ⟨user, _, hsplit, ⟨List.length_pos_iff.mpr huser, by simp⟩, huserset, _, _, rfl, rfl, a, _, rfl,
      ⟨List.length_pos_iff.mpr ha, by simp⟩, haset, _, _, rfl, rfl, b, rest, rfl,
      ⟨List.length_pos_iff.mpr hb, by simp⟩, hbset, hend⟩

/-- A text passes when it is from 7 to 20 characters of a phone number, with or without a line feed behind them. -/
theorem isPhone_iff {s : String} : isPhone s = true ↔ ∃ cs rest, s.toList = cs ++ rest ∧
    (7 ≤ cs.length ∧ cs.length ≤ 20) ∧ (∀ c ∈ cs, phoneChar.has c = true) ∧ (rest = [] ∨ rest = ['\n']) := by
  have hreads := startsIn_iff (s := s) <| reads_repeated phoneChar 7 (some 20) (by simp) reads_lineEnd
  refine hreads.trans ?_
  simp only [Option.some.injEq, forall_eq']

end Contact

/-! ## The defect -/

variable {e : Element} {l : LeadCapture} {f : LeadField} {entries : Entries Value} {s : String}

def Report.RefusesEmail (r : Report) (id : String) : Prop := ∃ d ∈ r.defects, d.field = id ∧ d.code = "INVALID_EMAIL"

namespace LeadField

/-- The pattern of a field, if it has one, can be read or is passed over. -/
def Readable (f : LeadField) : Prop :=
  ∀ p err, f.validation.filter (· != "") = some p → Pattern.read p = .error err → err = .malformed

def invalidEmail (f : LeadField) : Defect := ⟨f.id, "Please enter a valid email address", "INVALID_EMAIL"⟩

/-- A field for mail addresses without a pattern of its own looks at the form of the address only. -/
theorem checkEntry_of_email (htype : f.type = .email) (hplain : f.validation.filter (· != "") = none)
    (hs : Text.isBlankText s = false) :
    f.checkEntry s = .ok (if Contact.isEmail s then [] else [f.invalidEmail]) := by
  have hempty : (s == "") = false := by
    rw [beq_eq_false_iff_ne]
    rintro rfl
    cases hs
  have hpattern : f.checkPattern s = .ok [] := by rw [checkPattern, hplain]; rfl
  have hphone : (f.type == .phone) = false := by rw [htype]; rfl
  rw [checkEntry, hs, Bool.and_false, if_neg Bool.false_ne_true, hempty, if_neg Bool.false_ne_true, hpattern, hphone,
    htype]
  cases Contact.isEmail s <;> rfl

theorem exists_checkEntry (h : f.Readable) : ∃ defects, f.checkEntry s = .ok defects := by
  have hpattern : ∃ defects, f.checkPattern s = .ok defects := by
    rw [checkPattern]
    cases hp : f.validation.filter (· != "") with
    | none => exact ⟨_, rfl⟩
    | some p =>
      cases hread : Pattern.read p with
      | ok pattern => exact ⟨_, by rw [Option.map_some, hread]⟩
      | error err =>
        obtain rfl := h p err hp hread
        exact ⟨_, by rw [Option.map_some, hread]; rfl⟩
  rw [checkEntry]
  split
  · exact ⟨_, rfl⟩
  · split
    · exact ⟨_, rfl⟩
    · exact exists_map_eq_ok.mpr hpattern

theorem code_of_mem_checkPattern {defects : List Defect} {d : Defect} (h : f.checkPattern s = .ok defects)
    (hd : d ∈ defects) : d.code = "INVALID_FORMAT" := by
  rw [checkPattern] at h
  split at h
  · cases h
    exact Defect.code_of_mem_when hd
  · split at h
    · cases h
      cases hd
    · cases h
  · cases h
    cases hd

/-- A field of any kind refuses an entry as a mail address only when it is none. -/
theorem isEmail_eq_false_of_mem {defects : List Defect} {d : Defect} (h : f.checkEntry s = .ok defects)
    (hd : d ∈ defects) (hcode : d.code = "INVALID_EMAIL") : d.field = f.id ∧ Contact.isEmail s = false := by
  rw [checkEntry] at h
  split at h
  · cases h
    rw [List.mem_singleton.mp hd] at hcode
    exact absurd hcode (by simp)
  split at h
  · cases h
    cases hd
  obtain ⟨own, hown, rfl⟩ := map_eq_ok.mp h
  simp only [List.mem_append] at hd
  rcases hd with (hd | hd) | hd
  · obtain ⟨hbad, rfl⟩ := Defect.mem_when.mp hd
    rw [Bool.and_eq_true, Bool.not_eq_true'] at hbad
    exact ⟨rfl, hbad.2⟩
  · rw [Defect.code_of_mem_when hd] at hcode
    exact absurd hcode (by decide)
  · rw [code_of_mem_checkPattern hown hd] at hcode
    exact absurd hcode (by decide)

/-- An entry has to be a text before it is checked as one. -/
theorem checkEntryIn_eq_ok {defects : List Defect} : f.checkEntryIn entries = .ok defects ↔
    ∃ s, entryText entries f.id = .ok s ∧ f.checkEntry s = .ok defects := by
  simp only [checkEntryIn, bind_eq_ok, mapError_eq_ok]

end LeadField

theorem entryText_of_text {id : String} (h : entries.get? id = some (.text s)) : entryText entries id = .ok s := by
  rw [entryText, h]
  rfl

namespace Element

open Contact (IsAddress)

theorem checkContact_of_active (hl : e.activeLeadCapture = some l) : e.checkContact entries =
    (l.fields.mapM (LeadField.checkEntryIn entries)).map fun defects => ⟨defects.flatten, []⟩ := by
  rw [checkContact, hl]

theorem exists_checkContact (hl : e.activeLeadCapture = some l)
    (h : ∀ g ∈ l.fields, g.Readable ∧ ∃ s, entryText entries g.id = .ok s) :
    ∃ report, e.checkContact entries = .ok report := by
  rw [checkContact_of_active hl, exists_map_eq_ok, exists_mapM_eq_ok]
  intro g hg
  obtain ⟨hreadable, s, hs⟩ := h g hg
  obtain ⟨defects, hdefects⟩ := LeadField.exists_checkEntry (s := s) hreadable
  exact ⟨defects, LeadField.checkEntryIn_eq_ok.mpr ⟨s, hs, hdefects⟩⟩

/-- The defects of the form are those of its fields. -/
theorem mem_defects_iff {report : Report} {d : Defect} (hl : e.activeLeadCapture = some l)
    (h : e.checkContact entries = .ok report) : d ∈ report.defects ↔
      ∃ f ∈ l.fields, ∃ s defects, entryText entries f.id = .ok s ∧ f.checkEntry s = .ok defects ∧ d ∈ defects := by
  rw [checkContact_of_active hl] at h
  obtain ⟨all, hall, rfl⟩ := map_eq_ok.mp h
  rw [List.mem_flatten]
  constructor
  · rintro ⟨defects, hmem, hd⟩
    obtain ⟨f, hf, hcheck⟩ := exists_of_mem_mapM hall defects hmem
    obtain ⟨s, hs, hcheck⟩ := LeadField.checkEntryIn_eq_ok.mp hcheck
    exact ⟨f, hf, s, defects, hs, hcheck, hd⟩
  · rintro ⟨f, hf, s, defects, hs, hcheck, hd⟩
    obtain ⟨defects', hmem, hcheck'⟩ := exists_mem_of_mapM hall f hf
    rw [LeadField.checkEntryIn_eq_ok.mpr ⟨s, hs, hcheck⟩] at hcheck'
    cases hcheck'
    exact ⟨defects, hmem, hd⟩

/-- A field for mail addresses without a pattern of its own refuses an entry that is not blank unless it is an
address, or an address and a line feed. So the refusal tells addresses from all other entries exactly when the
entry is not of the second kind. -/
theorem checkContact_email_iff (hl : e.activeLeadCapture = some l) (hf : f ∈ l.fields) (htype : f.type = .email)
    (hplain : f.validation.filter (· != "") = none) (hentry : entryText entries f.id = .ok s)
    (hs : Text.isBlankText s = false) :
    (∀ report, e.checkContact entries = .ok report →
      (report.RefusesEmail f.id ↔ ¬ (IsAddress s.toList ∨ ∃ cs, s.toList = cs ++ ['\n'] ∧ IsAddress cs)) ∧
        (report.RefusesEmail f.id ↔ f.invalidEmail ∈ report.defects) ∧
        ((¬ report.RefusesEmail f.id ↔ IsAddress s.toList) ↔ ¬ ∃ cs, s.toList = cs ++ ['\n'] ∧ IsAddress cs)) ∧
      ((∀ g ∈ l.fields, g.Readable ∧ ∃ t, entryText entries g.id = .ok t) →
        ∃ report, e.checkContact entries = .ok report) := by
  refine ⟨fun report hreport => ?_, exists_checkContact hl⟩
  have hown : Contact.isEmail s = false → f.invalidEmail ∈ report.defects := by
    intro hno
    have hcheck := f.checkEntry_of_email htype hplain hs
    rw [hno, if_neg Bool.false_ne_true] at hcheck
    exact (mem_defects_iff hl hreport).mpr ⟨f, hf, s, _, hentry, hcheck, List.mem_singleton_self _⟩
  have hrefuses : report.RefusesEmail f.id ↔ Contact.isEmail s = false := by
    constructor
    · rintro ⟨d, hd, hfield, hcode⟩
      obtain ⟨g, -, t, defects, ht, hcheck, hmem⟩ := (mem_defects_iff hl hreport).mp hd
      obtain ⟨hid, hno⟩ := LeadField.isEmail_eq_false_of_mem hcheck hmem hcode
      rw [← hid, hfield, hentry] at ht
      rwa [Except.ok.inj ht]
    · exact fun hno => ⟨_, hown hno, rfl, rfl⟩
  have hiff := Contact.isEmail_iff (s := s)
  have hunended : IsAddress s.toList → ¬ ∃ cs, s.toList = cs ++ ['\n'] ∧ IsAddress cs := by
    rintro h ⟨cs, hcs, -⟩
    exact absurd (h.unspaced '\n' (by rw [hcs]; simp)) (by decide)
  refine ⟨?_, ⟨fun h => hown (hrefuses.mp h), fun h => ⟨_, h, rfl, rfl⟩⟩, ?_⟩
  · rw [hrefuses, ← hiff, Bool.not_eq_true]
  · rw [hrefuses, Bool.not_eq_false, hiff]
    exact ⟨fun h hline => hunended (h.mp (Or.inr hline)) hline, or_iff_left⟩

def mailForm : Element :=
  { id := "tips", title := "Tips", websiteId := "w",
    leadCapture := some { enabled := true, fields := [{ id := "mail", type := .email, label := "Mail" }] } }

theorem mailForm_passes_address : ∃ report,
    mailForm.checkContact [("mail", .text "ada@mail.example")] = .ok report ∧ ¬ report.RefusesEmail "mail" := by
  have hentry : entryText [("mail", .text "ada@mail.example")] "mail" = .ok "ada@mail.example" :=
    entryText_of_text rfl
  obtain ⟨hreports, hexists⟩ := checkContact_email_iff (e := mailForm) rfl (List.mem_singleton_self _) rfl rfl hentry
    (by decide)
  have hreadable : ∀ g ∈ [({ id := "mail", type := .email, label := "Mail" } : LeadField)], g.Readable ∧
      ∃ t, entryText [("mail", .text "ada@mail.example")] g.id = .ok t := by
    intro g hg
    obtain rfl := List.mem_singleton.mp hg
    refine ⟨fun p err hp => ?_, _, hentry⟩
    cases hp
  have hunspaced : "ada@mail.example".toList.all (fun c => Text.isBlank c == false) = true := by decide
  obtain ⟨report, hreport⟩ := hexists hreadable
  refine ⟨report, hreport, fun hrefuses => (hreports report hreport).1.mp hrefuses (Or.inl ?_)⟩
  exact ⟨fun c hc => beq_iff_eq.mp (List.all_eq_true.mp hunspaced c hc), by decide, "ada".toList,
    "mail.example".toList, by decide, by decide, 4, by decide⟩

/-- An address and a line feed pass too, although a line feed is blank. -/
theorem mailForm_passes_line :
    mailForm.checkContact [("mail", .text "a@b.co\n")] = .ok {} ∧ ¬ IsAddress "a@b.co\n".toList := by
  refine ⟨rfl, fun h => ?_⟩
  exact absurd (h.unspaced '\n' (by decide)) (by decide)

end Element

end Formwork
