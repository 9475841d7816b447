import TrainingJobs.Proofs.Checks

/-!
# Group versions as texts

A group and a version make one text, joined by a slash unless the group is empty, and a text is cut
again at its last slash. So a version may not hold a slash itself, and a group version that begins
with its last slash is not told from the version alone: these are the only two things that get in
the way (`faithful_encoding`).
-/

namespace TrainingJobs.GroupVersion

variable {g v s : String} {e : GroupVersion}

/-! ## The last slash of a text -/

theorem toList_slash (g v : String) :
    (g ++ "/" ++ v).toList = g.toList ++ '/' :: v.toList := by
  simp

theorem no_slash_or_eq (s : String) :
    '/' ∉ s.toList ∨ ∃ g v : String, s = g ++ "/" ++ v ∧ '/' ∉ v.toList := by
  cases hcut : Text.cutLast? '/' s.toList with
  | none => exact .inl (Text.cutLast?_eq_none_iff.1 hcut)
  | some parts =>
    obtain ⟨before, after⟩ := parts
    obtain ⟨heq, hafter⟩ := Text.eq_append_of_cutLast? hcut
    refine .inr ⟨String.ofList before, String.ofList after, ?_, ?_⟩
    · rw [← String.toList_inj, heq, toList_slash, String.toList_ofList, String.toList_ofList]
    · rwa [String.toList_ofList]

theorem lastSegment_of_no_slash (h : '/' ∉ s.toList) : lastSegment s = s := by
  unfold lastSegment
  rw [Text.cutLast?_eq_none_iff.2 h]

theorem lastSegment_slash (h : '/' ∉ v.toList) : lastSegment (g ++ "/" ++ v) = v := by
  unfold lastSegment
  rw [toList_slash, Text.cutLast?_append h]
  exact String.ofList_toList

theorem no_slash_lastSegment (s : String) : '/' ∉ (lastSegment s).toList := by
  rcases no_slash_or_eq s with h | ⟨g, v, rfl, hv⟩
  · rwa [lastSegment_of_no_slash h]
  · rwa [lastSegment_slash hv]

theorem group_of_no_slash (h : '/' ∉ e.groupVersion.toList) : e.group = "" := by
  unfold group
  rw [Text.cutLast?_eq_none_iff.2 h]

theorem group_slash (h : '/' ∉ v.toList) (w : String) : group ⟨g ++ "/" ++ v, w⟩ = g := by
  unfold group
  rw [toList_slash, Text.cutLast?_append h]
  exact String.ofList_toList

/-- A group version is the version of no group, or a group and what follows the last slash. -/
theorem groupVersion_cases (e : GroupVersion) :
    e.groupVersion = lastSegment e.groupVersion ∧ e.group = "" ∨
      e.groupVersion = e.group ++ "/" ++ lastSegment e.groupVersion := by
  obtain ⟨s, w⟩ := e
  rcases no_slash_or_eq s with h | ⟨g, v, rfl, hv⟩
  · exact .inl ⟨(lastSegment_of_no_slash h).symm, group_of_no_slash h⟩
  · right
    rw [group_slash hv, lastSegment_slash hv]

/-! ## Joining and cutting -/

def joined (group version : String) : String :=
  if group.isEmpty then version else group ++ "/" ++ version

theorem joined_empty (v : String) : joined "" v = v := rfl

theorem joined_of_ne (hg : g ≠ "") : joined g v = g ++ "/" ++ v :=
  if_neg (by rwa [String.isEmpty_iff])

/-- A version is cut off again just if it has no slash. -/
theorem lastSegment_joined_iff : lastSegment (joined g v) = v ↔ '/' ∉ v.toList := by
  constructor
  · intro h
    rw [← h]
    exact no_slash_lastSegment _
  · intro h
    by_cases hg : g = ""
    · rw [hg, joined_empty, lastSegment_of_no_slash h]
    · rw [joined_of_ne hg, lastSegment_slash h]

theorem group_joined (h : '/' ∉ v.toList) : group ⟨joined g v, v⟩ = g := by
  by_cases hg : g = ""
  · rw [hg]
    exact group_of_no_slash h
  · rw [joined_of_ne hg, group_slash h]

theorem joined_cut_iff :
    joined (group ⟨s, lastSegment s⟩) (lastSegment s) = s ↔
      ¬ ∃ v : String, s = "/" ++ v ∧ '/' ∉ v.toList := by
  rcases no_slash_or_eq s with h | ⟨g, v, rfl, hv⟩
  · rw [group_of_no_slash h, joined_empty, lastSegment_of_no_slash h]
    refine iff_of_true rfl ?_
    rintro ⟨v, rfl, -⟩
    exact h (by simp)
  rw [lastSegment_slash hv, group_slash hv]
  by_cases hg : g = ""
  · subst hg
    rw [joined_empty]
    refine iff_of_false (fun heq => hv ?_) (not_not_intro ⟨v, rfl, hv⟩)
    rw [heq, toList_slash]
    exact List.mem_append_right _ List.mem_cons_self
  · rw [joined_of_ne hg]
    refine iff_of_true rfl ?_
    rintro ⟨w, heq, hw⟩
    have hfront : g = group ⟨"" ++ "/" ++ w, v⟩ := by
      rw [String.empty_append, ← heq, group_slash hv]
    rw [group_slash hw] at hfront
    exact hg hfront

/-! ## Making entries -/

theorem make_eq_ok_iff :
    make s v = .ok e ↔ (s = "" ∨ lastSegment s = v) ∧ e = ⟨s, v⟩ := by
  have hcheck : check ⟨s, v⟩ = .ok () ↔ s = "" ∨ lastSegment s = v := check_eq_ok_iff
  unfold make
  dsimp only
  rw [← hcheck]
  cases check ⟨s, v⟩ with
  | error why => exact iff_of_false (fun h => nomatch h) fun h => nomatch h.1
  | ok u => exact ⟨fun h => ⟨rfl, (Except.ok.inj h).symm⟩, fun h => h.2 ▸ rfl⟩

theorem check_of_make (h : make s v = .ok e) : e.check = .ok () := by
  obtain ⟨hsuffix, rfl⟩ := make_eq_ok_iff.1 h
  exact check_eq_ok_iff.2 hsuffix

theorem ofParts_eq_ok_iff : ofParts g v = .ok e ↔ '/' ∉ v.toList ∧ e = ⟨joined g v, v⟩ := by
  refine make_eq_ok_iff.trans (and_congr_left fun _ => ?_)
  show joined g v = "" ∨ lastSegment (joined g v) = v ↔ _
  rw [lastSegment_joined_iff, or_iff_right_iff_imp]
  -- an empty text is the empty version of the empty group
  intro hempty
  by_cases hg : g = ""
  · rw [hg, joined_empty] at hempty
    rw [hempty]
    exact List.not_mem_nil
  · rw [joined_of_ne hg, ← String.toList_inj, toList_slash] at hempty
    exact absurd hempty (List.append_ne_nil_of_right_ne_nil _ (List.cons_ne_nil _ _))

theorem ofText_eq (s : String) : ofText s = .ok ⟨s, lastSegment s⟩ :=
  make_eq_ok_iff.2 ⟨.inr rfl, rfl⟩

/-- **Group versions are a faithful encoding.** A group and a version make an entry just if the
version has no slash; the entry then names both, passes its check and is what its text is read as.
Every text is read, as an entry that has this text and passes its check, of a version without a
slash that is all of the text or follows the group and a slash. No other version goes with a text
that is not empty. The two parts that were read make the same entry again, unless the text is a
slash and a version. -/
theorem faithful_encoding :
    (∀ g v : String,
      ((∃ e, ofParts g v = .ok e) ↔ '/' ∉ v.toList) ∧
      ∀ e, ofParts g v = .ok e →
        e.group = g ∧ e.version = v ∧ e.check = .ok () ∧ ofText e.groupVersion = .ok e) ∧
    ∀ s : String, ∃ e, ofText s = .ok e ∧ e.groupVersion = s ∧ e.check = .ok () ∧
      '/' ∉ e.version.toList ∧
      (s = e.version ∧ e.group = "" ∨ s = e.group ++ "/" ++ e.version) ∧
      (s ≠ "" → ∀ v e', make s v = .ok e' ↔ v = e.version ∧ e' = e) ∧
      (ofParts e.group e.version = .ok e ↔ ¬ ∃ v : String, s = "/" ++ v ∧ '/' ∉ v.toList) := by
  refine ⟨fun g v => ⟨⟨?_, fun h => ⟨_, ofParts_eq_ok_iff.2 ⟨h, rfl⟩⟩⟩, fun e he => ?_⟩,
    fun s => ⟨_, ofText_eq s, rfl, check_of_make (ofText_eq s), no_slash_lastSegment s, ?_, ?_, ?_⟩⟩
  · rintro ⟨e, he⟩
    exact (ofParts_eq_ok_iff.1 he).1
  · have hcheck : e.check = .ok () := check_of_make he
    obtain ⟨hv, rfl⟩ := ofParts_eq_ok_iff.1 he
    refine ⟨group_joined hv, rfl, hcheck, ?_⟩
    rw [ofText_eq]
    show Except.ok (⟨joined g v, lastSegment (joined g v)⟩ : GroupVersion) = _
    rw [lastSegment_joined_iff.2 hv]
  · exact groupVersion_cases ⟨s, lastSegment s⟩
  · intro hs v e'
    rw [make_eq_ok_iff, or_iff_right hs]
    constructor
    · rintro ⟨rfl, rfl⟩
      exact ⟨rfl, rfl⟩
    · rintro ⟨rfl, rfl⟩
      exact ⟨rfl, rfl⟩
  · rw [ofParts_eq_ok_iff, and_iff_right (no_slash_lastSegment s), mk.injEq, and_iff_left rfl,
      eq_comm]
    exact joined_cut_iff

/-- A group with slashes at both ends and the empty version, and the text that begins with its last
slash. -/
theorem faithful_encoding_slashes :
    (∃ e, ofParts "/a/" "" = .ok e ∧ e.groupVersion = "/a//" ∧ e.group = "/a/" ∧
      ofText e.groupVersion = .ok e) ∧
    (∃ e, ofText "/v1" = .ok e ∧ e.group = "" ∧ e.version = "v1" ∧
      make "/v1" "v1" = .ok e ∧ ofParts e.group e.version ≠ .ok e) := by
  obtain ⟨hparts, htexts⟩ := faithful_encoding
  have hjoined : ofParts "/a/" "" = .ok ⟨"/a//", ""⟩ := by decide
  obtain ⟨hgroup, -, -, hread⟩ := (hparts "/a/" "").2 _ hjoined
  obtain ⟨e, he, -, -, -, -, hmake, hback⟩ := htexts "/v1"
  have hentry : e = ⟨"/v1", "v1"⟩ := Except.ok.inj (he.symm.trans (by decide))
  refine ⟨⟨_, hjoined, rfl, hgroup, hread⟩, e, he, ?_, ?_, ?_, ?_⟩
  · rw [hentry]
    decide
  · rw [hentry]
  · exact (hmake (by decide) "v1" e).2 ⟨by rw [hentry], rfl⟩
  · exact fun h => hback.1 h ⟨"v1", rfl, by decide⟩

end TrainingJobs.GroupVersion
