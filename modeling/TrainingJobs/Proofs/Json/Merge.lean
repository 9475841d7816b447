import TrainingJobs.Json.Merge
import TrainingJobs.Proofs.Dict

/-!
# Reading what a merge patch leaves

A patch whose members have different names treats each name by itself (`lastOf_mergeMembers`). So a
record that can be read can still be read afterwards, field by field (`strictFields?_merge`), and a
dictionary keeps the entries that the patch does not name (`dict?_merge`): it is the patch that
decides what is replaced, never what is missing from it.
-/

namespace TrainingJobs.Json

open Document

variable {α : Type} {known : List String} {l l' p : List (String × Json)} {k name : String}
  {t v : Json}

/-! ## Members by their name -/

theorem fieldIn_append (l l' : List (String × Json)) (k : String) :
    fieldIn (l ++ l') k = (fieldIn l k).or (fieldIn l' k) := by
  simp only [fieldIn, List.find?_append]
  cases l.find? fun m => m.1 == k <;> rfl

theorem fieldIn_member (name : String) (v : Json) (k : String) :
    fieldIn (member name v) k = if name = k then some v else none := by
  by_cases h : name = k <;> simp [fieldIn, member, h]

theorem fieldIn_unless (c : Prop) [Decidable c] (name : String) (v : Json) (k : String) :
    fieldIn (if c then [] else member name v) k =
      if name = k then if c then none else some v else none := by
  by_cases h : c
  · simp [fieldIn, h]
  · simp only [if_neg h, fieldIn_member]

theorem fieldIn_optionalMember (name : String) (write : α → Json) (x : Option α) (k : String) :
    fieldIn (optionalMember name write x) k = if name = k then x.map write else none := by
  cases x with
  | none => simp [fieldIn, optionalMember]
  | some x => exact fieldIn_member name (write x) k

theorem fieldIn_eq_none_iff : fieldIn l k = none ↔ k ∉ l.map (·.1) := by
  rw [fieldIn, Option.map_eq_none_iff, List.find?_eq_none]
  simp only [beq_iff_eq, List.mem_map, not_exists, not_and]

theorem lastOf_append (l l' : List (String × Json)) (k : String) :
    lastOf (l ++ l') k = (lastOf l' k).or (lastOf l k) := by
  rw [lastOf, List.reverse_append, fieldIn_append]
  rfl

theorem lastOf_without (name : String) (l : List (String × Json)) (k : String) :
    lastOf (without name l) k = if k = name then none else lastOf l k := by
  simp only [lastOf, without, fieldIn, ← List.filter_reverse, List.find?_filter]
  split
  next h =>
    subst h
    simp
  next h =>
    congr 2
    funext m
    by_cases hm : m.1 = k
    · simp [hm, h]
    · simp [hm]

theorem mem_of_fieldIn (h : fieldIn l k = some v) : (k, v) ∈ l := by
  obtain ⟨m, hm, rfl⟩ := Option.map_eq_some_iff.1 h
  obtain rfl : m.1 = k := by simpa using List.find?_some hm
  exact List.mem_of_find?_eq_some hm

theorem mem_of_lastOf (h : lastOf l k = some v) : (k, v) ∈ l :=
  List.mem_reverse.1 (mem_of_fieldIn h)

/-- Where no known field stands twice, it does not matter from which end it is looked for. -/
theorem lastOf_eq_fieldIn (h : distinct known l = true) (hk : k ∈ known) :
    lastOf l k = fieldIn l k := by
  rw [lastOf, fieldIn, find?_reverse (of_decide_eq_true (List.all_eq_true.1 h k hk))]
  rfl

theorem distinct_of_nodup (h : (l.map (·.1)).Nodup) (known : List String) :
    distinct known l = true :=
  List.all_eq_true.2 fun k _ => decide_eq_true (length_filter_key_le_one h k)

/-! ## Patches -/

/-- What a patch leaves of a member. -/
def patched (old : Option Json) : Option Json → Option Json
  | none => old
  | some patch => if isNull patch then none else some (merge (old.getD null) patch)

theorem names_optionalMember (name : String) (write : α → Json) (x : Option α) :
    ((optionalMember name write x).map (·.1)).Sublist [name] := by
  cases x with
  | none => exact List.nil_sublist _
  | some x => exact List.Sublist.refl _

theorem names_member (name : String) (v : Json) :
    ((member name v).map (·.1)).Sublist [name] := List.Sublist.refl _

theorem names_unless (c : Bool) (name : String) (v : Json) :
    ((if c then [] else member name v).map (·.1)).Sublist [name] := by
  cases c with
  | true => exact List.nil_sublist _
  | false => exact names_member name v

theorem names_append {names names' : List String} (h : (l.map (·.1)).Sublist names)
    (h' : (l'.map (·.1)).Sublist names') : ((l ++ l').map (·.1)).Sublist (names ++ names') := by
  rw [List.map_append]
  exact h.append h'

theorem eq_null_of_isNull (h : isNull v = true) : v = null := by
  cases v with
  | null => rfl
  | _ => cases h

theorem isNull_merge (t v : Json) : isNull (merge t v) = isNull v := by
  cases v <;> rfl

/-- What one member of a patch makes of members. -/
def mergeMember (l : List (String × Json)) (name : String) (v : Json) : List (String × Json) :=
  without name l ++ optionalMember name id (patched (lastOf l name) (some v))

theorem mergeMembers_cons (l : List (String × Json)) (name : String) (v : Json)
    (p : List (String × Json)) :
    mergeMembers l ((name, v) :: p) = mergeMembers (mergeMember l name v) p := by
  rw [mergeMembers, mergeMember, patched]
  split
  · rw [optionalMember, List.append_nil]
  · rfl

theorem lastOf_mergeMember (l : List (String × Json)) (name : String) (v : Json) (k : String) :
    lastOf (mergeMember l name v) k =
      if k = name then patched (lastOf l name) (some v) else lastOf l k := by
  have hlast : lastOf (optionalMember name id (patched (lastOf l name) (some v))) k =
      if name = k then patched (lastOf l name) (some v) else none := by
    cases patched (lastOf l name) (some v) with
    | none => simp [optionalMember, lastOf, fieldIn]
    | some x => exact fieldIn_member name x k
  rw [mergeMember, lastOf_append, hlast, lastOf_without]
  by_cases h : k = name
  · simp [h]
  · simp [h, Ne.symm h]

theorem distinct_mergeMember (h : distinct known l = true) (name : String) (v : Json) :
    distinct known (mergeMember l name v) = true := by
  rw [distinct, List.all_eq_true] at h ⊢
  intro k hk
  have hold := of_decide_eq_true (h k hk)
  refine decide_eq_true ?_
  rw [mergeMember, List.filter_append, List.length_append, without, List.filter_filter]
  by_cases hname : name = k
  · have hgone : (l.filter fun m => m.1 == k && m.1 != name) = [] := by
      rw [List.filter_eq_nil_iff]
      intro m _
      simp [hname]
    have hone : ((optionalMember name id (patched (lastOf l name) (some v))).filter
        fun m => m.1 == k).length ≤ 1 := by
      cases patched (lastOf l name) (some v) <;> simp [optionalMember, hname]
    rw [hgone]
    simpa using hone
  · have hnone : ((optionalMember name id (patched (lastOf l name) (some v))).filter
        fun m => m.1 == k) = [] := by
      cases patched (lastOf l name) (some v) <;> simp [optionalMember, hname]
    have hfewer : (l.filter fun m => m.1 == k && m.1 != name).length ≤
        (l.filter fun m => m.1 == k).length := by
      refine (List.monotone_filter_right l fun m hm => ?_).length_le
      exact (Bool.and_eq_true_iff.1 hm).1
    rw [hnone]
    simp only [List.length_nil, Nat.add_zero]
    omega

/-- A patch without repeated names treats each name by itself. -/
theorem lastOf_mergeMembers (h : (p.map (·.1)).Nodup) (l : List (String × Json)) (k : String) :
    lastOf (mergeMembers l p) k = patched (lastOf l k) (fieldIn p k) := by
  induction p generalizing l with
  | nil => rw [mergeMembers]; rfl
  | cons m p ih =>
    obtain ⟨name, v⟩ := m
    obtain ⟨hnew, hmore⟩ := List.nodup_cons.1 h
    rw [mergeMembers_cons, ih hmore, lastOf_mergeMember]
    by_cases hk : k = name
    · subst hk
      rw [fieldIn_eq_none_iff.2 hnew, if_pos rfl]
      simp [fieldIn, patched]
    · have hfield : fieldIn ((name, v) :: p) k = fieldIn p k := by
        simp [fieldIn, Ne.symm hk]
      rw [if_neg hk, hfield]

theorem distinct_mergeMembers (h : distinct known l = true) (p : List (String × Json)) :
    distinct known (mergeMembers l p) = true := by
  induction p generalizing l with
  | nil => rwa [mergeMembers]
  | cons m p ih =>
    rw [mergeMembers_cons]
    exact ih (distinct_mergeMember h m.1 m.2)

/-- What holds of every value still does, if it holds of what the patch merges. -/
theorem forall_mergeMembers {P : Json → Prop} (hold : ∀ m ∈ l, P m.2)
    (hpatch : ∀ m ∈ p, ∀ t, t = null ∨ P t → P (merge t m.2)) : ∀ m ∈ mergeMembers l p, P m.2 := by
  induction p generalizing l with
  | nil => rwa [mergeMembers]
  | cons m p ih =>
    obtain ⟨name, v⟩ := m
    rw [mergeMembers_cons]
    refine ih (fun m' hm' => ?_) fun m' hm' => hpatch m' (List.mem_cons_of_mem _ hm')
    rcases List.mem_append.1 hm' with hother | hnew
    · exact hold m' (List.mem_filter.1 hother).1
    · rw [patched] at hnew
      split at hnew
      · cases hnew
      · obtain rfl := List.mem_singleton.1 hnew
        refine hpatch (name, v) List.mem_cons_self _ ?_
        cases hlast : lastOf l name with
        | none => exact .inl rfl
        | some t => exact .inr (hold _ (mem_of_lastOf hlast))

/-! ## Records -/

/-- A record that a patch is merged into has its fields patched. -/
theorem strictFields?_merge (hold : distinct known t.members = true)
    (hpatch : (p.map (·.1)).Nodup) :
    ∃ field, strictFields? known (merge t (obj p)) = some field ∧
      ∀ k ∈ known, field k = patched (fieldIn t.members k) (fieldIn p k) := by
  have hnew := distinct_mergeMembers hold p
  refine ⟨fieldIn (mergeMembers t.members p), ?_, fun k hk => ?_⟩
  · rw [merge]
    exact if_pos hnew
  · rw [← lastOf_eq_fieldIn hnew hk, lastOf_mergeMembers hpatch, lastOf_eq_fieldIn hold hk]

theorem strictFields?_obj_eq_some_iff {field : String → Option Json} :
    strictFields? known (obj l) = some field ↔ distinct known l = true ∧ fieldIn l = field := by
  simp only [strictFields?, members?]
  split
  next hd => simp [hd]
  next hd => simp [hd]

theorem distinct_members_of_strictFields? {field : String → Option Json}
    (h : strictFields? known t = some field) : distinct known t.members = true := by
  cases t with
  | obj l => exact (strictFields?_obj_eq_some_iff.1 h).1
  | _ => exact List.all_eq_true.2 fun _ _ => rfl

theorem distinct_members_of_read {read : Json → Option α}
    {ofFields : (String → Option Json) → Option α}
    (hread : ∀ t, read t = (strictFields? known t).bind ofFields)
    (h : t = null ∨ ∃ y, read t = some y) : distinct known t.members = true := by
  rcases h with rfl | ⟨y, hy⟩
  · exact List.all_eq_true.2 fun _ _ => rfl
  · rw [hread] at hy
    obtain ⟨field, hfield, -⟩ := Option.bind_eq_some_iff.1 hy
    exact distinct_members_of_strictFields? hfield

theorem strictFields?_obj (h : (l.map (·.1)).Nodup) :
    strictFields? known (obj l) = some (fieldIn l) :=
  if_pos (distinct_of_nodup h known)

/-! ## Lists and dictionaries -/

theorem mapM_eq_some_iff {β γ : Type} {f : β → Option γ} {xs : List β} {ys : List γ} :
    xs.mapM f = some ys ↔ xs.map f = ys.map some := by
  induction xs generalizing ys with
  | nil => cases ys <;> simp
  | cons x xs ih =>
    simp only [List.mapM_cons, Option.bind_eq_bind, Option.bind_eq_some_iff, Option.pure_def,
      Option.some.injEq, ih]
    constructor
    · rintro ⟨y, hy, ys', hys', rfl⟩
      rw [List.map_cons, List.map_cons, hy, hys']
    · intro h
      cases ys with
      | nil => cases h
      | cons y ys =>
        obtain ⟨hy, hys⟩ := List.cons.inj h
        exact ⟨y, hy, ys, hys, rfl⟩

theorem exists_mapM_iff {β γ : Type} {f : β → Option γ} {xs : List β} :
    (∃ ys, xs.mapM f = some ys) ↔ ∀ x ∈ xs, ∃ y, f x = some y := by
  induction xs with
  | nil => simp
  | cons x xs ih =>
    rw [List.forall_mem_cons, ← ih]
    simp only [List.mapM_cons, Option.bind_eq_bind, Option.bind_eq_some_iff, Option.pure_def,
      Option.some.injEq]
    constructor
    · rintro ⟨_, y, hy, ys, hys, -⟩
      exact ⟨⟨y, hy⟩, ys, hys⟩
    · rintro ⟨⟨y, hy⟩, ys, hys⟩
      exact ⟨_, y, hy, ys, hys, rfl⟩

theorem list?_ofList {read : Json → Option α} {write : α → Json}
    (h : ∀ x, read (write x) = some x) (xs : List α) :
    list? read (ofList write xs) = some xs := by
  refine mapM_eq_some_iff.2 ?_
  rw [List.map_map]
  exact List.map_congr_left fun x _ => h x

section Dictionary

variable {read : Json → Option α} {d : Dict α}

theorem dict?_eq_some_iff :
    dict? read (obj l) = some d ↔ ∃ es : List (String × α),
      (l.map fun m => (read m.2).map fun x => (m.1, x)) = es.map some ∧ Dict.ofList es = d := by
  simp only [← mapM_eq_some_iff]
  unfold dict?
  cases h : l.mapM fun m => (read m.2).map fun x => (m.1, x) with
  | none => simp [members?, h]
  | some es => simp [members?, h]

theorem exists_dict?_iff :
    (∃ d, dict? read (obj l) = some d) ↔ ∀ m ∈ l, ∃ x, read m.2 = some x := by
  have hread : ∀ m : String × Json,
      (∃ e, (read m.2).map (fun x => (m.1, x)) = some e) ↔ ∃ x, read m.2 = some x := by
    intro m
    cases read m.2 with
    | none => simp
    | some x => exact ⟨fun _ => ⟨x, rfl⟩, fun _ => ⟨(m.1, x), rfl⟩⟩
  simp only [← hread, ← exists_mapM_iff, dict?_eq_some_iff, ← mapM_eq_some_iff]
  exact ⟨fun ⟨_, es, hes, _⟩ => ⟨es, hes⟩, fun ⟨es, hes⟩ => ⟨_, es, hes, rfl⟩⟩

theorem find?_of_map_read {es : List (String × α)}
    (h : (l.map fun m => (read m.2).map fun x => (m.1, x)) = es.map some) (k : String) :
    (es.find? fun e => e.1 == k).map (·.2) = (fieldIn l k).bind read := by
  induction l generalizing es with
  | nil =>
    cases es with
    | nil => rfl
    | cons e es => cases h
  | cons m l ih =>
    cases es with
    | nil => cases h
    | cons e es =>
      obtain ⟨hhead, hmore⟩ := List.cons.inj h
      obtain ⟨x, hx, rfl⟩ := Option.map_eq_some_iff.1 hhead
      have hrest := ih hmore
      by_cases hk : m.1 = k
      · simp [fieldIn, hk, hx]
      · simpa [fieldIn, hk] using hrest

theorem get?_of_dict? (h : dict? read (obj l) = some d) (k : String) :
    d.get? k = (lastOf l k).bind read := by
  obtain ⟨es, hes, rfl⟩ := dict?_eq_some_iff.1 h
  rw [Dict.get?_ofList]
  refine find?_of_map_read ?_ k
  rw [List.map_reverse, hes, List.map_reverse]

end Dictionary

/-! ## What overwrites -/

/-- What is written is read again, also when it was merged into a value that can be read, or into
none. -/
structure Overwrites (read : Json → Option α) (write : α → Json) : Prop where
  notNull : ∀ x, isNull (write x) = false
  merged : ∀ {t : Json}, t = null ∨ (∃ y, read t = some y) → ∀ x, read (merge t (write x)) = some x

/-- What is written as no object overwrites if it is read again. -/
theorem Overwrites.of_leaf {read : Json → Option α} {write : α → Json}
    (hleaf : ∀ x, isNull (write x) = false ∧ ∀ p, write x ≠ obj p)
    (hread : ∀ x, read (write x) = some x) : Overwrites read write where
  notNull := fun x => (hleaf x).1
  merged := by
    intro t _ x
    have hsame : merge t (write x) = write x := by
      cases hx : write x with
      | obj p => exact absurd hx ((hleaf x).2 p)
      | _ => rfl
    rw [hsame, hread]

section Fields

variable {read : Json → Option α} {write : α → Json} (h : Overwrites read write) {old : Option Json}

include h

theorem Overwrites.patched_eq (x : α) :
    patched old (some (write x)) = some (merge (old.getD null) (write x)) := by
  rw [patched, h.notNull, if_neg Bool.false_ne_true]

theorem Overwrites.defaulted_patched {missing a : α} (hold : defaulted missing read old = some a)
    (x : α) : defaulted missing read (patched old (some (write x))) = some x := by
  rw [h.patched_eq]
  refine h.merged ?_ x
  cases old with
  | none => exact .inl rfl
  | some t => exact .inr ⟨a, hold⟩

theorem Overwrites.optional_patched {a : Option α} (hold : Document.optional read old = some a)
    (x : Option α) : Document.optional read (patched old (x.map write)) = some (x.or a) := by
  cases x with
  | none => exact hold
  | some x =>
    have hread : read (merge (old.getD null) (write x)) = some x := by
      refine h.merged ?_ x
      cases old with
      | none => exact .inl rfl
      | some t =>
        simp only [Document.optional, nullable?] at hold
        split at hold
        next hnull => exact .inl (eq_null_of_isNull hnull)
        next =>
          obtain ⟨y, hy, -⟩ := Option.map_eq_some_iff.1 hold
          exact .inr ⟨y, hy⟩
    rw [Option.map_some, h.patched_eq]
    simp only [Document.optional, nullable?]
    rw [isNull_merge, h.notNull, if_neg Bool.false_ne_true, hread]
    rfl

/-- A dictionary keeps the entries that the patch does not name. -/
theorem Overwrites.dict?_merge {d : Dict α} (hold : dict? read (obj l) = some d) (e : Dict α) :
    dict? read (merge (obj l) (ofDict write e)) = some (d.override e) := by
  have hnames : ((e.entries.map fun x => (x.1, write x.2)).map (·.1)).Nodup := by
    rw [List.map_map]
    exact e.nodup_keys
  have hmerge : merge (obj l) (ofDict write e) =
      obj (mergeMembers l (e.entries.map fun x => (x.1, write x.2))) := by
    rw [ofDict, merge]
    rfl
  rw [hmerge]
  obtain ⟨d', hd'⟩ : ∃ d', dict? read
      (obj (mergeMembers l (e.entries.map fun x => (x.1, write x.2)))) = some d' := by
    refine exists_dict?_iff.2 (forall_mergeMembers (P := fun v => ∃ x, read v = some x)
      (exists_dict?_iff.1 ⟨d, hold⟩) fun m hm t ht => ?_)
    obtain ⟨x, -, rfl⟩ := List.mem_map.1 hm
    exact ⟨x.2, h.merged ht x.2⟩
  rw [hd', Option.some.injEq]
  refine Dict.ext_get? fun k => ?_
  have hpatch : fieldIn (e.entries.map fun x => (x.1, write x.2)) k = (e.get? k).map write := by
    simp only [fieldIn, Dict.get?, List.find?_map, Option.map_map]
    rfl
  rw [get?_of_dict? hd', lastOf_mergeMembers hnames, hpatch, Dict.get?_override,
    get?_of_dict? hold]
  cases hx : e.get? k with
  | none => rfl
  | some x =>
    rw [Option.map_some, h.patched_eq, Option.bind_some, Option.some_or]
    refine h.merged ?_ x
    cases hlast : lastOf l k with
    | none => exact .inl rfl
    | some t => exact .inr (exists_dict?_iff.1 ⟨d, hold⟩ _ (mem_of_lastOf hlast))

theorem Overwrites.defaulted_dict?_patched {d : Dict α}
    (hold : defaulted Dict.empty (dict? read) old = some d) (e : Dict α) :
    defaulted Dict.empty (dict? read) (patched old (some (ofDict write e))) =
      some (d.override e) := by
  have hmerge : dict? read (merge (old.getD null) (ofDict write e)) = some (d.override e) := by
    cases old with
    | none =>
      obtain rfl : Dict.empty = d := Option.some.inj hold
      exact h.dict?_merge (l := []) rfl e
    | some t =>
      cases t with
      | obj l => exact h.dict?_merge hold e
      | _ => cases hold
  exact hmerge

end Fields

end TrainingJobs.Json
