import TypeRegistry.Dictionary

/-!
# Looking up in changed dictionaries

What is found under a name after entries were put in, left out or changed in their values, in terms
of what was found before.

Main results:

- Theorem `has_put`: putting an entry in adds its name and loses none.
- Theorem `has_filter_names`: leaving out entries by their names.
- Theorem `find?_mapValues`: changing values, each with its name in view.
- Theorem `find?_eq_some_iff_mem`: where no name occurs twice, every entry is found.
- Theorem `perm_of_find?_eq`: what is found determines the entries up to their order.
- Theorem `nodup_keys_putAll`, `nodup_keys_append`: entries that come in make no name occur twice.
- Theorems `find?_putAll_eq`, `find?_putAll`: what came in last is found.
- Theorem `putAll_assoc`: entries may be put together before they come in.
-/

namespace TypeRegistry.Dictionary

variable {α β : Type}

/-- Putting an entry in adds its name and loses none. -/
theorem has_put (name other : String) (value : α) (entries : Dictionary α) :
    has other (put name value entries) = (decide (name = other) || has other entries) := by
  by_cases h : name = other
  · subst h
    simp [has]
  · simp [has, find?_put_of_ne h, h]

/-- Of entries that are left out by their names, the others are found as before. -/
theorem find?_filter_names (keep : String → Bool) (name : String) (entries : Dictionary α) :
    find? name (entries.filter fun entry => keep entry.1) =
      if keep name then find? name entries else none := by
  induction entries with
  | nil => simp [find?]
  | cons entry rest ih =>
    obtain ⟨key, value⟩ := entry
    rw [List.filter_cons]
    by_cases hkey : key = name
    · subst hkey
      by_cases hkeep : keep key = true
      · simp [hkeep, find?]
      · simp only [hkeep, Bool.false_eq_true, if_false] at ih ⊢
        exact ih
    · by_cases hkeep : keep key = true
      · simp [hkeep, find?, hkey, ih]
      · simp [hkeep, find?, hkey, ih]

/-- Of entries that are left out by their names, the others stay. -/
theorem has_filter_names (keep : String → Bool) (name : String) (entries : Dictionary α) :
    has name (entries.filter fun entry => keep entry.1) = (keep name && has name entries) := by
  rw [has, find?_filter_names]
  cases keep name <;> simp [has]

/-- A name is in joined dictionaries if it is in one of them. -/
theorem has_append (name : String) (first second : Dictionary α) :
    has name (first ++ second) = (has name first || has name second) := by
  rw [has, find?_append, Option.isSome_or, has, has]

/-- Under a name stands the changed value of what stood there. -/
theorem find?_mapValues (change : String → α → β) (name : String) (entries : Dictionary α) :
    find? name (entries.map fun entry => (entry.1, change entry.1 entry.2)) =
      (find? name entries).map (change name) := by
  induction entries with
  | nil => rfl
  | cons entry rest ih =>
    obtain ⟨key, value⟩ := entry
    simp only [List.map_cons, find?]
    split
    next h => simp [h]
    next => exact ih

/-- Values are changed before or after one is put in. -/
theorem mapValues_put (change : String → α → β) (name : String) (value : α)
    (entries : Dictionary α) :
    (put name value entries).map (fun entry => (entry.1, change entry.1 entry.2)) =
      put name (change name value)
        (entries.map fun entry => (entry.1, change entry.1 entry.2)) := by
  induction entries with
  | nil => rfl
  | cons entry rest ih =>
    by_cases hname : entry.1 = name
    · simp [put, hname]
    · simp [put, hname, ih]

/-- Changing values keeps the names. -/
theorem keys_mapValues (change : String → α → β) (entries : Dictionary α) :
    keys (entries.map fun entry => (entry.1, change entry.1 entry.2)) = keys entries := by
  rw [keys, List.map_map]
  rfl

/-- A member of a dictionary has a name in it. -/
theorem has_of_mem {entry : String × α} {entries : Dictionary α} (h : entry ∈ entries) :
    has entry.1 entries = true := by
  rw [has_iff_mem_keys]
  exact List.mem_map_of_mem h

/-! ## Names without repetitions -/

/-- A new name comes last. -/
theorem put_of_not_mem {name : String} {entries : Dictionary α} (h : name ∉ keys entries)
    (value : α) : put name value entries = entries ++ [(name, value)] := by
  induction entries with
  | nil => rfl
  | cons entry rest ih =>
    obtain ⟨key, old⟩ := entry
    have hne : key ≠ name := by
      rintro rfl
      exact h List.mem_cons_self
    rw [put, if_neg hne, ih (fun hmem => h (List.mem_cons_of_mem _ hmem)), List.cons_append]

/-- What is found under a name is the value of the first entry with it. -/
theorem find?_eq_some_iff_append {name : String} {value : α} {entries : Dictionary α} :
    find? name entries = some value ↔
      ∃ front behind, entries = front ++ (name, value) :: behind ∧ name ∉ keys front := by
  induction entries with
  | nil => simp [find?]
  | cons entry rest ih =>
    obtain ⟨key, old⟩ := entry
    rw [find?]
    split
    next hkey =>
      subst hkey
      constructor
      · intro h
        obtain rfl := Option.some.inj h
        exact ⟨[], rest, rfl, List.not_mem_nil⟩
      · rintro ⟨front, behind, heq, hfront⟩
        cases front with
        | nil => rw [(Prod.mk.inj (List.cons.inj heq).1).2]
        | cons first front =>
          obtain ⟨rfl, -⟩ := List.cons.inj heq
          exact absurd List.mem_cons_self hfront
    next hkey =>
      rw [ih]
      constructor
      · rintro ⟨front, behind, rfl, hfront⟩
        refine ⟨(key, old) :: front, behind, rfl, ?_⟩
        exact List.not_mem_cons_of_ne_of_not_mem (Ne.symm hkey) hfront
      · rintro ⟨front, behind, heq, hfront⟩
        cases front with
        | nil => exact absurd (Prod.mk.inj (List.cons.inj heq).1).1 hkey
        | cons first front =>
          obtain ⟨rfl, rfl⟩ := List.cons.inj heq
          exact ⟨front, behind, rfl, List.not_mem_of_not_mem_cons hfront⟩

/-- Where no name occurs twice, every entry is found under its name. -/
theorem find?_eq_some_iff_mem {name : String} {value : α} {entries : Dictionary α}
    (hnodup : (keys entries).Nodup) :
    find? name entries = some value ↔ (name, value) ∈ entries := by
  refine ⟨mem_of_find?, fun hmem => ?_⟩
  induction entries with
  | nil => simp at hmem
  | cons entry rest ih =>
    obtain ⟨key, old⟩ := entry
    obtain ⟨hkey, hrest⟩ := List.nodup_cons.1 hnodup
    rcases List.mem_cons.1 hmem with heq | hmem
    · obtain ⟨rfl, rfl⟩ := Prod.mk.inj heq
      simp [find?]
    · have hne : key ≠ name := by
        rintro rfl
        exact hkey (List.mem_map_of_mem (f := fun entry => entry.1) hmem)
      rw [find?, if_neg hne]
      exact ih hrest hmem

/-- Where no name occurs twice, the order of the entries does not matter to what is found. -/
theorem find?_eq_of_perm {first second : Dictionary α} (hfirst : (keys first).Nodup)
    (hperm : first.Perm second) (name : String) : find? name first = find? name second := by
  have hsecond : (keys second).Nodup := (hperm.map Prod.fst).nodup_iff.1 hfirst
  refine Option.ext fun value => ?_
  rw [find?_eq_some_iff_mem hfirst, find?_eq_some_iff_mem hsecond, hperm.mem_iff]

/-- Where no name occurs twice, what is found under which names determines the entries up to their
order. -/
theorem perm_of_find?_eq {first second : Dictionary α} (hfirst : (keys first).Nodup)
    (hsecond : (keys second).Nodup) (h : ∀ name, find? name first = find? name second) :
    first.Perm second := by
  have hentries : ∀ entries : Dictionary α, (keys entries).Nodup → entries.Nodup := by
    intro entries hnodup
    exact List.Pairwise.of_map (fun entry => entry.1) (fun _ _ hne heq => hne (heq ▸ rfl)) hnodup
  apply (List.perm_ext_iff_of_nodup (hentries first hfirst) (hentries second hsecond)).2
  rintro ⟨name, value⟩
  rw [← find?_eq_some_iff_mem hfirst, ← find?_eq_some_iff_mem hsecond, h]

/-- Entries under new names come last, in their order. -/
theorem putAll_of_nodup {entries extra : Dictionary α} (h : (keys (entries ++ extra)).Nodup) :
    putAll entries extra = entries ++ extra := by
  induction extra generalizing entries with
  | nil => exact (List.append_nil entries).symm
  | cons entry rest ih =>
    obtain ⟨key, value⟩ := entry
    have hfresh : key ∉ keys entries := by
      rw [keys, List.map_append, List.nodup_append] at h
      exact fun hmem => h.2.2 key hmem key List.mem_cons_self rfl
    have hput : put key value entries ++ rest = entries ++ (key, value) :: rest := by
      rw [put_of_not_mem hfresh, List.append_assoc, List.singleton_append]
    rw [← hput] at h ⊢
    exact ih h

/-- Entries whose names do not occur twice come in as they are. -/
theorem putAll_nil_of_nodup {extra : Dictionary α} (h : (keys extra).Nodup) :
    putAll [] extra = extra := by
  have hnodup : (keys ([] ++ extra)).Nodup := h
  exact putAll_of_nodup hnodup

/-- Putting an entry in makes no name occur twice. -/
theorem nodup_keys_put {name : String} {value : α} {entries : Dictionary α}
    (h : (keys entries).Nodup) : (keys (put name value entries)).Nodup := by
  rw [keys_put]
  split
  · exact h
  next hhas =>
    rw [has_iff_mem_keys] at hhas
    refine List.nodup_append.2 ⟨h, by simp, ?_⟩
    rintro key hkey _ hmem rfl
    rw [List.mem_singleton] at hmem
    exact hhas (hmem ▸ hkey)

/-- Putting several entries in makes no name occur twice, whatever they are. -/
theorem nodup_keys_putAll {entries extra : Dictionary α} (h : (keys entries).Nodup) :
    (keys (putAll entries extra)).Nodup := by
  induction extra generalizing entries with
  | nil => exact h
  | cons entry rest ih => exact ih (nodup_keys_put h)

/-- Entries that are changed or left out under their names make no name occur twice. -/
theorem nodup_keys_filterMap {change : String × α → Option (String × β)} {entries : Dictionary α}
    (h : (keys entries).Nodup)
    (hname : ∀ entry changed, change entry = some changed → changed.1 = entry.1) :
    (keys (entries.filterMap change)).Nodup := by
  refine List.pairwise_map.2 ((List.pairwise_map.1 h).filterMap change ?_)
  intro first second hne changed hchanged other hother
  rw [hname first changed hchanged, hname second other hother]
  exact hne

/-- Entries under other names make no name occur twice. -/
theorem nodup_keys_append {first second : Dictionary α} (hfirst : (keys first).Nodup)
    (hsecond : (keys second).Nodup) (h : ∀ entry ∈ second, has entry.1 first = false) :
    (keys (first ++ second)).Nodup := by
  rw [keys, List.map_append, List.nodup_append]
  refine ⟨hfirst, hsecond, ?_⟩
  intro old hold new hnew heq
  obtain ⟨entry, hentry, rfl⟩ := List.mem_map.1 hnew
  have hhas : has entry.1 first = true := has_iff_mem_keys.2 (heq ▸ hold)
  rw [h entry hentry] at hhas
  contradiction

/-- An entry of a dictionary that one was put into is that one or was there. -/
theorem eq_or_mem_of_mem_put {entry : String × α} {name : String} {value : α}
    {entries : Dictionary α} (h : entry ∈ put name value entries) :
    entry = (name, value) ∨ entry ∈ entries := by
  induction entries with
  | nil => exact .inl (by simpa [put] using h)
  | cons first rest ih =>
    rw [put] at h
    split at h
    next hkey =>
      rcases List.mem_cons.1 h with rfl | hmem
      · exact .inl (by rw [hkey])
      · exact .inr (List.mem_cons_of_mem _ hmem)
    next =>
      rcases List.mem_cons.1 h with rfl | hmem
      · exact .inr List.mem_cons_self
      · exact (ih hmem).imp_right (List.mem_cons_of_mem _)

/-- An entry of a dictionary that several were put into is one of them or was there. -/
theorem mem_of_mem_putAll {entry : String × α} {entries extra : Dictionary α}
    (h : entry ∈ putAll entries extra) : entry ∈ entries ∨ entry ∈ extra := by
  induction extra generalizing entries with
  | nil => exact .inl h
  | cons first rest ih =>
    rcases @ih (put first.1 first.2 entries) h with hput | hrest
    · rcases eq_or_mem_of_mem_put hput with rfl | hmem
      · exact .inr List.mem_cons_self
      · exact .inl hmem
    · exact .inr (List.mem_cons_of_mem _ hrest)

/-- The names in a dictionary that several entries were put into. -/
theorem mem_keys_putAll {name : String} {entries extra : Dictionary α} :
    name ∈ keys (putAll entries extra) ↔ name ∈ keys entries ∨ name ∈ keys extra := by
  induction extra generalizing entries with
  | nil => simp [putAll, keys]
  | cons first rest ih =>
    have hstep := @ih (put first.1 first.2 entries)
    rw [← @has_iff_mem_keys _ _ (put first.1 first.2 entries), has_put] at hstep
    simp only [Bool.or_eq_true, decide_eq_true_eq, has_iff_mem_keys] at hstep
    have hkeys : name ∈ keys (first :: rest) ↔ name = first.1 ∨ name ∈ keys rest := List.mem_cons
    rw [putAll, List.foldl_cons, ← putAll, hstep, hkeys]
    constructor
    · rintro ((rfl | hmem) | hmem)
      · exact .inr (.inl rfl)
      · exact .inl hmem
      · exact .inr (.inr hmem)
    · rintro (hmem | rfl | hmem)
      · exact .inl (.inr hmem)
      · exact .inl (.inl rfl)
      · exact .inr hmem

/-! ## Entries put in one after the other -/

/-- Entries come in one by one. -/
theorem putAll_cons (entries : Dictionary α) (entry : String × α) (rest : Dictionary α) :
    putAll entries (entry :: rest) = putAll (put entry.1 entry.2 entries) rest :=
  rfl

/-- Of what came in under a name the last is found. -/
theorem find?_putAll_eq (name : String) (entries extra : Dictionary α) :
    find? name (putAll entries extra) = (find? name extra.reverse).or (find? name entries) := by
  induction extra generalizing entries with
  | nil => rfl
  | cons entry rest ih =>
    obtain ⟨key, value⟩ := entry
    rw [putAll_cons, ih, List.reverse_cons, find?_append, Option.or_assoc]
    by_cases hkey : key = name
    · subst hkey
      rw [find?_put_self]
      simp [find?]
    · rw [find?_put_of_ne hkey]
      simp [find?, hkey]

/-- What is found among entries that came in is the value of the last entry with the name. -/
theorem find?_putAll_nil_eq_some_iff {name : String} {value : α} {extra : Dictionary α} :
    find? name (putAll [] extra) = some value ↔
      ∃ front behind, extra = front ++ (name, value) :: behind ∧ name ∉ keys behind := by
  have hnil : find? name ([] : Dictionary α) = none := rfl
  rw [find?_putAll_eq, hnil, Option.or_none, find?_eq_some_iff_append]
  constructor
  · rintro ⟨behind, front, heq, hbehind⟩
    refine ⟨front.reverse, behind.reverse, ?_, ?_⟩
    · rw [← List.reverse_reverse extra, heq]
      simp
    · rwa [keys, List.map_reverse, List.mem_reverse]
  · rintro ⟨front, behind, rfl, hbehind⟩
    refine ⟨behind.reverse, front.reverse, by simp, ?_⟩
    rwa [keys, List.map_reverse, List.mem_reverse]

/-- What came in last is found, if no name occurs twice in what came in. -/
theorem find?_putAll {entries extra : Dictionary α} (h : (keys extra).Nodup) (name : String) :
    find? name (putAll entries extra) = (find? name extra).or (find? name entries) := by
  have hreversed : find? name extra.reverse = find? name extra :=
    (find?_eq_of_perm h (List.reverse_perm extra).symm name).symm
  rw [find?_putAll_eq, hreversed]

/-- Of two values put in under one name the later one stays. -/
theorem put_put_self (name : String) (old value : α) (entries : Dictionary α) :
    put name value (put name old entries) = put name value entries := by
  induction entries with
  | nil => simp [put]
  | cons entry rest ih =>
    by_cases hname : entry.1 = name
    · simp [put, hname]
    · simp [put, hname, ih]

/-- A value that replaces another may be put in before an entry under another name. -/
theorem put_comm {name key : String} (hne : key ≠ name) {entries : Dictionary α}
    (hhas : has name entries = true) (value other : α) :
    put name value (put key other entries) = put key other (put name value entries) := by
  induction entries with
  | nil => simp [has, find?] at hhas
  | cons entry rest ih =>
    by_cases hname : entry.1 = name
    · simp [put, hname, hne.symm]
    · have hrest : has name rest = true := by simpa [has, find?, hname] using hhas
      by_cases hkey : entry.1 = key
      · simp [put, hkey, hne]
      · simp [put, hname, hkey, ih hrest]

/-- A value that replaces another may be put in before entries under other names. -/
theorem put_putAll_of_has {name : String} {entries extra : Dictionary α}
    (hhas : has name entries = true) (hfresh : name ∉ keys extra) (value : α) :
    put name value (putAll entries extra) = putAll (put name value entries) extra := by
  induction extra generalizing entries with
  | nil => rfl
  | cons entry rest ih =>
    have hne : entry.1 ≠ name := fun heq => hfresh (heq ▸ List.mem_cons_self)
    have hstill : has name (put entry.1 entry.2 entries) = true := by
      rw [has_put, hhas, Bool.or_true]
    rw [putAll_cons, putAll_cons, ih hstill fun hmem => hfresh (List.mem_cons_of_mem _ hmem),
      put_comm hne hhas]

/-- An entry may be put into what comes in before it comes in. -/
theorem put_putAll {entries extra : Dictionary α} (h : (keys extra).Nodup) (name : String)
    (value : α) : put name value (putAll entries extra) = putAll entries (put name value extra) := by
  induction extra generalizing entries with
  | nil => rfl
  | cons entry rest ih =>
    obtain ⟨key, old⟩ := entry
    obtain ⟨hkey, hrest⟩ := List.nodup_cons.1 h
    rw [putAll_cons, put]
    split
    next hname =>
      subst hname
      have hhas : has key (put key old entries) = true := by rw [has_put]; simp
      rw [put_putAll_of_has hhas hkey, put_put_self]
      rfl
    next => exact ih hrest

/-- Entries may be put together before they come in, if no name occurs twice in those that come in
first. -/
theorem putAll_assoc {first second : Dictionary α} (h : (keys second).Nodup)
    (third : Dictionary α) :
    putAll (putAll first second) third = putAll first (putAll second third) := by
  induction third generalizing second with
  | nil => rfl
  | cons entry rest ih =>
    rw [putAll_cons, put_putAll h, ih (nodup_keys_put h), putAll_cons]

end TypeRegistry.Dictionary
