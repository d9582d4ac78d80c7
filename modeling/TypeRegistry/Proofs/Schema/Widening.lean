import TypeRegistry.Proofs.Schema.Meaning

/-!
# Schemas that ask for less

One plain schema is wider than another of the same type if it asks for nothing that the other does
not ask for: its required names are among those of the other, its bounds are wider, and the schemas
inside it are wider than the corresponding ones.  A wider schema accepts whatever a narrower one
does.

Main results:

- Definition `Widens`: one schema is wider than another.
- Theorem `Widens.isClean`: what a schema accepts is accepted by every wider one.
-/

namespace TypeRegistry

open Dictionary

/-- A plain schema is wider than another one of its type: it asks for nothing that the other does
not ask for. -/
inductive Widens : Json.Members → Json.Members → Prop
  | intro {typeName : String} {wide narrow : Json.Members}
    (hwide : IsPlain typeName wide) (hnarrow : IsPlain typeName narrow)
    (hrequired : requiredOf wide ⊆ requiredOf narrow)
    (hbounds : ∀ rangeEnd keyword bound, boundKeyword? typeName rangeEnd = some keyword →
      find? keyword wide = some (.int bound) →
        ∃ other, find? keyword narrow = some (.int other) ∧ rangeEnd.IsWider bound other)
    (hnames : ∀ name, has name (propertiesOf wide) = true → has name (propertiesOf narrow) = true)
    (hproperties : ∀ name inWide inNarrow, find? name (propertiesOf wide) = some (.obj inWide) →
      find? name (propertiesOf narrow) = some (.obj inNarrow) → Widens inWide inNarrow)
    (hhasItems : has "items" wide = true → has "items" narrow = true)
    (hitems : ∀ inWide inNarrow, find? "items" wide = some (.obj inWide) →
      find? "items" narrow = some (.obj inNarrow) → Widens inWide inNarrow) :
    Widens wide narrow

namespace Widens

variable {wide narrow : Json.Members}

/-- Schemas one of which is wider are plain schemas of one type. -/
theorem exists_plain (h : Widens wide narrow) :
    ∃ typeName, IsPlain typeName wide ∧ IsPlain typeName narrow := by
  cases h with
  | intro hwide hnarrow => exact ⟨_, hwide, hnarrow⟩

section Acceptance

-- The schemas are evaluated in contexts of their own: plain schemas have no references, so neither
-- the library in the scope nor what references do matters.
variable {refs refs' : Follow} {scope scope' : Scope}

/-- Inside other schemas, a schema that is wider accepts what a narrower one does if it does so in
the scope around it. -/
theorem enter_isClean (hscope : scope.dialect = .draft202012)
    (hscope' : scope'.dialect = .draft202012) (h : Widens wide narrow) {subject : Json}
    (htransfer : (evaluate refs (some .draft202012) scope (.obj narrow) subject).IsClean →
      (evaluate refs' (some .draft202012) scope' (.obj wide) subject).IsClean)
    (hnarrow : ((branchOf refs scope (.obj narrow)).enter subject).IsClean) :
    ((branchOf refs' scope' (.obj wide)).enter subject).IsClean := by
  obtain ⟨typeName, hwidePlain, hnarrowPlain⟩ := h.exists_plain
  rw [enter_branchOf hscope' hwidePlain.no_id]
  rw [enter_branchOf hscope hnarrowPlain.no_id] at hnarrow
  exact htransfer hnarrow

/-- What a schema accepts is accepted by every wider one. -/
theorem isClean (hscope : scope.dialect = .draft202012) (hscope' : scope'.dialect = .draft202012)
    (h : Widens wide narrow) (hwide : IsProper wide) (hnarrow : IsProper narrow)
    {ruling? : Option Dialect} (hruling : ruling?.getD .draft202012 = .draft202012)
    (subject : Json) (haccepts : (evaluate refs ruling? scope (.obj narrow) subject).IsClean) :
    (evaluate refs' ruling? scope' (.obj wide) subject).IsClean := by
  induction h generalizing ruling? subject with
  | @intro typeName wide narrow hwidePlain hnarrowPlain hrequired hbounds hnames hproperties
      hhasItems hitems ihProperties ihItems =>
    rw [isClean_evaluate_plain_iff hscope hruling hnarrowPlain hnarrow] at haccepts
    rw [isClean_evaluate_plain_iff hscope' hruling hwidePlain hwide]
    refine ⟨haccepts.kind, ?required, ?properties, ?items, ?bounds⟩
    case required =>
      intro values hvalues name hname
      exact haccepts.required values hvalues name (hrequired hname)
    case properties =>
      intro values hvalues name schema value hschema hvalue
      obtain ⟨inWide, rfl⟩ := hwidePlain.properties name schema hschema
      have hhas := hnames name (by simp [has, hschema])
      obtain ⟨other, hother⟩ := Option.isSome_iff_exists.1 hhas
      obtain ⟨inNarrow, rfl⟩ := hnarrowPlain.properties name other hother
      refine (hproperties name inWide inNarrow hschema hother).enter_isClean hscope hscope' ?_
        (haccepts.properties values hvalues name _ value hother hvalue)
      exact ihProperties name inWide inNarrow hschema hother (hwide.property hschema)
        (hnarrow.property hother) rfl value
    case items =>
      intro items hsubject schema hschema item hitem
      obtain ⟨inWide, rfl, -⟩ := hwidePlain.items schema hschema
      have hhas := hhasItems (by simp [has, hschema])
      obtain ⟨other, hother⟩ := Option.isSome_iff_exists.1 hhas
      obtain ⟨inNarrow, rfl, -⟩ := hnarrowPlain.items other hother
      refine (hitems inWide inNarrow hschema hother).enter_isClean hscope hscope' ?_
        (haccepts.items items hsubject _ hother item hitem)
      exact ihItems inWide inNarrow hschema hother (hwide.item hschema) (hnarrow.item hother) rfl
        item
    case bounds =>
      intro rangeEnd keyword bound hbound hfound measure hmeasure
      obtain ⟨other, hother, hwider⟩ := hbounds rangeEnd keyword bound hbound hfound
      exact hwider.admits (haccepts.bounds rangeEnd keyword other hbound hother measure hmeasure)

end Acceptance

/-- An instance that is valid under a schema is valid under every wider one. -/
theorem valid (h : Widens wide narrow) (hwide : IsProper wide) (hnarrow : IsProper narrow)
    (store : Store) (subject : Json)
    (hvalid : (validate store (.obj narrow) subject).value = Verdict.valid) :
    (validate store (.obj wide) subject).value = Verdict.valid := by
  obtain ⟨typeName, hwidePlain, hnarrowPlain⟩ := h.exists_plain
  rw [validate_eq_valid_iff, schemaTrace_eq hnarrowPlain.no_dialect hnarrowPlain.no_id]
    at hvalid
  rw [validate_eq_valid_iff, schemaTrace_eq hwidePlain.no_dialect hwidePlain.no_id,
    formOf_eq_valid_iff hwidePlain.no_dialect]
  exact ⟨hwide.form, h.isClean rfl rfl hwide hnarrow rfl subject hvalid.2⟩

end Widens

end TypeRegistry
