import Mathlib.Data.List.Forall2
import Mathlib.Data.Option.Basic
import TypeRegistry.Proofs.Schema.Clean

/-!
# One evaluation following another

Two evaluations are compared that differ in their schemas.  The second follows the first if it has
an answer wherever the first has one, and finds nothing wrong wherever the first finds nothing
wrong.  That is enough as long as the outcome only rises with what is asked; where what is wrong
counts as well, as under `not`, the second also has to find something wrong wherever the first does.

Main results:

- Definition `Follows`: an outcome is a value if a first one is, and the values are related.
- Definition `Trace.Follows`: a trace finds nothing if a first one finds nothing, or exactly then.
- Theorems `Trace.Follows.append`, `Trace.Follows.inTurn`, `Trace.Follows.ofTrial`: traces that are
  put together of parts that follow.
- Theorem `Trace.Follows.verdict`: where both sides count, the verdict is the same.
-/

namespace TypeRegistry

open Dictionary

/-- Of related options both are empty, or both hold something and this is related. -/
theorem none_or_some_of_rel {α β : Type} {R : α → β → Prop} {first : Option α} {second : Option β}
    (h : Option.Rel R first second) :
    first = none ∧ second = none ∨ ∃ a b, first = some a ∧ second = some b ∧ R a b := by
  cases h with
  | none => exact .inl ⟨rfl, rfl⟩
  | some hrel => exact .inr ⟨_, _, rfl, rfl, hrel⟩

/-! ## Outcomes -/

section Outcomes

variable {ε α β γ δ : Type} {R : α → β → Prop} {S : γ → δ → Prop}

/-- If a first outcome is a value, so is a second one, and the values are related. -/
def Follows (R : α → β → Prop) (first : Except ε α) (second : Except ε β) : Prop :=
  ∀ a, first = .ok a → ∃ b, second = .ok b ∧ R a b

namespace Follows

theorem ok {a : α} {b : β} (h : R a b) : Follows R (.ok a : Except ε α) (.ok b : Except ε β) := by
  rintro _ ⟨⟩
  exact ⟨b, rfl, h⟩

theorem error (fault : ε) (second : Except ε β) : Follows R (.error fault) second := by
  rintro _ ⟨⟩

theorem of_eq {first second : Except ε α} (h : first = second) : Follows Eq first second := by
  rintro a rfl
  exact ⟨a, h.symm, rfl⟩

theorem mono {R' : α → β → Prop} {first : Except ε α} {second : Except ε β}
    (h : Follows R first second) (hR : ∀ a b, R a b → R' a b) : Follows R' first second := by
  intro a ha
  obtain ⟨b, hb, hrel⟩ := h a ha
  exact ⟨b, hb, hR a b hrel⟩

theorem bind {first : Except ε α} {second : Except ε β} {next : α → Except ε γ}
    {next' : β → Except ε δ} (h : Follows R first second)
    (hnext : ∀ a b, R a b → Follows S (next a) (next' b)) :
    Follows S (first >>= next) (second >>= next') := by
  intro c hc
  cases first with
  | error fault => cases hc
  | ok a =>
    obtain ⟨b, rfl, hrel⟩ := h a rfl
    exact hnext a b hrel c hc

end Follows

end Outcomes

/-! ## Trials -/

namespace Trial

variable {α β γ δ : Type} {R : α → β → Prop} {S : γ → δ → Prop}

/-- If a first trial has an answer, so has a second one, and the answers are related. -/
def Follows (R : α → β → Prop) (first : Trial α) (second : Trial β) : Prop :=
  TypeRegistry.Follows R first.value second.value

namespace Follows

theorem pure {a : α} {b : β} (h : R a b) : Follows R (Trial.pure a) (Trial.pure b) :=
  .ok h

theorem ofFault (fault : EvaluationFault) (second : Trial β) :
    Follows R (Trial.ofFault fault) second :=
  .error fault _

theorem of_eq {first second : Trial α} (h : first = second) : Follows Eq first second :=
  TypeRegistry.Follows.of_eq (congrArg Consulted.value h)

theorem ofExcept {first : Except Breakdown α} {second : Except Breakdown β}
    (h : TypeRegistry.Follows R first second) :
    Follows R (Trial.ofExcept first) (Trial.ofExcept second) := by
  cases first with
  | error cause => exact .error _ _
  | ok a =>
    obtain ⟨b, rfl, hrel⟩ := h a rfl
    exact .ok hrel

theorem bind {first : Trial α} {second : Trial β} {next : α → Trial γ} {next' : β → Trial δ}
    (h : Follows R first second) (hnext : ∀ a b, R a b → Follows S (next a) (next' b)) :
    Follows S (first.bind next) (second.bind next') := by
  intro c hc
  obtain ⟨value, asked⟩ := first
  cases value with
  | error fault => cases hc
  | ok a =>
    obtain ⟨b, hb, hrel⟩ := h a rfl
    obtain ⟨value', asked'⟩ := second
    obtain rfl : value' = .ok b := hb
    exact hnext a b hrel c hc

theorem withoutName {first : Trial α} {second : Trial β} (h : Follows R first second) :
    Follows R first.withoutName second.withoutName := by
  intro a ha
  obtain ⟨value, asked⟩ := first
  cases value with
  | error fault => cases fault <;> cases ha
  | ok a' =>
    obtain rfl : a' = a := Except.ok.inj ha
    obtain ⟨b, hb, hrel⟩ := h a' rfl
    obtain ⟨value', asked'⟩ := second
    obtain rfl : value' = .ok b := hb
    exact ⟨b, rfl, hrel⟩

/-- Answers that are joined are the same if each of them is. -/
theorem flatMap {first : α → Trial (List γ)} {second : β → Trial (List γ)} {items : List α}
    {items' : List β}
    (h : List.Forall₂ (fun a b => Follows Eq (first a) (second b)) items items') :
    Follows Eq (Trial.flatMap first items) (Trial.flatMap second items') := by
  induction h with
  | nil => exact .pure rfl
  | cons hhead _ ih =>
    refine bind hhead fun found found' hfound => bind ih fun others others' hothers => ?_
    exact .pure (by rw [hfound, hothers])

/-- Answers on the same items that are joined are the same if each of them is. -/
theorem flatMap_self {first second : α → Trial (List γ)} {items : List α}
    (h : ∀ a ∈ items, Follows Eq (first a) (second a)) :
    Follows Eq (Trial.flatMap first items) (Trial.flatMap second items) :=
  flatMap (List.forall₂_same.2 h)

end Follows

end Trial

/-! ## Traces -/

/-- How the outcome of an evaluation counts: only that nothing is wrong, or that something is wrong
as well. -/
inductive Tone where
  | rising
  | level
deriving DecidableEq

namespace Trace

/-- A trace has no fault at its end and finds nothing if a first one has none and finds nothing;
where both sides count, it also finds something if the first does. -/
structure Follows (tone : Tone) (first second : Trace) : Prop where
  fault : first.fault = none → second.fault = none
  clean : first.IsClean → second.findings = []
  found : tone = .level → first.findings ≠ [] → second.findings ≠ []

theorem findings_append (first second : Trace) :
    (first.append second).findings =
      first.findings ++ (if first.fault = none then second.findings else []) := by
  rw [append]
  split
  next fault hfault => simp [hfault]
  next hfault =>
    simp only [hfault, findings, List.filterMap_append]
    exact rfl

theorem fault_append (first second : Trace) :
    (first.append second).fault = if first.fault = none then second.fault else first.fault := by
  rw [append]
  split
  next fault hfault => simp [hfault]
  next hfault => simp [hfault]

theorem findings_under (step : PathStep) (trace : Trace) :
    (trace.under step).findings = trace.findings.map (·.under step) := by
  rw [under, findings, findings]
  induction trace.events with
  | nil => rfl
  | cons event rest ih => cases event <;> simp_all

/-- What follows a trial with an answer is what comes about with that answer. -/
theorem ofTrial_of_ok {α : Type} {trial : Trial α} {answer : α} (h : trial.value = .ok answer)
    (next : α → Trace) :
    (ofTrial trial next).fault = (next answer).fault ∧
      (ofTrial trial next).findings = (next answer).findings := by
  rw [ofTrial, fault_append, findings_append, h]
  simp [ofAsked, findings]

/-- What follows a trial without an answer is its fault. -/
theorem ofTrial_of_error {α : Type} {trial : Trial α} {fault : EvaluationFault}
    (h : trial.value = .error fault) (next : α → Trace) :
    (ofTrial trial next).fault = some fault ∧ (ofTrial trial next).findings = [] := by
  rw [ofTrial, fault_append, findings_append, h]
  simp [ofAsked, findings, ofFault]

/-! ### Verdicts -/

/-- A trace with a finding has the verdict that something is wrong. -/
theorem verdict_of_found {trace : Trace} (h : trace.findings ≠ []) :
    trace.verdict.value = .ok false := by
  have hevents : ∀ events asked, findings ⟨events, trace.fault⟩ ≠ [] →
      (verdictOf trace.fault asked events).value = .ok false := by
    intro events
    induction events with
    | nil => exact fun _ h => absurd rfl h
    | cons event rest ih =>
      intro asked h
      cases event with
      | found finding => rfl
      | asked id => exact ih _ h
  exact hevents trace.events [] h

/-- A trace without a finding has the verdict that nothing is wrong, or that of its fault. -/
theorem verdict_of_unfound {trace : Trace} (h : trace.findings = []) :
    trace.verdict.value = match trace.fault with
      | some fault => .error fault
      | none => .ok true := by
  have hevents : ∀ events asked, findings ⟨events, trace.fault⟩ = [] →
      (verdictOf trace.fault asked events).value = match trace.fault with
        | some fault => .error fault
        | none => .ok true := by
    intro events
    induction events with
    | nil =>
      intro asked _
      cases hfault : trace.fault with
      | none => rfl
      | some fault => rfl
    | cons event rest ih =>
      intro asked h
      cases event with
      | found finding => exact absurd h (List.cons_ne_nil _ _)
      | asked id => exact ih _ h
  exact hevents trace.events [] h

/-- All findings of a trace are an answer exactly if it has no fault. -/
theorem allFindings_eq_ok_iff {trace : Trace} {findings : List Finding} :
    trace.allFindings.value = .ok findings ↔ trace.fault = none ∧ trace.findings = findings := by
  rw [allFindings]
  split
  next fault hfault => simp [hfault]
  next hfault => simp [hfault]

/-- A list of traces has no fault at its end if none of them has one. -/
theorem fault_inTurn_eq_none_iff {α : Type} {each : α → Trace} {items : List α} :
    (TypeRegistry.inTurn each items).fault = none ↔ ∀ item ∈ items, (each item).fault = none := by
  induction items with
  | nil => simp [TypeRegistry.inTurn]
  | cons item rest ih =>
    rw [inTurn_cons, fault_append, List.forall_mem_cons, ← ih]
    by_cases hitem : (each item).fault = none
    · simp [hitem]
    · simp [hitem]

namespace Follows

variable {tone : Tone} {first second : Trace}

theorem refl (tone : Tone) (trace : Trace) : Follows tone trace trace where
  fault h := h
  clean h := h.2
  found _ h := h

/-- Where both sides count, one side does. -/
theorem of_level (h : Follows .level first second) : Follows tone first second where
  fault := h.fault
  clean := h.clean
  found _ := h.found rfl

theorem isClean (h : Follows tone first second) (hclean : first.IsClean) : second.IsClean :=
  ⟨h.fault hclean.1, h.clean hclean⟩

/-- Anything follows what finds nothing and ends in a fault. -/
theorem of_fault (hfault : first.fault ≠ none) (hfindings : first.findings = []) :
    Follows tone first second where
  fault h := absurd h hfault
  clean h := absurd h.1 hfault
  found _ h := absurd hfindings h

theorem of_breakdown (cause : Breakdown) (second : Trace) :
    Follows tone (ofBreakdown cause) second :=
  of_fault (Option.some_ne_none _) rfl

/-- Where only one side counts, that nothing comes about follows anything. -/
theorem nothing (first : Trace) : Follows .rising first {} where
  fault _ := rfl
  clean _ := rfl
  found htone := by cases htone

/-- Findings follow findings if they are as empty. -/
theorem ofFindings {found found' : List Finding} (h : found = [] ↔ found' = []) :
    Follows tone (.ofFindings found) (.ofFindings found') where
  fault _ := rfl
  clean hclean := by
    rw [findings_ofFindings]
    exact h.1 ((isClean_ofFindings _).1 hclean)
  found _ hfound := by
    rw [findings_ofFindings] at hfound ⊢
    exact fun h' => hfound (h.2 h')

theorem append {third fourth : Trace} (h : Follows tone first second)
    (h' : first.fault = none → Follows tone third fourth) :
    Follows tone (first.append third) (second.append fourth) := by
  constructor
  case fault =>
    intro hfault
    rw [fault_append] at hfault ⊢
    by_cases hfirst : first.fault = none
    · rw [if_pos hfirst] at hfault
      rw [if_pos (h.fault hfirst)]
      exact (h' hfirst).fault hfault
    · rw [if_neg hfirst] at hfault
      exact absurd hfault hfirst
  case clean =>
    intro hclean
    rw [isClean_append] at hclean
    have hsecond := h.isClean hclean.1
    have hfourth := (h' hclean.1.1).clean hclean.2
    rw [findings_append, if_pos hsecond.1, hsecond.2, hfourth]
    rfl
  case found =>
    intro htone hfound
    rw [findings_append] at hfound ⊢
    by_cases hfirst : first.findings = []
    · by_cases hfault : first.fault = none
      · rw [if_pos (h.fault hfault)]
        rw [hfirst, if_pos hfault, List.nil_append] at hfound
        exact List.append_ne_nil_of_right_ne_nil _ ((h' hfault).found htone hfound)
      · rw [hfirst, if_neg hfault] at hfound
        exact absurd rfl hfound
    · exact List.append_ne_nil_of_left_ne_nil (h.found htone hfirst) _

theorem under (step step' : PathStep) (h : Follows tone first second) :
    Follows tone (first.under step) (second.under step') where
  fault := h.fault
  clean hclean := by
    rw [isClean_under] at hclean
    rw [findings_under, h.clean hclean, List.map_nil]
  found htone hfound := by
    rw [findings_under, Ne, List.map_eq_nil_iff] at hfound ⊢
    exact h.found htone hfound

theorem ofExcept {α β : Type} {R : α → β → Prop} {value : Except Breakdown α}
    {value' : Except Breakdown β} {next : α → Trace} {next' : β → Trace}
    (h : TypeRegistry.Follows R value value')
    (hnext : ∀ a b, R a b → Follows tone (next a) (next' b)) :
    Follows tone (.ofExcept value next) (.ofExcept value' next') := by
  cases value with
  | error cause => exact of_breakdown cause _
  | ok a =>
    obtain ⟨b, rfl, hrel⟩ := h a rfl
    exact hnext a b hrel

theorem ofTrial {α β : Type} {R : α → β → Prop} {trial : Trial α} {trial' : Trial β}
    {next : α → Trace} {next' : β → Trace} (h : Trial.Follows R trial trial')
    (hnext : ∀ a b, R a b → Follows tone (next a) (next' b)) :
    Follows tone (.ofTrial trial next) (.ofTrial trial' next') := by
  cases hvalue : trial.value with
  | error fault =>
    obtain ⟨hfault, hfindings⟩ := ofTrial_of_error hvalue next
    exact of_fault (by simp [hfault]) hfindings
  | ok a =>
    obtain ⟨b, hvalue', hrel⟩ := h a hvalue
    obtain ⟨hfault, hfindings⟩ := ofTrial_of_ok hvalue next
    obtain ⟨hfault', hfindings'⟩ := ofTrial_of_ok hvalue' next'
    have hfollows := hnext a b hrel
    constructor
    · rw [hfault, hfault']
      exact hfollows.fault
    · rw [IsClean, hfault, hfindings, hfindings']
      exact hfollows.clean
    · rw [hfindings, hfindings']
      exact hfollows.found

/-- Traces one after the other follow others that they follow one by one. -/
theorem inTurn {α β : Type} {each : α → Trace} {each' : β → Trace} {items : List α}
    {items' : List β}
    (h : List.Forall₂ (fun a b => Follows tone (each a) (each' b)) items items') :
    Follows tone (inTurn each items) (inTurn each' items') := by
  induction h with
  | nil => exact refl tone {}
  | cons hhead _ ih =>
    rw [inTurn_cons, inTurn_cons]
    exact hhead.append fun _ => ih

theorem inTurn_self {α : Type} {each each' : α → Trace} {items : List α}
    (h : ∀ a ∈ items, Follows tone (each a) (each' a)) :
    Follows tone (TypeRegistry.inTurn each items) (TypeRegistry.inTurn each' items) :=
  inTurn (List.forall₂_same.2 h)

/-- Where only one side counts, it is enough that each of some traces finds nothing or follows one
of the others. -/
theorem inTurn_rising {α β : Type} {each : α → Trace} {each' : β → Trace} {items : List α}
    {items' : List β}
    (h : ∀ b ∈ items', (each' b).IsClean ∨ ∃ a ∈ items, Follows .rising (each a) (each' b)) :
    Follows .rising (TypeRegistry.inTurn each items) (TypeRegistry.inTurn each' items') where
  fault hfault := by
    rw [fault_inTurn_eq_none_iff] at hfault ⊢
    intro b hb
    rcases h b hb with hclean | ⟨a, ha, hfollows⟩
    · exact hclean.1
    · exact hfollows.fault (hfault a ha)
  clean hclean := by
    rw [isClean_inTurn] at hclean
    refine ((isClean_inTurn each' items').2 fun b hb => ?_).2
    rcases h b hb with hclean' | ⟨a, ha, hfollows⟩
    · exact hclean'
    · exact hfollows.isClean (hclean a ha)
  found htone := by cases htone

/-- Where both sides count, the verdict is the same. -/
theorem verdict (h : Follows .level first second) :
    Trial.Follows Eq first.verdict second.verdict := by
  intro isValid hvalid
  by_cases hfound : first.findings = []
  · rw [verdict_of_unfound hfound] at hvalid
    cases hfault : first.fault with
    | some fault =>
      rw [hfault] at hvalid
      cases hvalid
    | none =>
      rw [hfault] at hvalid
      obtain rfl := Except.ok.inj hvalid
      refine ⟨true, ?_, rfl⟩
      rw [verdict_of_unfound (h.clean ⟨hfault, hfound⟩), h.fault hfault]
  · rw [verdict_of_found hfound] at hvalid
    obtain rfl := Except.ok.inj hvalid
    exact ⟨false, verdict_of_found (h.found rfl hfound), rfl⟩

/-- If nothing is found, nothing is found; where both sides count, exactly then. -/
theorem allFindings (h : Follows tone first second) :
    Trial.Follows
      (fun found found' => (found = [] → found' = []) ∧ (tone = .level → found ≠ [] → found' ≠ []))
      first.allFindings second.allFindings := by
  intro found hfound
  obtain ⟨hfault, rfl⟩ := allFindings_eq_ok_iff.1 hfound
  refine ⟨second.findings, allFindings_eq_ok_iff.2 ⟨h.fault hfault, rfl⟩, ?_, h.found⟩
  exact fun hnone => h.clean ⟨hfault, hnone⟩

end Follows

end Trace

end TypeRegistry
