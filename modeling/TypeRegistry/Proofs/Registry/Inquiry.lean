import TypeRegistry.Proofs.Registry.Session
import TypeRegistry.Proofs.Store.View

/-!
# Inquiries leave no trace

An inquiry makes the store of a registry take in what was looked up.  Lists and queries show what
the store holds, and so they show that; the replies to all other inquiries do not change.  A session
may therefore be interspersed with inquiries at will.

Main results:

- Definition `Registry.Step`: a call to the store, or a request to the registry.
- Theorem `consult_congr`: registries whose stores are seen alike reply alike.
- Theorem `after_seenAlike`: sessions with the same changes leave stores that are seen alike.
- Theorem `layered_session`: what a registry over a list of entities holds and replies after any
  session.
-/

namespace TypeRegistry

open Dictionary

/-- Whether an inquiry shows which entities the store holds of those that it knows. -/
def Inquiry.showsHeld : Inquiry → Bool
  | .list _ => true
  | .query _ _ => true
  | _ => false

namespace Registry

/-- Registries with stores that are seen alike reply alike. -/
theorem consult_congr (registry : Registry) {first second : Store} (h : first.SeenAlike second)
    {inquiry : Inquiry} (hinquiry : inquiry.showsHeld = false) :
    (registry.withStore first).consult inquiry = (registry.withStore second).consult inquiry := by
  cases inquiry with
  | validateId id => rfl
  | parseId id => rfl
  | uuid id => rfl
  | matchId candidate pattern => rfl
  | extractId content => rfl
  | list limit => cases hinquiry
  | query expression limit => cases hinquiry
  | entity id => simp only [consult, withStore, h.lookup]
  | select selector => simp only [consult, withStore, h.ofSelector]
  | graph id => simp only [consult, withStore, h.relationGraph]
  | validateInstance id => simp only [consult, withStore, h.validateInstance]
  | validateSchema id => simp only [consult, withStore, h.validateSchema]
  | compare oldId newId => simp only [consult, withStore, h.lookup]
  | cast instanceId targetId => simp only [consult, withStore, h.castInstance]

/-! ## Sessions -/

/-- A step of a session: a call to the store itself, or a request to the registry. -/
inductive Step where
  | toStore (call : Store.Call)
  | toRegistry (request : Request)

/-- The registry after a step. -/
def step (registry : Registry) : Step → Registry
  | .toStore call => registry.withStore (registry.store.perform call)
  | .toRegistry request => (registry.answer request).2

/-- The registry after several steps. -/
def after (registry : Registry) (session : List Step) : Registry :=
  session.foldl step registry

/-- Whether a step may do more than look up. -/
def Step.isChange : Step → Bool
  | .toStore (.get _) => false
  | .toStore _ => true
  | .toRegistry (.ask _) => false
  | .toRegistry _ => true

/-- The calls by which a step changes the store. -/
def Step.changes (names : FieldNames) : Step → List Store.Call
  | .toStore (.get _) => []
  | .toStore call => [call]
  | .toRegistry request => request.changes names

/-- A step that only looks up makes no change. -/
theorem Step.changes_eq_nil {step : Step} (h : step.isChange = false) (names : FieldNames) :
    step.changes names = [] := by
  cases step with
  | toStore call =>
    cases call with
    | get id => rfl
    | register entity checks => cases h
    | registerSchema typeId schema => cases h
    | reload => cases h
  | toRegistry request =>
    cases request with
    | ask inquiry => rfl
    | addEntity content validates => cases h
    | addEntities contents => cases h
    | addSchema typeId schema => cases h
    | reload => cases h

/-- A step does to the store what its changes do, after which something may be taken in. -/
theorem step_eq (registry : Registry) (step : Step) :
    ∃ ids, registry.step step = registry.withStore
      ((registry.store.run (step.changes registry.names)).takeInAll ids) := by
  cases step with
  | toStore call =>
    cases call with
    | get id => exact ⟨[id], rfl⟩
    | register entity checks => exact ⟨[], rfl⟩
    | registerSchema typeId schema => exact ⟨[], rfl⟩
    | reload => exact ⟨[], rfl⟩
  | toRegistry request => exact registry.answer_eq request

/-- After a step stores are seen alike as after its changes. -/
theorem step_seenAlike (registry : Registry) {first second : Store}
    (h : first.SeenAlike second) (step : Step) :
    ∃ later, (registry.withStore first).step step = registry.withStore later ∧
      later.SeenAlike (second.run (step.changes registry.names)) := by
  obtain ⟨ids, hstep⟩ := (registry.withStore first).step_eq step
  have hrun := h.run (step.changes registry.names)
  have htaken := Store.SeenAlike.takeInAll hrun.nodupFirst ids
  exact ⟨_, hstep, htaken.symm.trans hrun⟩

/-- After a session stores are seen alike as after the changes among its steps. -/
theorem after_seenAlike (registry : Registry) {first second : Store}
    (h : first.SeenAlike second) (session : List Step) :
    ∃ later, (registry.withStore first).after session = registry.withStore later ∧
      later.SeenAlike
        (second.run ((session.filter Step.isChange).flatMap (Step.changes registry.names))) := by
  induction session generalizing first second with
  | nil => exact ⟨first, rfl, h⟩
  | cons step rest ih =>
    obtain ⟨middle, hstep, hmiddle⟩ := registry.step_seenAlike h step
    obtain ⟨later, hafter, hlater⟩ := ih hmiddle
    refine ⟨later, ?_, ?_⟩
    · rw [after, List.foldl_cons, hstep]
      exact hafter
    · rw [← Store.run_append] at hlater
      cases hchange : step.isChange with
      | true => rwa [List.filter_cons_of_pos hchange, List.flatMap_cons]
      | false =>
        rw [Step.changes_eq_nil hchange, List.nil_append] at hlater
        rwa [List.filter_cons_of_neg (by simp [hchange])]

/-- Two sessions that make the same changes are not told apart by a later inquiry, whatever was
looked up in between. -/
theorem reply_after_congr (registry : Registry) (h : (keys registry.store.entries).Nodup)
    {session other : List Step}
    (hchanges : session.filter Step.isChange = other.filter Step.isChange) {inquiry : Inquiry}
    (hinquiry : inquiry.showsHeld = false) :
    ((registry.after session).answer (.ask inquiry)).1 =
      ((registry.after other).answer (.ask inquiry)).1 := by
  have hstart := Store.SeenAlike.refl h
  obtain ⟨first, hfirst, hseen⟩ := registry.after_seenAlike hstart session
  obtain ⟨second, hsecond, hseen'⟩ := registry.after_seenAlike hstart other
  rw [hchanges] at hseen
  have halike := hseen.trans hseen'.symm
  rw [withStore_self] at hfirst hsecond
  rw [hfirst, hsecond]
  exact congrArg Consulted.value (registry.consult_congr halike hinquiry)

/-- A registry over a list of entities, whose reader has answered some requests before.

- After any calls to the store every entity is held under its own identifier.
- An identifier leads to the entity that was registered last under it since everything was last
  dropped, else to the last entity of the list that has it, else to none.
- A store that was just read anew holds every identifier of the list once, in the order in which
  they first occur, and under each the last entity that has it.
- Sessions that make the same changes are not told apart by a later inquiry, whichever inquiries
  they are interspersed with. -/
theorem layered_session (settings : Settings) (names : FieldNames) (entities : List Entity)
    (requests : Nat) (checks : Bool) :
    (∀ calls,
      (∀ entry ∈ ((Store.overList entities requests checks).run calls).entries,
        entry.2.idText = some entry.1) ∧
      (∀ id, ((Store.overList entities requests checks).run calls).lookup? id =
        (latest? id ((Store.overList entities requests checks).history calls)).or
          (lastWith id entities)) ∧
      keys ((Store.overList entities requests checks).run (calls ++ [.reload])).entries =
        Text.distinct (entities.filterMap (·.idText)) ∧
      (keys ((Store.overList entities requests checks).run (calls ++ [.reload])).entries).Nodup ∧
      ∀ id entity, (id, entity) ∈
          ((Store.overList entities requests checks).run (calls ++ [.reload])).entries ↔
        lastWith id entities = some entity) ∧
    ∀ session other inquiry, session.filter Step.isChange = other.filter Step.isChange →
      inquiry.showsHeld = false →
      ((after ⟨settings, names, Store.overList entities requests checks⟩ session).answer
          (.ask inquiry)).1 =
        ((after ⟨settings, names, Store.overList entities requests checks⟩ other).answer
          (.ask inquiry)).1 := by
  refine ⟨Store.overList_run entities requests checks, ?_⟩
  intro session other inquiry hchanges hinquiry
  exact reply_after_congr _ (Store.nodup_keys_overList entities requests checks) hchanges hinquiry

end Registry

/-- A thing and a gift that refers to it. -/
def thingAndGift : List Entity :=
  [.ofContent {} none (.obj [("id", .str "gts.acme.shop.base.thing.v1~")]),
    .ofContent {} none (.obj [("id", .str "gts.acme.shop.base.thing.v1~acme.shop.base.gift.v1"),
      ("of", .str "gts.acme.shop.base.thing.v1~")])]

/-- A registry over the two, whose reader has handed out the thing before. -/
def giftRegistry : Registry :=
  ⟨{}, {}, Store.overList thingAndGift 1 false⟩

/-- A session in which the thing is asked for and a schema is added. -/
def giftSession : List Registry.Step :=
  [.toRegistry (.ask (.entity "gts.acme.shop.base.thing.v1~")),
    .toStore (.registerSchema "gts.acme.shop.cart.item.v1~" (.obj []))]

/-- The registry holds the thing only where it was asked for, and shows the same graph of the gift
in either case. -/
theorem layered_session_giftSession :
    keys (giftRegistry.after giftSession).store.entries =
      ["gts.acme.shop.base.thing.v1~acme.shop.base.gift.v1", "gts.acme.shop.base.thing.v1~",
        "gts.acme.shop.cart.item.v1~"] ∧
    keys (giftRegistry.after (giftSession.drop 1)).store.entries =
      ["gts.acme.shop.base.thing.v1~acme.shop.base.gift.v1", "gts.acme.shop.cart.item.v1~"] ∧
    ((giftRegistry.after giftSession).answer
        (.ask (.graph "gts.acme.shop.base.thing.v1~acme.shop.base.gift.v1"))).1 =
      ((giftRegistry.after (giftSession.drop 1)).answer
        (.ask (.graph "gts.acme.shop.base.thing.v1~acme.shop.base.gift.v1"))).1 := by
  refine ⟨by decide +kernel, by decide +kernel, ?_⟩
  have hsessions := (Registry.layered_session {} {} thingAndGift 1 false).2
  exact hsessions giftSession (giftSession.drop 1) _ rfl rfl

end TypeRegistry
