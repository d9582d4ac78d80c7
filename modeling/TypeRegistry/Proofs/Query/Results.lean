import TypeRegistry.Proofs.Entity.Governing
import TypeRegistry.Proofs.Store.References
import TypeRegistry.Registry.Request

/-!
# Results of queries

The results of a query are the first of what it finds, and what it finds can be told entity by
entity: it has an identifier, which the base of the query matches as one text matches another, and
content that passes the filters.  The search works on segments that were read when the entity came
in; they are what is read again of the text of the identifier.

Main results:

- Definition `Store.HasReadIds`: stores whose identifiers were read off texts, as those of documents
  are.
- Theorem `Identifier.parse_text`: an identifier is read again of its text.
- Theorem `Store.query_cases`: a query has a fault, or the first of its selection as results.
- Theorem `Query.selects_eq_finds`: the search finds what a match of texts finds.
- Theorem `Store.query_filters_then_takes`: results are what is found, up to the limit; smaller
  limits give the first of the results of greater ones.
-/

namespace TypeRegistry

open Dictionary

/-! ## Identifiers that were read -/

/-- An identifier is read again of its text. -/
theorem Identifier.parse_text {given : String} {id : Identifier}
    (h : Identifier.parse given = .ok id) : Identifier.parse id.text = .ok id := by
  obtain ⟨hlower, hhyphen, hlead, hshort, hchain, segments, hsegments, htyped, rfl⟩ :=
    read_eq_ok_iff.1 h
  refine read_eq_ok_iff.2 ?_
  rw [Text.toList_trim, Text.trimBlanks_trimBlanks, Text.trim_trim]
  exact ⟨hlower, hhyphen, hlead, hshort, hchain, segments, hsegments, htyped, rfl⟩

/-- The identifier of an entity, if it has one, was read off a text. -/
def Entity.HasReadId (entity : Entity) : Prop :=
  ∀ id, entity.id = some id → ∃ given, Identifier.parse given = .ok id

/-- The identifier of a document is read off it. -/
theorem Entity.hasReadId_ofContent (names : FieldNames) (origin : Option Origin)
    (document : Json) : (ofContent names origin document).HasReadId := by
  intro id hid
  obtain ⟨-, -, hread, -⟩ := exists_field_of_id hid
  exact ⟨id.text, hread⟩

namespace Store

/-- All identifiers in a store were read off texts. -/
def HasReadIds (store : Store) : Prop :=
  ∀ entry ∈ store.entries, entry.2.HasReadId

/-- The identifier of a document, and that of a raw schema, was read off a text. -/
theorem IsReadOrRaw.hasReadId {entity : Entity} (h : IsReadOrRaw entity) : entity.HasReadId := by
  rcases h with ⟨names, origin, document, rfl⟩ | ⟨typeId, identifier, schema, hparse, rfl⟩
  · exact Entity.hasReadId_ofContent names origin document
  · intro id hid
    obtain rfl := Option.some.inj hid
    exact ⟨typeId, hparse⟩

/-- All identifiers in a store of documents were read off texts. -/
theorem IsOfDocuments.hasReadIds {store : Store} (h : store.IsOfDocuments) : store.HasReadIds := by
  have hnodup : (keys store.entries).Nodup := by
    obtain ⟨reader, checks, calls, rfl, -, -⟩ := h
    refine nodup_keys_run ?_ calls
    rw [ofReader_entries]
    cases reader with
    | none => exact List.nodup_nil
    | some reader => exact nodup_keys_foldl_hold List.nodup_nil
  intro entry hentry
  have hfound : store.lookup? entry.1 = some entry.2 := by
    rw [lookup?_eq, (find?_eq_some_iff_mem hnodup).2 hentry, Option.some_or]
  exact (h.of_lookup? hfound).2.hasReadId

end Store

/-! ## What a query finds -/

/-- Whether a query finds an entity: the base of the query matches the text of its identifier, and
it has content, which passes the filters. -/
def Query.finds (query : Query) (entity : Entity) : Bool :=
  match entity.idText with
  | some id =>
    entity.content.isInhabited && (MatchReport.ofTexts id query.base).isMatch &&
      filtersAccept query.filters entity.content.members
  | none => false

/-- The contents of all entities that a query finds, in store order. -/
def Store.found (store : Store) (query : Query) : List Json :=
  (store.entries.filter fun entry => query.finds entry.2).map (·.2.content)

/-- The pattern of a query is the one that its base spells. -/
theorem Query.parse_of_pattern {base : String} {pattern : Pattern}
    (h : Query.pattern base = .ok pattern) : Pattern.parse base = .ok pattern := by
  simp only [Query.pattern] at h
  cases hbase : Pattern.parse base with
  | error fault =>
    rw [hbase] at h
    split at h
    · split at h <;> cases h
    · split at h <;> cases h
  | ok p =>
    have hok : (Except.ok p : Except QueryFault Pattern) = .ok pattern := by
      rw [hbase] at h
      split at h
      · split at h
        · exact h
        · cases h
      · split at h
        · cases h
        · exact h
    rw [Except.ok.inj hok]

/-- What the search selects by segments is what a match of texts finds. -/
theorem Query.selects_eq_finds {query : Query} {pattern : Pattern}
    (hpattern : Query.pattern query.base = .ok pattern) {entity : Entity}
    (hread : entity.HasReadId) : query.selects pattern entity = query.finds entity := by
  rw [selects, finds, Entity.idText]
  cases hid : entity.id with
  | none => rfl
  | some id =>
    obtain ⟨given, hgiven⟩ := hread id hid
    have hmatch : (MatchReport.ofTexts id.text query.base).isMatch =
        pattern.matchesIdentifier id := by
      simp only [MatchReport.ofTexts, Identifier.parse_text hgiven, Query.parse_of_pattern hpattern]
    simp only [Option.map_some, hmatch]

/-- Every fault has a wording. -/
theorem QueryFault.message_ne_empty (fault : QueryFault) : fault.message ≠ "" := by
  have hlead (s : String) : "Invalid query: " ++ s ≠ "" := fun hempty =>
    absurd (String.append_eq_empty_iff.1 hempty).1 (by decide)
  cases fault with
  | bracketMissing | filtersOnTypes | misplacedWildcard => decide +kernel
  | identifier fault => exact hlead fault.message
  | pattern fault => exact hlead fault.message

namespace Store

variable {store : Store} {allow : Bool} {expression : String}

/-- A text is no query, or has no pattern at its base, and then it has a fault; or it selects, and
then its results are the first of its selection. -/
theorem query_cases (store : Store) (allow : Bool) (expression : String) :
    ((∀ query pattern, Query.parse allow expression = .ok query →
        Query.pattern query.base ≠ .ok pattern) ∧
      ∃ fault, ∀ limit, (store.query allow expression limit).outcome = .error fault) ∨
    ∃ query pattern, Query.parse allow expression = .ok query ∧
      Query.pattern query.base = .ok pattern ∧
      ∀ limit, (store.query allow expression limit).outcome =
        .ok ((store.selection query pattern).take (QueryResults.limitFor limit)) := by
  cases hquery : Query.parse allow expression with
  | error fault => exact .inl ⟨nofun, fault, fun limit => by rw [Store.query, hquery]⟩
  | ok query =>
    cases hpattern : Query.pattern query.base with
    | error fault =>
      refine .inl ⟨?_, fault, fun limit => by simp only [Store.query, hquery, hpattern]⟩
      intro other pattern hother hsome
      obtain rfl := Except.ok.inj hother
      rw [hpattern] at hsome
      cases hsome
    | ok pattern =>
      exact .inr ⟨query, pattern, rfl, hpattern, fun limit => by
        simp only [Store.query, hquery, hpattern, collect_entries]⟩

/-- The results of a query are the first of what it finds. -/
theorem contents_query (hread : store.HasReadIds) {query : Query} {pattern : Pattern}
    (hquery : Query.parse allow expression = .ok query)
    (hpattern : Query.pattern query.base = .ok pattern) (limit : Int) :
    (store.query allow expression limit).outcome =
      .ok ((store.found query).take (QueryResults.limitFor limit)) := by
  have hfound : store.selection query pattern = store.found query := by
    rw [selection, found]
    congr 1
    exact List.filter_congr fun entry hentry =>
      Query.selects_eq_finds hpattern (hread entry hentry)
  rcases store.query_cases allow expression with
    ⟨hnone, -⟩ | ⟨other, spelled, hother, hspelled, houtcome⟩
  · exact absurd hpattern (hnone query pattern hquery)
  · obtain rfl := Except.ok.inj (hquery.symm.trans hother)
    obtain rfl := Except.ok.inj (hpattern.symm.trans hspelled)
    rw [houtcome, hfound]

/-- There are not more results than the limit allows. -/
theorem length_contents_le (store : Store) (allow : Bool) (expression : String) (limit : Int) :
    (store.query allow expression limit).contents.length ≤ QueryResults.limitFor limit := by
  rw [QueryResults.contents]
  rcases store.query_cases allow expression with ⟨-, fault, hfault⟩ | ⟨_, _, -, -, houtcome⟩
  · rw [hfault]
    exact Nat.zero_le _
  · rw [houtcome]
    exact List.length_take_le _ _

/-- A smaller limit gives the first of the results of a greater one. -/
theorem contents_prefix (store : Store) (allow : Bool) (expression : String) {few many : Int}
    (hfew : 0 < few) (hmany : few ≤ many) :
    (store.query allow expression few).contents <+:
      (store.query allow expression many).contents := by
  have hlimit : QueryResults.limitFor few ≤ QueryResults.limitFor many := by
    rw [QueryResults.limitFor, QueryResults.limitFor, if_neg (by omega), if_neg (by omega)]
    omega
  rcases store.query_cases allow expression with ⟨-, fault, hfault⟩ | ⟨_, _, -, -, houtcome⟩
  · have hnone : (store.query allow expression few).contents = [] := by
      rw [QueryResults.contents, hfault]
    rw [hnone]
    exact List.nil_prefix
  · rw [QueryResults.contents, QueryResults.contents, houtcome, houtcome]
    exact List.take_prefix_take_left hlimit

/-- All results pass the filters of the query. -/
theorem filtersAccept_of_mem_contents {query : Query}
    (hquery : Query.parse allow expression = .ok query) {limit : Int} {content : Json}
    (h : content ∈ (store.query allow expression limit).contents) :
    filtersAccept query.filters content.members = true := by
  rw [QueryResults.contents] at h
  rcases store.query_cases allow expression with
    ⟨-, fault, hfault⟩ | ⟨other, pattern, hother, -, houtcome⟩
  · rw [hfault] at h
    cases h
  · obtain rfl := Except.ok.inj (hquery.symm.trans hother)
    rw [houtcome] at h
    obtain ⟨entry, hentry, rfl⟩ := List.mem_map.1 (List.mem_of_mem_take h)
    have hselects := (List.mem_filter.1 hentry).2
    rw [Query.selects] at hselects
    split at hselects
    · exact (Bool.and_eq_true_iff.1 hselects).2
    · cases hselects

/-! ## The main statement -/

/-- A query filters, then takes.  Of an expression that is a query with a pattern at its base the
results are the contents of the first entities that it finds, in store order, and there is no
problem; of any other expression there are no results, and there is a problem.  Smaller limits give
the first of the results of greater ones, and a registry never gives more than its settings
grant. -/
theorem query_filters_then_takes (store : Store) (hread : store.HasReadIds) (allow : Bool)
    (expression : String) :
    (∀ query pattern, Query.parse allow expression = .ok query →
      Query.pattern query.base = .ok pattern → ∀ limit,
        (store.query allow expression limit).problem = "" ∧
        (store.query allow expression limit).contents =
          (store.found query).take (if 0 < limit then limit.toNat else 100)) ∧
    ((∀ query pattern, Query.parse allow expression = .ok query →
      Query.pattern query.base ≠ .ok pattern) → ∀ limit,
        (store.query allow expression limit).problem ≠ "" ∧
        (store.query allow expression limit).contents = []) ∧
    (∀ limit, Json.get? "count" (store.query allow expression limit).toJson =
      some (.int (store.query allow expression limit).contents.length)) ∧
    (∀ few many, 0 < few → few ≤ many →
      (store.query allow expression few).contents <+:
        (store.query allow expression many).contents) ∧
    ∀ settings names asked, ∃ results,
      Registry.consult ⟨settings, names, store⟩ (.query expression asked) =
        .pure (.results results) ∧
      (results.contents.length : Int) ≤ max 1 settings.greatestLimit := by
  refine ⟨?_, ?_, fun limit => rfl, fun few many => contents_prefix store allow expression, ?_⟩
  · intro query pattern hquery hpattern limit
    have houtcome := contents_query hread hquery hpattern limit
    have hlimit : QueryResults.limitFor limit = if 0 < limit then limit.toNat else 100 := by
      rw [QueryResults.limitFor, QueryResults.defaultLimit]
      split <;> split <;> omega
    rw [QueryResults.problem, QueryResults.contents, houtcome, hlimit]
    exact ⟨rfl, rfl⟩
  · intro hnone limit
    rcases store.query_cases allow expression with
      ⟨-, fault, hfault⟩ | ⟨query, pattern, hquery, hpattern, -⟩
    · rw [QueryResults.problem, QueryResults.contents, hfault]
      exact ⟨fault.message_ne_empty, rfl⟩
    · exact absurd hpattern (hnone query pattern hquery)
  · intro settings names asked
    refine ⟨store.query settings.allowsTypeFilters expression (settings.clamp asked), rfl, ?_⟩
    have hlength := length_contents_le store settings.allowsTypeFilters expression
      (settings.clamp asked)
    have hclamp : settings.clamp asked =
        max 1 (min (asked.getD settings.usualLimit) settings.greatestLimit) := rfl
    rw [QueryResults.limitFor, if_neg (by omega)] at hlength
    omega

end Store

/-- A cart of the shop with a status. -/
def cartOf (id status : String) : Json :=
  .obj [("id", .str id), ("status", .str status)]

/-- Two active carts and one that is closed. -/
def carts : List Json :=
  [cartOf "gts.acme.shop.cart.item.v1~acme.shop.cart.first.v1" "active",
    cartOf "gts.acme.shop.cart.item.v1~acme.shop.cart.second.v1" "closed",
    cartOf "gts.acme.shop.cart.item.v1~acme.shop.cart.third.v1" "active"]

/-- A store in which the carts are registered. -/
def cartStore : Store :=
  (Store.ofReader none false).run (carts.map .ofDocument)

/-- The identifiers that documents have under the name `id`. -/
def idsOf (documents : List Json) : List (Option String) :=
  documents.map fun document => Json.getString? "id" document.members

/-- Of two active carts the first is the only result if there is room for one. -/
theorem query_filters_then_takes_carts :
    cartStore.HasReadIds ∧
    (cartStore.query false "gts.acme.shop.cart.*[status=active]" 1).problem = "" ∧
    idsOf (cartStore.query false "gts.acme.shop.cart.*[status=active]" 1).contents =
      [some "gts.acme.shop.cart.item.v1~acme.shop.cart.first.v1"] ∧
    (cartStore.query false "gts.acme.shop.cart.*[status=active]" 1).contents <+:
      (cartStore.query false "gts.acme.shop.cart.*[status=active]" 2).contents ∧
    (cartStore.query false "gts.acme.shop*" 1).problem ≠ "" := by
  have hread : cartStore.HasReadIds :=
    (Store.isOfDocuments_run_ofDocument false carts).hasReadIds
  obtain ⟨hfound, -, -, hprefix, -⟩ := Store.query_filters_then_takes cartStore hread false
    "gts.acme.shop.cart.*[status=active]"
  obtain ⟨-, hnone, -⟩ := Store.query_filters_then_takes cartStore hread false "gts.acme.shop*"
  have hquery : Query.parse false "gts.acme.shop.cart.*[status=active]" =
      .ok ⟨"gts.acme.shop.cart.*", [("status", "active")]⟩ := by
    rfl
  obtain ⟨pattern, hpattern⟩ : ∃ pattern, Query.pattern "gts.acme.shop.cart.*" = .ok pattern :=
    ⟨_, rfl⟩
  obtain ⟨hproblem, hcontents⟩ := hfound _ pattern hquery hpattern 1
  have hactive : idsOf (cartStore.found ⟨"gts.acme.shop.cart.*", [("status", "active")]⟩) =
      [some "gts.acme.shop.cart.item.v1~acme.shop.cart.first.v1",
        some "gts.acme.shop.cart.item.v1~acme.shop.cart.third.v1"] := by
    decide +kernel
  have hfirst : idsOf (cartStore.query false "gts.acme.shop.cart.*[status=active]" 1).contents =
      [some "gts.acme.shop.cart.item.v1~acme.shop.cart.first.v1"] := by
    rw [idsOf, hcontents, List.map_take, ← idsOf, hactive]
    rfl
  refine ⟨hread, hproblem, hfirst, hprefix 1 2 (by decide) (by decide), ?_⟩
  have hmisplaced : Query.pattern "gts.acme.shop*" = .error .misplacedWildcard := by rfl
  have hparsed : Query.parse false "gts.acme.shop*" = .ok ⟨"gts.acme.shop*", []⟩ := by rfl
  refine (hnone (fun query pattern hquery hpattern => ?_) 1).1
  obtain rfl := Except.ok.inj (hparsed.symm.trans hquery)
  rw [hmisplaced] at hpattern
  cases hpattern

end TypeRegistry
