import TypeRegistry.Proofs.Query.Results
import TypeRegistry.Proofs.Text.Cutting
import TypeRegistry.Proofs.Text.Trimming

/-!
# Filters of queries

The block of filters is read part by part.  A part with an equals sign writes a filter, a part
without one writes none, and of several parts that write a filter for one key the last counts.  So
filters that are written one behind the other, their values in double quotes, are read back as they
are, whatever brackets, equals signs, blanks and inner quotes the values hold; and what a block
says otherwise is what its last parts for each key say.

Main results:

- Definitions `Query.Writes`, `Query.IsLastWritten`: the filter that a part writes, and the filters
  that count in a block.
- Definitions `Query.text`, `Query.IsWritable`: queries as they are written, and the filters that
  can be written so.
- Theorem `Query.filters_read_back`: written filters are read back.
- Theorem `Query.parse_of_block`: the faults of a block, and what its parts say if it has none.
- Theorem `Query.parts_passed_over`: parts that say something are passed over.
-/

namespace TypeRegistry

open Dictionary

namespace Query

/-! ## Parts of a block -/

/-- A part of a block writes a filter: the key stands before its first equals sign and the value
behind it.  Blanks around both and quotes around the value do not belong to them. -/
def Writes (part : List Char) (key value : String) : Prop :=
  ∃ name text, Text.trimBlanks part = name ++ '=' :: text ∧ '=' ∉ name ∧
    key = String.ofList (Text.trimBlanks name) ∧
    value = String.ofList (Text.trimWhere isQuote (Text.trimBlanks text))

/-- A filter is read off the parts that write it. -/
theorem filterOfPart?_eq_some_iff {part : List Char} {key value : String} :
    filterOfPart? part = some (key, value) ↔ Writes part key value := by
  rw [filterOfPart?, Option.map_eq_some_iff]
  constructor
  · rintro ⟨⟨name, text⟩, hcut, heq⟩
    obtain ⟨rfl, rfl⟩ := Prod.mk.inj heq
    obtain ⟨hpart, hname⟩ := Text.cutAt?_eq_some hcut
    exact ⟨name, text, hpart, hname, rfl, rfl⟩
  · rintro ⟨name, text, hpart, hname, rfl, rfl⟩
    exact ⟨(name, text), by rw [hpart, Text.cutAt?_append hname], rfl⟩

/-- No filter is read off a part without an equals sign. -/
theorem filterOfPart?_eq_none_iff {part : List Char} :
    filterOfPart? part = none ↔ '=' ∉ part := by
  rw [filterOfPart?, Option.map_eq_none_iff, Text.cutAt?_eq_none_iff,
    Text.mem_trimBlanks_iff (by decide)]

/-- A part writes a filter if it has an equals sign. -/
theorem exists_writes_iff {part : List Char} :
    (∃ key value, Writes part key value) ↔ '=' ∈ part := by
  rw [← not_iff_not, ← filterOfPart?_eq_none_iff, Option.eq_none_iff_forall_ne_some]
  simp only [not_exists, ← filterOfPart?_eq_some_iff, Prod.forall, ne_eq]

/-- A blank before a block does not belong to its first part. -/
theorem filterMap_splitOn_cons {c : Char} (hblank : Text.isBlank c = true) (hcomma : c ≠ ',')
    (block : List Char) :
    (Text.splitOn ',' (c :: block)).filterMap filterOfPart? =
      (Text.splitOn ',' block).filterMap filterOfPart? := by
  obtain ⟨first, others, hblock⟩ := List.exists_cons_of_ne_nil (Text.splitOn_ne_nil ',' block)
  have hfirst : filterOfPart? (c :: first) = filterOfPart? first := by
    rw [filterOfPart?, filterOfPart?, Text.trimBlanks, Text.trimWhere_cons hblank,
      ← Text.trimBlanks]
  simp only [Text.splitOn, if_neg hcomma, hblock, List.filterMap_cons, hfirst]

/-! ## Bases and blocks -/

/-- A base asks for types, by its end. -/
def IsOnTypes (base : String) : Prop :=
  Text.endsWith "~" base = true ∨ Text.endsWith "~*" base = true

instance (base : String) : Decidable (IsOnTypes base) :=
  inferInstanceAs (Decidable (_ ∨ _))

section Reading

variable {expression : String} {lead rest : List Char}

/-- A block that is not closed is at fault. -/
theorem parse_of_open (hcut : Text.cutAt? '[' expression.toList = some (lead, rest))
    (hopen : (Text.trimBlanks rest).getLast? ≠ some ']') (allow : Bool) :
    parse allow expression = .error .bracketMissing := by
  simp only [parse, hcut, if_pos hopen]

/-- A closed block on a base for types is at fault unless it is allowed. -/
theorem parse_of_onTypes (hcut : Text.cutAt? '[' expression.toList = some (lead, rest))
    (hclosed : (Text.trimBlanks rest).getLast? = some ']')
    (htypes : IsOnTypes (String.ofList (Text.trimBlanks lead))) :
    parse false expression = .error .filtersOnTypes := by
  rw [IsOnTypes, ← Bool.or_eq_true] at htypes
  simp only [parse, hcut, hclosed, htypes, ne_eq, not_true_eq_false, if_false, Bool.not_false,
    Bool.and_self, if_true]

/-- Any other closed block is read. -/
theorem parse_of_closed (hcut : Text.cutAt? '[' expression.toList = some (lead, rest))
    {block : List Char} (hclosed : Text.trimBlanks rest = block ++ [']']) (allow : Bool)
    (htypes : allow = true ∨ ¬ IsOnTypes (String.ofList (Text.trimBlanks lead))) :
    parse allow expression =
      .ok ⟨String.ofList (Text.trimBlanks lead), filtersOfBlock block⟩ := by
  have hallowed : (!allow && (Text.endsWith "~" (String.ofList (Text.trimBlanks lead)) ||
      Text.endsWith "~*" (String.ofList (Text.trimBlanks lead)))) = false := by
    rcases htypes with rfl | htypes
    · rfl
    · rw [IsOnTypes, ← Bool.or_eq_true, Bool.not_eq_true] at htypes
      rw [htypes, Bool.and_false]
  simp only [parse, hcut, hclosed, hallowed, List.getLast?_concat, List.dropLast_concat, ne_eq,
    not_true_eq_false, if_false, Bool.false_eq_true]

/-- A block is open, or closed on a base where it is not allowed, or it is read. -/
theorem parse_cases (hcut : Text.cutAt? '[' expression.toList = some (lead, rest))
    (allow : Bool) :
    ((Text.trimBlanks rest).getLast? ≠ some ']' ∧
      parse allow expression = .error .bracketMissing) ∨
    ((Text.trimBlanks rest).getLast? = some ']' ∧ allow = false ∧
      IsOnTypes (String.ofList (Text.trimBlanks lead)) ∧
      parse allow expression = .error .filtersOnTypes) ∨
    ∃ block, Text.trimBlanks rest = block ++ [']'] ∧
      (allow = true ∨ ¬ IsOnTypes (String.ofList (Text.trimBlanks lead))) ∧
      parse allow expression =
        .ok ⟨String.ofList (Text.trimBlanks lead), filtersOfBlock block⟩ := by
  by_cases hclosed : (Text.trimBlanks rest).getLast? = some ']'
  case neg => exact .inl ⟨hclosed, parse_of_open hcut hclosed allow⟩
  case pos =>
    obtain ⟨block, hblock⟩ := List.getLast?_eq_some_iff.1 hclosed
    by_cases htypes : allow = true ∨ ¬ IsOnTypes (String.ofList (Text.trimBlanks lead))
    case pos => exact .inr (.inr ⟨block, hblock, htypes, parse_of_closed hcut hblock allow htypes⟩)
    case neg =>
      rw [not_or, Bool.not_eq_true, not_not] at htypes
      obtain ⟨rfl, htypes⟩ := htypes
      exact .inr (.inl ⟨hclosed, rfl, htypes, parse_of_onTypes hcut hclosed htypes⟩)

end Reading

/-! ## Filters written down -/

/-- A filter as it is written, with its value in double quotes. -/
def filterText (filter : String × String) : String :=
  filter.1 ++ "=\"" ++ filter.2 ++ "\""

/-- Filters as they are written, one behind the other. -/
def blockText (filters : Dictionary String) : String :=
  Text.joinWith ", " (filters.map filterText)

/-- A query as it is written. -/
def text (query : Query) : String :=
  query.base ++ "[" ++ blockText query.filters ++ "]"

/-- A filter that can be written down.  There is no way to write a comma, nor an equals sign in the
key, and what a reader drops around key and value does not stand there. -/
structure IsWritable (filter : String × String) : Prop where
  comma_not_mem_key : ',' ∉ filter.1.toList
  equals_not_mem_key : '=' ∉ filter.1.toList
  trim_key : Text.trim filter.1 = filter.1
  comma_not_mem_value : ',' ∉ filter.2.toList
  isQuote_head : ∀ c ∈ filter.2.toList.head?, isQuote c = false
  isQuote_last : ∀ c ∈ filter.2.toList.getLast?, isQuote c = false

/-- Whether a filter can be written down is seen from its characters. -/
theorem isWritable_iff {filter : String × String} :
    IsWritable filter ↔ ',' ∉ filter.1.toList ∧ '=' ∉ filter.1.toList ∧
      Text.trim filter.1 = filter.1 ∧ ',' ∉ filter.2.toList ∧
      filter.2.toList.head?.any isQuote = false ∧
      filter.2.toList.getLast?.any isQuote = false := by
  have hend (o : Option Char) : (∀ c ∈ o, isQuote c = false) ↔ o.any isQuote = false := by
    cases o <;> simp
  rw [← hend, ← hend]
  constructor
  · rintro ⟨hcomma, hequals, htrim, hvalue, hhead, hlast⟩
    exact ⟨hcomma, hequals, htrim, hvalue, hhead, hlast⟩
  · rintro ⟨hcomma, hequals, htrim, hvalue, hhead, hlast⟩
    exact ⟨hcomma, hequals, htrim, hvalue, hhead, hlast⟩

instance (filter : String × String) : Decidable (IsWritable filter) :=
  decidable_of_iff _ isWritable_iff.symm

/-- The characters of a written filter. -/
theorem toList_filterText (filter : String × String) :
    (filterText filter).toList =
      filter.1.toList ++ '=' :: ('"' :: filter.2.toList ++ ['"']) := by
  simp [filterText]

/-- No blank stands before a key in front of a character that is none. -/
theorem isBlank_of_head?_key {key : String} (hkey : Text.trim key = key) {d : Char}
    (hd : Text.isBlank d = false) (behind : List Char) :
    ∀ c ∈ (key.toList ++ d :: behind).head?, Text.isBlank c = false := by
  intro c hc
  cases hlist : key.toList with
  | nil =>
    rw [hlist] at hc
    obtain rfl : d = c := by simpa using hc
    exact hd
  | cons first others =>
    have hfirst : (Text.trimBlanks key.toList).head? = some c := by
      rw [← Text.toList_trim, hkey, hlist]
      rw [hlist] at hc
      simpa using hc
    exact Text.isBlank_of_head?_trimBlanks hfirst

/-- No blank ends a text behind which stands a character that is none. -/
theorem isBlank_of_getLast?_concat {d : Char} (hd : Text.isBlank d = false) (front : List Char) :
    ∀ c ∈ (front ++ [d]).getLast?, Text.isBlank c = false := by
  intro c hc
  rw [List.getLast?_concat] at hc
  obtain rfl := Option.some.inj hc
  exact hd

/-- A written filter is read back. -/
theorem filterOfPart?_filterText {filter : String × String} (h : IsWritable filter) :
    filterOfPart? (filterText filter).toList = some filter := by
  have hpart : Text.trimBlanks (filterText filter).toList =
      filter.1.toList ++ '=' :: ('"' :: filter.2.toList ++ ['"']) := by
    rw [toList_filterText]
    refine Text.trimWhere_eq_self (isBlank_of_head?_key h.trim_key (by decide) _) ?_
    rw [← List.cons_append, ← List.append_assoc]
    exact isBlank_of_getLast?_concat (by decide) _
  have hquoted : Text.trimBlanks ('"' :: filter.2.toList ++ ['"']) =
      ['"'] ++ filter.2.toList ++ ['"'] := by
    refine Text.trimWhere_eq_self ?_ (isBlank_of_getLast?_concat (by decide) _)
    intro c hc
    obtain rfl : '"' = c := Option.some.inj hc
    decide
  refine filterOfPart?_eq_some_iff.2 ⟨_, _, hpart, h.equals_not_mem_key, ?_, ?_⟩
  · exact h.trim_key.symm
  · have hquote : ∀ c ∈ ['"'], isQuote c = true := List.forall_mem_singleton.2 rfl
    rw [hquoted, Text.trimWhere_append hquote hquote h.isQuote_head h.isQuote_last,
      String.ofList_toList]

/-- There is no comma in a written filter. -/
theorem comma_not_mem_filterText {filter : String × String} (h : IsWritable filter) :
    ',' ∉ (filterText filter).toList := by
  rw [toList_filterText]
  simp [h.comma_not_mem_key, h.comma_not_mem_value]

/-- The parts of written filters write these filters, in order. -/
theorem filterMap_blockText {filters : Dictionary String}
    (h : ∀ filter ∈ filters, IsWritable filter) :
    (Text.splitOn ',' (blockText filters).toList).filterMap filterOfPart? = filters := by
  induction filters with
  | nil => rfl
  | cons filter rest ih =>
    obtain ⟨hfilter, hrest⟩ := List.forall_mem_cons.1 h
    have hcomma := comma_not_mem_filterText hfilter
    cases rest with
    | nil =>
      have hblock : (blockText [filter]).toList = (filterText filter).toList := rfl
      rw [hblock, Text.splitOn_of_not_mem hcomma, List.filterMap_cons_some
        (filterOfPart?_filterText hfilter), List.filterMap_nil]
    | cons next others =>
      have hblock : (blockText (filter :: next :: others)).toList =
          (filterText filter).toList ++ ',' :: ' ' :: (blockText (next :: others)).toList := by
        simp [blockText, Text.joinWith]
      rw [hblock, Text.splitOn_append_cons hcomma, List.filterMap_cons_some
        (filterOfPart?_filterText hfilter), filterMap_splitOn_cons (by decide) (by decide),
        ih hrest]

/-- No blank stands before a closed block of written filters. -/
theorem isBlank_of_head?_blockText {filters : Dictionary String}
    (h : ∀ filter ∈ filters, IsWritable filter) :
    ∀ c ∈ ((blockText filters).toList ++ [']']).head?, Text.isBlank c = false := by
  cases filters with
  | nil =>
    intro c hc
    obtain rfl : ']' = c := Option.some.inj hc
    decide
  | cons filter rest =>
    obtain ⟨behind, hblock⟩ : ∃ behind,
        (blockText (filter :: rest)).toList = (filterText filter).toList ++ behind := by
      cases rest with
      | nil => exact ⟨[], (List.append_nil _).symm⟩
      | cons next others =>
        refine ⟨", ".toList ++ (blockText (next :: others)).toList, ?_⟩
        simp [blockText, Text.joinWith]
    rw [hblock, toList_filterText, List.append_assoc, List.append_assoc, List.cons_append]
    exact isBlank_of_head?_key (h filter List.mem_cons_self).trim_key (by decide) _

/-- Written filters are read back: the pairs of keys and values are those that were written, in
their order. -/
theorem filters_read_back (base : String) (filters : Dictionary String) (allow : Bool)
    (hbracket : '[' ∉ base.toList) (hbase : Text.trim base = base)
    (htypes : allow = true ∨ ¬ IsOnTypes base) (hkeys : (keys filters).Nodup)
    (hfilters : ∀ filter ∈ filters, IsWritable filter) :
    parse allow (text ⟨base, filters⟩) = .ok ⟨base, filters⟩ := by
  have hcut : Text.cutAt? '[' (text ⟨base, filters⟩).toList =
      some (base.toList, (blockText filters).toList ++ [']']) := by
    have htext : (text ⟨base, filters⟩).toList =
        base.toList ++ '[' :: ((blockText filters).toList ++ [']']) := by
      simp [text]
    rw [htext, Text.cutAt?_append hbracket]
  have hblock : Text.trimBlanks ((blockText filters).toList ++ [']']) =
      (blockText filters).toList ++ [']'] := by
    exact Text.trimWhere_eq_self (isBlank_of_head?_blockText hfilters)
      (isBlank_of_getLast?_concat (by decide) _)
  have hread : filtersOfBlock (blockText filters).toList = filters := by
    rw [filtersOfBlock, filterMap_blockText hfilters, putAll_nil_of_nodup hkeys]
  have htrim : String.ofList (Text.trimBlanks base.toList) = base := hbase
  rw [← htrim] at htypes
  rw [parse_of_closed hcut hblock allow htypes, htrim, hread]

/-- Filters whose values hold brackets, an equals sign, blanks and inner quotes, and one whose key
and value are empty. -/
def quotedFilters : Dictionary String :=
  [("status", " [a=b] 'x\" y "), ("", ""), ("kind]", "][")]

/-- These filters are read back. -/
theorem filters_read_back_quotedFilters :
    text ⟨"gts.acme.shop.cart.*", quotedFilters⟩ =
      "gts.acme.shop.cart.*[status=\" [a=b] 'x\" y \", =\"\", kind]=\"][\"]" ∧
    parse false (text ⟨"gts.acme.shop.cart.*", quotedFilters⟩) =
      .ok ⟨"gts.acme.shop.cart.*", quotedFilters⟩ := by
  have hwritable : ∀ filter ∈ quotedFilters, IsWritable filter := by decide +kernel
  have hbase : ¬ IsOnTypes "gts.acme.shop.cart.*" := by decide
  exact ⟨by decide +kernel, filters_read_back "gts.acme.shop.cart.*" quotedFilters false
    (by decide) (by decide +kernel) (.inr hbase) (by decide) hwritable⟩

/-! ## What a block says -/

/-- The last part of a block that writes a filter for the key writes this one. -/
def IsLastWritten (block : List Char) (key value : String) : Prop :=
  ∃ front part behind, Text.splitOn ',' block = front ++ part :: behind ∧
    Writes part key value ∧ ∀ later ∈ behind, ∀ other, ¬ Writes later key other

/-- What is found under a key of the filters of a block is what is written last for it. -/
theorem find?_filtersOfBlock {block : List Char} {key value : String} :
    find? key (filtersOfBlock block) = some value ↔ IsLastWritten block key value := by
  have hlater (behind : List (List Char)) : key ∉ keys (behind.filterMap filterOfPart?) ↔
      ∀ later ∈ behind, ∀ other, ¬ Writes later key other := by
    simp only [keys, List.mem_map, List.mem_filterMap, not_exists, not_and,
      ← filterOfPart?_eq_some_iff]
    constructor
    · exact fun h later hmem other hread => h (key, other) ⟨later, hmem, hread⟩ rfl
    · rintro h ⟨_, other⟩ ⟨later, hmem, hread⟩ rfl
      exact h later hmem other hread
  rw [filtersOfBlock, find?_putAll_nil_eq_some_iff]
  constructor
  · rintro ⟨front, behind, heq, hbehind⟩
    obtain ⟨first, second, hparts, -, hsecond⟩ := List.filterMap_eq_append_iff.1 heq
    obtain ⟨skipped, part, rest, rfl, hskipped, hpart, rfl⟩ :=
      List.filterMap_eq_cons_iff.1 hsecond
    refine ⟨first ++ skipped, part, rest, ?_, filterOfPart?_eq_some_iff.1 hpart,
      (hlater rest).1 hbehind⟩
    rw [hparts, List.append_assoc]
  · rintro ⟨front, part, behind, hparts, hwrites, hbehind⟩
    refine ⟨front.filterMap filterOfPart?, behind.filterMap filterOfPart?, ?_,
      (hlater behind).2 hbehind⟩
    rw [hparts, List.filterMap_append,
      List.filterMap_cons_some (filterOfPart?_eq_some_iff.2 hwrites)]

/-- Every part that writes a filter gives its key a place among the filters. -/
theorem has_filtersOfBlock {block part : List Char} (hpart : part ∈ Text.splitOn ',' block)
    {key value : String} (hwrites : Writes part key value) :
    has key (filtersOfBlock block) = true := by
  rw [has_iff_mem_keys, filtersOfBlock, mem_keys_putAll]
  have hmem : (key, value) ∈ (Text.splitOn ',' block).filterMap filterOfPart? :=
    List.mem_filterMap.2 ⟨part, hpart, filterOfPart?_eq_some_iff.2 hwrites⟩
  exact .inr (List.mem_map_of_mem (f := fun entry => entry.1) hmem)

end Query

/-- A filter that is found among several is passed where all of them are. -/
theorem filterAccepts_of_find? {filters : Dictionary String} {members : Json.Members}
    (h : filtersAccept filters members = true) {key value : String}
    (hfound : find? key filters = some value) :
    filterAccepts value ((find? key members).bind Json.filterText?) = true :=
  List.all_eq_true.1 h (key, value) (mem_of_find? hfound)

namespace Query

/-- What a block of filters says.  It is at fault if it is not closed, or if it stands on a base for
types where that is not allowed, and for no other reason.  Otherwise each key has the value that is
written last for it, parts without an equals sign are passed over, and all results pass the filters
that are written last. -/
theorem parse_of_block {expression : String} {lead rest : List Char}
    (hcut : Text.cutAt? '[' expression.toList = some (lead, rest)) (allow : Bool) :
    (parse allow expression = .error .bracketMissing ↔
      (Text.trimBlanks rest).getLast? ≠ some ']') ∧
    (parse allow expression = .error .filtersOnTypes ↔
      (Text.trimBlanks rest).getLast? = some ']' ∧ allow = false ∧
        IsOnTypes (String.ofList (Text.trimBlanks lead))) ∧
    (∀ fault, parse allow expression = .error fault →
      fault = .bracketMissing ∨ fault = .filtersOnTypes) ∧
    ∀ query, parse allow expression = .ok query →
      query.base = String.ofList (Text.trimBlanks lead) ∧
      ∃ block, Text.trimBlanks rest = block ++ [']'] ∧
        (keys query.filters).Nodup ∧
        (∀ key value, find? key query.filters = some value ↔ IsLastWritten block key value) ∧
        (∀ part ∈ Text.splitOn ',' block,
          ('=' ∉ part ∧ ∀ key value, ¬ Writes part key value) ∨
            ∃ key value, Writes part key value ∧ has key query.filters = true) ∧
        ∀ (store : Store) (limit : Int),
          ∀ content ∈ (store.query allow expression limit).contents,
            ∀ key value, IsLastWritten block key value →
              filterAccepts value ((find? key content.members).bind Json.filterText?) = true := by
  rcases parse_cases hcut allow with
    ⟨hopen, hparse⟩ | ⟨hclosed, rfl, htypes, hparse⟩ | ⟨block, hblock, hallowed, hparse⟩
  · rw [hparse]
    refine ⟨iff_of_true rfl hopen, iff_of_false nofun fun h => hopen h.1, ?_, nofun⟩
    exact fun fault hfault => .inl (Except.error.inj hfault).symm
  · rw [hparse]
    refine ⟨iff_of_false nofun fun h => h hclosed, iff_of_true rfl ⟨hclosed, rfl, htypes⟩, ?_,
      nofun⟩
    exact fun fault hfault => .inr (Except.error.inj hfault).symm
  · have hclosed : (Text.trimBlanks rest).getLast? = some ']' := by
      rw [hblock, List.getLast?_concat]
    refine ⟨?_, ?_, ?_, ?_⟩
    · rw [hparse]
      exact iff_of_false nofun fun h => h hclosed
    · rw [hparse]
      refine iff_of_false nofun fun ⟨_, hfalse, htypes⟩ => ?_
      rcases hallowed with htrue | hbase
      · rw [htrue] at hfalse
        cases hfalse
      · exact hbase htypes
    · rw [hparse]
      exact nofun
    · intro query hquery
      obtain rfl := Except.ok.inj (hparse.symm.trans hquery)
      refine ⟨rfl, block, hblock, nodup_keys_putAll List.nodup_nil,
        fun key value => find?_filtersOfBlock, ?_, ?_⟩
      · intro part hpart
        by_cases hequals : '=' ∈ part
        · obtain ⟨key, value, hwrites⟩ := exists_writes_iff.2 hequals
          exact .inr ⟨key, value, hwrites, has_filtersOfBlock hpart hwrites⟩
        · exact .inl ⟨hequals, fun key value hwrites =>
            hequals (exists_writes_iff.1 ⟨key, value, hwrites⟩)⟩
      · intro store limit content hcontent key value hlast
        exact filterAccepts_of_find? (Store.filtersAccept_of_mem_contents hquery hcontent)
          (find?_filtersOfBlock.2 hlast)

/-- Of two parts that write a status the last one counts, and a part that writes nothing is passed
over.  The one cart that is found is closed. -/
theorem parse_of_block_twoStates :
    parse false "gts.acme.shop.cart.*[status=active, kind, status=closed]" =
      .ok ⟨"gts.acme.shop.cart.*", [("status", "closed")]⟩ ∧
    (cartStore.query false
      "gts.acme.shop.cart.*[status=active, kind, status=closed]" 10).contents.length = 1 ∧
    ∀ content ∈ (cartStore.query false
        "gts.acme.shop.cart.*[status=active, kind, status=closed]" 10).contents,
      filterAccepts "closed" ((find? "status" content.members).bind Json.filterText?) = true := by
  have hcut : Text.cutAt? '[' "gts.acme.shop.cart.*[status=active, kind, status=closed]".toList =
      some ("gts.acme.shop.cart.*".toList, "status=active, kind, status=closed]".toList) := by
    decide +kernel
  have hparse : parse false "gts.acme.shop.cart.*[status=active, kind, status=closed]" =
      .ok ⟨"gts.acme.shop.cart.*", [("status", "closed")]⟩ := by
    rfl
  obtain ⟨-, -, -, hread⟩ := parse_of_block hcut false
  obtain ⟨-, block, -, -, hlast, -, hresults⟩ := hread _ hparse
  have hclosed : IsLastWritten block "status" "closed" := (hlast "status" "closed").1 rfl
  exact ⟨hparse, by decide +kernel, fun content hcontent =>
    hresults cartStore 10 content hcontent "status" "closed" hclosed⟩

/-- A part with a colon in place of the equals sign is passed over, and all carts are found,
whatever their status; an empty key has a value; and of two parts for one key only the last counts.
So it is not true that each part of a block with anything in it writes a filter with a key, which is
among those of the query. -/
theorem parts_passed_over :
    parse false "gts.acme.shop.cart.*[status:active]" = .ok ⟨"gts.acme.shop.cart.*", []⟩ ∧
    (cartStore.query false "gts.acme.shop.cart.*[status:active]" 10).contents.length = 3 ∧
    parse false "gts.acme.shop.cart.*[=active]" =
      .ok ⟨"gts.acme.shop.cart.*", [("", "active")]⟩ ∧
    parse false "gts.acme.shop.cart.*[status=active, status=closed]" =
      .ok ⟨"gts.acme.shop.cart.*", [("status", "closed")]⟩ ∧
    ¬ ∀ allow expression lead rest block query,
      Text.cutAt? '[' expression.toList = some (lead, rest) →
      Text.trimBlanks rest = block ++ [']'] → parse allow expression = .ok query →
      ∀ part ∈ Text.splitOn ',' block, Text.trimBlanks part ≠ [] →
        ∃ key value, Writes part key value ∧ key ≠ "" ∧ find? key query.filters = some value := by
  refine ⟨rfl, by decide +kernel, rfl, rfl, ?_⟩
  intro hwritten
  obtain ⟨key, value, hwrites, -⟩ := hwritten false "gts.acme.shop.cart.*[status:active]"
    "gts.acme.shop.cart.*".toList "status:active]".toList "status:active".toList
    ⟨"gts.acme.shop.cart.*", []⟩ (by decide +kernel) (by decide +kernel) rfl
    "status:active".toList (by decide +kernel) (by decide +kernel)
  have hequals : '=' ∈ "status:active".toList := exists_writes_iff.1 ⟨key, value, hwrites⟩
  exact absurd hequals (by decide +kernel)

end Query

end TypeRegistry
