import TypeRegistry.Proofs.Identifier.Beginning

/-!
# Types at the front of a chain

An identifier may be cut behind each of its tildes.  What stands before the cut is the text of its
first segments, and it is an identifier itself: it passes the checks on the text since the whole
does, it ends in a tilde and so has no blanks at its end, and its pieces are the first pieces of the
whole.  So it is read as a type with the first segments, at the same places.

The last tilde of an instance closes the segment before its last one, and the first tilde of any
identifier its first segment.  A search for either finds the end of a segment.

Main results:

- Definition `Identifier.front`: the beginning of an identifier with its first segments.
- Theorem `parse_front`: a front that ends with a type is read as that type.
- Theorem `typeId?_eq_front`: the type of an instance is its front without the last segment.
- Theorem `throughFirstTilde_eq_front`: up to its first tilde an identifier is its first segment.
-/

namespace TypeRegistry

/-! ## Texts of segments -/

/-- The texts of the segments that are read are the pieces. -/
theorem texts_of_segmentsOf {relaxed : Bool} {position offset : Nat} {pieces : List (List Char)}
    {segments : List Segment} (h : segmentsOf relaxed position offset pieces = .ok segments) :
    segments.map (·.text.toList) = pieces := by
  induction pieces generalizing position offset segments with
  | nil =>
    obtain rfl := Except.ok.inj h
    rfl
  | cons piece pieces ih =>
    obtain ⟨body, rest, -, hrest, rfl⟩ := segmentsOf_cons_eq_ok_iff.1 h
    simp [ih hrest]

namespace Identifier

/-- The beginning of an identifier that its first segments make up, with those segments. -/
def front (id : Identifier) (count : Nat) : Identifier where
  text := String.ofList
    (lead.toList ++ ((id.segments.take count).map (·.text.toList)).flatten)
  segments := id.segments.take count

/-- An identifier that its own text is read as, and that is a type. -/
structure IsOwnType (id : Identifier) : Prop where
  read : Identifier.parse id.text = .ok id
  valid : Identifier.isValid id.text = true
  type : id.isType = true

/-- An identifier is a type exactly if its text ends in a tilde. -/
theorem isType_iff {id : Identifier} : id.isType = true ↔ id.text.toList.getLast? = some '~' :=
  Text.endsWith_iff_getLast? rfl

/-- The chain of an identifier that was read: its pieces are the texts of its segments, and a
segment is a type if its piece ends in a tilde. -/
structure IsChainOf (chain : List Char) (id : Identifier) : Prop where
  text : id.text.toList = lead.toList ++ chain
  pieces : Text.cutAfter '~' chain = id.segments.map (·.text.toList)
  closed : ∀ segment ∈ id.segments,
    segment.isType = true ↔ segment.text.toList.getLast? = some '~'

/-- An identifier or a pattern that was read has a chain. -/
theorem exists_isChainOf_of_read {relaxed : Bool} {given : String} {id : Identifier}
    (h : read relaxed given = .ok id) : ∃ chain, IsChainOf chain id := by
  obtain ⟨-, chain, htext, -, hsegments⟩ := exists_chain_of_read h
  refine ⟨chain, htext, (texts_of_segmentsOf hsegments).symm, ?_⟩
  have htypes := forall₂_of_segmentsOf hsegments
  rw [← texts_of_segmentsOf hsegments, List.forall₂_map_left_iff, List.forall₂_same] at htypes
  intro segment hsegment
  rw [(htypes segment hsegment).2, decide_eq_true_eq]

/-- An identifier that was read has a chain. -/
theorem exists_isChainOf {given : String} {id : Identifier} (h : parse given = .ok id) :
    ∃ chain, IsChainOf chain id :=
  exists_isChainOf_of_read h

/-- The text of an identifier is the lead and the texts of its segments. -/
theorem IsChainOf.toList_text {chain : List Char} {id : Identifier} (hchain : IsChainOf chain id) :
    id.text.toList = lead.toList ++ (id.segments.map (·.text.toList)).flatten := by
  rw [hchain.text, ← hchain.pieces, Text.flatten_cutAfter]

/-! ## Fronts -/

/-- The text of a front is the lead and the text of its segments. -/
@[simp]
theorem toList_front (id : Identifier) (count : Nat) :
    (id.front count).text.toList =
      lead.toList ++ ((id.segments.take count).map (·.text.toList)).flatten :=
  String.toList_ofList

/-- The front that is all of an identifier is the identifier. -/
theorem front_length {chain : List Char} {id : Identifier} (hchain : IsChainOf chain id) :
    id.front id.segments.length = id := by
  rw [front, List.take_length, ← hchain.toList_text, String.ofList_toList]

/-- Up to and with a type the text of an identifier ends in a tilde. -/
theorem getLast?_front {chain : List Char} {id : Identifier} (hchain : IsChainOf chain id)
    {k : Nat} {segment : Segment} (hk : id.segments[k]? = some segment)
    (htype : segment.isType = true) :
    (id.front (k + 1)).text.toList.getLast? = some '~' := by
  have htake : id.segments.take (k + 1) = id.segments.take k ++ [segment] := by
    rw [List.take_add_one, hk]
    rfl
  have hclosed := (hchain.closed segment (List.mem_of_getElem? hk)).1 htype
  have hne : segment.text.toList ≠ [] := by
    rintro hnil
    rw [hnil] at hclosed
    cases hclosed
  have hsingle : ([segment].map (·.text.toList)).flatten = segment.text.toList := by simp
  rw [toList_front, htake, List.map_append, List.flatten_append, hsingle, ← List.append_assoc,
    List.getLast?_append_of_ne_nil _ hne]
  exact hclosed

/-- A front is a beginning of the text. -/
theorem isPrefix_front {chain : List Char} {id : Identifier} (hchain : IsChainOf chain id)
    (count : Nat) : (id.front count).text.toList <+: id.text.toList := by
  refine ⟨((id.segments.drop count).map (·.text.toList)).flatten, ?_⟩
  rw [toList_front, List.append_assoc, ← List.flatten_append, ← List.map_append,
    List.take_append_drop, hchain.toList_text]

/-- The first segments of an identifier are read of its first pieces. -/
theorem segmentsOf_take {pieces : List (List Char)} {segments : List Segment}
    {relaxed : Bool} {position offset : Nat}
    (h : segmentsOf relaxed position offset pieces = .ok segments) (count : Nat) :
    segmentsOf relaxed position offset (pieces.take count) = .ok (segments.take count) := by
  induction pieces generalizing position offset segments count with
  | nil =>
    obtain rfl := Except.ok.inj h
    simp [segmentsOf]
  | cons piece pieces ih =>
    cases count with
    | zero => rfl
    | succ count =>
      obtain ⟨body, rest, hbody, hrest, rfl⟩ := segmentsOf_cons_eq_ok_iff.1 h
      exact segmentsOf_cons_eq_ok_iff.2 ⟨body, rest.take count, hbody, ih hrest count, rfl⟩

/-- The chain of a front is cut into the first pieces, of which the first segments are read. -/
theorem segmentsOf_front {given : String} {id : Identifier} (h : parse given = .ok id)
    (count : Nat) :
    segmentsOf false 1 4 (Text.cutAfter '~' ((id.front count).text.toList.drop 4)) =
      .ok (id.segments.take count) := by
  obtain ⟨-, chain, -, -, hsegments⟩ := exists_chain_of_read h
  have hpieces := texts_of_segmentsOf hsegments
  have hdrop : (id.front count).text.toList.drop 4 =
      ((Text.cutAfter '~' chain).take count).flatten := by
    rw [toList_front, ← hpieces, List.map_take]
    rfl
  have hsplit := List.take_append_drop count (Text.cutAfter '~' chain)
  rw [hdrop, Text.cutAfter_flatten_front hsplit.symm]
  exact segmentsOf_take hsegments count

/-- A front that ends with a type is read as that type: its segments are the first ones of the
identifier. -/
theorem parse_front {given : String} {id : Identifier} (h : parse given = .ok id) {k : Nat}
    {segment : Segment} (hk : id.segments[k]? = some segment) (htype : segment.isType = true) :
    (id.front (k + 1)).IsOwnType := by
  obtain ⟨chain, hchain⟩ := exists_isChainOf h
  have hlast := getLast?_front hchain hk htype
  have hfront := isPrefix_front hchain (k + 1)
  have hlead : "gts.".toList <+: (id.front (k + 1)).text.toList := by
    rw [toList_front]
    exact List.prefix_append _ _
  have htrim : Text.trimBlanks (id.front (k + 1)).text.toList =
      (id.front (k + 1)).text.toList := by
    rw [Text.trimBlanks_eq_self_iff (Text.dropWhile_isBlank_of_lead hlead), hlast]
    intro c hc
    obtain rfl : '~' = c := Option.some.inj hc
    decide
  have hread : parse (id.front (k + 1)).text = .ok (id.front (k + 1)) := by
    obtain ⟨htext, -⟩ := exists_chain_of_read h
    obtain ⟨hlower, hhyphen, -, hshort, -, -⟩ := read_eq_ok_iff.1 h
    rw [← Text.toList_trim, ← htext] at hlower hhyphen hshort
    have hmem : (id.segments.take (k + 1))[k]? = some segment := by
      rw [List.getElem?_take_of_lt k.lt_succ_self, hk]
    refine read_eq_ok_iff.2 ?_
    rw [htrim]
    refine ⟨?_, ?_, hlead, ?_, ?_, _, segmentsOf_front h (k + 1), .inr (.inr ?_), ?_⟩
    · rw [Text.isLowerCase, List.all_eq_true] at hlower ⊢
      exact fun c hc => hlower c (hfront.subset hc)
    · exact fun hc => hhyphen (hfront.subset hc)
    · exact hfront.length_le.trans hshort
    · intro hnil
      have hsegments := segmentsOf_front h (k + 1)
      rw [hnil] at hsegments
      rw [← Except.ok.inj hsegments] at hmem
      cases hmem
    · rw [List.any_eq_true]
      exact ⟨segment, List.mem_of_getElem? hmem, htype⟩
    · rw [Text.trim, htrim, String.ofList_toList]
      rfl
  refine ⟨hread, ?_, isType_iff.2 hlast⟩
  rw [isValid_iff, Text.startsWith, List.isPrefixOf_iff_prefix]
  exact ⟨hlead, _, hread⟩

/-! ## Types in a chain -/

section Chain

variable {chain : List Char} {id : Identifier} {front behind : List Segment} {segment : Segment}

/-- The text of a segment ends at its only tilde if the segment is a type, else it has none and the
segment is the last one. -/
theorem IsChainOf.exists_inner (hchain : IsChainOf chain id)
    (hsegments : id.segments = front ++ segment :: behind) :
    ∃ inner, '~' ∉ inner ∧
      (segment.isType = true ∧ segment.text.toList = inner ++ ['~'] ∨
        segment.isType = false ∧ segment.text.toList = inner ∧ behind = []) := by
  have hpieces := hchain.pieces
  rw [hsegments, List.map_append, List.map_cons] at hpieces
  obtain ⟨inner, hinner, hpiece⟩ := Text.exists_inner_of_cutAfter_eq hpieces
  have hclosed := hchain.closed segment (by simp [hsegments])
  refine ⟨inner, hinner, ?_⟩
  rcases hpiece with hpiece | ⟨hpiece, hbehind⟩
  · exact .inl ⟨hclosed.2 (by simp [hpiece]), hpiece⟩
  · refine .inr ⟨?_, hpiece, List.map_eq_nil_iff.1 hbehind⟩
    rw [Bool.eq_false_iff, Ne, hclosed, hpiece]
    exact fun hlast => hinner (List.mem_of_getLast? hlast)

/-- A segment is a type unless it is the last one of an instance. -/
theorem IsChainOf.isType_segment_iff (hchain : IsChainOf chain id)
    (hsegments : id.segments = front ++ segment :: behind) :
    segment.isType = true ↔ behind ≠ [] ∨ id.isType = true := by
  obtain ⟨inner, hinner, ⟨htype, -⟩ | ⟨htype, rfl, rfl⟩⟩ := hchain.exists_inner hsegments
  · refine iff_of_true htype ?_
    by_cases hbehind : behind = []
    · right
      have hfront : front.length + 1 = id.segments.length := by simp [hsegments, hbehind]
      have hlast := getLast?_front hchain (k := front.length) (by simp [hsegments]) htype
      rw [hfront, front_length hchain] at hlast
      exact isType_iff.2 hlast
    · exact .inl hbehind
  · have hinstance : id.isType = false := by
      have hne : segment.text.toList ≠ [] := by
        have hpiece : segment.text.toList ∈ Text.cutAfter '~' chain := by
          rw [hchain.pieces, hsegments]
          simp
        exact Text.ne_nil_of_mem_cutAfter hpiece
      rw [Bool.eq_false_iff, Ne, isType_iff, hchain.toList_text, hsegments, List.map_append,
        List.flatten_append, List.map_singleton, List.flatten_singleton, ← List.append_assoc,
        List.getLast?_append_of_ne_nil _ hne]
      exact fun hlast => hinner (List.mem_of_getLast? hlast)
    simp [htype, hinstance]

end Chain

/-- An instance has a segment in front of its last one. -/
theorem exists_segments_of_instance {given : String} {id : Identifier}
    (h : parse given = .ok id) (hinstance : id.isType = false) :
    ∃ rest segment last, id.segments = rest ++ [segment, last] := by
  obtain ⟨chain, hchain⟩ := exists_isChainOf h
  obtain ⟨-, -, -, -, hne, segments, hsegments, htyped, hid⟩ := read_eq_ok_iff.1 h
  obtain rfl : id.segments = segments := by rw [hid]
  rcases List.eq_nil_or_concat id.segments with hnil | ⟨front, last, hlast⟩
  · have hpieces := texts_of_segmentsOf hsegments
    rw [hnil, List.map_nil] at hpieces
    rw [← Text.flatten_cutAfter '~' ((Text.trimBlanks given.toList).drop 4), ← hpieces] at hne
    exact absurd rfl hne
  · rw [List.concat_eq_append] at hlast
    rcases List.eq_nil_or_concat front with rfl | ⟨rest, segment, rfl⟩
    · have hsingle : id.segments = [] ++ last :: [] := hlast
      have hopen : ¬ last.isType = true := by
        rw [hchain.isType_segment_iff hsingle]
        simp [hinstance]
      simp [hlast, hopen] at htyped
    · exact ⟨rest, segment, last, by simpa using hlast⟩

/-! ## Searches for tildes -/

/-- Up to the last tilde stands what ends in it, if no tilde follows. -/
theorem throughLastTilde_append {upTo behind : List Char} (hupTo : upTo.getLast? = some '~')
    (hbehind : '~' ∉ behind) : throughLastTilde (upTo ++ behind) = upTo := by
  obtain ⟨front, rfl⟩ := List.getLast?_eq_some_iff.1 hupTo
  rw [throughLastTilde, List.reverse_append, List.dropWhile_append_of_pos]
  · simp
  · intro c hc
    rw [decide_eq_true_eq]
    rintro rfl
    exact hbehind (List.mem_reverse.1 hc)

/-- Up to its last tilde an instance is its front without the last segment, and that is a type. -/
theorem throughLastTilde_instance {given : String} {id : Identifier} (h : parse given = .ok id)
    (hinstance : id.isType = false) :
    throughLastTilde id.text.toList = (id.front (id.segments.length - 1)).text.toList ∧
      (id.front (id.segments.length - 1)).IsOwnType := by
  obtain ⟨chain, hchain⟩ := exists_isChainOf h
  obtain ⟨rest, segment, last, hsegments⟩ := exists_segments_of_instance h hinstance
  have hcount : id.segments.length - 1 = rest.length + 1 := by simp [hsegments]
  have hk : id.segments[rest.length]? = some segment := by simp [hsegments]
  have htype : segment.isType = true := by
    rw [hchain.isType_segment_iff hsegments]
    simp
  have hopen : '~' ∉ last.text.toList := by
    have hlast : id.segments = (rest ++ [segment]) ++ [last] := by simp [hsegments]
    obtain ⟨inner, hinner, ⟨hclosed, -⟩ | ⟨-, rfl, -⟩⟩ := hchain.exists_inner hlast
    · rw [hchain.isType_segment_iff hlast, hinstance] at hclosed
      simp at hclosed
    · exact hinner
  have htext : id.text.toList = (id.front (rest.length + 1)).text.toList ++ last.text.toList := by
    have htake : id.segments.take (rest.length + 1) = rest ++ [segment] := by
      rw [List.take_add_one, hk, hsegments, List.take_left]
      rfl
    rw [hchain.toList_text, toList_front, htake, hsegments]
    simp
  rw [hcount]
  refine ⟨?_, parse_front h hk htype⟩
  rw [htext]
  exact throughLastTilde_append (getLast?_front hchain hk htype) hopen

/-- The type that an instance belongs to is its front without the last segment. -/
theorem typeId?_eq_front {given : String} {id : Identifier} (h : parse given = .ok id)
    (hinstance : id.isType = false) :
    id.typeId? = some (id.front (id.segments.length - 1)).text := by
  obtain ⟨hupTo, -⟩ := throughLastTilde_instance h hinstance
  have hne : (id.front (id.segments.length - 1)).text.toList ≠ [] := by
    rw [toList_front]
    exact List.append_ne_nil_of_left_ne_nil (by decide) _
  rw [typeId?, hupTo, if_neg (by simpa using hne), String.ofList_toList]

/-- Up to its first tilde an identifier that begins with a type is its first segment. -/
theorem cutAt?_first {chain : List Char} {id : Identifier} (hchain : IsChainOf chain id)
    {first : Segment} {rest : List Segment} (hsegments : id.segments = first :: rest)
    (htype : first.isType = true) :
    ∃ before after, Text.cutAt? '~' id.text.toList = some (before, after) ∧
      before ++ ['~'] = (id.front 1).text.toList := by
  have hfront : id.segments = [] ++ first :: rest := hsegments
  obtain ⟨inner, hinner, ⟨-, hfirst⟩ | ⟨hopen, -⟩⟩ := hchain.exists_inner hfront
  · refine ⟨lead.toList ++ inner, (rest.map (·.text.toList)).flatten, ?_, ?_⟩
    · have hbefore : '~' ∉ lead.toList ++ inner := by
        rw [List.mem_append, not_or]
        exact ⟨by decide, hinner⟩
      rw [← Text.cutAt?_append hbefore, hchain.toList_text, hsegments]
      simp [hfirst]
    · rw [toList_front, hsegments]
      simp [hfirst]
  · rw [htype] at hopen
    cases hopen

end Identifier

end TypeRegistry
