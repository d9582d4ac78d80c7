import Mathlib.Data.List.Forall2
import Mathlib.Data.List.TakeWhile
import TypeRegistry.Text.Split

/-!
# Cuts and the pieces they leave

The two cuts at a separator see the same pieces.  A split keeps the pieces apart from the
separators, a cut behind every separator leaves each separator on the piece that it closes; what
the cut adds to the split is whether a piece is closed.

Main results:

- Theorems `toList_before`, `dropStart?_eq_some_iff`: what stands before the first separator, and
  behind a beginning.
- Theorem `takeWhile_ne_eq_iff`: the cut before the first separator by what stands on its two sides.
- Theorem `cutAt?_eq_none_iff`: a text without the separator is not cut in two.
- Theorem `not_mem_of_mem_splitOn`: no piece of a split holds the separator.
- Theorem `mem_of_mem_splitOn`: every character of a text is the separator or stands in a piece.
- Theorem `splitOn_append`: the last piece of a split goes on with what stands behind the text.
- Theorem `cutAfter_append`: behind a separator a text is cut as if nothing stood before it.
- Theorem `cutAfter_eq_map_closePieces`: a cut behind every separator is a split whose pieces, an
  empty one at the end aside, are closed as far as a separator follows.
- Theorem `intercalate_splitOn`: the pieces of a split are joined to the text again.
- Theorem `eq_or_eq_append_of_splitOn`: before the last piece of a split stands nothing, or a
  separator.
- Theorem `eq_of_intercalate_eq`: parts of pieces that are joined to the same are the pieces.
-/

namespace TypeRegistry.Text

/-! ## Cuts of a string -/

/-- What stands before the first separator is all that comes until then. -/
theorem toList_before (separator : Char) (s : String) :
    (before separator s).toList = s.toList.takeWhile (· ≠ separator) := by
  have hcut (cs : List Char) :
      (cutAt? separator cs).elim cs (·.1) = cs.takeWhile (· ≠ separator) := by
    induction cs with
    | nil => rfl
    | cons c rest ih =>
      by_cases hc : c = separator
      · simp [cutAt?, hc]
      · rw [List.takeWhile_cons_of_pos (by simpa using hc), ← ih, cutAt?, if_neg hc]
        cases cutAt? separator rest <;> rfl
  rw [before, ← hcut]
  cases cutAt? separator s.toList <;> simp

/-- What comes until characters of a kind end. -/
theorem takeWhile_append {kind : Char → Bool} {front behind : List Char}
    (hfront : ∀ c ∈ front, kind c = true) (hbehind : ∀ c ∈ behind.head?, kind c = false) :
    (front ++ behind).takeWhile kind = front := by
  rw [List.takeWhile_append_of_pos hfront]
  cases behind with
  | nil => simp
  | cons c rest =>
    have hc : kind c = false := hbehind c rfl
    simp [hc]

/-- What comes before the first separator does not hold it, and is all of the text or goes on to one.
-/
theorem takeWhile_ne_eq_iff {separator : Char} {cs front : List Char} :
    cs.takeWhile (· ≠ separator) = front ↔
      separator ∉ front ∧
        ∃ behind, cs = front ++ behind ∧ (behind = [] ∨ behind.head? = some separator) := by
  constructor
  · rintro rfl
    refine ⟨fun hmem => by simpa using List.mem_takeWhile_imp hmem, cs.dropWhile (· ≠ separator),
      List.takeWhile_append_dropWhile.symm, ?_⟩
    cases hdrop : cs.dropWhile (· ≠ separator) with
    | nil => exact .inl rfl
    | cons c rest =>
      have hc := List.head?_dropWhile_not (· ≠ separator) cs
      rw [hdrop] at hc
      simpa using hc
  · rintro ⟨hfront, behind, rfl, hbehind⟩
    apply takeWhile_append
    · intro c hc
      rw [decide_eq_true_eq]
      rintro rfl
      exact hfront hc
    · rcases hbehind with rfl | hbehind
      · exact nofun
      · simp [hbehind]

/-- Where characters of a kind end, a text is cut in one way. -/
theorem eq_of_append_eq {kind : Char → Bool} {front other behind rest : List Char}
    (hfront : ∀ c ∈ front, kind c = true) (hother : ∀ c ∈ other, kind c = true)
    (hbehind : ∀ c ∈ behind.head?, kind c = false) (hrest : ∀ c ∈ rest.head?, kind c = false)
    (h : front ++ behind = other ++ rest) : front = other ∧ behind = rest := by
  have htake := congrArg (List.takeWhile kind) h
  rw [takeWhile_append hfront hbehind, takeWhile_append hother hrest] at htake
  subst htake
  exact ⟨rfl, List.append_cancel_left h⟩

/-- A cut at a separator that nothing in front of it is. -/
theorem cutAt?_append {separator : Char} {before : List Char} (h : separator ∉ before)
    (after : List Char) :
    cutAt? separator (before ++ separator :: after) = some (before, after) := by
  induction before with
  | nil => simp [cutAt?]
  | cons c rest ih =>
    rw [List.mem_cons, not_or] at h
    simp [cutAt?, Ne.symm h.1, ih h.2]

/-- A text cannot be cut exactly if it does not hold the separator. -/
theorem cutAt?_eq_none_iff {separator : Char} {cs : List Char} :
    cutAt? separator cs = none ↔ separator ∉ cs := by
  constructor
  · intro hnone hmem
    obtain ⟨before, after, rfl, hbefore⟩ := List.eq_append_cons_of_mem hmem
    rw [cutAt?_append hbefore] at hnone
    cases hnone
  · intro hmem
    by_contra hsome
    obtain ⟨cut, hcut⟩ := Option.ne_none_iff_exists'.1 hsome
    rw [(cutAt?_eq_some hcut).1] at hmem
    simp at hmem

/-- A string ends in a character exactly if that is its last one. -/
theorem endsWith_iff_getLast? {tail s : String} {c : Char} (htail : tail.toList = [c]) :
    endsWith tail s = true ↔ s.toList.getLast? = some c := by
  rw [endsWith, List.isSuffixOf_iff_suffix, htail, List.getLast?_eq_some_iff]
  constructor
  · rintro ⟨front, hfront⟩
    exact ⟨front, hfront.symm⟩
  · rintro ⟨front, hfront⟩
    exact ⟨front, hfront.symm⟩

/-- What stands behind a beginning of a string. -/
theorem dropStart?_eq_some_iff {lead s rest : String} :
    dropStart? lead s = some rest ↔ s.toList = lead.toList ++ rest.toList := by
  rw [dropStart?, startsWith]
  split
  next hlead =>
    obtain ⟨behind, hbehind⟩ := List.isPrefixOf_iff_prefix.1 hlead
    rw [← hbehind, Option.some_inj, ← String.length_toList, List.drop_left,
      List.append_cancel_left_eq, ← String.toList_inj, String.toList_ofList]
  next hlead =>
    refine iff_of_false (by simp) fun h => hlead ?_
    rw [List.isPrefixOf_iff_prefix, h]
    exact List.prefix_append _ _

/-! ## Pieces of a split -/

/-- No piece of a split holds the separator. -/
theorem not_mem_of_mem_splitOn {separator : Char} {cs piece : List Char}
    (h : piece ∈ splitOn separator cs) : separator ∉ piece := by
  induction cs generalizing piece with
  | nil =>
    rw [splitOn, List.mem_singleton] at h
    simp [h]
  | cons c rest ih =>
    simp only [splitOn] at h
    split at h
    · rcases List.mem_cons.1 h with rfl | h
      · simp
      · exact ih h
    next hc =>
      split at h
      next hnil => exact absurd hnil (splitOn_ne_nil separator rest)
      next first others hrest =>
        rcases List.mem_cons.1 h with rfl | h
        · have hfirst : separator ∉ first := ih (by rw [hrest]; exact List.mem_cons_self)
          simp only [List.mem_cons, not_or]
          exact ⟨Ne.symm hc, hfirst⟩
        · exact ih (by rw [hrest]; exact List.mem_cons_of_mem _ h)

/-- Every character of a text is the separator or stands in one of the pieces. -/
theorem mem_of_mem_splitOn (separator : Char) {c : Char} {cs : List Char} (h : c ∈ cs) :
    c = separator ∨ ∃ piece ∈ splitOn separator cs, c ∈ piece := by
  induction cs with
  | nil => simp at h
  | cons d rest ih =>
    simp only [splitOn]
    split
    next hd =>
      rcases List.mem_cons.1 h with rfl | h
      · exact .inl hd
      · rcases ih h with h | ⟨piece, hpiece, hc⟩
        · exact .inl h
        · exact .inr ⟨piece, List.mem_cons_of_mem _ hpiece, hc⟩
    next =>
      split
      next hnil => exact absurd hnil (splitOn_ne_nil separator rest)
      next first others hrest =>
        rcases List.mem_cons.1 h with rfl | h
        · exact .inr ⟨c :: first, List.mem_cons_self, List.mem_cons_self⟩
        · rcases ih h with h | ⟨piece, hpiece, hc⟩
          · exact .inl h
          · right
            rw [hrest] at hpiece
            rcases List.mem_cons.1 hpiece with rfl | hpiece
            · exact ⟨d :: piece, List.mem_cons_self, List.mem_cons_of_mem _ hc⟩
            · exact ⟨piece, List.mem_cons_of_mem _ hpiece, hc⟩

/-- The pieces of a split hold the characters of the text other than the separator, in order. -/
theorem flatten_splitOn (separator : Char) (cs : List Char) :
    (splitOn separator cs).flatten = cs.filter (· ≠ separator) := by
  induction cs with
  | nil => rfl
  | cons c rest ih =>
    obtain ⟨first, others, hrest⟩ := List.exists_cons_of_ne_nil (splitOn_ne_nil separator rest)
    simp only [splitOn]
    by_cases hc : c = separator
    · rw [if_pos hc, List.filter_cons_of_neg (by simpa using hc), ← ih, List.flatten_cons]
      rfl
    · rw [if_neg hc, hrest, List.filter_cons_of_pos (by simpa using hc), ← ih, hrest]
      rfl

/-- The last piece of a split goes on with the first piece of what stands behind the text. -/
theorem splitOn_append {separator : Char} {cs behind last first : List Char}
    {front others : List (List Char)} (hcs : splitOn separator cs = front ++ [last])
    (hbehind : splitOn separator behind = first :: others) :
    splitOn separator (cs ++ behind) = front ++ (last ++ first) :: others := by
  induction cs generalizing front last with
  | nil =>
    rw [splitOn, eq_comm, List.append_eq_singleton_iff] at hcs
    obtain ⟨rfl, hlast⟩ | ⟨-, hnil⟩ := hcs
    · obtain rfl : last = [] := by simpa using hlast
      exact hbehind
    · simp at hnil
  | cons c rest ih =>
    by_cases hc : c = separator
    · simp only [splitOn, if_pos hc] at hcs
      cases front with
      | nil => exact absurd (List.cons.inj hcs).2 (splitOn_ne_nil separator rest)
      | cons piece front =>
        obtain ⟨rfl, hrest⟩ := List.cons.inj hcs
        simp [splitOn, hc, ih hrest]
    · obtain ⟨piece, pieces, hrest⟩ := List.exists_cons_of_ne_nil (splitOn_ne_nil separator rest)
      simp only [splitOn, if_neg hc, hrest] at hcs
      cases front with
      | nil =>
        obtain ⟨rfl, rfl⟩ := List.cons.inj hcs
        have hrest : splitOn separator rest = [] ++ [piece] := hrest
        simp [splitOn, hc, ih hrest]
      | cons start front =>
        obtain ⟨rfl, rfl⟩ := List.cons.inj hcs
        have hrest : splitOn separator rest = (piece :: front) ++ [last] := hrest
        simp [splitOn, hc, ih hrest]

/-- A text in which there is no separator is a piece of its own before one. -/
theorem splitOn_append_cons {separator : Char} {text : List Char} (h : separator ∉ text)
    (behind : List Char) :
    splitOn separator (text ++ separator :: behind) = text :: splitOn separator behind := by
  induction text with
  | nil => simp [splitOn]
  | cons c rest ih =>
    rw [List.mem_cons, not_or] at h
    simp [splitOn, Ne.symm h.1, ih h.2]

/-- A text in which there is no separator is its only piece. -/
theorem splitOn_of_not_mem {separator : Char} {text : List Char} (h : separator ∉ text) :
    splitOn separator text = [text] := by
  induction text with
  | nil => rfl
  | cons c rest ih =>
    rw [List.mem_cons, not_or] at h
    simp [splitOn, Ne.symm h.1, ih h.2]

/-- A split has a last piece. -/
theorem exists_splitOn_eq_concat (separator : Char) (cs : List Char) :
    ∃ front last, splitOn separator cs = front ++ [last] := by
  obtain ⟨front, last, hpieces⟩ :=
    (List.eq_nil_or_concat (splitOn separator cs)).resolve_left (splitOn_ne_nil separator cs)
  exact ⟨front, last, by rw [hpieces, List.concat_eq_append]⟩

/-- A character behind a text, other than the separator, belongs to the last piece. -/
theorem exists_splitOn_concat {separator c : Char} (hc : c ≠ separator) (cs : List Char) :
    ∃ front last, splitOn separator cs = front ++ [last] ∧
      splitOn separator (cs ++ [c]) = front ++ [last ++ [c]] := by
  obtain ⟨front, last, hcs⟩ := exists_splitOn_eq_concat separator cs
  have hc : splitOn separator [c] = [[c]] := by simp [splitOn, hc]
  exact ⟨front, last, hcs, splitOn_append hcs hc⟩

/-! ## Pieces of a cut -/

/-- Behind a separator, as at the start, a text is cut as if nothing stood before it. -/
theorem cutAfter_append {separator : Char} {front : List Char}
    (h : front = [] ∨ front.getLast? = some separator) (behind : List Char) :
    cutAfter separator (front ++ behind) =
      cutAfter separator front ++ cutAfter separator behind := by
  induction front with
  | nil => rfl
  | cons c rest ih =>
    have hlast : (c :: rest).getLast? = some separator := h.resolve_left (by simp)
    rcases eq_or_ne rest [] with rfl | hrest
    · obtain rfl : c = separator := by simpa using hlast
      simp [cutAfter]
    · have hcut := ih (.inr (by rwa [List.getLast?_cons_of_ne_nil hrest] at hlast))
      have hsome : cutAfter separator rest ≠ [] := by
        intro hnil
        exact hrest (by rw [← flatten_cutAfter separator rest, hnil, List.flatten_nil])
      obtain ⟨first, others, hfirst⟩ := List.exists_cons_of_ne_nil hsome
      simp only [List.cons_append, cutAfter, hcut, hfirst]
      split <;> simp

/-- A text without the separator goes with the first piece of what stands behind it. -/
theorem cutAfter_append_of_not_mem {separator : Char} {text behind first : List Char}
    {others : List (List Char)} (h : separator ∉ text)
    (hbehind : cutAfter separator behind = first :: others) :
    cutAfter separator (text ++ behind) = (text ++ first) :: others := by
  induction text with
  | nil => exact hbehind
  | cons c rest ih =>
    rw [List.mem_cons, not_or] at h
    simp [cutAfter, Ne.symm h.1, ih h.2]

/-- A text without the separator is cut nowhere. -/
theorem cutAfter_of_not_mem {separator : Char} {text : List Char} (h : separator ∉ text)
    (hne : text ≠ []) : cutAfter separator text = [text] := by
  obtain ⟨front, c, rfl⟩ := (List.eq_nil_or_concat text).resolve_left hne
  rw [List.concat_eq_append] at h ⊢
  rw [List.mem_append, not_or, List.mem_singleton] at h
  exact cutAfter_append_of_not_mem h.1 (by simp [cutAfter, Ne.symm h.2])

/-- The first pieces of a cut are the cut of what they are pieces of. -/
theorem cutAfter_flatten_front {separator : Char} {cs : List Char} {front behind : List (List Char)}
    (h : cutAfter separator cs = front ++ behind) :
    cutAfter separator front.flatten = front := by
  cases front with
  | nil => rfl
  | cons piece front =>
    induction cs generalizing piece front with
    | nil => cases h
    | cons c rest ih =>
      simp only [cutAfter] at h
      by_cases hc : c = separator
      · rw [if_pos hc] at h
        obtain ⟨rfl, hrest⟩ := List.cons.inj h
        have hfront : cutAfter separator front.flatten = front := by
          cases front with
          | nil => rfl
          | cons next front => exact ih _ _ hrest
        simp [cutAfter, hc, hfront]
      · rw [if_neg hc] at h
        cases hcut : cutAfter separator rest with
        | nil =>
          rw [hcut] at h
          obtain ⟨rfl, hnil⟩ := List.cons.inj h
          obtain ⟨rfl, -⟩ := List.append_eq_nil_iff.1 hnil.symm
          simp [cutAfter, hc]
        | cons first others =>
          rw [hcut] at h
          obtain ⟨rfl, rfl⟩ := List.cons.inj h
          have hfirst := ih first front hcut
          rw [List.flatten_cons] at hfirst ⊢
          simp [cutAfter, hc, hfirst]

/-- A text ends in a part without the separator, in front of which nothing or a separator stands. -/
theorem exists_open_end (separator : Char) (cs : List Char) :
    ∃ front last, cs = front ++ last ∧ (front = [] ∨ front.getLast? = some separator) ∧
      separator ∉ last := by
  induction cs with
  | nil => exact ⟨[], [], rfl, .inl rfl, by simp⟩
  | cons c rest ih =>
    obtain ⟨front, last, rfl, hfront, hlast⟩ := ih
    by_cases hc : front = [] ∧ c ≠ separator
    · obtain ⟨rfl, hc⟩ := hc
      exact ⟨[], c :: last, rfl, .inl rfl, by simp [hlast, Ne.symm hc]⟩
    · refine ⟨c :: front, last, rfl, .inr ?_, hlast⟩
      rcases hfront with rfl | hfront
      · simpa using hc
      · rw [List.getLast?_cons, hfront, Option.getD_some]

/-! ## Closed pieces -/

/-- The pieces of a split, each with whether a separator closes it.  The last piece is not closed,
and if it is empty it is none. -/
def closePieces : List (List Char) → List (List Char × Bool)
  | [] => []
  | [last] => if last.isEmpty then [] else [(last, false)]
  | piece :: next :: rest => (piece, true) :: closePieces (next :: rest)

/-- A piece with the separator behind it, if that closes it. -/
def closedText (separator : Char) (piece : List Char × Bool) : List Char :=
  if piece.2 then piece.1 ++ [separator] else piece.1

/-- A piece in front of other pieces is closed. -/
theorem closePieces_cons {piece : List Char} {rest : List (List Char)} (h : rest ≠ []) :
    closePieces (piece :: rest) = (piece, true) :: closePieces rest := by
  cases rest with
  | nil => exact absurd rfl h
  | cons next rest => rfl

/-- What is closed or left open is a piece of the split. -/
theorem fst_mem_of_mem_closePieces {piece : List Char × Bool} {pieces : List (List Char)}
    (h : piece ∈ closePieces pieces) : piece.1 ∈ pieces := by
  induction pieces with
  | nil => simp [closePieces] at h
  | cons first rest ih =>
    cases rest with
    | nil =>
      simp only [closePieces] at h
      split at h
      · simp at h
      · rw [List.mem_singleton] at h
        simp [h]
    | cons next rest =>
      rw [closePieces_cons (by simp)] at h
      rcases List.mem_cons.1 h with rfl | h
      · exact List.mem_cons_self
      · exact List.mem_cons_of_mem _ (ih h)

/-- In front of the last piece every piece is closed. -/
theorem closed_of_closePieces_eq {pieces : List (List Char)} {front : List (List Char × Bool)}
    {last : List Char × Bool} (h : closePieces pieces = front ++ [last]) :
    ∀ piece ∈ front, piece.2 = true := by
  induction pieces generalizing front with
  | nil => simp [closePieces] at h
  | cons first rest ih =>
    cases rest with
    | nil =>
      have hshort := congrArg List.length h
      simp only [closePieces] at hshort
      split at hshort <;> simp_all
    | cons next rest =>
      rw [closePieces_cons (List.cons_ne_nil next rest)] at h
      cases front with
      | nil => simp
      | cons piece front =>
        obtain ⟨rfl, hrest⟩ := List.cons.inj h
        exact List.forall_mem_cons.2 ⟨rfl, ih hrest⟩

/-- A cut behind every separator gives the pieces of the split, closed as far as a separator
follows. -/
theorem cutAfter_eq_map_closePieces (separator : Char) (cs : List Char) :
    cutAfter separator cs = (closePieces (splitOn separator cs)).map (closedText separator) := by
  induction cs with
  | nil => rfl
  | cons c rest ih =>
    obtain ⟨first, others, hrest⟩ := List.exists_cons_of_ne_nil (splitOn_ne_nil separator rest)
    simp only [cutAfter, splitOn]
    by_cases hc : c = separator
    · rw [if_pos hc, if_pos hc, closePieces_cons (splitOn_ne_nil separator rest), ih]
      simp [closedText, hc]
    · rw [if_neg hc, if_neg hc, ih, hrest]
      cases others with
      | nil =>
        cases first with
        | nil => simp [closePieces, closedText]
        | cons d first => simp [closePieces, closedText]
      | cons next others =>
        simp [closePieces_cons, closedText]

/-- A piece of a cut ends at its only separator, or it is the last piece and has none. -/
theorem exists_inner_of_cutAfter_eq {separator : Char} {cs piece : List Char}
    {front behind : List (List Char)} (h : cutAfter separator cs = front ++ piece :: behind) :
    ∃ inner, separator ∉ inner ∧
      (piece = inner ++ [separator] ∨ piece = inner ∧ behind = []) := by
  rw [cutAfter_eq_map_closePieces, List.map_eq_append_iff] at h
  obtain ⟨first, second, hpieces, -, hsecond⟩ := h
  obtain ⟨⟨inner, closed⟩, others, rfl, rfl, rfl⟩ := List.map_eq_cons_iff.1 hsecond
  have hinner : separator ∉ inner := by
    have hmem : (inner, closed) ∈ closePieces (splitOn separator cs) := by simp [hpieces]
    exact not_mem_of_mem_splitOn (fst_mem_of_mem_closePieces hmem)
  refine ⟨inner, hinner, ?_⟩
  cases closed with
  | true => exact .inl rfl
  | false =>
    right
    refine ⟨rfl, ?_⟩
    by_contra hothers
    obtain ⟨rest, last, rfl⟩ := (List.eq_nil_or_concat others).resolve_left (by simpa using hothers)
    rw [List.concat_eq_append, ← List.cons_append, ← List.append_assoc] at hpieces
    cases closed_of_closePieces_eq hpieces (inner, false) (by simp)

/-! ## Joined pieces -/

/-- Lists that are joined by nothing are put one behind the other. -/
theorem intercalate_nothing {α : Type} (parts : List (List α)) :
    [].intercalate parts = parts.flatten := by
  induction parts with
  | nil => rfl
  | cons first rest ih =>
    cases rest with
    | nil => simp
    | cons next rest => rw [List.intercalate_cons_cons, ih, List.append_nil, ← List.flatten_cons]

/-- Lists that are joined, with one more behind them. -/
theorem intercalate_concat {α : Type} (separator : List α) {parts : List (List α)}
    (h : parts ≠ []) (last : List α) :
    separator.intercalate (parts ++ [last]) = separator.intercalate parts ++ separator ++ last := by
  induction parts with
  | nil => exact absurd rfl h
  | cons first rest ih =>
    cases rest with
    | nil => simp [List.intercalate_cons_cons]
    | cons next rest =>
      have hrest := ih (List.cons_ne_nil next rest)
      simp only [List.cons_append, List.intercalate_cons_cons] at hrest ⊢
      simp only [hrest, List.append_assoc]

/-- The pieces of a split with the separator between them are the text. -/
theorem intercalate_splitOn (separator : Char) (cs : List Char) :
    [separator].intercalate (splitOn separator cs) = cs := by
  induction cs with
  | nil => rfl
  | cons c rest ih =>
    obtain ⟨first, others, hrest⟩ :=
      List.exists_cons_of_ne_nil (splitOn_ne_nil separator rest)
    rw [hrest] at ih
    by_cases hc : c = separator
    · simp only [splitOn, if_pos hc, hrest]
      rw [List.intercalate_cons_cons, ih, hc]
      rfl
    · simp only [splitOn, if_neg hc, hrest]
      rw [← ih]
      cases others with
      | nil => simp
      | cons next others => simp [List.intercalate_cons_cons]

/-- The last piece of a split is the text, or a separator stands before it. -/
theorem eq_or_eq_append_of_splitOn {separator : Char} {cs last : List Char}
    {front : List (List Char)} (h : splitOn separator cs = front ++ [last]) :
    cs = last ∨ ∃ before, cs = before ++ separator :: last := by
  rw [← intercalate_splitOn separator cs, h]
  by_cases hfront : front = []
  · left
    simp [hfront]
  · right
    rw [intercalate_concat [separator] hfront, List.append_assoc]
    exact ⟨_, rfl⟩

/-- The last piece of a split ends as the text does. -/
theorem getLast?_of_splitOn {separator c : Char} {cs last : List Char}
    {front : List (List Char)} (h : splitOn separator cs = front ++ [last])
    (hc : last.getLast? = some c) : cs.getLast? = some c := by
  rcases eq_or_eq_append_of_splitOn h with rfl | ⟨before, rfl⟩
  · exact hc
  · simp [List.getLast?_append, List.getLast?_cons, hc]

/-- Parts of lists, joined, are a part of the lists joined. -/
theorem intercalate_sublist {α : Type} (separator : List α) {parts wholes : List (List α)}
    (h : List.Forall₂ List.Sublist parts wholes) :
    (separator.intercalate parts).Sublist (separator.intercalate wholes) := by
  induction h with
  | nil => exact List.Sublist.refl _
  | cons hfirst hrest ih =>
    cases hrest with
    | nil => simpa using hfirst
    | cons hnext hrest =>
      rw [List.intercalate_cons_cons, List.intercalate_cons_cons]
      exact (hfirst.append (List.Sublist.refl separator)).append ih

/-- Parts of lists that are the lists when they are joined are the lists one by one. -/
theorem eq_of_intercalate_eq {α : Type} {separator : List α} {parts wholes : List (List α)}
    (h : List.Forall₂ List.Sublist parts wholes)
    (heq : separator.intercalate parts = separator.intercalate wholes) : parts = wholes := by
  induction h with
  | nil => rfl
  | cons hfirst hrest ih =>
    cases hrest with
    | nil => simpa using heq
    | cons hnext hrest =>
      have hbehind := (intercalate_sublist separator
        (List.Forall₂.cons hnext hrest)).length_le
      rw [List.intercalate_cons_cons, List.intercalate_cons_cons, List.append_assoc,
        List.append_assoc] at heq
      -- A part that were shorter could not be made up for by the parts behind it.
      have hlength := congrArg List.length heq
      simp only [List.length_append] at hlength
      have hshort := hfirst.length_le
      obtain ⟨rfl, hjoined⟩ := List.append_inj heq (by omega)
      rw [ih (List.append_cancel_left hjoined)]

end TypeRegistry.Text
