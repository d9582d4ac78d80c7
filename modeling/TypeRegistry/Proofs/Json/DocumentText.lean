import TypeRegistry.Proofs.Json.Parts
import TypeRegistry.Proofs.Json.ScalarText
import TypeRegistry.Proofs.Json.StringText
import TypeRegistry.Proofs.Text.Cutting

/-!
# What the text of a document spells

On one line a document is written from left to right: scalars without a delimiter, strings up to
their closing quote, and the parts of arrays and objects between brackets and commas.  So the text
tells where each part ends, and two documents with one text, written in the order of their members,
are the same.

Main results:

- Definition `HasCanonicalDoubles`: the doubles of a document are as they are built.
- Definition `IsTold`: where the text of a document ends is seen from it, and which document it is.
- Theorem `isTold`: every document is told by its text.
- Theorem `writeLine_injective`: texts in the order of members are the same only if the documents
  are.
-/

namespace TypeRegistry.Json

open Dictionary

/-! ## Canonical doubles -/

/-- The doubles of a document are canonical, as those are that are read. -/
def HasCanonicalDoubles (document : Json) : Prop :=
  ∀ x, Inside (.float x) document → x.IsCanonical

namespace HasCanonicalDoubles

/-- What is inside a document has canonical doubles if the document has. -/
theorem inside {part document : Json} (h : HasCanonicalDoubles document)
    (hpart : Inside part document) : HasCanonicalDoubles part :=
  fun x hx => h x (hx.trans hpart)

/-- The items of an array have canonical doubles if the array has. -/
theorem item {item : Json} {items : List Json} (h : HasCanonicalDoubles (.arr items))
    (hitem : item ∈ items) : HasCanonicalDoubles item :=
  h.inside (.of_item hitem)

/-- The values of an object have canonical doubles if the object has. -/
theorem member {name : String} {value : Json} {members : Members}
    (h : HasCanonicalDoubles (.obj members)) (hmember : (name, value) ∈ members) :
    HasCanonicalDoubles value :=
  h.inside (.of_member hmember)

end HasCanonicalDoubles

/-! ## Texts in the order of members -/

/-- A blank behind commas and colons, members in their own order. -/
def Layout.inOrder : Layout := ⟨", ", ": ", false⟩

/-- A document on one line in the order of its members, character by character. -/
def writeLine (document : Json) : List Char :=
  (document.write .inOrder).toList

/-- Items behind others, each with a comma in front. -/
def laterItems : List Json → List Char
  | [] => []
  | item :: rest => [',', ' '] ++ writeLine item ++ laterItems rest

/-- A member with its name. -/
def writeMember (member : String × Json) : List Char :=
  (writeString member.1).toList ++ [':', ' '] ++ writeLine member.2

/-- Members behind others, each with a comma in front. -/
def laterMembers : Members → List Char
  | [] => []
  | member :: rest => [',', ' '] ++ writeMember member ++ laterMembers rest

theorem writeLine_str (s : String) : writeLine (.str s) = (writeString s).toList := by
  rw [writeLine, write]

theorem writeLine_arr_nil : writeLine (.arr []) = ['[', ']'] := by
  simp [writeLine, write, writeItems, Text.joinWith]

theorem writeLine_arr_cons (item : Json) (rest : List Json) :
    writeLine (.arr (item :: rest)) = '[' :: (writeLine item ++ (laterItems rest ++ [']'])) := by
  have hjoin (item : Json) (rest : List Json) :
      (Text.joinWith ", " (writeItems .inOrder (item :: rest))).toList =
        writeLine item ++ laterItems rest := by
    induction rest generalizing item with
    | nil => simp [writeItems, Text.joinWith, laterItems, writeLine]
    | cons next rest ih =>
      have hnext := ih next
      simp only [writeItems, Text.joinWith, String.toList_append, laterItems] at hnext ⊢
      rw [hnext]
      simp [writeLine, List.append_assoc]
  have hbetween : Layout.inOrder.between = ", " := rfl
  rw [writeLine, write, hbetween]
  simp [hjoin]

theorem writeLine_obj_nil : writeLine (.obj []) = ['\x7b', '\x7d'] := by
  simp [writeLine, write, writeMembers, Layout.inOrder, Text.joinWith]

theorem writeLine_obj_cons (member : String × Json) (rest : Members) :
    writeLine (.obj (member :: rest)) =
      '\x7b' :: (writeMember member ++ (laterMembers rest ++ ['\x7d'])) := by
  have hjoin (member : String × Json) (rest : Members) :
      (Text.joinWith ", " ((writeMembers .inOrder (member :: rest)).map fun entry =>
        writeString entry.1 ++ ": " ++ entry.2)).toList =
          writeMember member ++ laterMembers rest := by
    induction rest generalizing member with
    | nil => simp [writeMembers, Text.joinWith, laterMembers, writeMember, writeLine]
    | cons next rest ih =>
      have hnext := ih next
      simp only [writeMembers, List.map_cons, Text.joinWith, String.toList_append,
        laterMembers] at hnext ⊢
      rw [hnext]
      simp [writeMember, writeLine, List.append_assoc]
  have hbetween : Layout.inOrder.between = ", " := rfl
  have hafter : Layout.inOrder.afterName = ": " := rfl
  have hsorted : Layout.inOrder.sorted = false := rfl
  rw [writeLine, write, hbetween, hafter, hsorted]
  simp [hjoin]

/-! ## Texts tell documents apart -/

/-- The first character of the text of a document that is no scalar. -/
def opening? : Json → Option Char
  | .str _ => some '"'
  | .arr _ => some '['
  | .obj _ => some '\x7b'
  | _ => none

/-- A document without an opening character is a scalar. -/
theorem isScalar_of_opening? {document : Json} (h : opening? document = none) :
    IsScalar document := by
  cases document with
  | null => exact .inr .null
  | bool value => exact .inr (.bool value)
  | int n => exact .inl trivial
  | float x =>
    cases x with
    | finite negative mantissa exponent => exact .inl trivial
    | infinity negative => exact .inr (.infinity negative)
    | nan => exact .inr .nan
  | str s => cases h
  | arr items => cases h
  | obj members => cases h

/-- The double of a scalar is canonical if those of the document are. -/
theorem HasCanonicalDoubles.scalar {document : Json} (h : HasCanonicalDoubles document) :
    IsCanonicalScalar document := by
  rintro x rfl
  exact h x .self

/-- A text begins with the opening character of the document, or with none of a scalar. -/
theorem exists_writeLine_eq {document : Json} (h : HasCanonicalDoubles document) :
    ∃ c rest, writeLine document = c :: rest ∧
      (opening? document = some c ∨ opening? document = none ∧ isPlain c = true) := by
  have hscalar (hnone : opening? document = none) : ∃ c rest, writeLine document = c :: rest ∧
      (opening? document = some c ∨ opening? document = none ∧ isPlain c = true) := by
    have hscalar := isScalar_of_opening? hnone
    obtain ⟨c, rest, hc⟩ :=
      List.exists_cons_of_ne_nil (hscalar.toList_ne_nil h.scalar .inOrder)
    have hplain := hscalar.isPlain h.scalar .inOrder c (hc ▸ List.mem_cons_self)
    exact ⟨c, rest, hc, .inr ⟨hnone, hplain⟩⟩
  match document with
  | .str s =>
    rw [writeLine_str, writeString, String.toList_ofList]
    exact ⟨'"', _, rfl, .inl rfl⟩
  | .arr [] => exact ⟨'[', _, writeLine_arr_nil, .inl rfl⟩
  | .arr (item :: rest) => exact ⟨'[', _, writeLine_arr_cons item rest, .inl rfl⟩
  | .obj [] => exact ⟨_, _, writeLine_obj_nil, .inl rfl⟩
  | .obj (member :: rest) => exact ⟨_, _, writeLine_obj_cons member rest, .inl rfl⟩
  | .null | .bool _ | .int _ | .float _ =>
    exact hscalar rfl

/-- What stands behind a document in a text: nothing, or a delimiter first. -/
def IsBehind (rest : List Char) : Prop :=
  ∀ c ∈ rest.head?, isPlain c = false

/-- Texts that begin alike are of documents with one opening character. -/
theorem opening?_eq {a b : Json} {rest behind : List Char} (ha : HasCanonicalDoubles a)
    (hb : HasCanonicalDoubles b) (h : writeLine a ++ rest = writeLine b ++ behind) :
    opening? a = opening? b := by
  have hplain {document : Json} {c : Char} (h : opening? document = some c) :
      isPlain c = false := by
    cases document with
    | str s => obtain rfl := Option.some.inj h; decide
    | arr items => obtain rfl := Option.some.inj h; decide
    | obj members => obtain rfl := Option.some.inj h; decide
    | _ => cases h
  obtain ⟨c, cs, hc, hopening⟩ := exists_writeLine_eq ha
  obtain ⟨d, ds, hd, hopening'⟩ := exists_writeLine_eq hb
  rw [hc, hd] at h
  obtain rfl := (List.cons.inj h).1
  rcases hopening with hopening | ⟨hopening, hscalar⟩ <;>
    rcases hopening' with hopening' | ⟨hopening', hscalar'⟩
  · rw [hopening, hopening']
  · rw [hplain hopening] at hscalar'
    cases hscalar'
  · rw [hplain hopening'] at hscalar
    cases hscalar
  · rw [hopening, hopening']

/-- Texts of scalars, with a delimiter behind them, are the same only if the scalars are. -/
theorem writeLine_scalar_cancel {a b : Json} {rest behind : List Char} (ha : IsScalar a)
    (hb : IsScalar b) (hcanonical : IsCanonicalScalar a) (hcanonical' : IsCanonicalScalar b)
    (hrest : IsBehind rest) (hbehind : IsBehind behind)
    (h : writeLine a ++ rest = writeLine b ++ behind) : a = b ∧ rest = behind := by
  obtain ⟨htext, hsame⟩ := Text.eq_of_append_eq (ha.isPlain hcanonical .inOrder)
    (hb.isPlain hcanonical' .inOrder) hrest hbehind h
  exact ⟨ha.write_injective hb hcanonical hcanonical' (String.toList_inj.1 htext), hsame⟩

/-- A comma or a bracket may stand behind a document. -/
theorem isBehind_laterItems (items : List Json) (rest : List Char) :
    IsBehind (laterItems items ++ ']' :: rest) := by
  intro c hc
  cases items with
  | nil => obtain rfl := Option.some.inj hc; decide
  | cons item items => obtain rfl := Option.some.inj hc; decide

/-- A comma or a brace may stand behind a document. -/
theorem isBehind_laterMembers (members : Members) (rest : List Char) :
    IsBehind (laterMembers members ++ '\x7d' :: rest) := by
  intro c hc
  cases members with
  | nil => obtain rfl := Option.some.inj hc; decide
  | cons member members => obtain rfl := Option.some.inj hc; decide

/-- No text begins with a closing bracket or brace. -/
theorem writeLine_append_ne {document : Json} (h : HasCanonicalDoubles document)
    {rest behind : List Char} {closing : Char} (hclosing : closing = ']' ∨ closing = '\x7d') :
    writeLine document ++ rest ≠ closing :: behind := by
  intro heq
  obtain ⟨c, text, htext, hopening⟩ := exists_writeLine_eq h
  rw [htext] at heq
  obtain rfl := (List.cons.inj heq).1
  rcases hopening with hopening | ⟨-, hplain⟩
  · cases document with
    | str s => cases hopening; exact absurd hclosing (by decide)
    | arr items => cases hopening; exact absurd hclosing (by decide)
    | obj members => cases hopening; exact absurd hclosing (by decide)
    | _ => cases hopening
  · rcases hclosing with rfl | rfl
    · exact absurd hplain (by decide)
    · exact absurd hplain (by decide)

/-- Texts of a document, with a delimiter behind them, are those of no other. -/
def IsTold (document : Json) : Prop :=
  ∀ other rest behind, HasCanonicalDoubles document → HasCanonicalDoubles other →
    IsBehind rest → IsBehind behind → writeLine document ++ rest = writeLine other ++ behind →
      document = other ∧ rest = behind

/-- Later items up to the closing bracket are the same only if the items are. -/
theorem laterItems_cancel {items others : List Json} {rest behind : List Char}
    (htold : ∀ item ∈ items, IsTold item) (hitems : ∀ item ∈ items, HasCanonicalDoubles item)
    (hothers : ∀ item ∈ others, HasCanonicalDoubles item)
    (h : laterItems items ++ ']' :: rest = laterItems others ++ ']' :: behind) :
    items = others ∧ rest = behind := by
  induction items generalizing others with
  | nil =>
    cases others with
    | nil => exact ⟨rfl, (List.cons.inj h).2⟩
    | cons other others => exact absurd (List.cons.inj h).1 (by decide)
  | cons item items ih =>
    obtain ⟨hfirst, hlater⟩ := List.forall_mem_cons.1 htold
    obtain ⟨hitem, hitems⟩ := List.forall_mem_cons.1 hitems
    cases others with
    | nil => exact absurd (List.cons.inj h).1 (by decide)
    | cons other others =>
      obtain ⟨hother, hbelow⟩ := List.forall_mem_cons.1 hothers
      simp only [laterItems, List.append_assoc, List.append_cancel_left_eq] at h
      obtain ⟨rfl, htail⟩ := hfirst other _ _ hitem hother (isBehind_laterItems items rest)
        (isBehind_laterItems others behind) h
      obtain ⟨rfl, hrest⟩ := ih hlater hitems hbelow htail
      exact ⟨rfl, hrest⟩

/-- Members are told by their names and values. -/
theorem writeMember_cancel {member other : String × Json} {rest behind : List Char}
    (htold : IsTold member.2) (hmember : HasCanonicalDoubles member.2)
    (hother : HasCanonicalDoubles other.2) (hrest : IsBehind rest) (hbehind : IsBehind behind)
    (h : writeMember member ++ rest = writeMember other ++ behind) :
    member = other ∧ rest = behind := by
  obtain ⟨name, value⟩ := member
  obtain ⟨key, found⟩ := other
  simp only [writeMember, List.append_assoc] at h
  obtain ⟨rfl, hafter⟩ := writeString_cancel h
  obtain ⟨rfl, hsame⟩ :=
    htold found _ _ hmember hother hrest hbehind (List.append_cancel_left hafter)
  exact ⟨rfl, hsame⟩

/-- Later members up to the closing brace are the same only if the members are. -/
theorem laterMembers_cancel {members others : Members} {rest behind : List Char}
    (htold : ∀ member ∈ members, IsTold member.2)
    (hmembers : ∀ member ∈ members, HasCanonicalDoubles member.2)
    (hothers : ∀ member ∈ others, HasCanonicalDoubles member.2)
    (h : laterMembers members ++ '\x7d' :: rest = laterMembers others ++ '\x7d' :: behind) :
    members = others ∧ rest = behind := by
  induction members generalizing others with
  | nil =>
    cases others with
    | nil => exact ⟨rfl, (List.cons.inj h).2⟩
    | cons other others => exact absurd (List.cons.inj h).1 (by decide)
  | cons member members ih =>
    obtain ⟨hfirst, hlater⟩ := List.forall_mem_cons.1 htold
    obtain ⟨hmember, hmembers⟩ := List.forall_mem_cons.1 hmembers
    cases others with
    | nil => exact absurd (List.cons.inj h).1 (by decide)
    | cons other others =>
      obtain ⟨hother, hbelow⟩ := List.forall_mem_cons.1 hothers
      simp only [laterMembers, List.append_assoc, List.append_cancel_left_eq] at h
      obtain ⟨rfl, htail⟩ := writeMember_cancel hfirst hmember hother
        (isBehind_laterMembers members rest) (isBehind_laterMembers others behind) h
      obtain ⟨rfl, hrest⟩ := ih hlater hmembers hbelow htail
      exact ⟨rfl, hrest⟩

/-- Arrays of items that are told are told. -/
theorem isTold_arr {items : List Json} (htold : ∀ item ∈ items, IsTold item) :
    IsTold (.arr items) := by
  intro other rest behind hdocument hother _ _ h
  have hopening := opening?_eq hdocument hother h
  cases other with
  | arr others =>
    cases items with
    | nil =>
      cases others with
      | nil =>
        rw [writeLine_arr_nil] at h
        exact ⟨rfl, List.append_cancel_left h⟩
      | cons next others =>
        simp only [writeLine_arr_nil, writeLine_arr_cons, List.cons_append, List.append_assoc] at h
        exact absurd (List.cons.inj h).2.symm
          (writeLine_append_ne (hother.item List.mem_cons_self) (.inl rfl))
    | cons item items =>
      cases others with
      | nil =>
        simp only [writeLine_arr_nil, writeLine_arr_cons, List.cons_append, List.append_assoc] at h
        exact absurd (List.cons.inj h).2
          (writeLine_append_ne (hdocument.item List.mem_cons_self) (.inl rfl))
      | cons next others =>
        simp only [writeLine_arr_cons, List.cons_append, List.append_assoc, List.nil_append] at h
        obtain ⟨hfirst, hlater⟩ := List.forall_mem_cons.1 htold
        obtain ⟨rfl, htail⟩ := hfirst next _ _ (hdocument.item List.mem_cons_self)
          (hother.item List.mem_cons_self) (isBehind_laterItems items rest)
          (isBehind_laterItems others behind) (List.cons.inj h).2
        obtain ⟨rfl, hrest⟩ := laterItems_cancel hlater
          (fun _ hitem => hdocument.item (List.mem_cons_of_mem _ hitem))
          (fun _ hitem => hother.item (List.mem_cons_of_mem _ hitem)) htail
        exact ⟨rfl, hrest⟩
  | _ => cases hopening

/-- Objects of members that are told are told. -/
theorem isTold_obj {members : Members} (htold : ∀ member ∈ members, IsTold member.2) :
    IsTold (.obj members) := by
  intro other rest behind hdocument hother _ _ h
  have hopening := opening?_eq hdocument hother h
  cases other with
  | obj others =>
    have hquote (member : String × Json) (rest : List Char) :
        ∃ text, writeMember member ++ rest = '"' :: text := by
      rw [writeMember, writeString, String.toList_ofList]
      exact ⟨_, rfl⟩
    cases members with
    | nil =>
      cases others with
      | nil =>
        rw [writeLine_obj_nil] at h
        exact ⟨rfl, List.append_cancel_left h⟩
      | cons next others =>
        simp only [writeLine_obj_nil, writeLine_obj_cons, List.cons_append, List.append_assoc] at h
        obtain ⟨text, htext⟩ := hquote next (laterMembers others ++ '\x7d' :: behind)
        exact absurd ((List.cons.inj h).2.trans htext) (by simp)
    | cons member members =>
      cases others with
      | nil =>
        simp only [writeLine_obj_nil, writeLine_obj_cons, List.cons_append, List.append_assoc] at h
        obtain ⟨text, htext⟩ := hquote member (laterMembers members ++ '\x7d' :: rest)
        exact absurd ((List.cons.inj h).2.symm.trans htext) (by simp)
      | cons next others =>
        simp only [writeLine_obj_cons, List.cons_append, List.append_assoc, List.nil_append] at h
        obtain ⟨hfirst, hlater⟩ := List.forall_mem_cons.1 htold
        obtain ⟨rfl, htail⟩ := writeMember_cancel hfirst (hdocument.member List.mem_cons_self)
          (hother.member List.mem_cons_self) (isBehind_laterMembers members rest)
          (isBehind_laterMembers others behind) (List.cons.inj h).2
        obtain ⟨rfl, hrest⟩ := laterMembers_cancel hlater
          (fun _ hmember => hdocument.member (List.mem_cons_of_mem _ hmember))
          (fun _ hmember => hother.member (List.mem_cons_of_mem _ hmember)) htail
        exact ⟨rfl, hrest⟩
  | _ => cases hopening

/-- Texts in the order of members, with a delimiter behind them, are the same only if the documents
are. -/
theorem isTold (document : Json) : IsTold document := by
  induction document using parts_induction with
  | leaf document harr hobj =>
    intro other rest behind hdocument hother hrest hbehind h
    have hopening := opening?_eq hdocument hother h
    cases document with
    | str s =>
      cases other with
      | str t =>
        rw [writeLine_str, writeLine_str] at h
        obtain ⟨rfl, hsame⟩ := writeString_cancel h
        exact ⟨rfl, hsame⟩
      | _ => cases hopening
    | arr items => exact absurd rfl (harr items)
    | obj members => exact absurd rfl (hobj members)
    | _ =>
      exact writeLine_scalar_cancel (isScalar_of_opening? (by rfl))
        (isScalar_of_opening? hopening.symm) hdocument.scalar hother.scalar hrest hbehind h
  | arr items ih => exact isTold_arr ih
  | obj members ih => exact isTold_obj fun member hmember => ih member.1 member.2 hmember

/-- Texts in the order of members are the same only if the documents are. -/
theorem writeLine_injective {a b : Json} (ha : HasCanonicalDoubles a) (hb : HasCanonicalDoubles b)
    (h : a.write .inOrder = b.write .inOrder) : a = b := by
  have hnil : IsBehind [] := fun c hc => nomatch hc
  have hlist := congrArg (fun text => text.toList ++ []) h
  exact (isTold a b [] [] ha hb hnil hnil hlist).1

end TypeRegistry.Json
