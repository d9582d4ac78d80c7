import TypeRegistry.Regex.CharClass

/-!
# Signs

The text of a pattern is cut into signs: characters, each by itself or behind a backslash.  Remarks,
and where it is asked for also blanks, stand between signs without being part of the pattern.

Main definitions:

- `Sign`, `Sign.ofText`: signs, and the signs of a text.
- `Sign.text`, `flatMap_text_ofText`: signs are written as the text they come from.
- `behindRemarks?`: the signs behind remarks and blanks.
-/

namespace TypeRegistry

/-- A character in the text of a pattern, as it is or behind a backslash, or a backslash with nothing
behind it. -/
inductive Sign where
  | plain (c : Char)
  | escaped (c : Char)
  | dangling
deriving DecidableEq, Repr

namespace Sign

/-- The signs of a text. -/
def ofText : List Char → List Sign
  | [] => []
  | ['\\'] => [dangling]
  | '\\' :: c :: rest => escaped c :: ofText rest
  | c :: rest => plain c :: ofText rest

/-- The characters of a sign. -/
def text : Sign → List Char
  | plain c => [c]
  | escaped c => ['\\', c]
  | dangling => ['\\']

/-- Whether a sign is a character as it is, of a sort. -/
def isPlain (sort : Char → Bool) : Sign → Bool
  | plain c => sort c
  | _ => false

/-- Writing the signs of a text gives the text back. -/
theorem flatMap_text_ofText (cs : List Char) : (ofText cs).flatMap text = cs := by
  fun_induction ofText cs with
  | case1 => rfl
  | case2 => rfl
  | case3 c rest ih => simp [text, ih]
  | case4 c rest _ _ ih => simp [text, ih]

end Sign

namespace Regex

/-! ## Remarks -/

/-- The signs behind the remark at the front, which a closing parenthesis ends. -/
def behindRemark? : List Sign → Option (List Sign)
  | [] => none
  | .plain ')' :: rest => some rest
  | _ :: rest => behindRemark? rest

/-- The signs behind the line at the front. -/
def behindLine : List Sign → List Sign
  | [] => []
  | .plain '\n' :: rest => rest
  | .dangling :: rest => .dangling :: rest
  | _ :: rest => behindLine rest

/-- Whether a character is skipped where blanks are. -/
def isSkipped (c : Char) : Bool := CharKind.blank.holds true c

/-- The signs behind the remarks at the front and, if asked to, the blanks. -/
def behindRemarks? (isSpaced : Bool) : (fuel : Nat) → List Sign → Option (List Sign)
  | 0, signs => some signs
  | fuel + 1, .plain '(' :: .plain '?' :: .plain '#' :: rest =>
    (behindRemark? rest).bind (behindRemarks? isSpaced fuel)
  | fuel + 1, .plain c :: rest =>
    if isSpaced && isSkipped c then behindRemarks? isSpaced fuel rest
    else if isSpaced && c = '#' then behindRemarks? isSpaced fuel (behindLine rest)
    else some (.plain c :: rest)
  | _ + 1, signs => some signs

end Regex

end TypeRegistry
