import Iso15118.Shared.Exceptions

/-!
# Hexadecimal fields

The check that the headers of all protocols make of their session id.
-/

namespace Iso15118.Shared

/-- The digits of an integer literal in base 16, in groups between underscores. -/
def isHexDigits : List Char → Bool
  | [] => false
  | [digit] => isHexDigit digit
  | digit :: '_' :: rest => isHexDigit digit && isHexDigits rest
  | digit :: rest => isHexDigit digit && isHexDigits rest
where
  isHexDigit (c : Char) : Bool :=
    c.isDigit || ('a' ≤ c && c ≤ 'f') || ('A' ≤ c && c ≤ 'F')

/-- Whether `int(value, 16)` succeeds, on ASCII characters. -/
def isHexLiteral (value : String) : Bool :=
  isHexDigits (withoutPrefix (withoutSign (trimmed value.toList)))
where
  trimmed (chars : List Char) : List Char :=
    ((chars.dropWhile Char.isWhitespace).reverse.dropWhile Char.isWhitespace).reverse
  withoutSign : List Char → List Char
    | '+' :: rest => rest
    | '-' :: rest => rest
    | chars => chars
  withoutPrefix : List Char → List Char
    | '0' :: 'x' :: '_' :: rest => rest
    | '0' :: 'X' :: '_' :: rest => rest
    | '0' :: 'x' :: rest => rest
    | '0' :: 'X' :: rest => rest
    | chars => chars

/-- The session id of a header, in hexadecimal digits. -/
def checkSessionId (sessionId : String) : Except PyError Unit :=
  if sessionId.length ≤ 16 ∧ isHexLiteral sessionId then .ok ⟨⟩ else .error .validationError

/-- What the check asks of a session id. -/
def ValidSessionId (sessionId : String) : Prop :=
  sessionId.length ≤ 16 ∧ isHexLiteral sessionId = true

instance (sessionId : String) : Decidable (ValidSessionId sessionId) :=
  inferInstanceAs (Decidable (_ ∧ _))

theorem checkSessionId_eq (sessionId : String) :
    checkSessionId sessionId =
      if ValidSessionId sessionId then .ok ⟨⟩ else .error .validationError :=
  rfl

/-- A check that does not raise. -/
theorem checkSessionId_passes_iff {sessionId : String} {property : Prop} :
    ((checkSessionId sessionId = .ok ⟨⟩ → property) ∧
        ∀ exception, checkSessionId sessionId = .error exception → False) ↔
      ValidSessionId sessionId ∧ property := by
  rw [checkSessionId_eq]
  by_cases valid : ValidSessionId sessionId
  · simp [valid]
  · simp [valid]

end Iso15118.Shared
