import Stepwise.Reference.Basic

/-!
Templates: texts with placeholders. A placeholder is anything but braces between two pairs of
braces.
-/

namespace Stepwise.Template

/-- A piece of a template: text that stands for itself, or the inside of a placeholder. -/
inductive Piece where
  | literal (text : List Char)
  | placeholder (inside : List Char)
  deriving DecidableEq, Repr, Inhabited

def isBrace (c : Char) : Bool := c == '\x7b' || c == '\x7d'

/-- A placeholder with its braces. -/
def enclosed (inside : List Char) : List Char :=
  '\x7b' :: '\x7b' :: (inside ++ ['\x7d', '\x7d'])

/-- Takes a placeholder off the front: its inside and the text after it. -/
def placeholder? (s : List Char) : Option (List Char × List Char) :=
  match s with
  | '\x7b' :: '\x7b' :: body =>
    match body.takeWhile (fun c => !isBrace c), body.dropWhile (fun c => !isBrace c) with
    | [], _ => none
    | c :: inside, '\x7d' :: '\x7d' :: rest => some (c :: inside, rest)
    | _, _ => none
  | _ => none

theorem placeholder?_eq_some {s inside rest : List Char} (h : placeholder? s = some (inside, rest)) :
    s = enclosed inside ++ rest := by
  unfold placeholder? at h
  split at h
  · rename_i body
    split at h
    · simp at h
    · rename_i c front after hi hd
      simp only [Option.some.injEq, Prod.mk.injEq] at h
      obtain ⟨rfl, rfl⟩ := h
      have whole := List.takeWhile_append_dropWhile (p := fun c => !isBrace c) (l := body)
      rw [hi, hd] at whole
      rw [← whole]
      simp [enclosed]
    · simp at h
  · simp at h

theorem placeholder?_length {s inside rest : List Char}
    (h : placeholder? s = some (inside, rest)) : rest.length < s.length := by
  have := congrArg List.length (placeholder?_eq_some h)
  simp [enclosed] at this
  omega

/-- Puts a character before the pieces, into the literal at their front if there is one. -/
def consLiteral (c : Char) : List Piece → List Piece
  | .literal text :: rest => .literal (c :: text) :: rest
  | pieces => .literal [c] :: pieces

/-- The pieces of a text, from the left. The empty text has none. -/
def split (s : List Char) : List Piece :=
  match h : placeholder? s with
  | some (inside, rest) =>
    have := placeholder?_length h
    .placeholder inside :: split rest
  | none =>
    match s with
    | [] => []
    | c :: rest => consLiteral c (split rest)
termination_by s.length

def Piece.chars : Piece → List Char
  | literal text => text
  | placeholder inside => enclosed inside

/-- A part of a template that is read for references. -/
inductive Token where
  | literal (text : String)
  | placeholder (raw : String) (reference : Option Reference)
  deriving DecidableEq, Repr, Inhabited

/-- The reference that the inside of a placeholder is, if it is one. -/
def referenceOf (inside : List Char) : Checked (Option Reference) :=
  match Reference.scoped? (Text.trim inside) with
  | some (scope, path) => do
    return some ⟨String.ofList (enclosed inside), scope, ← Path.ofChars path⟩
  | none => .ok none

def Token.ofPiece : Piece → Checked Token
  | .literal text => .ok (literal (String.ofList text))
  | .placeholder inside => do
    return placeholder (String.ofList (enclosed inside)) (← referenceOf inside)

/-- The tokens of a text; the empty text is one literal. -/
def tokens (s : String) : Checked (List Token) :=
  match split s.toList with
  | [] => .ok [.literal ""]
  | pieces => pieces.mapM Token.ofPiece

end Template

/-- Every reference in a value: the value itself, or the placeholders of a text. -/
def Reference.allIn (v : Value) : Checked (List Reference) := do
  match ← Reference.ofValue v with
  | some r => return [r]
  | none =>
    match v.textOf? with
    | none => return []
    | some s =>
      let tokens ← Template.tokens s
      return tokens.filterMap fun
        | .placeholder _ reference => reference
        | .literal _ => none

end Stepwise
