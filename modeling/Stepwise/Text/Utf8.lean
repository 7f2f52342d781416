/-!
Reading UTF-8. Where bytes are not well formed, every longest beginning of a form among them, or
else every single byte, is read as one replacement character.
-/

namespace Stepwise.Text.Utf8

/-- Stands for bytes that are not well formed. -/
def replacement : Char := '\ufffd'

/-- A character whose first bytes have been read. -/
structure Pending where
  /-- The bits read so far. -/
  code : Nat
  /-- How many bytes are still to come after the next one. -/
  further : Nat
  /-- The least next byte. -/
  least : Nat := 0x80
  /-- The greatest next byte. -/
  most : Nat := 0xbf
  deriving DecidableEq, Repr

/-- What a first byte of several begins. -/
def pending? (b : Nat) : Option Pending :=
  if 0xc2 ≤ b ∧ b ≤ 0xdf then some { code := b - 0xc0, further := 0 }
  else if b = 0xe0 then some { code := 0, further := 1, least := 0xa0 }
  else if b = 0xed then some { code := 0xd, further := 1, most := 0x9f }
  else if 0xe1 ≤ b ∧ b ≤ 0xef then some { code := b - 0xe0, further := 1 }
  else if b = 0xf0 then some { code := 0, further := 2, least := 0x90 }
  else if b = 0xf4 then some { code := 4, further := 2, most := 0x8f }
  else if 0xf1 ≤ b ∧ b ≤ 0xf3 then some { code := b - 0xf0, further := 2 }
  else none

/-- Reads a first byte: the characters that are complete, and what has been begun. -/
def first (b : Nat) : List Char × Option Pending :=
  if b < 0x80 then ([Char.ofNat b], none)
  else
    match pending? b with
    | some p => ([], some p)
    | none => ([replacement], none)

/-- Reads a byte after some that are pending. -/
def next (p : Pending) (b : Nat) : List Char × Option Pending :=
  if p.least ≤ b ∧ b ≤ p.most then
    let code := 64 * p.code + (b - 0x80)
    if p.further = 0 then ([Char.ofNat code], none)
    else ([], some { code, further := p.further - 1 })
  else (replacement :: (first b).1, (first b).2)

def decodeFrom : Option Pending → List Nat → List Char
  | none, [] => []
  | some _, [] => [replacement]
  | none, b :: rest => (first b).1 ++ decodeFrom (first b).2 rest
  | some p, b :: rest => (next p b).1 ++ decodeFrom (next p b).2 rest

/-- The characters of some bytes. -/
def decode (bytes : List Nat) : List Char := decodeFrom none bytes

/-- The text that well-formed bytes write. -/
def text? (data : List UInt8) : Option String := String.fromUTF8? ⟨data.toArray⟩

/-- ASCII bytes are their characters. -/
theorem decode_ascii {bytes : List Nat} (h : ∀ b ∈ bytes, b < 0x80) :
    decode bytes = bytes.map Char.ofNat := by
  induction bytes with
  | nil => rfl
  | cons b rest ih =>
    have hb : b < 0x80 := h b (by simp)
    have := ih fun c hc => h c (by simp [hc])
    simp only [decode] at this ⊢
    simp [decodeFrom, first, hb, this]

end Stepwise.Text.Utf8
